import Syslog.Proofs.Message.Capped
import Syslog.Proofs.Session.InForce

namespace Syslog

/-!
# Choices of names and the settings

Five requests take a choice of names: a message is checked or encoded, a record is encoded, a
renderer is built, and an event is rendered by one that has been built.  Where the choice is made,
the settings of the process do not count.  Where it is not, the value in force at that moment counts
and nothing else, also for a renderer that has been built under another one.

The first is about two runs, and is said of sessions that differ in nothing but their process, in
the streams that have been opened and in what has been logged (`Session.Accords`).  The requests
that change settings lead from a session to such another one, and requests with a choice of their
own have the same answers in both and lead to such sessions again.  So a run can be told without the
changes of settings on the way, and its other answers stay the same.

Both are cases of one step: two requests that come to the same under the settings of their sessions
(`Session.Means`) have the same answer, where the renderers of one session are those of the other,
all changed in one way (`Session.Resembles.step`).  A choice that is made needs no change, and for
one that is left to the settings the change is to make it.
-/

/-! ## What a choice settles -/

/-- A choice that is made settles what the settings say. -/
theorem Settings.longNames_eq {chosen : Option Bool} (explicit : ∃ value, chosen = some value)
    (settings other : Settings) : settings.longNames chosen = other.longNames chosen := by
  rcases explicit with ⟨value, rfl⟩
  rfl

namespace Renderer

/-- Whether a renderer is built depends on the settings only by the choice that is made for it. -/
theorem ofOptions_congr {identity : Identity} {settings other : Settings}
    {options : RendererOptions}
    (same : settings.longNames options.allowLongNames = other.longNames options.allowLongNames) :
    ofOptions identity settings options = ofOptions identity other options := by
  rw [ofOptions, ofOptions, same]

theorem render_congr {origin : Origin} {settings other : Settings} {renderer : Renderer}
    {method : Text} {event : Event}
    (same : settings.longNames renderer.allowLongNames = other.longNames renderer.allowLongNames) :
    renderer.render origin settings method event = renderer.render origin other method event := by
  rw [render, render, same]

end Renderer

/-! ## What a look-up does not read -/

/-- The parts of a session that look-ups neither read nor change, but for what they log. -/
structure Surroundings where
  process : Process
  streams : Nat
  renderers : List (Text × Renderer)
  emission : Emission

namespace Session

/-- The session in other surroundings. -/
def within (session : Session) (surroundings : Surroundings) : Session :=
  { session with
    process := surroundings.process
    streams := surroundings.streams
    renderers := surroundings.renderers
    emission := surroundings.emission }

/-- That a computation on sessions does not depend on their surroundings. -/
def Detached (compute : Session → Except Fault α × Session) : Prop :=
  ∀ (session : Session) (surroundings : Surroundings), ∃ emission,
    compute (session.within surroundings) =
      ((compute session).1, (compute session).2.within { surroundings with emission })

theorem noteSerial_within (session : Session) (surroundings : Surroundings) (serial : Nat) :
    (session.within surroundings).noteSerial serial =
      (session.noteSerial serial).within surroundings := by
  have same : (session.within surroundings).known = session.known := rfl
  rw [noteSerial, noteSerial, same]
  split <;> rfl

namespace Detached

variable {compute next : Session → Except Fault Reflected × Session}

/-- Nor does it if the call is noted before. -/
theorem called (detached : Detached compute) (type : Nat) :
    Detached fun session => compute { session with calls := session.calls ++ [type] } :=
  fun session => detached { session with calls := session.calls ++ [type] }

/-- Nor if another computation goes on where it has succeeded. -/
theorem andThen (detached : Detached compute) (detachedNext : Detached next) :
    Detached fun session =>
      match compute session with
      | (.error fault, session) => (.error fault, session)
      | (.ok _, session) => next session := by
  intro session surroundings
  rcases detached session surroundings with ⟨emission, same⟩
  simp only [same]
  rcases compute session with ⟨fault | found, behind⟩
  · exact ⟨emission, rfl⟩
  · exact detachedNext behind { surroundings with emission }

/-- Nor if the answer is made known. -/
theorem noted (detached : Detached compute) :
    Detached fun session =>
      match compute session with
      | (.error fault, session) => (.error fault, session)
      | (.ok found, session) => (.ok found, session.noteSerial found.serial) := by
  intro session surroundings
  rcases detached session surroundings with ⟨emission, same⟩
  refine ⟨emission, ?_⟩
  simp only [same]
  rcases compute session with ⟨fault | found, behind⟩
  · rfl
  · exact congrArg (Prod.mk _) (behind.noteSerial_within _ found.serial)

/-- Nor if a registry that is part of the session is asked first. -/
theorem lookUp (get : Session → Registry Nat Reflected)
    (set : Registry Nat Reflected → Session → Session)
    {compute : Nat → Session → Except Fault Reflected × Session}
    (reads : ∀ session surroundings, get (session.within surroundings) = get session)
    (writes : ∀ registry session surroundings,
      set registry (session.within surroundings) = (set registry session).within surroundings)
    (detached : ∀ type, Detached (compute type)) (type : Nat) :
    Detached (Registry.lookUp get set compute type) := by
  intro session surroundings
  rcases detached type session surroundings with ⟨emission, same⟩
  rw [Registry.lookUp, Registry.lookUp, reads]
  split
  · exact ⟨surroundings.emission, rfl⟩
  · refine ⟨emission, ?_⟩
    simp only [same]
    rcases compute type session with ⟨fault | computed, behind⟩
    · rfl
    · simp only [reads, writes]

end Detached

theorem detached_reflect (type : Nat) : Detached fun session => session.reflect type := by
  intro session surroundings
  have same : (session.within surroundings).derived type = session.derived type := rfl
  cases derived : session.derived type with
  | error fault =>
      refine ⟨surroundings.emission, ?_⟩
      simp only [reflect_of_refused derived, reflect_of_refused (same.trans derived)]
  | ok map =>
      rcases reflect_of_derived derived with ⟨_, reflected⟩
      rcases reflect_of_derived (same.trans derived) with ⟨emission, reflectedToo⟩
      refine ⟨emission, ?_⟩
      simp only [reflected, reflectedToo]
      rfl

theorem detached_reflectNoted (type : Nat) : Detached (reflectNoted type) :=
  ((detached_reflect type).called type).noted

theorem detached_ownLookUp {reflector : Nat → Session → Except Fault Reflected × Session}
    (detached : ∀ type, Detached (reflector type)) (type : Nat) :
    Detached (ownLookUp reflector type) :=
  .lookUp own (fun registry session => { session with own := registry }) (fun _ _ => rfl)
    (fun _ _ _ => rfl) detached type

theorem detached_reflectAgain (type : Nat) : Detached (reflectAgain type) :=
  ((detached_ownLookUp detached_reflectNoted type).called type).andThen
    (detached_reflect type).noted

theorem detached_lookUp (choice : RegistryChoice) (type : Nat) :
    Detached (lookUp choice type) := by
  cases choice with
  | shared =>
      exact .lookUp shared (fun registry session => { session with shared := registry })
        (fun _ _ => rfl) (fun _ _ _ => rfl) detached_reflect type
  | own =>
      intro session surroundings
      have same : (session.within surroundings).reentrant = session.reentrant := rfl
      rw [lookUp, lookUp, same]
      cases session.reentrant with
      | true => exact detached_ownLookUp detached_reflectAgain type session surroundings
      | false => exact detached_ownLookUp detached_reflectNoted type session surroundings

/-- What surrounds a session is as it was behind such a computation, but for what is logged. -/
theorem Detached.leaves {compute : Session → Except Fault α × Session}
    (detached : Detached compute) (session : Session) :
    (compute session).2.process = session.process ∧
      (compute session).2.renderers = session.renderers := by
  rcases detached session ⟨session.process, session.streams, session.renderers, session.emission⟩
    with ⟨emission, same⟩
  have process := congrArg (·.2.process) same
  have renderers := congrArg (·.2.renderers) same
  exact ⟨process, renderers⟩

theorem detached_message (choice : RegistryChoice) (type : Nat) (values : List Value) :
    Detached (message choice type values) := by
  intro session surroundings
  have classifier : (session.within surroundings).classifier type = session.classifier type := rfl
  rw [message, message, classifier]
  cases subject (session.classifier type) values with
  | error fault => exact ⟨surroundings.emission, rfl⟩
  | ok subject =>
      rcases detached_lookUp choice type session surroundings with ⟨emission, same⟩
      refine ⟨emission, ?_⟩
      rw [same]
      rfl

variable {session left right : Session} {request : Request} {value : Bool}

/-- The encoding of a record depends on its surroundings only by the choice that is made for it. -/
theorem marshalRecord_within {surroundings : Surroundings} {chosen other : Option Bool}
    (same : surroundings.process.settings.longNames other =
      session.process.settings.longNames chosen)
    (choice : RegistryChoice) (type : Nat) (values : List Value) :
    ∃ emission, marshalRecord choice type values other (session.within surroundings) =
      ((marshalRecord choice type values chosen session).1,
        (marshalRecord choice type values chosen session).2.within
          { surroundings with emission }) := by
  rcases detached_message choice type values session surroundings with ⟨emission, composed⟩
  have process := ((detached_message choice type values).leaves session).1
  refine ⟨emission, ?_⟩
  rw [marshalRecord, marshalRecord, composed]
  simp only [process, ← same]
  rfl

theorem renderers_marshalRecord (choice : RegistryChoice) (type : Nat) (values : List Value)
    (chosen : Option Bool) (session : Session) :
    (marshalRecord choice type values chosen session).2.renderers = session.renderers :=
  ((detached_message choice type values).leaves session).2

theorem answer_of_refused (session : Session) {name : Text} {options : RendererOptions}
    {fault : ConfigurationFault}
    (refused : Renderer.ofOptions session.origin.identity session.process.settings options =
      .error fault) :
    session.answer (.buildRenderer name options) = (.error (.configuration fault), session) := by
  rw [answer, refused]

theorem answer_of_built (session : Session) {name : Text} {options : RendererOptions}
    {renderer : Renderer}
    (built : Renderer.ofOptions session.origin.identity session.process.settings options =
      .ok renderer) :
    session.answer (.buildRenderer name options) =
      (.ok .done, { session with renderers := (name, renderer) :: session.renderers }) := by
  rw [answer, built]

theorem answer_of_missing (session : Session) {name method : Text} {event : Event}
    (missing : session.renderers.lookup name = none) :
    session.answer (.render name method event) = (.error (.missingKey (.text name)), session) := by
  rw [answer, missing]

theorem answer_of_found (session : Session) {name method : Text} {event : Event}
    {renderer : Renderer} (found : session.renderers.lookup name = some renderer) :
    session.answer (.render name method event) =
      ((renderer.render session.origin session.process.settings method event).map .line,
        session) := by
  rw [answer, found]

/-! ## Requests that mean the same -/

/-- That a session is another one in other surroundings, each of its renderers changed. -/
def Resembles (change : Renderer → Renderer) (left right : Session) : Prop :=
  ∃ surroundings, right = left.within surroundings ∧
    surroundings.renderers = left.renderers.map (Prod.map id change)

/-- That a request says in a session what another one says under other settings, about renderers
that have been changed. -/
inductive Means (session : Session) (settings : Settings) (change : Renderer → Renderer) :
    Request → Request → Prop
  | validate {message : Message} {chosen other : Option Bool}
      (same : settings.longNames other = session.process.settings.longNames chosen) :
      Means session settings change (.validate message chosen) (.validate message other)
  | marshal {message : Message} {chosen other : Option Bool}
      (same : settings.longNames other = session.process.settings.longNames chosen) :
      Means session settings change (.marshal message chosen) (.marshal message other)
  | marshalRecord {choice : RegistryChoice} {type : Nat} {values : List Value}
      {chosen other : Option Bool}
      (same : settings.longNames other = session.process.settings.longNames chosen) :
      Means session settings change (.marshalRecord choice type values chosen)
        (.marshalRecord choice type values other)
  | buildRenderer {name : Text} {options other : RendererOptions}
      (same : Renderer.ofOptions session.origin.identity settings other =
        (Renderer.ofOptions session.origin.identity session.process.settings options).map change) :
      Means session settings change (.buildRenderer name options) (.buildRenderer name other)
  | render {name method : Text} {event : Event}
      (same : ∀ renderer, session.renderers.lookup name = some renderer →
        (change renderer).render session.origin settings method event =
          renderer.render session.origin session.process.settings method event) :
      Means session settings change (.render name method event) (.render name method event)

variable {change : Renderer → Renderer} {image : Request}

theorem lookup_map_change (change : Renderer → Renderer) (renderers : List (Text × Renderer))
    (name : Text) :
    (renderers.map (Prod.map id change)).lookup name = (renderers.lookup name).map change := by
  induction renderers with
  | nil => rfl
  | cons entry rest inductionHypothesis =>
      rw [List.map_cons, Prod.map, List.lookup_cons, List.lookup_cons, inductionHypothesis]
      dsimp only [id]
      split <;> rfl

theorem Resembles.quiet (resembles : Resembles change left right) :
    Resembles change left.quiet right.quiet := by
  rcases resembles with ⟨surroundings, rfl, same⟩
  exact ⟨{ surroundings with emission := {} }, rfl, same⟩

/-- Requests that mean the same have the same answer, and behind them one session is still the other
in other surroundings, with its renderers changed. -/
theorem Resembles.step (resembles : Resembles change left right)
    (means : left.Means right.process.settings change request image) :
    (left.step request).1.1 = (right.step image).1.1 ∧
      Resembles change (left.step request).2 (right.step image).2 := by
  -- all that a check, an encoding or a rendering leaves behind is that nothing has been logged
  have quiet := resembles.quiet
  rcases resembles with ⟨surroundings, rfl, renderers⟩
  rw [answer_behind, answer_behind, step_behind, step_behind]
  cases means with
  | @validate message chosen other same =>
      have same : (left.within surroundings).quiet.process.settings.longNames other =
          left.quiet.process.settings.longNames chosen := same
      refine ⟨?_, quiet⟩
      simp only [answer, same]
  | @marshal message chosen other same =>
      have same : (left.within surroundings).quiet.process.settings.longNames other =
          left.quiet.process.settings.longNames chosen := same
      refine ⟨?_, quiet⟩
      simp only [answer, same]
  | @marshalRecord choice type values chosen other same =>
      rcases @marshalRecord_within left.quiet { surroundings with emission := {} } chosen other same
        choice type values with ⟨emission, encoded⟩
      have leaves := renderers_marshalRecord choice type values chosen left.quiet
      refine ⟨(congrArg Prod.fst encoded).symm, { surroundings with emission }, ?_, ?_⟩
      · exact congrArg Prod.snd encoded
      · rw [answer, leaves]
        exact renderers
  | @buildRenderer name options other same =>
      cases built : Renderer.ofOptions left.origin.identity left.process.settings options with
      | error fault =>
          rw [built] at same
          rw [answer_of_refused left.quiet built,
            answer_of_refused (left.within surroundings).quiet same]
          exact ⟨rfl, quiet⟩
      | ok renderer =>
          rw [built] at same
          rw [answer_of_built left.quiet built,
            answer_of_built (left.within surroundings).quiet same]
          refine ⟨rfl, { surroundings with
            renderers := (name, change renderer) :: surroundings.renderers
            emission := {} }, rfl, ?_⟩
          exact congrArg _ renderers
  | @render name method event same =>
      have looked : surroundings.renderers.lookup name =
          (left.renderers.lookup name).map change := by
        rw [renderers, lookup_map_change]
      cases found : left.renderers.lookup name with
      | none =>
          rw [found] at looked
          rw [answer_of_missing left.quiet found,
            answer_of_missing (left.within surroundings).quiet looked]
          exact ⟨rfl, quiet⟩
      | some renderer =>
          rw [found] at looked
          rw [answer_of_found left.quiet found,
            answer_of_found (left.within surroundings).quiet looked]
          exact ⟨congrArg (Except.map Answer.line) (same renderer found).symm, quiet⟩

/-! ## Choices that are made -/

/-- That two sessions are the same but for their process, the streams that have been opened and what
has been logged. -/
def Accords (left right : Session) : Prop :=
  ∃ surroundings, right = left.within surroundings ∧ surroundings.renderers = left.renderers

theorem Accords.refl (session : Session) : session.Accords session :=
  ⟨⟨session.process, session.streams, session.renderers, session.emission⟩, rfl, rfl⟩

/-- That a request comes with a choice of names, or is about a renderer that has been built with
one. -/
inductive IsExplicit (session : Session) : Request → Prop
  | validate {message : Message} {value : Bool} :
      IsExplicit session (.validate message (some value))
  | marshal {message : Message} {value : Bool} :
      IsExplicit session (.marshal message (some value))
  | marshalRecord {choice : RegistryChoice} {type : Nat} {values : List Value} {value : Bool} :
      IsExplicit session (.marshalRecord choice type values (some value))
  | buildRenderer {name : Text} {options : RendererOptions} {value : Bool}
      (chosen : options.allowLongNames = some value) :
      IsExplicit session (.buildRenderer name options)
  | render {name method : Text} {event : Event}
      (chosen : ∀ renderer, session.renderers.lookup name = some renderer →
        ∃ value, renderer.allowLongNames = some value) :
      IsExplicit session (.render name method event)

theorem IsExplicit.means (explicit : session.IsExplicit request) (settings : Settings) :
    session.Means settings id request request := by
  cases explicit with
  | validate => exact .validate rfl
  | marshal => exact .marshal rfl
  | marshalRecord => exact .marshalRecord rfl
  | @buildRenderer name options value chosen =>
      refine .buildRenderer ?_
      have settled := Settings.longNames_eq ⟨value, chosen⟩ settings session.process.settings
      rw [Renderer.ofOptions_congr settled]
      cases Renderer.ofOptions session.origin.identity session.process.settings options <;> rfl
  | render chosen =>
      refine .render fun renderer found => ?_
      exact Renderer.render_congr (Settings.longNames_eq (chosen renderer found) _ _)

/-- Where no renderer is changed, only the surroundings may differ. -/
theorem accords_iff_resembles : left.Accords right ↔ Resembles id left right := by
  rw [Accords, Resembles, Prod.map_id, List.map_id]

theorem Accords.step (accords : left.Accords right) (explicit : left.IsExplicit request) :
    (left.step request).1.1 = (right.step request).1.1 ∧
      (left.step request).2.Accords (right.step request).2 := by
  rw [accords_iff_resembles] at accords ⊢
  exact accords.step (explicit.means _)

/-- What changes the settings changes nothing else that counts. -/
theorem accords_of_isSetting (sets : request.isSetting = true) :
    session.Accords (session.step request).2 := by
  cases request with
  | configure _ | reset | setUpLogging _ _ =>
      exact ⟨⟨_, session.streams, session.renderers, {}⟩, rfl, rfl⟩
  | configureLogging options toStandardOutput =>
      cases toStandardOutput <;> exact ⟨⟨_, _, session.renderers, {}⟩, rfl, rfl⟩
  | _ => cases sets

theorem Accords.of_step (accords : left.Accords right) (sets : request.isSetting = true) :
    (left.step request).2.Accords right := by
  rcases accords with ⟨surroundings, rfl, renderers⟩
  rcases accords_of_isSetting sets with ⟨_, same, renderersToo⟩
  have unchanged := (congrArg Session.renderers same).trans renderersToo
  refine ⟨surroundings, ?_, renderers.trans unchanged.symm⟩
  rw [same]
  rfl

/-- The answers to those requests of a run that are not about the settings. -/
def answers (session : Session) : List Request → List (Except Fault Answer)
  | [] => []
  | request :: rest =>
    if request.isSetting then (session.step request).2.answers rest
    else (session.step request).1.1 :: (session.step request).2.answers rest

/-- That each request of a run is about the settings or has a choice of names. -/
inductive Shielded : Session → List Request → Prop
  | nil {session : Session} : Shielded session []
  | setting {session : Session} {request : Request} {rest : List Request}
      (sets : request.isSetting = true) (more : Shielded (session.step request).2 rest) :
      Shielded session (request :: rest)
  | explicit {session : Session} {request : Request} {rest : List Request}
      (explicit : session.IsExplicit request) (more : Shielded (session.step request).2 rest) :
      Shielded session (request :: rest)

theorem IsExplicit.isSetting (explicit : session.IsExplicit request) :
    request.isSetting = false := by
  cases explicit <;> rfl

/-- The requests about the settings can be struck out of a run. -/
theorem Accords.answers {requests : List Request} (accords : left.Accords right)
    (shielded : left.Shielded requests) :
    left.answers requests = right.answers (requests.filter (!·.isSetting)) ∧
      (left.after (requests.map .request)).Accords
        (right.after ((requests.filter (!·.isSetting)).map .request)) := by
  -- at a setting only the longer run moves on, at any other request both of them do
  induction shielded generalizing right with
  | nil => exact ⟨rfl, accords⟩
  | @setting session request rest sets _ inductionHypothesis =>
      rcases inductionHypothesis (accords.of_step sets) with ⟨same, behind⟩
      rw [Session.answers, if_pos sets, List.filter_cons, sets]
      exact ⟨same, behind⟩
  | @explicit session request rest explicit _ inductionHypothesis =>
      rcases accords.step explicit with ⟨answered, next⟩
      rcases inductionHypothesis next with ⟨same, behind⟩
      rw [Session.answers, explicit.isSetting, List.filter_cons, explicit.isSetting, Bool.not_false,
        if_pos rfl, Session.answers, explicit.isSetting, answered, same]
      exact ⟨rfl, behind⟩

end Session

/-! ## Choices that are left to the settings -/

/-- The options with a choice of names, unless they have one. -/
def RendererOptions.deciding (value : Bool) (options : RendererOptions) : RendererOptions :=
  { options with allowLongNames := some (options.allowLongNames.getD value) }

namespace Renderer

/-- The same renderer with a choice of names, unless it has one. -/
def deciding (value : Bool) (renderer : Renderer) : Renderer :=
  { renderer with allowLongNames := some (renderer.allowLongNames.getD value) }

/-- Under settings with a value, a renderer is built as with this value for its choice. -/
theorem ofOptions_deciding (identity : Identity) (settings other : Settings)
    (options : RendererOptions) :
    ofOptions identity other (options.deciding settings.allowLongNames) =
      (ofOptions identity settings options).map (deciding settings.allowLongNames) := by
  have same : other.longNames (options.deciding settings.allowLongNames).allowLongNames =
      settings.longNames options.allowLongNames := rfl
  rw [ofOptions, ofOptions, same]
  dsimp only [RendererOptions.deciding]
  cases headerField "app_name" appNameLimit options.appName identity.appName with
  | error fault => rfl
  | ok appName =>
      cases headerField "hostname" hostnameLimit options.hostname identity.hostname with
      | error fault => rfl
      | ok hostname =>
          simp only [ok_bind]
          cases Name.ofValue? (settings.longNames options.allowLongNames) options.elementId <;> rfl

/-- And it renders as with this value for its choice. -/
theorem render_deciding (origin : Origin) (settings other : Settings) (renderer : Renderer)
    (method : Text) (event : Event) :
    (renderer.deciding settings.allowLongNames).render origin other method event =
      renderer.render origin settings method event :=
  rfl

end Renderer

namespace Request

/-- The request with a choice of names, unless it has one or takes none. -/
def deciding (value : Bool) : Request → Request
  | .validate message chosen => .validate message (some (chosen.getD value))
  | .marshal message chosen => .marshal message (some (chosen.getD value))
  | .marshalRecord choice type values chosen =>
    .marshalRecord choice type values (some (chosen.getD value))
  | .buildRenderer name options => .buildRenderer name (options.deciding value)
  | request => request

/-- The requests that take a choice of names, or are about a renderer that does. -/
inductive TakesChoice : Request → Prop
  | validate {message : Message} {chosen : Option Bool} : TakesChoice (.validate message chosen)
  | marshal {message : Message} {chosen : Option Bool} : TakesChoice (.marshal message chosen)
  | marshalRecord {choice : RegistryChoice} {type : Nat} {values : List Value}
      {chosen : Option Bool} : TakesChoice (.marshalRecord choice type values chosen)
  | buildRenderer {name : Text} {options : RendererOptions} :
      TakesChoice (.buildRenderer name options)
  | render {name method : Text} {event : Event} : TakesChoice (.render name method event)

end Request

namespace Session

/-- The session whose renderers have a choice of names, each its own or else the given one. -/
def deciding (value : Bool) (session : Session) : Session :=
  { session with renderers := session.renderers.map (Prod.map id (Renderer.deciding value)) }

variable {session left right : Session} {request : Request} {value : Bool}

/-- To give every renderer a choice of names is to change them all in one way. -/
theorem deciding_accords_iff_resembles :
    (session.deciding value).Accords right ↔ Resembles (Renderer.deciding value) session right :=
  Iff.rfl

theorem means_deciding (takes : request.TakesChoice) (session : Session) (settings : Settings) :
    session.Means settings (Renderer.deciding session.process.settings.allowLongNames) request
      (request.deciding session.process.settings.allowLongNames) := by
  cases takes with
  | validate => exact .validate rfl
  | marshal => exact .marshal rfl
  | marshalRecord => exact .marshalRecord rfl
  | buildRenderer => exact .buildRenderer (Renderer.ofOptions_deciding _ _ _ _)
  | render => exact .render fun renderer _ => Renderer.render_deciding _ _ _ renderer _ _

theorem step_deciding (takes : request.TakesChoice)
    (inForce : session.process.settings.allowLongNames = value)
    (accords : (session.deciding value).Accords right) :
    (session.step request).1.1 = (right.step (request.deciding value)).1.1 ∧
      ((session.step request).2.deciding value).Accords
        (right.step (request.deciding value)).2 := by
  subst inForce
  rw [deciding_accords_iff_resembles] at accords ⊢
  exact accords.step (means_deciding takes session _)

theorem step_marshal_eq_ok_iff {message : Message} {octets : Bytes} :
    (session.step (.marshal message (some value))).1.1 = .ok (.octets octets) ↔
      message.marshal value = .ok octets := by
  have answered : (session.step (.marshal message (some value))).1.1 =
    ((message.marshal value).mapError Fault.invalid).map .octets := rfl
  rw [answered, map_eq_ok_iff]
  simp only [mapError_eq_ok_iff, Answer.octets.injEq, exists_eq_right]

/-- A choice that is made is not touched by the settings: in a run whose other requests all have
one, the requests about the settings can be struck out, and the others have the same answers and
lead to the same end.  And a choice that is left to the settings is that of the value in force,
which is the last configured since the last reset: the answer is that to the same request with this
value for its choice, or about the same renderer with this value for its choice, under whatever
settings.  What is chosen is whether the cap holds: without it valid messages are accepted whatever
the length of their names, and under it those of them only that have short names. -/
theorem choices_are_shielded_from_settings :
    (∀ (session : Session) (requests : List Request), session.Shielded requests →
      let others := requests.filter (!·.isSetting)
      session.answers requests = session.answers others ∧
        (session.after (requests.map .request)).Accords (session.after (others.map .request))) ∧
    (∀ (start : Session) (requests : List Request), start.process.settings = {} →
      let current := start.after (requests.map .request)
      let value := Request.inForce start.origin.identity requests
      ∀ (request : Request) (other : Session), request.TakesChoice →
        (current.deciding value).Accords other →
          (current.step request).1.1 = (other.step (request.deciding value)).1.1 ∧
            ((current.step request).2.deciding value).Accords
              (other.step (request.deciding value)).2) ∧
    ∀ (session : Session) (message : Message),
      ((∃ octets, (session.step (.marshal message (some true))).1.1 = .ok (.octets octets)) ↔
        message.IsValid true) ∧
      ∀ octets, (session.step (.marshal message (some false))).1.1 = .ok (.octets octets) ↔
        (session.step (.marshal message (some true))).1.1 = .ok (.octets octets) ∧
          message.HasShortNames := by
  refine ⟨?_, ?_, ?_⟩
  · intro session requests shielded
    exact (Accords.refl session).answers shielded
  · intro start requests fresh current value request other takes accords
    refine step_deciding takes ?_ accords
    exact congrArg Settings.allowLongNames (settings_after fresh requests)
  · intro session message
    simp only [step_marshal_eq_ok_iff]
    exact ⟨Message.exists_marshal_eq_ok_iff, fun octets => Message.marshal_false_eq_ok_iff⟩

/-- A message with a long name is accepted without the cap and refused under it if that is asked
for, whether or not it has been lifted for the process; and a renderer that has been built while it
was lifted, with a long name, refuses an event after a reset, as if it had been told so.  A rejected
call in between has lifted nothing. -/
theorem choices_are_shielded_from_settings_of_lapsed_lift :
    let start : Session := { origin := .atEpoch ⟨"host", "app", "42"⟩ }
    let long : Value := .text (List.replicate 40 (CodePoint.ofChar 'x'))
    let message : Message := { timestamp := .int 0, structuredData := [⟨long, []⟩] }
    let shielded : List Request := [.configure (some true), .marshal message (some false),
      .reset, .marshal message (some false)]
    let requests : List Request := [.configure (some true),
      .buildRenderer "r" { elementId := long }, .reset,
      .configureLogging { appName := .text "two words", allowLongNames := some true } true]
    let request : Request := .render "r" "info" [(.text "user", .text "alice")]
    let current := start.after (requests.map .request)
    (∃ octets, (start.step (.marshal message (some true))).1.1 = .ok (.octets octets)) ∧
      (∀ octets, (start.step (.marshal message (some false))).1.1 ≠ .ok (.octets octets)) ∧
      start.answers shielded =
        start.answers [.marshal message (some false), .marshal message (some false)] ∧
      Request.inForce start.origin.identity requests = false ∧
      (current.step request).1.1 = ((current.deciding false).step request).1.1 := by
  intro start long message shielded requests request current
  have inForce : Request.inForce start.origin.identity requests = false := by decide +kernel
  have isShielded : start.Shielded shielded :=
    .setting rfl (.explicit .marshal (.setting rfl (.explicit .marshal .nil)))
  rcases choices_are_shielded_from_settings with ⟨struck, decides, chosen⟩
  have decided := decides start requests rfl request (current.deciding false) .render
  rw [inForce] at decided
  refine ⟨⟨_, rfl⟩, fun octets accepted => ?_, (struck start shielded isShielded).1, inForce,
    (decided (.refl _)).1⟩
  have short := (((chosen start message).2 octets).mp accepted).2
  exact absurd (short _ List.mem_cons_self).1 (by decide)

end Session

end Syslog
