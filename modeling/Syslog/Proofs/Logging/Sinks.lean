import Syslog.Proofs.Logging.Delivery

namespace Syslog

/-!
# Standard output and the file

An application that sets logging up with a path gets two handlers, one for standard output and one
for the file.  They are built in different places, and from the same names but for one case: when
the handler for the file is built, an empty name of the application counts as none.

So, whatever is logged and by whomever, the file gets the texts that standard output gets, unless
the application has an empty name; and then it does so for structured entries, but plain ones are
ascribed to nobody on standard output and to the process in the file (`Session.sinks_agree`).
-/

namespace Emission

/-- The texts that go to a sink, in the order of writing. -/
def textsTo (emission : Emission) (sink : Sink) : List Text :=
  (emission.lines.filter (·.1 = sink)).map Prod.snd

/-- That the file gets the texts that standard output gets. -/
def Mirrors (emission : Emission) : Prop :=
  emission.textsTo .file = emission.textsTo .standardOutput

theorem textsTo_joined (emissions : List Emission) (sink : Sink) :
    (joined emissions).textsTo sink = emissions.flatMap (·.textsTo sink) := by
  rw [textsTo, joined, List.filter_flatMap, List.map_flatMap]
  rfl

theorem mirrors_joined {emissions : List Emission}
    (mirror : ∀ emission ∈ emissions, emission.Mirrors) : (joined emissions).Mirrors := by
  rw [Mirrors, textsTo_joined, textsTo_joined]
  exact List.flatMap_congr mirror

theorem mirrors_empty : Mirrors {} :=
  rfl

end Emission

namespace Renderer

/-- The texts that a handler with this renderer writes for an event: one, or none if the event could
not be prepared or cannot be rendered. -/
def texts (origin : Origin) (settings : Settings) (renderer : Renderer) (method : Text)
    (prepared : Except Fault Event) : List Text :=
  match prepared.bind fun event => renderer.render origin settings method event.finished with
  | .ok line => [line ++ Text.ofString "\n"]
  | .error _ => []

variable {origin : Origin} {settings : Settings} {renderer : Renderer} {method : Text}
  {prepared : Except Fault Event}

theorem textsTo_emit (handler : Handler) (sink : Sink) :
    (handler.emit origin settings method prepared).textsTo sink =
      if handler.sink = sink then handler.renderer.texts origin settings method prepared
      else [] := by
  rw [Handler.emit, texts]
  cases prepared.bind fun event =>
      handler.renderer.render origin settings method event.finished with
  | error fault => simp [Emission.textsTo]
  | ok line =>
      by_cases same : handler.sink = sink <;> simp [Emission.textsTo, same]

theorem mem_texts_iff {text : Text} :
    text ∈ renderer.texts origin settings method prepared ↔
      ∃ event line, prepared = .ok event ∧
        renderer.render origin settings method event.finished = .ok line ∧
        line ++ Text.ofString "\n" = text := by
  cases prepared with
  | error fault => simp [texts, Except.bind]
  | ok event =>
      cases rendered : renderer.render origin settings method event.finished with
      | error fault => simp [texts, Except.bind, rendered]
      | ok line => simp [texts, Except.bind, rendered, eq_comm]

/-- Events with the same line display the same application in it. -/
theorem appName_of_render_eq {event other : Event} {line shown shownOther : Text}
    (rendered : renderer.render origin settings method event = .ok line)
    (renderedOther : renderer.render origin settings method other = .ok line)
    (isShown : textOf event "app_name" renderer.appName.text = .ok shown)
    (isShownOther : textOf other "app_name" renderer.appName.text = .ok shownOther) :
    shown.orNil = shownOther.orNil := by
  rcases exists_wire_of_render rendered with ⟨message, wire, isMessage, carries, _, encoded⟩
  rcases exists_wire_of_render renderedOther with
    ⟨messageOther, wireOther, isMessageOther, carriesOther, _, encodedOther⟩
  have sameReading : some wire.reading = some wireOther.reading := by
    rw [← Reading.read?_encode wire, ← Reading.read?_encode wireOther, ← encoded, encodedOther]
  have agrees := carries.agrees carriesOther (Option.some.inj sameReading)
  rcases message_eq_ok_iff.mp isMessage with ⟨_, _, _, hasHead, _, _, rfl⟩
  rcases message_eq_ok_iff.mp isMessageOther with ⟨_, _, _, hasOther, _, _, rfl⟩
  cases (hasHead_iff.mp hasHead).2.1.symm.trans isShown
  cases (hasHead_iff.mp hasOther).2.1.symm.trans isShownOther
  exact Value.text.inj agrees.appName

end Renderer

namespace Process

variable {origin : Origin} {process : Process} {renderer : Renderer} {ascribed : Text}

/-- That a process has a handler for standard output and one for a file, which render alike; the
second ascribes plain entries to an application of its own. -/
structure IsMirrored (process : Process) (renderer : Renderer) (ascribed : Text) : Prop where
  handlers : process.handlers = [
    { sink := .standardOutput, renderer, appName := renderer.appName.text },
    { sink := .file, renderer, appName := ascribed }]
  isConfigured : process.pipeline.isSome = true

theorem IsMirrored.openPlain (mirrored : process.IsMirrored renderer ascribed) (logger : Text) :
    (process.openPlain logger).IsMirrored renderer ascribed :=
  ⟨mirrored.handlers, mirrored.isConfigured⟩

theorem textsTo_deliver (mirrored : process.IsMirrored renderer ascribed) (name : Text)
    (prepare : Handler → Except Fault Event) :
    (process.deliver origin name prepare).textsTo .standardOutput =
        renderer.texts origin process.settings name
          (prepare ⟨.standardOutput, renderer, renderer.appName.text⟩) ∧
      (process.deliver origin name prepare).textsTo .file =
        renderer.texts origin process.settings name (prepare ⟨.file, renderer, ascribed⟩) := by
  rw [deliver, mirrored.handlers, Emission.textsTo_joined, Emission.textsTo_joined]
  simp [Renderer.textsTo_emit]

/-- An event that is prepared for both handlers in the same way is written alike. -/
theorem mirrors_deliver (mirrored : process.IsMirrored renderer ascribed) (name : Text)
    {prepare : Handler → Except Fault Event}
    (same : prepare ⟨.file, renderer, ascribed⟩ =
      prepare ⟨.standardOutput, renderer, renderer.appName.text⟩) :
    (process.deliver origin name prepare).Mirrors := by
  rcases textsTo_deliver mirrored name prepare with ⟨shown, filed⟩
  rw [Emission.Mirrors, shown, filed, same]

theorem mirrors_logStructured (mirrored : process.IsMirrored renderer ascribed)
    {entry : StructuredEntry} {emission : Emission}
    (logs : process.logStructured origin entry = .ok emission) : emission.Mirrors := by
  rcases Option.isSome_iff_exists.mp mirrored.isConfigured with ⟨pipeline, isPipeline⟩
  have ends := process.logsStructured origin isPipeline entry
  rw [logs] at ends
  cases ends with
  | below _ _ => exact Emission.mirrors_empty
  | barred _ _ _ _ => exact Emission.mirrors_empty
  | delivered _ _ _ _ => exact mirrors_deliver mirrored _ rfl

/-- A plain entry is held back, or each handler prepares it. -/
theorem logPlain_cases (mirrored : process.IsMirrored renderer ascribed) (entry : PlainEntry) :
    process.logPlain origin entry = {} ∨ process.logPlain origin entry =
      process.deliver origin (Level.plainName entry.level.toNat) (entry.preparedFor origin) := by
  have handled : process.handlers ≠ [] := by
    rw [mirrored.handlers]
    exact List.cons_ne_nil _ _
  rw [logPlain_of_handlers handled]
  split
  · exact Or.inr rfl
  · exact Or.inl rfl

theorem mirrors_logPlain (mirrored : process.IsMirrored renderer renderer.appName.text)
    (entry : PlainEntry) : (process.logPlain origin entry).Mirrors := by
  rcases logPlain_cases mirrored entry with held | delivered
  · rw [held]
    exact Emission.mirrors_empty
  · rw [delivered]
    exact mirrors_deliver mirrored _ rfl

/-- Plain entries are not written alike if only the process has a name. -/
theorem ne_of_logPlain (mirrored : process.IsMirrored renderer ascribed)
    (nameless : renderer.appName.text = []) (named : ascribed.orNil ≠ nilValue) {entry : PlainEntry}
    {shown filed : Text} (isShown : shown ∈ (process.logPlain origin entry).textsTo .standardOutput)
    (isFiled : filed ∈ (process.logPlain origin entry).textsTo .file) : shown ≠ filed := by
  rintro rfl
  rcases logPlain_cases mirrored entry with held | delivered
  · rw [held] at isShown
    cases isShown
  · rcases textsTo_deliver mirrored (Level.plainName entry.level.toNat)
      (entry.preparedFor origin) with ⟨shownTexts, filedTexts⟩
    rw [delivered, shownTexts] at isShown
    rw [delivered, filedTexts] at isFiled
    rcases Renderer.mem_texts_iff.mp isShown with ⟨event, line, isPrepared, rendered, same⟩
    rcases Renderer.mem_texts_iff.mp isFiled with ⟨other, lineOther, isOther, renderedOther, rfl⟩
    cases List.append_cancel_right same
    have alike := Renderer.appName_of_render_eq rendered renderedOther
      (PlainEntry.textOf_preparedFor isPrepared _) (PlainEntry.textOf_preparedFor isOther _)
    rw [nameless] at alike
    cases ascribed with
    | nil => exact named rfl
    | cons _ _ => exact named alike.symm

end Process

namespace Session

variable {session : Session} {renderer : Renderer} {ascribed : Text}

/-- That the two handlers of the process render alike, and that whatever the request has logged so
far has gone to both. -/
def Mirrors (renderer : Renderer) (session : Session) : Prop :=
  session.process.IsMirrored renderer renderer.appName.text ∧ session.emission.Mirrors

theorem outlasting_mirrors (renderer : Renderer) : Outlasting (Mirrors renderer) where
  reflect session type mirrors := by
    rw [reflect]
    split
    · exact mirrors
    · refine ⟨mirrors.1, Emission.mirrors_joined ?_⟩
      refine List.forall_mem_cons.mpr ⟨mirrors.2, List.forall_mem_singleton.mpr ?_⟩
      exact Process.mirrors_logPlain mirrors.1 _
  note _ _ _ _ _ mirrors := mirrors

/-! ## Requests -/

theorem mirrors_logStructured (mirrored : session.process.IsMirrored renderer ascribed)
    (entry : StructuredEntry) : (session.step (.logStructured entry)).1.2.Mirrors := by
  change (session.quiet.logStructured entry).2.emission.Mirrors
  rw [logStructured]
  split
  · exact Emission.mirrors_empty
  · dsimp only
    split
    · exact Emission.mirrors_empty
    · next emission logged =>
        have opened :
            (session.process.openStructured entry.logger).IsMirrored renderer ascribed := by
          rw [Process.openStructured]
          split
          · exact mirrored.openPlain entry.logger
          · exact mirrored
        exact Process.mirrors_logStructured opened logged

/-- Whatever is asked for, the file gets what standard output gets. -/
theorem mirrors_step (mirrored : session.process.IsMirrored renderer renderer.appName.text)
    (request : Request) : (session.step request).1.2.Mirrors := by
  have start : session.quiet.Mirrors renderer := ⟨mirrored, Emission.mirrors_empty⟩
  change (session.quiet.answer request).2.emission.Mirrors
  cases request with
  | marshalRecord choice type values _ =>
      rw [marshalRecord_behind]
      exact ((outlasting_mirrors renderer).message choice type values start).2
  | register choice type => exact ((outlasting_mirrors renderer).lookUp choice type start).2
  | fieldMap choice type =>
      have looked := (outlasting_mirrors renderer).lookUp choice type start
      rw [answer]
      generalize session.quiet.lookUp choice type = result at looked
      rcases result with ⟨fault | found, next⟩
      · exact looked.2
      · exact ((outlasting_mirrors renderer).noteSerial found.serial looked).2
  | logPlain entry => exact Process.mirrors_logPlain (mirrored.openPlain entry.logger) entry
  | logStructured entry => exact mirrors_logStructured mirrored entry
  | clear choice => cases choice <;> exact Emission.mirrors_empty
  | buildRenderer _ _ | render _ _ _ =>
      rw [answer]
      split <;> exact Emission.mirrors_empty
  | _ => exact Emission.mirrors_empty

/-- A set-up with a file leaves two handlers that render alike. -/
theorem isMirrored_of_step {environment : Environment} {options : SetupOptions} {answer : Answer}
    (succeeds : (session.step (.setUpLogging environment options)).1.1 = .ok answer)
    (isFile : environment.logPath ≠ []) :
    ∃ renderer : Renderer,
      options.appName.orText session.origin.identity.appName = .text renderer.appName.text ∧
      (session.step (.setUpLogging environment options)).2.process.IsMirrored renderer
        (if options.appName.isEmpty then session.origin.identity.appName
          else renderer.appName.text) := by
  have setsUp := session.process.setsUp session.origin.identity environment options
  have answered : (session.step (.setUpLogging environment options)).1.1 =
    (session.process.setUp session.origin.identity environment options).1.map _ := rfl
  have behind : (session.step (.setUpLogging environment options)).2.process =
    (session.process.setUp session.origin.identity environment options).2 := rfl
  rw [answered] at succeeds
  rw [behind]
  rcases map_eq_ok_iff.mp succeeds with ⟨_, succeeds, _⟩
  generalize session.process.setUp session.origin.identity environment options = result
    at setsUp succeeds
  rcases result with ⟨outcome, next⟩
  cases setsUp with
  | unknown _ | failed _ _ | fileless _ _ _ _ => cases succeeds
  | completed _ _ noFile => exact absurd noFile isFile
  | filed _ configures _ _ named =>
      cases configures with
      | completed first _ =>
          cases first.unique named
          exact ⟨_, named.appName, rfl, rfl⟩

/-- The handlers stay as long as logging is not set up anew. -/
theorem lasting_isMirrored : Lasting (·.IsMirrored renderer ascribed) where
  settings _ _ mirrored := ⟨mirrored.handlers, mirrored.isConfigured⟩
  opened _ logger mirrored := mirrored.openPlain logger

/-- An empty name of the application is the only one for which plain entries are not ascribed to the
application of the renderer. -/
theorem ascribed_eq {given : Value} {ofProcess name : Text}
    (isAppName : given.orText ofProcess = .text name) (named : given ≠ .text [] ∨ ofProcess = []) :
    (if given.isEmpty then ofProcess else name) = name := by
  cases given with
  | null => exact Value.text.inj isAppName
  | text content =>
      cases isAppName
      cases name with
      | nil => exact named.resolve_left (not_not_intro rfl)
      | cons _ _ => rfl
  | _ => cases isAppName

/-- Once logging has been set up with a file, and as long as it is not set up anew, the file gets
the texts that standard output gets: always for structured entries, and for whatever is logged
unless the application has been given an empty name and the process has one.  In that case no plain
entry is written alike. -/
theorem sinks_agree {environment : Environment} {options : SetupOptions} {answer : Answer}
    {operations : List Operation}
    (succeeds : (session.step (.setUpLogging environment options)).1.1 = .ok answer)
    (isFile : environment.logPath ≠ [])
    (others : ∀ operation ∈ operations, ∀ call, ¬operation.Calls call) :
    let current := (session.step (.setUpLogging environment options)).2.after operations
    let ofProcess := session.origin.identity.appName
    (∀ entry, (current.step (.logStructured entry)).1.2.Mirrors) ∧
      (options.appName ≠ .text [] ∨ ofProcess = [] →
        ∀ request, (current.step request).1.2.Mirrors) ∧
      (options.appName = .text [] → ofProcess.orNil ≠ nilValue →
        ∀ entry, ∀ shown ∈ (current.step (.logPlain entry)).1.2.textsTo .standardOutput,
          ∀ filed ∈ (current.step (.logPlain entry)).1.2.textsTo .file, shown ≠ filed) := by
  intro current ofProcess
  rcases isMirrored_of_step succeeds isFile with ⟨renderer, isAppName, mirrored⟩
  have mirrored := lasts_after lasting_isMirrored mirrored others
  refine ⟨mirrors_logStructured mirrored, fun named request => ?_, fun nameless named entry => ?_⟩
  · rw [ascribed_eq isAppName named] at mirrored
    exact mirrors_step mirrored request
  · rw [nameless] at isAppName mirrored
    have opened := mirrored.openPlain entry.logger
    exact fun shown isShown filed isFiled =>
      Process.ne_of_logPlain opened (Value.text.inj isAppName).symm named isShown isFiled

/-- The request for a set-up with a file, for an application of the given name. -/
def withFile (appName : Text) : Request :=
  .setUpLogging [("LOG_PATH", "log")] { appName := .text appName }

/-- A set-up for an application with a name and for one whose name is empty: in both cases, a
warning is written to both sinks after a change of the settings, but in the second case not
alike. -/
theorem sinks_agree_of_names :
    let session : Session := { origin := .atEpoch ⟨"host", "app", "42"⟩ }
    let operations : List Operation := [.request (.configure (some true))]
    let entry : PlainEntry := { logger := "x", level := 30, message := .text "up" }
    let emission (name : Text) : Emission :=
      (((session.step (withFile name)).2.after operations).step (.logPlain entry)).1.2
    (emission "worker").Mirrors ∧ ((emission "worker").textsTo .file).length = 1 ∧
      (∀ shown ∈ (emission []).textsTo .standardOutput, shown ∉ (emission []).textsTo .file) ∧
      ((emission []).textsTo .standardOutput).length = 1 := by
  intro session operations entry emission
  have others : ∀ operation ∈ operations, ∀ call, ¬operation.Calls call :=
    List.forall_mem_singleton.mpr nofun
  have isFile : Environment.logPath [("LOG_PATH", "log")] ≠ [] := by
    decide
  have named : ∃ answer, (session.step (withFile "worker")).1.1 = .ok answer := ⟨_, rfl⟩
  have nameless : ∃ answer, (session.step (withFile [])).1.1 = .ok answer := ⟨_, rfl⟩
  rcases named with ⟨_, named⟩
  rcases nameless with ⟨_, nameless⟩
  have hasName : Value.text "worker" ≠ .text [] :=
    fun same => absurd (Value.text.inj same) (by decide)
  have worker := (sinks_agree named isFile others).2.1 (Or.inl hasName) (.logPlain entry)
  have nobody := (sinks_agree nameless isFile others).2.2 rfl (by decide) entry
  exact ⟨worker, by decide +kernel, fun shown isShown isFiled => nobody shown isShown _ isFiled rfl,
    by decide +kernel⟩

/-- Without a name of the application a plain entry is not written alike. -/
theorem nameless_sinks_differ :
    let session : Session := { origin := .atEpoch ⟨"host", "app", "42"⟩ }
    let entry : PlainEntry := { logger := "x", level := 30, message := .text "up" }
    let emission := ((session.step (withFile [])).2.step (.logPlain entry)).1.2
    (session.step (withFile [])).1.1.isOk = true ∧
      emission.textsTo .file ≠ emission.textsTo .standardOutput := by
  decide +kernel

end Session

end Syslog
