import Syslog.Proofs.Logging.Configured
import Syslog.Proofs.Session.Step
import Syslog.Proofs.Value.Words

namespace Syslog

/-!
# Set-up calls that are rejected

A call that sets logging up is rejected for a name: that of the facility, of the application, or of
the machine.  It has changed nothing by then, and so it can be struck out of any run, after which
all else goes as before (`Session.rejected_calls_change_nothing`).

The error that the caller sees quotes the name.  A value that cannot be put into words, because it
is nested too deeply or has an integer with too many digits in it, is rejected in the same place and
with the same effect, but what the caller sees is that it cannot be quoted
(`Fault.IsConfiguration`).
-/

/-- A fault of the configuration that the caller sees as such, since all that it quotes can be put
into words. -/
def Fault.IsConfiguration (fault : Fault) : Prop :=
  (∃ cause, fault = .configuration cause) ∧ fault.wordsFault? = none

namespace Renderer

variable {identity : Identity} {given facility : Value} {renderer : Renderer}
  {cause : ConfigurationFault}

theorem IsNamed.not_refuses (named : renderer.IsNamed identity given facility) :
    ¬Refuses identity given cause := by
  intro refuses
  have built := (@ofOptions_eq_ok_iff_isNamed identity {} given facility renderer).mpr named
  rw [ofOptions_eq_error_iff.mpr refuses] at built
  cases built

theorem exists_refuses_iff :
    (∃ cause, Refuses identity given cause) ↔
      ¬(given.orText identity.appName).IsToken 48 ∨
        ¬(Value.text identity.hostname).IsToken 255 := by
  constructor
  · rintro ⟨cause, refuses⟩
    cases refuses with
    | appName improper => exact Or.inl improper
    | hostname _ improper => exact Or.inr improper
  · intro improper
    by_cases proper : (given.orText identity.appName).IsToken 48
    · exact ⟨_, .hostname proper (improper.resolve_left (not_not_intro proper))⟩
    · exact ⟨_, .appName proper⟩

theorem wordsFault?_orText (given : Value) (ofProcess : Text) :
    (given.orText ofProcess).wordsFault? = given.wordsFault? := by
  cases given <;> rfl

/-- Of the names that can be rejected only that of the application can be beyond words. -/
theorem Refuses.wordsFault?_eq (refuses : Refuses identity given cause) :
    (Fault.configuration cause).wordsFault? = given.wordsFault? := by
  rw [← wordsFault?_orText given identity.appName]
  cases refuses with
  | appName _ => simp [Fault.wordsFault?, Fault.quotedValues, List.findSome?_singleton]
  | hostname proper _ =>
      rcases proper with ⟨text, same, _⟩
      rw [same]
      rfl

theorem Refuses.isConfiguration_iff (refuses : Refuses identity given cause) :
    (Fault.configuration cause).IsConfiguration ↔ given.HasWords := by
  rw [Fault.IsConfiguration, refuses.wordsFault?_eq, Value.wordsFault?_eq_none_iff]
  exact and_iff_right ⟨cause, rfl⟩

end Renderer

namespace SetUpCall

def appName : SetUpCall → Value
  | .configure options => options.appName
  | .setUp _ options => options.appName

/-- That the variables of the process name a facility that there is not. -/
def NamesNoFacility : SetUpCall → Prop
  | .configure _ => False
  | .setUp environment _ => environment.facility? = none

instance : (call : SetUpCall) → Decidable call.NamesNoFacility
  | .configure _ => .isFalse not_false
  | .setUp environment _ => inferInstanceAs (Decidable (environment.facility? = none))

/-- That a call is to be rejected. -/
def IsImproper (identity : Identity) (call : SetUpCall) : Prop :=
  call.NamesNoFacility ∨ ¬(call.appName.orText identity.appName).IsToken 48 ∨
    ¬(Value.text identity.hostname).IsToken 255

instance (identity : Identity) (call : SetUpCall) : Decidable (call.IsImproper identity) :=
  inferInstanceAs (Decidable (_ ∨ _))

/-- How a call ends, as far as its names are concerned. -/
inductive Ends (identity : Identity) (process : Process) (call : SetUpCall) :
    Except Fault Unit × Process → Prop
  | unknown {keyword : Text} (unknown : call.NamesNoFacility) :
      Ends identity process call (.error (.configuration (.unknownFacility keyword)), process)
  | refused {cause : ConfigurationFault} (known : ¬call.NamesNoFacility)
      (refuses : Renderer.Refuses identity call.appName cause) :
      Ends identity process call (.error (.configuration cause), process)
  | passed {result : Except Fault Unit × Process} (known : ¬call.NamesNoFacility)
      (proper : ∀ cause, ¬Renderer.Refuses identity call.appName cause)
      (otherwise : ∀ cause, result.1 ≠ .error (.configuration cause)) :
      Ends identity process call result

variable {identity : Identity} {process : Process} {call : SetUpCall}

theorem ends_of_configures {options : LoggingOptions} {outcome : Except Fault Unit}
    {next : Process} (known : ¬call.NamesNoFacility) (same : call.appName = options.appName)
    (configures : process.Configures identity options outcome next) :
    call.Ends identity process (outcome, next) := by
  cases configures with
  | refused refuses => exact .refused known (same ▸ refuses)
  | levelless named noLevel =>
      refine .passed known (fun cause => same ▸ named.not_refuses) fun cause failed => ?_
      cases failed
      exact Process.ne_configuration_of_thresholdOf noLevel cause rfl
  | completed named _ => exact .passed known (fun cause => same ▸ named.not_refuses) nofun

theorem ends (identity : Identity) (process : Process) (call : SetUpCall) :
    call.Ends identity process (call.perform identity process) := by
  cases call with
  | configure options =>
      exact ends_of_configures not_false rfl (process.configures identity options)
  | setUp environment options =>
      have setsUp := process.setsUp identity environment options
      rw [perform]
      generalize process.setUp identity environment options = result at setsUp
      rcases result with ⟨outcome, next⟩
      -- What follows once logging has been configured is not rejected for a name.
      have later : ∀ facility middle, environment.facility? = some facility →
          process.Configures identity (options.loggingOptions environment facility) (.ok ())
            middle → (∀ cause, outcome ≠ .error (.configuration cause)) →
          Ends identity process (.setUp environment options) (outcome, next) := by
        intro facility middle known configures otherwise
        cases configures with
        | completed named _ =>
            exact .passed (by simp [NamesNoFacility, known]) (fun cause => named.not_refuses)
              otherwise
      cases setsUp with
      | unknown unknown => exact .unknown unknown
      | failed known fails =>
          exact ends_of_configures (by simp [NamesNoFacility, known]) rfl fails
      | completed known configures _ | fileless known configures _ _
      | filed known configures _ _ _ =>
          refine later _ _ known configures fun cause same => ?_
          cases same

/-- A call is rejected exactly if it is improper, and then the process is as it was. -/
theorem perform_of_isImproper (improper : call.IsImproper identity) :
    ∃ cause, call.perform identity process = (.error (.configuration cause), process) := by
  have ends := call.ends identity process
  generalize call.perform identity process = result at ends
  cases ends with
  | unknown _ => exact ⟨_, rfl⟩
  | refused _ _ => exact ⟨_, rfl⟩
  | passed known proper _ =>
      rcases Renderer.exists_refuses_iff.mpr (improper.resolve_left known) with ⟨cause, refuses⟩
      exact absurd refuses (proper cause)

theorem isImproper_of_perform {cause : ConfigurationFault}
    (rejected : (call.perform identity process).1 = .error (.configuration cause)) :
    call.IsImproper identity := by
  have ends := call.ends identity process
  generalize call.perform identity process = result at ends rejected
  cases ends with
  | unknown unknown => exact Or.inl unknown
  | refused _ refuses => exact Or.inr (Renderer.exists_refuses_iff.mp ⟨_, refuses⟩)
  | passed _ _ otherwise => exact absurd rejected (otherwise cause)

/-- The caller sees a fault of the configuration unless the name of the application cannot be put
into words, and that counts only if the facility is known. -/
theorem exists_configuration_iff :
    (∃ fault, (call.perform identity process).1 = .error fault ∧ fault.IsConfiguration) ↔
      call.IsImproper identity ∧ (call.NamesNoFacility ∨ call.appName.HasWords) := by
  have ends := call.ends identity process
  constructor
  · rintro ⟨fault, failed, isConfiguration⟩
    rcases isConfiguration.1 with ⟨cause, rfl⟩
    refine ⟨isImproper_of_perform failed, ?_⟩
    generalize call.perform identity process = result at ends failed
    cases ends with
    | unknown unknown => exact Or.inl unknown
    | refused _ refuses =>
        cases failed
        exact Or.inr (refuses.isConfiguration_iff.mp isConfiguration)
    | passed _ _ otherwise => exact absurd failed (otherwise cause)
  · rintro ⟨improper, hasWords⟩
    generalize call.perform identity process = result at ends
    cases ends with
    | unknown _ => exact ⟨_, rfl, ⟨_, rfl⟩, rfl⟩
    | refused known refuses =>
        exact ⟨_, rfl, refuses.isConfiguration_iff.mpr (hasWords.resolve_left known)⟩
    | passed known proper _ =>
        rcases Renderer.exists_refuses_iff.mpr (improper.resolve_left known) with ⟨cause, refuses⟩
        exact absurd refuses (proper cause)

end SetUpCall

/-! ## Runs -/

namespace Session

/-- A turn of a session: a call that sets logging up, a request, or that time passes. -/
inductive Turn
  | call (call : SetUpCall)
  | request (request : Request)
  | clock (now : DateTime)

/-- What comes of a turn: an answer, what was logged, and the session behind it. -/
def take (session : Session) : Turn → (Except Fault Answer × Emission) × Session
  | .call call =>
    let (outcome, process) := call.perform session.origin.identity session.process
    ((outcome.map fun () => .state process.visibleState, {}),
      { session with process, emission := {} })
  | .request request => session.step request
  | .clock now =>
    ((.ok .done, {}), { session with origin := { session.origin with now }, emission := {} })

/-- A turn that was taken, with its answer and what was logged. -/
abbrev Taken := Turn × Except Fault Answer × Emission

/-- That a call was rejected for a name. -/
def Taken.IsRejection (taken : Taken) : Prop :=
  ∃ call cause, taken.1 = .call call ∧ taken.2.1 = .error (.configuration cause)

/-- The turns, each with what came of it. -/
def trace (session : Session) : List Turn → List Taken
  | [] => []
  | turn :: rest => (turn, (session.take turn).1) :: (session.take turn).2.trace rest

/-- The session behind turns that are taken one after the other. -/
def behind (session : Session) (turns : List Turn) : Session :=
  turns.foldl (fun session turn => (session.take turn).2) session

variable {session : Session}

/-- The requests that set logging up make such a call; a stream that they ask for is a new one. -/
theorem step_of_call (session : Session) (environment : Environment) (setup : SetupOptions)
    (options : LoggingOptions) :
    (session.step (.setUpLogging environment setup)).2 =
        (session.take (.call (.setUp environment setup))).2 ∧
      (session.step (.configureLogging options true)).2 =
        (session.take (.call (.configure { options with sink := .standardOutput }))).2 ∧
      (session.step (.configureLogging options false)).2 =
        (take { session with streams := session.streams + 1 }
          (.call (.configure { options with sink := .stream session.streams }))).2 :=
  ⟨rfl, rfl, rfl⟩

/-- What has been logged before does not count. -/
theorem take_quiet (session : Session) (turn : Turn) :
    session.quiet.take turn = session.take turn := by
  cases turn <;> rfl

theorem trace_quiet (session : Session) (turns : List Turn) :
    session.quiet.trace turns = session.trace turns := by
  cases turns with
  | nil => rfl
  | cons turn rest => rw [trace, trace, take_quiet]

theorem behind_cons (session : Session) (turn : Turn) (rest : List Turn) :
    session.behind (turn :: rest) = (session.take turn).2.behind rest := rfl

theorem behind_quiet (session : Session) (turns : List Turn) :
    (session.quiet.behind turns).quiet = (session.behind turns).quiet := by
  cases turns with
  | nil => rfl
  | cons turn rest => rw [behind_cons, behind_cons, take_quiet]

theorem isRejection_of_isImproper {call : SetUpCall}
    (improper : call.IsImproper session.origin.identity) :
    Taken.IsRejection (.call call, (session.take (.call call)).1) := by
  rcases @SetUpCall.perform_of_isImproper _ session.process _ improper with ⟨cause, rejected⟩
  refine ⟨call, cause, rfl, ?_⟩
  rw [take, rejected]
  rfl

/-- A call that is rejected leaves the session as it was, and writes nothing. -/
theorem take_of_isRejection {turn : Turn}
    (rejection : Taken.IsRejection (turn, (session.take turn).1)) :
    (session.take turn).1.2 = {} ∧ (session.take turn).2 = session.quiet := by
  rcases rejection with ⟨call, cause, rfl, failed⟩
  have rejected : (call.perform session.origin.identity session.process).1 =
      .error (.configuration cause) := map_eq_error_iff.mp failed
  rcases SetUpCall.perform_of_isImproper (SetUpCall.isImproper_of_perform rejected) with
    ⟨_, unchanged⟩
  refine ⟨rfl, ?_⟩
  rw [take, unchanged]
  rfl

/-- Rejected calls can be left out of a run.  The induction is on the turns, for any session; a
turn that is left out only has the session that is forgotten what has been logged. -/
theorem trace_filter (turns : List Turn) {keep : Taken → Bool}
    (rejections : ∀ taken ∈ session.trace turns, keep taken = false → taken.IsRejection) :
    session.trace (((session.trace turns).filter keep).map Prod.fst) =
        (session.trace turns).filter keep ∧
      (session.behind (((session.trace turns).filter keep).map Prod.fst)).quiet =
        (session.behind turns).quiet := by
  induction turns generalizing session with
  | nil => exact ⟨rfl, rfl⟩
  | cons turn rest inductionHypothesis =>
      rw [trace] at rejections ⊢
      rcases List.forall_mem_cons.mp rejections with ⟨first, others⟩
      rcases inductionHypothesis others with ⟨sameTrace, sameEnd⟩
      cases kept : keep (turn, (session.take turn).1) with
      | true =>
          rw [List.filter_cons_of_pos kept, List.map_cons, trace, sameTrace]
          exact ⟨rfl, sameEnd⟩
      | false =>
          have same := (take_of_isRejection (first kept)).2
          rw [List.filter_cons_of_neg (Bool.eq_false_iff.mp kept), behind_cons]
          simp only [same, trace_quiet, behind_quiet] at sameTrace sameEnd ⊢
          exact ⟨sameTrace, sameEnd⟩

/-- A call that sets logging up is rejected exactly if it is improper, and the caller sees a fault
of the configuration exactly if besides it names no facility or the name of its application can be
put into words; an improper call changes nothing; and a run goes the same way if rejected calls are
left out, to the same end and with the same lines from all other turns. -/
theorem rejected_calls_change_nothing :
    (∀ (identity : Identity) (process : Process) (call : SetUpCall),
      ((∃ cause, (call.perform identity process).1 = .error (.configuration cause)) ↔
        call.IsImproper identity) ∧
      ((∃ fault, (call.perform identity process).1 = .error fault ∧ fault.IsConfiguration) ↔
        call.IsImproper identity ∧ (call.NamesNoFacility ∨ call.appName.HasWords)) ∧
      (call.IsImproper identity → (call.perform identity process).2 = process)) ∧
    ∀ (session : Session) (turns : List Turn) (keep : Taken → Bool),
      (∀ taken ∈ session.trace turns, keep taken = false → taken.IsRejection) →
        session.trace (((session.trace turns).filter keep).map Prod.fst) =
            (session.trace turns).filter keep ∧
          (session.behind (((session.trace turns).filter keep).map Prod.fst)).quiet =
            (session.behind turns).quiet := by
  refine ⟨fun identity process call => ⟨⟨?_, fun improper => ?_⟩,
    SetUpCall.exists_configuration_iff, fun improper => ?_⟩,
    fun session turns keep rejections => trace_filter turns rejections⟩
  · rintro ⟨cause, rejected⟩
    exact SetUpCall.isImproper_of_perform rejected
  · rcases SetUpCall.perform_of_isImproper improper with ⟨cause, unchanged⟩
    exact ⟨cause, congrArg Prod.fst unchanged⟩
  · rcases SetUpCall.perform_of_isImproper improper with ⟨cause, unchanged⟩
    exact congrArg Prod.snd unchanged

/-- A call with a blank in the name of the application, between one that has none and an entry: the
entry is written as if there had been no such call. -/
theorem rejected_calls_change_nothing_of_blank :
    let session : Session := { origin := .atEpoch ⟨"host", "app", "42"⟩ }
    let blank : SetUpCall := .configure { appName := .text "two words" }
    let turns : List Turn := [.call (.configure {}), .call blank,
      .request (.logPlain { logger := "x", level := 30, message := .text "up" })]
    let keep (taken : Taken) : Bool :=
      match taken.1 with
      | .call call => call.appName.isNull
      | _ => true
    let kept := (session.trace turns).filter keep
    session.trace (kept.map Prod.fst) = kept ∧ kept.length = 2 ∧
      (kept.flatMap (·.2.2.lines)).map Prod.fst = [.standardOutput] := by
  intro session blank turns keep kept
  have improper : blank.IsImproper session.origin.identity := by
    refine Or.inr (Or.inl ?_)
    rw [← Token.ofValue?_isSome_iff]
    decide
  have rejections : ∀ taken ∈ session.trace turns, keep taken = false → taken.IsRejection := by
    refine List.forall_mem_cons.mpr ⟨nofun, List.forall_mem_cons.mpr ⟨fun _ => ?_, ?_⟩⟩
    · exact isRejection_of_isImproper improper
    · exact List.forall_mem_singleton.mpr nofun
  exact ⟨(rejected_calls_change_nothing.2 session turns keep rejections).1, by decide +kernel,
    by decide +kernel⟩

/-- A value that is nested too deeply is no name, and no more is an integer with too many digits,
but the caller does not see a fault of the configuration; and where the machine has a name that no
message could have, the caller sees one although the name of the application is valid. -/
theorem names_do_not_decide_alone :
    let host : Identity := ⟨"host", "app", "42"⟩
    let deep : SetUpCall := .configure { appName := .nested 1000 }
    let long : SetUpCall := .configure { appName := .int (10 ^ digitLimit) }
    let blank : Identity := ⟨"my host", "app", "42"⟩
    let plain : SetUpCall := .configure {}
    (∀ call ∈ [deep, long], ¬(call.appName.orText host.appName).IsToken 48 ∧
      ¬∃ fault, (call.perform host {}).1 = .error fault ∧ fault.IsConfiguration) ∧
    ((plain.appName.orText blank.appName).IsToken 48 ∧
      ∃ fault, (plain.perform blank {}).1 = .error fault ∧ fault.IsConfiguration) := by
  intro host deep long blank plain
  have isDeep : ¬(Value.nested 1000).HasWords := by
    rw [← Value.wordsFault?_eq_none_iff]
    decide +kernel
  have isLong : ¬(Value.int (10 ^ digitLimit)).HasWords := by
    intro hasWords
    have few := (hasWords 0 _ .whole).2 _ rfl
    simp [Int.natAbs_pow] at few
  have noText : ∀ number : Int, ¬((Value.int number).orText host.appName).IsToken 48 := by
    rintro number ⟨_, same, _⟩
    cases same
  have improper : ¬(Value.text blank.hostname).IsToken 255 := by
    rw [← Token.ofValue?_isSome_iff]
    decide
  have unseen : ∀ options : LoggingOptions, ¬options.appName.HasWords →
      ¬∃ fault, ((SetUpCall.configure options).perform host {}).1 = .error fault ∧
        fault.IsConfiguration := by
    intro options wordless seen
    rcases (SetUpCall.exists_configuration_iff.mp seen).2 with impossible | hasWords
    · exact impossible
    · exact wordless hasWords
  refine ⟨?_, ?_, ?_⟩
  · refine List.forall_mem_cons.mpr ⟨⟨?_, unseen _ isDeep⟩,
      List.forall_mem_singleton.mpr ⟨noText _, unseen _ isLong⟩⟩
    rintro ⟨_, same, _⟩
    cases same
  · rw [← Token.ofValue?_isSome_iff]
    decide
  · rw [SetUpCall.exists_configuration_iff]
    exact ⟨Or.inr (Or.inr improper), Or.inr (Value.wordsFault?_eq_none_iff.mp rfl)⟩

end Session

end Syslog
