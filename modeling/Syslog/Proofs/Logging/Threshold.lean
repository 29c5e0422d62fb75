import Syslog.Proofs.Logging.Delivery
import Syslog.Proofs.Logging.Levels
import Syslog.Proofs.Logging.Rejection

namespace Syslog

/-!
# The level that logging is configured with

A call that sets logging up is given a level by name.  Whatever the name, its number becomes both
the threshold of the pipeline and the level of the root, and until logging is set up anew these two
stay the same.  So both paths let an entry pass from that level on, unless its logger, or one above
it, has a level of its own (`Session.configured_level_is_threshold`).

The exception is a name for which the table of levels has an entry that is not a level.  The
entry is taken for one, and the call fails halfway (`Level.IsReserved`).
-/

namespace Level

/-- The names of the levels, in capitals, with the numbers that they stand for. -/
inductive IsNamed : Text → Nat → Prop
  | notSet : IsNamed "NOTSET" 0
  | debug : IsNamed "DEBUG" 10
  | info : IsNamed "INFO" 20
  | warning : IsNamed "WARNING" 30
  | warn : IsNamed "WARN" 30
  | error : IsNamed "ERROR" 40
  | critical : IsNamed "CRITICAL" 50
  | fatal : IsNamed "FATAL" 50

/-- The number that a name stands for in whatever case it is written: that of the level of this
name, or that of information if there is none. -/
inductive Denotes (name : Text) : Nat → Prop
  | named {number : Nat} (named : IsNamed name.upper number) : Denotes name number
  | nameless (nameless : ∀ number, ¬IsNamed name.upper number) : Denotes name 20

/-- That a name stands for something else, in whatever case it is written. -/
def IsReserved (name : Text) : Prop :=
  name.upper = Text.ofString "BASIC_FORMAT" ∨ name.upper = Text.ofString "_STYLES"

variable {name : Text} {number : Nat}

theorem lookup_numbers_iff : numbers.lookup name = some number ↔ IsNamed name number := by
  constructor
  · intro found
    rcases List.lookup_eq_some_iff.mp found with ⟨before, after, split, _⟩
    have member : (name, number) ∈ numbers := by
      rw [split]
      exact List.mem_append_right _ List.mem_cons_self
    simp only [numbers, List.mem_cons, Prod.mk.injEq, List.not_mem_nil, or_false] at member
    rcases member with ⟨rfl, rfl⟩ | ⟨rfl, rfl⟩ | ⟨rfl, rfl⟩ | ⟨rfl, rfl⟩ | ⟨rfl, rfl⟩ | ⟨rfl, rfl⟩ |
      ⟨rfl, rfl⟩ | ⟨rfl, rfl⟩
    exacts [.notSet, .debug, .info, .warning, .warn, .error, .critical, .fatal]
  · intro named
    cases named <;> decide

theorem denotes_iff : Denotes name number ↔ (numbers.lookup name.upper).getD info = number := by
  constructor
  · intro denotes
    cases denotes with
    | named named =>
        rw [lookup_numbers_iff.mpr named]
        rfl
    | nameless nameless =>
        have missing : numbers.lookup name.upper = none :=
          Option.eq_none_iff_forall_ne_some.mpr fun number found =>
            nameless number (lookup_numbers_iff.mp found)
        rw [missing]
        rfl
  · rintro rfl
    cases found : numbers.lookup name.upper with
    | some number => exact .named (lookup_numbers_iff.mp found)
    | none =>
        refine .nameless fun number named => ?_
        cases found.symm.trans (lookup_numbers_iff.mpr named)

end Level

namespace Process

variable {identity : Identity} {process next : Process} {options : LoggingOptions}
  {pipeline : Pipeline} {outcome : Except Fault Unit} {name : Text} {number : Nat}

theorem thresholdOf_text_iff :
    thresholdOf (.text name) = .ok number ↔ ¬Level.IsReserved name ∧ Level.Denotes name number := by
  rw [thresholdOf, Value.levelMeaning, ok_bind, Level.ofName, Level.IsReserved, Level.denotes_iff]
  by_cases isTemplate : name.upper = Text.ofString "BASIC_FORMAT"
  · rw [if_pos isTemplate]
    exact iff_of_false nofun fun free => free.1 (Or.inl isTemplate)
  · by_cases isStyles : name.upper = Text.ofString "_STYLES"
    · rw [if_neg isTemplate, if_pos isStyles]
      exact iff_of_false nofun fun free => free.1 (Or.inr isStyles)
    · rw [if_neg isTemplate, if_neg isStyles, and_iff_right (not_or.mpr ⟨isTemplate, isStyles⟩)]
      exact ⟨Except.ok.inj, congrArg Except.ok⟩

/-- That the threshold of the pipeline is also the level of the root, and that there is a
handler. -/
structure HasThreshold (pipeline : Pipeline) (process : Process) : Prop where
  isPipeline : process.pipeline = some pipeline
  rootLevel : process.loggers.rootLevel = pipeline.threshold
  handled : process.handlers ≠ []

theorem lasting_hasThreshold (pipeline : Pipeline) : Session.Lasting (HasThreshold pipeline) where
  settings _ _ has := ⟨has.isPipeline, has.rootLevel, has.handled⟩
  opened process logger has :=
    ⟨has.isPipeline, (process.rootLevel_openPlain logger).trans has.rootLevel, has.handled⟩

/-- If there are no objections to its names, a configuration fails exactly if the name of its level
is reserved. -/
theorem Configures.hasThreshold (configures : process.Configures identity options outcome next)
    (proper : ∀ cause, ¬Renderer.Refuses identity options.appName cause)
    (isLevel : options.level = .text name) :
    (Level.IsReserved name ∧ outcome ≠ .ok ()) ∨
      (¬Level.IsReserved name ∧ outcome = .ok () ∧
        ∃ pipeline : Pipeline, Level.Denotes name pipeline.threshold ∧
          next.HasThreshold pipeline) := by
  cases configures with
  | refused refuses => exact absurd refuses (proper _)
  | levelless _ noLevel =>
      refine Or.inl ⟨?_, nofun⟩
      by_contra free
      have denotes : Level.Denotes name _ := Level.denotes_iff.mpr rfl
      rw [isLevel, thresholdOf_text_iff.mpr ⟨free, denotes⟩] at noLevel
      cases noLevel
  | completed named level =>
      rw [isLevel] at level
      rcases thresholdOf_text_iff.mp level with ⟨free, denotes⟩
      refine Or.inr ⟨free, rfl, _, denotes, rfl, rfl, ?_⟩
      exact List.append_ne_nil_of_right_ne_nil _ (List.cons_ne_nil _ _)

theorem rootLevel_quieted {names : List Text} (process : Process)
    (below : ∀ name ∈ names, LoggerTree.isRoot name = false) :
    (process.quieted names).loggers.rootLevel = process.loggers.rootLevel := by
  have created : ∀ (tree : LoggerTree) (name : Text),
      (tree.create name).rootLevel = tree.rootLevel :=
    fun tree => rootLevel_openPlain { loggers := tree }
  rw [quieted]
  generalize process.loggers = tree
  induction names generalizing tree with
  | nil => rfl
  | cons name rest inductionHypothesis =>
      rcases List.forall_mem_cons.mp below with ⟨first, others⟩
      rw [List.foldl_cons, inductionHypothesis others, LoggerTree.setLevel, first]
      exact created tree name

theorem HasThreshold.quieted {names : List Text} (has : process.HasThreshold pipeline)
    (below : ∀ name ∈ names, LoggerTree.isRoot name = false) :
    (process.quieted names).HasThreshold pipeline :=
  ⟨has.isPipeline, (process.rootLevel_quieted below).trans has.rootLevel, has.handled⟩

end Process

namespace SetUpCall

/-- The name of the level that a call is given, which may come from the variables of the process. -/
def level : SetUpCall → Value
  | .configure options => options.level
  | .setUp environment _ => .text ((environment.get? "LOG_LEVEL").getD "INFO")

def quietLoggers : SetUpCall → List Text
  | .configure _ => []
  | .setUp _ options => options.quietLoggers

/-- That a call is given the path of a file that cannot be written to. -/
def LacksFile : SetUpCall → Prop
  | .configure _ => False
  | .setUp environment options =>
    environment.logPath ≠ [] ∧ options.isWritable environment.logPath = false

variable {identity : Identity} {call : SetUpCall} {name : Text}

/-- How a call ends that is not to be rejected, as far as its level is concerned. -/
theorem perform_of_level (process : Process) (isLevel : call.level = .text name)
    (proper : ¬call.IsImproper identity)
    (below : ∀ quiet ∈ call.quietLoggers, LoggerTree.isRoot quiet = false) :
    (Level.IsReserved name ∧ (call.perform identity process).1 ≠ .ok ()) ∨
      (¬Level.IsReserved name ∧
        ((call.perform identity process).1 = .ok () ↔ ¬call.LacksFile) ∧
        ∃ pipeline : Pipeline, Level.Denotes name pipeline.threshold ∧
          (call.perform identity process).2.HasThreshold pipeline) := by
  rw [IsImproper, not_or, ← Renderer.exists_refuses_iff, not_exists] at proper
  rcases proper with ⟨known, proper⟩
  cases call with
  | configure options =>
      have configures := process.configures identity options
      rcases configures.hasThreshold proper isLevel with reserved | ⟨free, succeeds, has⟩
      · exact Or.inl reserved
      · exact Or.inr ⟨free, iff_of_true succeeds not_false, has⟩
  | setUp environment options =>
      have setsUp := process.setsUp identity environment options
      rw [perform]
      generalize process.setUp identity environment options = result at setsUp
      rcases result with ⟨outcome, next⟩
      cases setsUp with
      | unknown unknown => exact absurd unknown known
      | failed _ fails =>
          rcases fails.hasThreshold proper isLevel with reserved | ⟨_, succeeds, _⟩
          · exact Or.inl reserved
          · cases succeeds
      | completed _ configures noFile =>
          rcases configures.hasThreshold proper isLevel with
            ⟨_, impossible⟩ | ⟨free, _, pipeline, denotes, has⟩
          · exact absurd rfl impossible
          · exact Or.inr ⟨free, iff_of_true rfl fun lacks => lacks.1 noFile, pipeline, denotes,
              has.quieted below⟩
      | fileless _ configures isFile unwritable =>
          rcases configures.hasThreshold proper isLevel with
            ⟨_, impossible⟩ | ⟨free, _, pipeline, denotes, has⟩
          · exact absurd rfl impossible
          · refine Or.inr ⟨free, iff_of_false (fun succeeds => ?_)
              (not_not_intro ⟨isFile, unwritable⟩), pipeline, denotes, has.quieted below⟩
            cases succeeds
      | filed _ configures _ writable _ =>
          rcases configures.hasThreshold proper isLevel with
            ⟨_, impossible⟩ | ⟨free, _, pipeline, denotes, has⟩
          · exact absurd rfl impossible
          · have has := has.quieted below
            refine Or.inr ⟨free, iff_of_true rfl fun lacks => ?_, pipeline, denotes,
              has.isPipeline, has.rootLevel,
              List.append_ne_nil_of_right_ne_nil _ (List.cons_ne_nil _ _)⟩
            exact absurd (writable.symm.trans lacks.2) (by decide)

end SetUpCall

/-- That a structured entry is called rightly and can be prepared. -/
structure StructuredEntry.IsLoggable (origin : Origin) (pipeline : Pipeline)
    (entry : StructuredEntry) : Prop where
  bound : entry.checkBound = .ok ()
  called : entry.checkCall true = .ok ()
  isPrepared : ∃ event, entry.preparedFor origin pipeline = .ok event

/-- Of the entries that do not fail, those reach the handlers whose level is not below the threshold
and passes their logger. -/
theorem Process.LogsStructured.reach {origin : Origin} {process : Process} {pipeline : Pipeline}
    {entry : StructuredEntry} {outcome : Except Fault Emission}
    (ends : process.LogsStructured origin pipeline entry outcome)
    (bound : entry.checkBound = .ok ()) {condition : Prop}
    (same : condition ↔ pipeline.threshold ≤ entry.method.level ∧
      process.loggers.effectiveLevel entry.logger ≤ entry.method.level ∧
      entry.IsLoggable origin pipeline) :
    (condition ∧ ∃ emission, outcome = .ok emission ∧ emission.reach = process.handlers.length) ∨
      (¬condition ∧ ∀ emission, outcome = .ok emission → emission.reach = 0) := by
  rw [same]
  cases ends with
  | misused misused =>
      refine Or.inr ⟨?_, nofun⟩
      rintro ⟨admitted, _, loggable⟩
      rw [decide_eq_true admitted, loggable.called] at misused
      cases misused
  | below _ below =>
      refine Or.inr ⟨fun admitted => Nat.not_le.mpr below admitted.1, ?_⟩
      rintro _ ⟨⟩
      rfl
  | unprepared _ _ failed =>
      refine Or.inr ⟨?_, nofun⟩
      rintro ⟨_, _, loggable⟩
      rcases loggable.isPrepared with ⟨event, isPrepared⟩
      cases failed.symm.trans isPrepared
  | barred _ _ _ barred =>
      refine Or.inr ⟨fun ⟨_, passes, _⟩ => ?_, ?_⟩
      · exact Bool.eq_false_iff.mp barred (passes_method_iff.mpr passes)
      · rintro _ ⟨⟩
        rfl
  | delivered called admitted isPrepared passes =>
      rw [decide_eq_true admitted] at called
      exact Or.inl ⟨⟨admitted, passes_method_iff.mp passes, bound, called, _, isPrepared⟩, _, rfl,
        reach_deliver _ _⟩

namespace Session

/-- That a turn sets logging up. -/
def Turn.SetsUp : Turn → Prop
  | .call _ => True
  | .request asked => ∃ call, (Operation.request asked).Calls call
  | .clock _ => False

/-- That what a request logs reaches all handlers if a condition holds, and none otherwise. -/
structure Delivers (session : Session) (request : Request) (condition : Prop) : Prop where
  all : condition → (session.step request).1.2.reach = session.process.handlers.length
  none : ¬condition → (session.step request).1.2.reach = 0

/-- That a level is the threshold on both paths: entries pass from it on, unless their logger or one
above it has a level of its own. -/
structure IsThreshold (session : Session) (number : Nat) : Prop where
  rootLevel : session.process.loggers.rootLevel = number
  handled : session.process.handlers ≠ []
  inherited : ∀ logger,
    let loggers := (session.process.openPlain logger).loggers
    (∀ above, loggers.Over (some logger) above → above.level = 0) →
      loggers.effectiveLevel logger = number
  structured : ∃ pipeline, session.process.pipeline = some pipeline ∧ ∀ entry : StructuredEntry,
    let loggers := (session.process.openPlain entry.logger).loggers
    session.Delivers (.logStructured entry) (number ≤ entry.method.level ∧
      loggers.effectiveLevel entry.logger ≤ entry.method.level ∧
      entry.IsLoggable session.origin pipeline)
  plain : ∀ entry : PlainEntry, 0 < entry.level →
    let loggers := (session.process.openPlain entry.logger).loggers
    session.Delivers (.logPlain entry) (loggers.effectiveLevel entry.logger ≤ entry.level)

variable {session : Session} {call : SetUpCall} {pipeline : Pipeline} {name : Text}

theorem lasts_behind {Holds : Process → Prop} (lasting : Lasting Holds)
    (holds : Holds session.process) {turns : List Turn} (others : ∀ turn ∈ turns, ¬turn.SetsUp) :
    Holds (session.behind turns).process := by
  induction turns generalizing session with
  | nil => exact holds
  | cons turn rest inductionHypothesis =>
      rcases List.forall_mem_cons.mp others with ⟨other, others⟩
      refine inductionHypothesis ?_ others
      cases turn with
      | call _ => exact (other trivial).elim
      | clock _ => exact holds
      | request request =>
          have others : ∀ call, ¬Operation.Calls (.request request) call :=
            fun call calls => other ⟨call, calls⟩
          exact lasts_perform lasting holds others

theorem delivers_logStructured (isPipeline : session.process.pipeline = some pipeline)
    (entry : StructuredEntry) :
    let loggers := (session.process.openPlain entry.logger).loggers
    session.Delivers (.logStructured entry) (pipeline.threshold ≤ entry.method.level ∧
      loggers.effectiveLevel entry.logger ≤ entry.method.level ∧
      entry.IsLoggable session.origin pipeline) := by
  intro loggers
  let opened := session.process.openPlain entry.logger
  have step := congrArg Prod.snd (step_logStructured isPipeline entry)
  have ends := opened.logsStructured session.origin isPipeline entry
  cases bound : entry.checkBound with
  | error fault =>
      rw [bound] at step
      have refused : ¬entry.IsLoggable session.origin pipeline := fun loggable => by
        cases bound.symm.trans loggable.bound
      exact ⟨fun condition => absurd condition.2.2 refused, fun _ => congrArg Emission.reach step⟩
  | ok _ =>
      rw [bound] at step
      dsimp only [Except.bind] at step
      rcases ends.reach bound Iff.rfl with ⟨condition, emission, logs, reach⟩ | ⟨refused, nothing⟩
      · rw [logs] at step
        exact ⟨fun _ => step ▸ reach, fun refused => absurd condition refused⟩
      · refine ⟨fun condition => absurd condition refused, fun _ => ?_⟩
        rw [step]
        cases logs : opened.logStructured session.origin entry with
        | error _ => rfl
        | ok emission => exact nothing emission logs

theorem delivers_logPlain (handled : session.process.handlers ≠ []) {entry : PlainEntry}
    (positive : 0 < entry.level) :
    let loggers := (session.process.openPlain entry.logger).loggers
    session.Delivers (.logPlain entry) (loggers.effectiveLevel entry.logger ≤ entry.level) := by
  intro loggers
  let opened := session.process.openPlain entry.logger
  have step : (session.step (.logPlain entry)).1.2 = opened.logPlain session.origin entry := rfl
  have handled : opened.handlers ≠ [] := handled
  rw [Process.logPlain_of_handlers handled] at step
  constructor
  · intro passes
    rw [step, if_pos ((Process.passes_iff positive).mpr passes)]
    exact Process.reach_deliver _ _
  · intro refused
    rw [step, if_neg fun passes => refused ((Process.passes_iff positive).mp passes)]
    rfl

theorem isThreshold_of_hasThreshold (has : session.process.HasThreshold pipeline) :
    session.IsThreshold pipeline.threshold where
  rootLevel := has.rootLevel
  handled := has.handled
  inherited := by
    intro logger loggers none
    have isRoot : loggers.rootLevel = pipeline.threshold :=
      (session.process.rootLevel_openPlain logger).trans has.rootLevel
    rcases loggers.levelFrom_cases logger.length (some logger) with
      root | ⟨above, isOver, own, _⟩
    · exact root.trans isRoot
    · exact absurd (none above isOver) own
  structured := ⟨pipeline, has.isPipeline, delivers_logStructured has.isPipeline⟩
  plain _ := delivers_logPlain has.handled

/-- A call with valid names succeeds exactly if the name of its level is not reserved and there is
no file that is missing.  Unless that name is reserved, the level that it denotes, or that of
information if it denotes none, is the threshold on both paths as long as logging is not set up
anew. -/
theorem configured_level_is_threshold (isLevel : call.level = .text name)
    (proper : ¬call.IsImproper session.origin.identity)
    (below : ∀ quiet ∈ call.quietLoggers, LoggerTree.isRoot quiet = false) :
    ((call.perform session.origin.identity session.process).1 = .ok () ↔
        ¬Level.IsReserved name ∧ ¬call.LacksFile) ∧
      (¬Level.IsReserved name → ∃ number, Level.Denotes name number ∧
        ∀ later : List Turn, (∀ turn ∈ later, ¬turn.SetsUp) →
          (session.behind (.call call :: later)).IsThreshold number) := by
  rcases SetUpCall.perform_of_level session.process isLevel proper below with
    ⟨reserved, fails⟩ | ⟨free, succeeds, pipeline, denotes, has⟩
  · exact ⟨iff_of_false fails fun free => free.1 reserved, fun free => absurd reserved free⟩
  · refine ⟨succeeds.trans (and_iff_right free).symm, fun _ => ⟨_, denotes, fun later others => ?_⟩⟩
    have lasting := Process.lasting_hasThreshold pipeline
    have has : (session.take (.call call)).2.process.HasThreshold pipeline := has
    exact isThreshold_of_hasThreshold (lasts_behind lasting has others)

/-- A set-up from variables that ask for warnings, in small letters, after which the settings
change: a warning reaches the handler on both paths, and what is less than that on neither. -/
theorem configured_level_is_threshold_of_warn :
    let session : Session := { origin := .atEpoch ⟨"host", "app", "42"⟩ }
    let call : SetUpCall := .setUp [("LOG_LEVEL", "warn")] { quietLoggers := ["quiet"] }
    let current := session.behind [.call call, .request (.configure (some true))]
    let structured (method : Method) : Request :=
      .logStructured { logger := "x", method, event := .text "up" }
    let plain (level : Int) : Request := .logPlain { logger := "x", level, message := .text "up" }
    (call.perform session.origin.identity session.process).1 = .ok () ∧ current.IsThreshold 30 ∧
      (current.step (structured .warning)).1.2.reach = 1 ∧
      (current.step (structured .info)).1.2.reach = 0 ∧
      (current.step (plain 30)).1.2.reach = 1 ∧ (current.step (plain 29)).1.2.reach = 0 := by
  intro session call current structured plain
  have proper : ¬call.IsImproper session.origin.identity := by
    decide
  have free : ¬Level.IsReserved "warn" := not_or.mpr ⟨by decide, by decide⟩
  have below : ∀ quiet ∈ call.quietLoggers, LoggerTree.isRoot quiet = false :=
    List.forall_mem_singleton.mpr (by decide)
  have others : ∀ turn ∈ [Turn.request (.configure (some true))], ¬turn.SetsUp :=
    List.forall_mem_singleton.mpr nofun
  rcases configured_level_is_threshold rfl proper below with ⟨succeeds, threshold⟩
  rcases threshold free with ⟨number, denotes, isThreshold⟩
  cases (Level.denotes_iff.mp denotes).symm.trans (by decide : _ = 30)
  exact ⟨succeeds.mpr ⟨free, fun lacks => lacks.1 rfl⟩, isThreshold _ others, by decide +kernel,
    by decide +kernel, by decide +kernel, by decide +kernel⟩

/-- A call whose names are valid fails for a level whose name, in capitals, is that of a
template. -/
theorem reserved_level_fails :
    let session : Session := { origin := .atEpoch ⟨"host", "app", "42"⟩ }
    let call : SetUpCall := .configure { appName := .text "a", level := .text "Basic_Format" }
    ¬call.IsImproper session.origin.identity ∧
      (call.perform session.origin.identity session.process).1 =
        .error (.missingKey (.text Level.plainTemplate)) := by
  intro session call
  exact ⟨by decide, by rfl⟩

end Session

end Syslog
