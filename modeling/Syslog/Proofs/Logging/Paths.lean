import Syslog.Proofs.Logging.Delivery
import Syslog.Proofs.Logging.Levels

namespace Syslog

/-!
# The structured and the plain path

The same text can be logged as a structured entry and as a plain one.  The two take different paths
to the handlers: a structured entry must reach the threshold of the pipeline, is prepared once,
and then needs to pass its logger; a plain entry only needs to pass its logger, and each handler
prepares it.

Behind a configuration that has removed all other handlers the paths differ in nothing but that.
The level of the root is then the threshold, and so the two part only at a logger that has been
given a level below it, or that stands below such a logger
(`Session.paths_write_alike`).
-/

/-- The event of an entry that is a text and nothing else. -/
def Event.bare (content : Text) : Event := [(.text "event", .text content)]

theorem Event.exists_prepared_bare (origin : EventOrigin) (content : Text) :
    ∃ event, (bare content).prepared origin = .ok event :=
  ⟨_, rfl⟩

/-- A text as a structured entry. -/
def StructuredEntry.bare (logger content : Text) (method : Method) : StructuredEntry where
  logger
  method
  event := .text content

/-- A text as a plain entry. -/
def PlainEntry.bare (logger content : Text) (method : Method) : PlainEntry where
  logger
  level := method.level
  message := .text content

theorem StructuredEntry.toEvent_bare {method : Method} (ordinary : method ≠ .exception)
    (logger content : Text) : (bare logger content method).toEvent = .ok (.bare content) := by
  cases method with
  | exception => exact absurd rfl ordinary
  | _ => rfl

namespace Process

variable {origin : Origin} {process : Process} {pipeline : Pipeline} {handler : Handler}
  {logger content : Text} {method : Method}

/-- What a handler makes of a text. -/
def written (origin : Origin) (process : Process) (handler : Handler) (logger content : Text)
    (method : Method) : Emission :=
  handler.emit origin process.settings method.levelName ((Event.bare content).prepared {
    logger := loggerName logger
    method := method.levelName
    appName := handler.appName
    now := origin.now })

/-- That a plain logger lets a level pass that does not reach the threshold. -/
def LetsSlip (process : Process) (logger : Text) (method : Method) : Prop :=
  ∃ pipeline, process.pipeline = some pipeline ∧ method.level < pipeline.threshold ∧
    process.loggers.effectiveLevel logger ≤ method.level

instance (process : Process) (logger : Text) (method : Method) :
    Decidable (process.LetsSlip logger method) :=
  decidable_of_iff (process.pipeline.any fun pipeline =>
      decide (method.level < pipeline.threshold) &&
        decide (process.loggers.effectiveLevel logger ≤ method.level)) <| by
    simp only [LetsSlip, Option.any_eq_true, Bool.and_eq_true, decide_eq_true_eq]

/-- A handler writes a line, or it drops the entry. -/
theorem written_ne_empty : process.written origin handler logger content method ≠ {} := by
  rw [written, Handler.emit]
  split
  · intro same
    cases same
  · intro same
    cases same

theorem deliver_of_single (single : process.handlers = [handler]) (name : Text)
    (prepare : Handler → Except Fault Event) :
    process.deliver origin name prepare =
      handler.emit origin process.settings name (prepare handler) := by
  rw [deliver, single, List.map_singleton, Emission.joined_singleton]

theorem logPlain_bare (single : process.handlers = [handler]) (logger content : Text)
    (method : Method) :
    process.logPlain origin (.bare logger content method) =
      if process.loggers.effectiveLevel logger ≤ method.level then
        process.written origin handler logger content method
      else {} := by
  have handled : process.handlers ≠ [] := by
    rw [single]
    exact List.cons_ne_nil _ _
  rw [logPlain_of_handlers handled, deliver_of_single single]
  simp only [PlainEntry.bare, passes_method_iff]
  rfl

theorem logStructured_bare (isPipeline : process.pipeline = some pipeline)
    (single : process.handlers = [handler]) (same : handler.appName = pipeline.appName)
    (ordinary : method ≠ .exception) (logger content : Text) :
    process.logStructured origin (.bare logger content method) =
      .ok (if pipeline.threshold ≤ method.level ∧
          process.loggers.effectiveLevel logger ≤ method.level then
        process.written origin handler logger content method
      else {}) := by
  have ends := process.logsStructured origin isPipeline (.bare logger content method)
  rcases Event.exists_prepared_bare {
    logger := loggerName logger
    method := method.levelName
    appName := handler.appName
    now := origin.now } content with ⟨event, prepared⟩
  have preparedFor : (StructuredEntry.bare logger content method).preparedFor origin pipeline =
      .ok event := by
    rw [StructuredEntry.preparedFor, StructuredEntry.toEvent_bare ordinary, ok_bind, ← same]
    exact prepared
  generalize process.logStructured origin (.bare logger content method) = outcome at ends
  cases ends with
  | misused misused => cases misused
  | below _ below => rw [if_neg fun admitted => Nat.not_lt.mpr admitted.1 below]
  | unprepared _ _ failed => cases preparedFor.symm.trans failed
  | barred _ _ _ barred =>
      rw [if_neg fun admitted => Bool.eq_false_iff.mp barred (passes_method_iff.mpr admitted.2)]
  | delivered _ admitted isPrepared passes =>
      cases preparedFor.symm.trans isPrepared
      rw [if_pos ⟨admitted, passes_method_iff.mp passes⟩, deliver_of_single single, written,
        prepared]
      rfl

/-- That a process has one handler, which ascribes entries to the same application as the
pipeline. -/
structure IsSingle (process : Process) (pipeline : Pipeline) (handler : Handler) : Prop where
  isPipeline : process.pipeline = some pipeline
  handlers : process.handlers = [handler]
  appName : handler.appName = pipeline.appName

theorem openPlain_openPlain (process : Process) (logger : Text) :
    (process.openPlain logger).openPlain logger = process.openPlain logger := by
  rw [openPlain, openPlain, LoggerTree.create_create]

/-- A level slips through only at a logger, or below one, that has a level of its own. -/
theorem LetsSlip.exists_over (slips : process.LetsSlip logger method)
    (isRoot : ∀ pipeline, process.pipeline = some pipeline →
      process.loggers.rootLevel = pipeline.threshold) :
    ∃ above, process.loggers.Over (some logger) above ∧ above.level ≠ 0 ∧
      above.level ≤ method.level := by
  rcases slips with ⟨pipeline, isPipeline, below, passes⟩
  rcases process.loggers.levelFrom_cases logger.length (some logger) with
    root | ⟨above, isOver, own, level⟩
  · rw [LoggerTree.effectiveLevel, root, isRoot pipeline isPipeline] at passes
    exact absurd below (Nat.not_lt.mpr passes)
  · rw [LoggerTree.effectiveLevel, level] at passes
    exact ⟨above, isOver, own, passes⟩

end Process

namespace Session

variable {session : Session} {pipeline : Pipeline} {handler : Handler} {method : Method}

theorem step_logPlain_bare {opened : Process} {logger : Text}
    (opens : session.process.openPlain logger = opened) (single : opened.IsSingle pipeline handler)
    (content : Text) (method : Method) :
    (session.step (.logPlain (.bare logger content method))).1 = (.ok .done,
        if opened.loggers.effectiveLevel logger ≤ method.level then
          opened.written session.origin handler logger content method
        else {}) ∧
      (session.step (.logPlain (.bare logger content method))).2.process = opened ∧
      (session.step (.logPlain (.bare logger content method))).2.origin = session.origin := by
  subst opens
  rw [← Process.logPlain_bare single.handlers]
  exact ⟨rfl, rfl, rfl⟩

theorem step_logStructured_of_ok {entry : StructuredEntry} {emission : Emission}
    (bound : entry.checkBound = .ok ())
    (logs : (session.process.openStructured entry.logger).logStructured session.origin entry =
      .ok emission) :
    session.step (.logStructured entry) = ((.ok .done, emission),
      { session with process := session.process.openStructured entry.logger, emission }) := by
  rw [step, answer, logStructured, bound]
  dsimp only
  rw [logs]

theorem step_logStructured_bare {opened : Process} {logger : Text}
    (opens : session.process.openPlain logger = opened) (single : opened.IsSingle pipeline handler)
    (ordinary : method ≠ .exception) (content : Text) :
    (session.step (.logStructured (.bare logger content method))).1 = (.ok .done,
        if pipeline.threshold ≤ method.level ∧
            opened.loggers.effectiveLevel logger ≤ method.level then
          opened.written session.origin handler logger content method
        else {}) ∧
      (session.step (.logStructured (.bare logger content method))).2.process = opened ∧
      (session.step (.logStructured (.bare logger content method))).2.origin = session.origin := by
  subst opens
  have isPipeline : session.process.pipeline = some pipeline := single.isPipeline
  have opens : session.process.openStructured logger = session.process.openPlain logger := by
    rw [Process.openStructured, isPipeline]
    rfl
  have logs := @Process.logStructured_bare session.origin _ pipeline handler method
    single.isPipeline single.handlers single.appName ordinary logger content
  rw [@step_logStructured_of_ok session (.bare logger content method) _ rfl (opens.symm ▸ logs),
    opens]
  exact ⟨rfl, opens, rfl⟩

/-- A configuration that succeeds and removes all handlers leaves one. -/
theorem isSingle_of_step {options : LoggingOptions} {toStandardOutput : Bool} {answer : Answer}
    (clears : options.clearHandlers = true)
    (succeeds : (session.step (.configureLogging options toStandardOutput)).1.1 = .ok answer) :
    ∃ pipeline handler,
      (session.step (.configureLogging options toStandardOutput)).2.process.IsSingle
        pipeline handler ∧
      (session.step (.configureLogging options toStandardOutput)).2.process.loggers =
        { session.process.loggers with rootLevel := pipeline.threshold } := by
  rcases session.step_configureLogging options toStandardOutput with ⟨answered, process⟩
  have configures := session.process.configures session.origin.identity
    { options with sink := session.sinkFor toStandardOutput }
  rw [answered] at succeeds
  rw [process]
  generalize session.process.configure session.origin.identity
    { options with sink := session.sinkFor toStandardOutput } = result at configures succeeds
  rcases result with ⟨outcome, next⟩
  cases configures with
  | refused _ => cases succeeds
  | levelless _ _ => cases succeeds
  | @completed renderer threshold named level =>
      refine ⟨_, ⟨session.sinkFor toStandardOutput, renderer, renderer.appName.text⟩,
        ⟨rfl, ?_, rfl⟩, rfl⟩
      simp only [clears, if_true, List.nil_append]

/-- How a text is logged on both paths, where `slips` says whether its level slips through on the
plain one. -/
structure Parallel (session : Session) (structured : StructuredEntry) (plain : PlainEntry)
    (slips : Prop) : Prop where
  structuredAnswer : (session.step (.logStructured structured)).1.1 = .ok .done
  plainAnswer : (session.step (.logPlain plain)).1.1 = .ok .done
  /-- It does not matter on which path the text is logged first. -/
  structuredBehind : ((session.step (.logPlain plain)).2.step (.logStructured structured)).1 =
    (session.step (.logStructured structured)).1
  plainBehind : ((session.step (.logStructured structured)).2.step (.logPlain plain)).1 =
    (session.step (.logPlain plain)).1
  alike : ¬slips →
    (session.step (.logStructured structured)).1.2 = (session.step (.logPlain plain)).1.2
  apart : slips → (session.step (.logStructured structured)).1.2 = {} ∧
    (session.step (.logPlain plain)).1.2 ≠ {}

theorem parallel_bare (single : session.process.IsSingle pipeline handler)
    (ordinary : method ≠ .exception) (logger content : Text) :
    Parallel session (.bare logger content method) (.bare logger content method)
      ((session.process.openPlain logger).LetsSlip logger method) := by
  let opened := session.process.openPlain logger
  have again : opened.openPlain logger = opened := session.process.openPlain_openPlain logger
  have opensSingle : opened.IsSingle pipeline handler :=
    ⟨single.isPipeline, single.handlers, single.appName⟩
  have slips : opened.LetsSlip logger method ↔ method.level < pipeline.threshold ∧
      opened.loggers.effectiveLevel logger ≤ method.level := by
    simp only [Process.LetsSlip, opensSingle.isPipeline, Option.some.injEq, exists_eq_left']
  rcases step_logPlain_bare rfl opensSingle content method with ⟨plain, plainEnd, plainOrigin⟩
  rcases step_logStructured_bare rfl opensSingle ordinary content with
    ⟨structured, structuredEnd, structuredOrigin⟩
  exact {
    structuredAnswer := congrArg Prod.fst structured
    plainAnswer := congrArg Prod.fst plain
    structuredBehind := by
      have opens := (congrArg (·.openPlain logger) plainEnd).trans again
      rw [structured, (step_logStructured_bare opens opensSingle ordinary content).1, plainOrigin]
    plainBehind := by
      have opens := (congrArg (·.openPlain logger) structuredEnd).trans again
      rw [plain, (step_logPlain_bare opens opensSingle content method).1, structuredOrigin]
    alike := by
      intro alike
      rw [slips, not_and', Nat.not_lt] at alike
      rw [structured, plain]
      by_cases passes : opened.loggers.effectiveLevel logger ≤ method.level
      · rw [if_pos passes, if_pos ⟨alike passes, passes⟩]
      · rw [if_neg passes, if_neg fun admitted => passes admitted.2]
    apart := by
      intro apart
      rcases slips.mp apart with ⟨below, passes⟩
      have refused : ¬(pipeline.threshold ≤ method.level ∧
          opened.loggers.effectiveLevel logger ≤ method.level) :=
        fun admitted => Nat.not_lt.mpr admitted.1 below
      rw [structured, plain, if_pos passes, if_neg refused]
      dsimp only
      exact ⟨rfl, Process.written_ne_empty⟩ }

/-- Behind a configuration that has removed all other handlers, a text is written alike on both
paths, unless a logger lets its level slip: then it is only logged on the plain path.  A logger does
so only if it has a level of its own or stands below one that has; and in a process whose levels
come from its operations, only if that logger has been asked to be quiet and the level is at least
that of warnings. -/
theorem paths_write_alike {options : LoggingOptions} {toStandardOutput : Bool} {answer : Answer}
    (clears : options.clearHandlers = true)
    (succeeds : (session.step (.configureLogging options toStandardOutput)).1.1 = .ok answer)
    (ordinary : method ≠ .exception) (logger content : Text) :
    let configured := (session.step (.configureLogging options toStandardOutput)).2
    let opened := configured.process.openPlain logger
    Parallel configured (.bare logger content method) (.bare logger content method)
        (opened.LetsSlip logger method) ∧
      (opened.LetsSlip logger method → ∃ above, opened.loggers.Over (some logger) above ∧
        above.level ≠ 0 ∧ above.level ≤ method.level) ∧
      ∀ (start : Session) (operations : List Operation), session = start.after operations →
        (∀ logger ∈ start.process.loggers.loggers, logger.level = 0) →
          opened.LetsSlip logger method → Level.warning ≤ method.level ∧
            ∃ above, opened.loggers.Over (some logger) above ∧
              ∃ operation ∈ operations, operation.Quiets above.name := by
  intro configured opened
  rcases isSingle_of_step clears succeeds with ⟨pipeline, handler, single, loggers⟩
  have isRoot : ∀ other, opened.pipeline = some other →
      opened.loggers.rootLevel = other.threshold := by
    intro other isOther
    cases single.isPipeline.symm.trans isOther
    rw [Process.rootLevel_openPlain]
    exact congrArg LoggerTree.rootLevel loggers
  refine ⟨parallel_bare single ordinary logger content, fun slips => slips.exists_over isRoot, ?_⟩
  intro start operations same fresh slips
  rcases slips.exists_over isRoot with ⟨above, isOver, own, passes⟩
  have only := onlyQuiets_after fresh operations
  rw [← same] at only
  have onlyOpened : opened.loggers.OnlyQuiets
      fun name => ∃ operation ∈ operations, operation.Quiets name := by
    refine LoggerTree.OnlyQuiets.create ?_ logger
    rw [show configured.process.loggers = _ from loggers]
    exact only
  rcases onlyOpened above isOver.mem with none | ⟨level, quiets⟩
  · exact absurd none own
  · exact ⟨level ▸ passes, above, isOver, quiets⟩

/-- The request for a set-up that keeps one logger quiet. -/
def quietSetUp : Operation :=
  .request (.setUpLogging [] { quietLoggers := ["quiet"] })

/-- A process that has been asked, when logging was set up, to keep one logger quiet. -/
def partlyQuiet : Session :=
  after { origin := .atEpoch ⟨"host", "app", "42"⟩ } [quietSetUp]

/-- The request for a configuration that is for errors only. -/
def errorsOnly : Request := .configureLogging { level := .text "ERROR" } true

/-- An error is written on both paths, but a warning below the quiet logger only on the plain one,
and it has been asked for that a logger above it be quiet. -/
theorem paths_write_alike_of_error :
    let configured := (partlyQuiet.step errorsOnly).2
    let structured (logger : Text) (method : Method) :=
      (configured.step (.logStructured (.bare logger "up" method))).1.2
    let plain (logger : Text) (method : Method) :=
      (configured.step (.logPlain (.bare logger "up" method))).1.2
    structured "quiet" .error = plain "quiet" .error ∧
      (plain "quiet" .error).lines.map Prod.fst = [.standardOutput] ∧
      structured "quiet.part" .warning = {} ∧
      (plain "quiet.part" .warning).lines.map Prod.fst = [.standardOutput] ∧
      ∃ above, (configured.process.openPlain "quiet.part").loggers.Over (some "quiet.part") above ∧
        ∃ operation ∈ [quietSetUp], operation.Quiets above.name := by
  intro configured structured plain
  have succeeds : ∃ answer, (partlyQuiet.step errorsOnly).1.1 = .ok answer := ⟨_, rfl⟩
  rcases succeeds with ⟨answer, succeeds⟩
  have error := (paths_write_alike rfl succeeds (show Method.error ≠ .exception by decide)
    "quiet" "up").1
  rcases paths_write_alike rfl succeeds (show Method.warning ≠ .exception by decide)
    "quiet.part" "up" with ⟨warning, _, asked⟩
  have slips : (configured.process.openPlain "quiet.part").LetsSlip "quiet.part" .warning := by
    decide +kernel
  exact ⟨error.alike (by decide +kernel), by decide +kernel, (warning.apart slips).1,
    by decide +kernel, (asked _ [quietSetUp] rfl (by decide) slips).2⟩

/-- So the paths do not write alike at the quiet logger itself. -/
theorem quiet_logger_parts_paths :
    let configured := (partlyQuiet.step errorsOnly).2
    (partlyQuiet.step errorsOnly).1.1.isOk = true ∧
      (configured.step (.logStructured (.bare "quiet" "up" .warning))).1.2.lines ≠
        (configured.step (.logPlain (.bare "quiet" "up" .warning))).1.2.lines := by
  decide +kernel

end Session

end Syslog
