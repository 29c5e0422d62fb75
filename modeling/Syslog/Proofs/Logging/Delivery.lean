import Mathlib.Algebra.GroupWithZero.Nat
import Syslog.Proofs.Event.Lossless
import Syslog.Proofs.Event.Prepared
import Syslog.Proofs.Session.Logging

namespace Syslog

/-!
# What becomes of an entry

Once logging has been configured a structured entry either fails in the hands of its caller, or is
held back by the threshold or by its logger, or is handed to all handlers
(`Process.LogsStructured`).  A plain entry never fails, and is held back by nothing but its logger
(`Process.logPlain_of_handlers`).

A handler that cannot put an entry into a line drops it, and so an emission tells how many
handlers an entry has reached: each has left a line or a fault (`Emission.reach`).
-/

namespace Emission

/-- How many handlers have got hold of what was logged. -/
def reach (emission : Emission) : Nat :=
  emission.lines.length + emission.dropped.length

theorem joined_singleton (emission : Emission) : joined [emission] = emission := by
  rw [joined, List.flatMap_singleton, List.flatMap_singleton]

theorem joined_cons (emission : Emission) (rest : List Emission) :
    joined (emission :: rest) = {
      lines := emission.lines ++ (joined rest).lines
      dropped := emission.dropped ++ (joined rest).dropped } := by
  rw [joined, List.flatMap_cons, List.flatMap_cons]
  rfl

theorem reach_joined (emissions : List Emission) :
    (joined emissions).reach = (emissions.map reach).sum := by
  induction emissions with
  | nil => rfl
  | cons emission rest inductionHypothesis =>
      rw [joined_cons, List.map_cons, List.sum_cons, ← inductionHypothesis]
      simp only [reach, List.length_append]
      omega

end Emission

namespace Handler

variable {origin : Origin} {settings : Settings} {method : Text} {prepared : Except Fault Event}

/-- A handler leaves one line, or one fault. -/
theorem reach_emit (handler : Handler) :
    (handler.emit origin settings method prepared).reach = 1 := by
  rw [Handler.emit]
  split <;> rfl

/-- A line that a handler writes is that of the event that it has been given. -/
theorem mem_lines_emit_iff {handler : Handler} {line : Sink × Text} :
    line ∈ (handler.emit origin settings method prepared).lines ↔
      ∃ event text, prepared = .ok event ∧
        handler.renderer.render origin settings method event.finished = .ok text ∧
        line = (handler.sink, text ++ Text.ofString "\n") := by
  rw [Handler.emit]
  cases prepared with
  | error fault => simp [Except.bind]
  | ok event =>
      simp only [Except.bind, Except.ok.injEq, exists_and_left, exists_eq_left']
      cases handler.renderer.render origin settings method event.finished <;> simp

end Handler

/-- What a text says that has been written: what is read from the line in front of its ending. -/
def Text.Says (text : Text) (reading : Reading) : Prop :=
  ∃ line : Text, text = line ++ Text.ofString "\n" ∧ Reading.read? line.utf8 = some reading

/-- An event without an application of its own is ascribed to that of its origin; if that has no
name, to the one of the renderer. -/
theorem Event.textOf_of_prepared {origin : EventOrigin} {event next : Event}
    (isPrepared : event.prepared origin = .ok next) (lacks : event.valueOf? "app_name" = none)
    (default : Text) :
    Renderer.textOf next.finished "app_name" default =
      .ok (if origin.appName.isEmpty then default else origin.appName) := by
  have found : next.finished.valueOf? "app_name" = some (.text origin.appName) := by
    rw [valueOf?_of_prepared isLeft_appName isPrepared, addAppName, valueOf?_putNew, if_pos rfl,
      lacks]
    rfl
  rw [Renderer.textOf, found]
  change (if origin.appName.isEmpty then Except.ok default else Except.ok origin.appName) = _
  split <;> rfl

namespace StructuredEntry

/-- What an entry holds besides what has been logged: what is bound, and keywords over it. -/
def held (entry : StructuredEntry) : Event := entry.bound.insertAll entry.keywordsWithFailure

/-- What has been logged, with arguments filled in if there are any. -/
def logged (entry : StructuredEntry) : Except Fault Value :=
  if entry.arguments.isEmpty then pure entry.event
  else entry.event.filledIn "%" (.arguments entry.arguments)

theorem toEvent_eq (entry : StructuredEntry) :
    entry.toEvent = do
      let value ← entry.logged
      checkKeywords "BoundLoggerBase._proxy_to_logger" ["method_name"] entry.keywords
      match value with
      | .null => return entry.held
      | value => return entry.held.put "event" value := by
  rw [toEvent, logged]
  split <;> rfl

theorem valueOf?_toEvent {entry : StructuredEntry} {event : Event} {key : String}
    (isEvent : entry.toEvent = .ok event) (other : Text.ofString key ≠ Text.ofString "event") :
    event.valueOf? key = entry.held.valueOf? key := by
  rw [toEvent_eq] at isEvent
  rcases bind_eq_ok_iff.mp isEvent with ⟨value, _, isEvent⟩
  rcases bind_eq_ok_iff.mp isEvent with ⟨_, _, isEvent⟩
  split at isEvent
  · cases isEvent
    rfl
  · cases isEvent
    exact Event.valueOf?_put_of_ne other _ _

end StructuredEntry

/-- The event of a structured entry, prepared once for all handlers. -/
def StructuredEntry.preparedFor (origin : Origin) (entry : StructuredEntry) (pipeline : Pipeline) :
    Except Fault Event := do
  let event ← entry.toEvent
  event.prepared {
    logger := Process.loggerName entry.logger
    method := entry.method.levelName
    appName := pipeline.appName
    now := origin.now }

/-- The event of a plain entry as a handler prepares it. -/
def PlainEntry.preparedFor (origin : Origin) (entry : PlainEntry) (handler : Handler) :
    Except Fault Event := do
  let event ← entry.toEvent
  event.prepared {
    logger := Process.loggerName entry.logger
    method := Level.plainName entry.level.toNat
    appName := handler.appName
    now := origin.now }

theorem PlainEntry.valueOf?_toEvent {entry : PlainEntry} {event : Event}
    (isEvent : entry.toEvent = .ok event) :
    event.valueOf? "app_name" = none ∧ event.valueOf? "severity" = none := by
  rcases bind_eq_ok_iff.mp isEvent with ⟨text, _, same⟩
  cases same
  split <;> exact ⟨rfl, rfl⟩

/-- An application that a handler ascribes plain entries to is the one that is written, unless it
has no name; then it is that of the renderer. -/
theorem PlainEntry.textOf_preparedFor {origin : Origin} {entry : PlainEntry} {handler : Handler}
    {event : Event} (isPrepared : entry.preparedFor origin handler = .ok event) (default : Text) :
    Renderer.textOf event.finished "app_name" default =
      .ok (if handler.appName.isEmpty then default else handler.appName) := by
  rcases bind_eq_ok_iff.mp isPrepared with ⟨start, isEvent, isPrepared⟩
  exact Event.textOf_of_prepared isPrepared (valueOf?_toEvent isEvent).1 default

namespace Process

/-- The ways in which a structured entry ends once there is a pipeline.  It is called wrongly, which
also depends on whether its level reaches the threshold; its level does not; it cannot be
prepared; its logger bars it; or it is delivered. -/
inductive LogsStructured (origin : Origin) (process : Process) (pipeline : Pipeline)
    (entry : StructuredEntry) : Except Fault Emission → Prop
  | misused {fault : Fault}
      (misused : entry.checkCall (pipeline.threshold ≤ entry.method.level) = .error fault) :
      LogsStructured origin process pipeline entry (.error fault)
  | below (called : entry.checkCall (pipeline.threshold ≤ entry.method.level) = .ok ())
      (below : entry.method.level < pipeline.threshold) :
      LogsStructured origin process pipeline entry (.ok {})
  | unprepared {fault : Fault}
      (called : entry.checkCall (pipeline.threshold ≤ entry.method.level) = .ok ())
      (admitted : pipeline.threshold ≤ entry.method.level)
      (failed : entry.preparedFor origin pipeline = .error fault) :
      LogsStructured origin process pipeline entry (.error fault)
  | barred {event : Event}
      (called : entry.checkCall (pipeline.threshold ≤ entry.method.level) = .ok ())
      (admitted : pipeline.threshold ≤ entry.method.level)
      (isPrepared : entry.preparedFor origin pipeline = .ok event)
      (barred : process.passes entry.logger entry.method.level = false) :
      LogsStructured origin process pipeline entry (.ok {})
  | delivered {event : Event}
      (called : entry.checkCall (pipeline.threshold ≤ entry.method.level) = .ok ())
      (admitted : pipeline.threshold ≤ entry.method.level)
      (isPrepared : entry.preparedFor origin pipeline = .ok event)
      (passes : process.passes entry.logger entry.method.level = true) :
      LogsStructured origin process pipeline entry
        (.ok (process.deliver origin entry.method.levelName fun _ => .ok event))

variable {origin : Origin} {process : Process} {pipeline : Pipeline} {logger : Text}

/-- Once there is a pipeline, the call is checked, the event is prepared and then it is
delivered. -/
theorem logStructured_eq (origin : Origin) (isPipeline : process.pipeline = some pipeline)
    (entry : StructuredEntry) :
    process.logStructured origin entry = do
      entry.checkCall (pipeline.threshold ≤ entry.method.level)
      if pipeline.threshold ≤ entry.method.level then
        let event ← entry.preparedFor origin pipeline
        if process.passes entry.logger entry.method.level then
          return process.deliver origin entry.method.levelName fun _ => .ok event
        else return {}
      else return {} := by
  have admits : process.admits entry.method = decide (pipeline.threshold ≤ entry.method.level) := by
    rw [admits, isPipeline]
  rw [logStructured, admits, isPipeline]
  cases entry.checkCall (pipeline.threshold ≤ entry.method.level) with
  | error fault => rfl
  | ok _ =>
      by_cases admitted : pipeline.threshold ≤ entry.method.level
      · simp only [admitted, decide_true, Bool.not_true, Bool.false_eq_true, if_false, if_true,
          StructuredEntry.preparedFor]
        cases entry.toEvent <;> rfl
      · simp only [admitted, decide_false, Bool.not_false, if_true, if_false]

theorem logsStructured (origin : Origin) (isPipeline : process.pipeline = some pipeline)
    (entry : StructuredEntry) :
    process.LogsStructured origin pipeline entry (process.logStructured origin entry) := by
  rw [logStructured_eq origin isPipeline]
  cases called : entry.checkCall (pipeline.threshold ≤ entry.method.level) with
  | error fault => exact .misused called
  | ok _ =>
      by_cases admitted : pipeline.threshold ≤ entry.method.level
      · rw [if_pos admitted]
        cases isPrepared : entry.preparedFor origin pipeline with
        | error fault => exact .unprepared called admitted isPrepared
        | ok event =>
            cases passes : process.passes entry.logger entry.method.level with
            | false => exact .barred called admitted isPrepared passes
            | true => exact .delivered called admitted isPrepared passes
      · rw [if_neg admitted]
        exact .below called (Nat.not_le.mp admitted)

/-- With a handler, a plain entry that its logger lets pass is delivered. -/
theorem logPlain_of_handlers (handled : process.handlers ≠ []) (entry : PlainEntry) :
    process.logPlain origin entry =
      if process.passes entry.logger entry.level then
        process.deliver origin (Level.plainName entry.level.toNat) (entry.preparedFor origin)
      else {} := by
  have filled : process.handlers.isEmpty = false := List.isEmpty_eq_false_iff.mpr handled
  rw [logPlain, filled]
  cases process.passes entry.logger entry.level <;> rfl

/-- Without handlers nothing is written. -/
theorem lines_logPlain_of_unhandled (unhandled : process.handlers = []) (entry : PlainEntry) :
    (process.logPlain origin entry).lines = [] := by
  simp only [logPlain, unhandled, List.isEmpty_nil, if_true]
  split
  · rfl
  · split
    · split <;> rfl
    · rfl

/-- What is delivered reaches all handlers. -/
theorem reach_deliver (name : Text) (prepare : Handler → Except Fault Event) :
    (process.deliver origin name prepare).reach = process.handlers.length := by
  rw [deliver, Emission.reach_joined, List.map_map]
  simp [Function.comp_def, Handler.reach_emit]

/-- The lines are those of the handlers, each for the event that has been prepared for it. -/
theorem mem_lines_deliver_iff {name : Text} {prepare : Handler → Except Fault Event}
    {line : Sink × Text} :
    line ∈ (process.deliver origin name prepare).lines ↔
      ∃ handler ∈ process.handlers, ∃ event text, prepare handler = .ok event ∧
        handler.renderer.render origin process.settings name event.finished = .ok text ∧
        line = (handler.sink, text ++ Text.ofString "\n") := by
  rw [deliver, Emission.joined, List.flatMap_map, List.mem_flatMap]
  simp only [Handler.mem_lines_emit_iff]

theorem passes_iff {level : Int} (positive : 0 < level) :
    process.passes logger level = true ↔ process.loggers.effectiveLevel logger ≤ level := by
  rw [passes, Bool.and_eq_true, decide_eq_true_eq, decide_eq_true_eq]
  exact and_iff_right positive

theorem passes_method_iff {method : Method} :
    process.passes logger method.level = true ↔
      process.loggers.effectiveLevel logger ≤ method.level := by
  have positive : 0 < method.level := by
    cases method <;> decide
  rw [passes_iff (Int.natCast_pos.mpr positive), Int.ofNat_le]

theorem rootLevel_openPlain (process : Process) (logger : Text) :
    (process.openPlain logger).loggers.rootLevel = process.loggers.rootLevel := by
  rw [openPlain, LoggerTree.create]
  split <;> rfl

theorem openStructured_of_pipeline (isPipeline : process.pipeline = some pipeline)
    (logger : Text) : process.openStructured logger = process.openPlain logger := by
  rw [openStructured, isPipeline]
  rfl

end Process

namespace Session

variable {session : Session} {pipeline : Pipeline}

/-- The lines of a plain entry: each handler writes the event that it has prepared. -/
theorem exists_handler_of_logPlain {entry : PlainEntry} {line : Sink × Text}
    (written : line ∈ (session.step (.logPlain entry)).1.2.lines) :
    ∃ handler ∈ session.process.handlers, ∃ event text,
      entry.preparedFor session.origin handler = .ok event ∧
      handler.renderer.render session.origin session.process.settings
        (Level.plainName entry.level.toNat) event.finished = .ok text ∧
      line = (handler.sink, text ++ Text.ofString "\n") := by
  let opened := session.process.openPlain entry.logger
  have step : (session.step (.logPlain entry)).1.2 = opened.logPlain session.origin entry := rfl
  rw [step] at written
  by_cases handled : opened.handlers = []
  · rw [opened.lines_logPlain_of_unhandled handled] at written
    cases written
  · rw [Process.logPlain_of_handlers handled] at written
    split at written
    · exact Process.mem_lines_deliver_iff.mp written
    · cases written

/-- What comes of the request for a structured entry; if it fails nothing is written. -/
theorem step_logStructured (isPipeline : session.process.pipeline = some pipeline)
    (entry : StructuredEntry) :
    (session.step (.logStructured entry)).1 =
      match entry.checkBound.bind fun () =>
        (session.process.openPlain entry.logger).logStructured session.origin entry with
      | .ok emission => (.ok .done, emission)
      | .error fault => (.error fault, {}) := by
  have opens : session.quiet.process.openStructured entry.logger =
      session.process.openPlain entry.logger :=
    Process.openStructured_of_pipeline isPipeline entry.logger
  change ((session.quiet.logStructured entry).1, (session.quiet.logStructured entry).2.emission) = _
  rw [logStructured, opens]
  cases entry.checkBound with
  | error fault => rfl
  | ok _ =>
      dsimp only [Except.bind]
      rw [show session.quiet.origin = session.origin from rfl]
      cases (session.process.openPlain entry.logger).logStructured session.origin entry <;> rfl

/-- The lines of a structured entry: each handler writes the same event. -/
theorem exists_handler_of_logStructured (isPipeline : session.process.pipeline = some pipeline)
    {entry : StructuredEntry} {line : Sink × Text}
    (written : line ∈ (session.step (.logStructured entry)).1.2.lines) :
    ∃ handler ∈ session.process.handlers, ∃ event text,
      entry.preparedFor session.origin pipeline = .ok event ∧
      handler.renderer.render session.origin session.process.settings entry.method.levelName
        event.finished = .ok text ∧
      line = (handler.sink, text ++ Text.ofString "\n") := by
  let opened := session.process.openPlain entry.logger
  rw [step_logStructured isPipeline] at written
  cases bound : entry.checkBound with
  | error fault =>
      rw [bound] at written
      cases written
  | ok _ =>
      rw [bound] at written
      dsimp only [Except.bind] at written
      have ends := opened.logsStructured session.origin isPipeline entry
      generalize opened.logStructured session.origin entry = outcome at ends written
      cases ends with
      | misused _ | below _ _ | unprepared _ _ _ | barred _ _ _ _ => cases written
      | delivered _ _ isPrepared _ =>
          rcases Process.mem_lines_deliver_iff.mp written with
            ⟨handler, member, event, text, same, rendered, isLine⟩
          cases same
          exact ⟨handler, member, _, text, isPrepared, rendered, isLine⟩

end Session

end Syslog
