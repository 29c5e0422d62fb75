import Syslog.Proofs.Logging.Delivery

namespace Syslog

/-!
# Which call a line comes from

Each call that configures logging adds a handler: for standard output or for a stream of its own,
with a facility and the name of an application.  The handlers of earlier calls may stay beside it,
and so which lines a sink gets depends on all calls that have been made
(`Session.lines_come_from_calls`).

Every line has the facility of the call that its sink comes from.  Plain entries are prepared by
each handler for itself and are ascribed to the application of that call too.  Structured entries
are prepared once for all handlers, and they are ascribed to the application of the latest call,
whatever sink they are written to; to that of its own call a handler ascribes them only if the
latest call has none to offer.
-/

theorem Severity.code_lt (severity : Severity) : severity.code < 8 := by
  cases severity <;> decide

/-- The severity of a prepared event has a name, unless the event has been given the severity 8. -/
theorem Event.ne_eight_of_prepared {origin : EventOrigin} {event next : Event} {method : Text}
    {code : Int} (isPrepared : event.prepared origin = .ok next)
    (ordinary : event.valueOf? "severity" ≠ some (.int 8))
    (has : next.finished.HasSeverity method code) : code ≠ 8 := by
  have named : ∀ severity : Severity, (severity.code : Int) ≠ 8 :=
    fun severity => by
      have small := severity.code_lt
      omega
  cases has with
  | ofLevel _ _ => exact named _
  | own given =>
      rintro rfl
      rcases severity_of_prepared isPrepared with kept | ⟨_, severity, added⟩
      · rw [given] at kept
        rcases Option.map_eq_some_iff.mp kept.symm with ⟨value, found, same⟩
        cases value with
        | int number =>
            cases same
            exact ordinary found
        | octets kind _ => cases kind <;> cases same
        | _ => cases same
      · have same := Option.some.inj (given.symm.trans added)
        exact named severity (Value.int.inj same).symm

/-- That what is read is from a facility. -/
def Reading.IsFrom (facility : Value) (reading : Reading) : Prop :=
  ∃ code : Nat, facility = .int code ∧ reading.priority / 8 = code

/-- That a handler is the one that a call adds. -/
structure Handler.IsAddedBy (identity : Identity) (options : LoggingOptions) (handler : Handler) :
    Prop where
  named : handler.renderer.IsNamed identity options.appName options.facility
  appName : handler.appName = handler.renderer.appName.text

/-- What is read from a line of a handler tells the facility of its call, unless the severity is 8,
and the application that is displayed. -/
theorem Handler.IsAddedBy.exists_reading {origin : Origin} {settings : Settings}
    {options : LoggingOptions} {handler : Handler} {method line : Text} {event : Event}
    (added : handler.IsAddedBy origin.identity options)
    (rendered : handler.renderer.render origin settings method event = .ok line) :
    ∃ reading, Reading.read? line.utf8 = some reading ∧
      ((∀ code, event.HasSeverity method code → code ≠ 8) → reading.IsFrom options.facility) ∧
      ∀ shown, Renderer.textOf event "app_name" handler.renderer.appName.text = .ok shown →
        reading.appName = shown.orNil := by
  have isBuilt := (@Renderer.isNamed_iff _ settings _ _ _).mp added.named
  rcases Renderer.exists_conveys_of_render isBuilt rendered with ⟨reading, isRead, conveys⟩
  refine ⟨reading, isRead, fun ordinary => ?_, fun shown isShown => ?_⟩
  · rcases conveys.priority with ⟨severity, facility, has, isFacility, _, recovered, _⟩
    have noFourth : severity ≠ 8 := by
      rintro rfl
      exact ordinary _ has rfl
    exact ⟨facility, isFacility, recovered.mpr (Or.inl noFourth)⟩
  · rcases conveys.appName with ⟨own, text, isOwn, displays, isText⟩
    cases isOwn.symm.trans added.named.appName
    cases (Event.displays_iff.mp displays).symm.trans isShown
    exact isText

namespace Session

/-! ## The calls of a run -/

/-- That an operation configures logging with success, and which sink its handler gets. -/
inductive Opens (session : Session) : Operation → Sink → LoggingOptions → Prop
  | call {options : LoggingOptions} {toStandardOutput : Bool} {answer : Answer}
      (succeeds : (session.step (.configureLogging options toStandardOutput)).1.1 = .ok answer) :
      Opens session (.request (.configureLogging options toStandardOutput))
        (session.sinkFor toStandardOutput) options

/-- That among some operations there is a call with the given options that has opened a sink. -/
inductive HasOpened (start : Session) : List Operation → Sink → LoggingOptions → Prop
  | now {operations : List Operation} {operation : Operation} {sink : Sink}
      {options : LoggingOptions} (opens : (start.after operations).Opens operation sink options) :
      HasOpened start (operations ++ [operation]) sink options
  | before {operations : List Operation} {operation : Operation} {sink : Sink}
      {options : LoggingOptions} (opened : HasOpened start operations sink options) :
      HasOpened start (operations ++ [operation]) sink options

/-- That the given options are those of the latest such call. -/
inductive Latest (start : Session) : List Operation → LoggingOptions → Prop
  | now {operations : List Operation} {operation : Operation} {sink : Sink}
      {options : LoggingOptions} (opens : (start.after operations).Opens operation sink options) :
      Latest start (operations ++ [operation]) options
  | before {operations : List Operation} {operation : Operation} {options : LoggingOptions}
      (latest : Latest start operations options)
      (idle : ∀ sink other, ¬(start.after operations).Opens operation sink other) :
      Latest start (operations ++ [operation]) options

variable {start session : Session} {operations : List Operation} {operation : Operation}
  {sink : Sink} {options : LoggingOptions}

/-- What an operation does to the pipeline and the handlers: nothing, or what a call does. -/
inductive Moves (session : Session) (operation : Operation) (next : Process) : Prop
  | idle (idle : ∀ sink options, ¬session.Opens operation sink options)
      (pipeline : next.pipeline = session.process.pipeline)
      (handlers : next.handlers = session.process.handlers)
  | opened {sink : Sink} {options : LoggingOptions} {renderer : Renderer} {threshold : Nat}
      (opens : session.Opens operation sink options)
      (named : renderer.IsNamed session.origin.identity options.appName options.facility)
      (pipeline : next.pipeline = some ⟨threshold, renderer.appName.text⟩)
      (handlers : next.handlers =
        (if options.clearHandlers then [] else session.process.handlers) ++
          [⟨sink, renderer, renderer.appName.text⟩])

theorem moves
    (noSetUp : ∀ environment setup, operation ≠ .request (.setUpLogging environment setup)) :
    session.Moves operation (session.perform operation).process := by
  by_cases asks : ∃ options toStandardOutput,
      operation = .request (.configureLogging options toStandardOutput)
  · rcases asks with ⟨options, toStandardOutput, rfl⟩
    rcases session.step_configureLogging options toStandardOutput with ⟨answered, process⟩
    have configures := session.process.configures session.origin.identity
      { options with sink := session.sinkFor toStandardOutput }
    have process :
        (session.perform (.request (.configureLogging options toStandardOutput))).process = _ :=
      process
    rw [process]
    generalize session.process.configure session.origin.identity
      { options with sink := session.sinkFor toStandardOutput } = result at answered configures
    rcases result with ⟨outcome, next⟩
    have fails : ∀ fault, outcome = .error fault → ∀ sink other,
        ¬session.Opens (.request (.configureLogging options toStandardOutput)) sink other := by
      rintro fault rfl sink other ⟨succeeds⟩
      cases answered.symm.trans succeeds
    cases configures with
    | refused _ => exact .idle (fails _ rfl) rfl rfl
    | levelless _ _ => exact .idle (fails _ rfl) rfl rfl
    | completed named _ => exact .opened (.call answered) named rfl rfl
  · have idle : ∀ sink options, ¬session.Opens operation sink options := by
      rintro sink options ⟨_⟩
      exact asks ⟨_, _, rfl⟩
    have reaches := session.reaches operation
    generalize (session.perform operation).process = next at reaches
    cases reaches with
    | settings _ => exact .idle idle rfl rfl
    | opened _ => exact .idle idle rfl rfl
    | called calls =>
        cases calls with
        | configure => exact absurd ⟨_, _, rfl⟩ asks
        | setUp => exact absurd rfl (noSetUp _ _)

/-! ## What the calls leave behind -/

theorem origin_after (start : Session) (operations : List Operation) :
    (start.after operations).origin = start.origin := by
  induction operations using List.reverseRecOn with
  | nil => rfl
  | append_singleton operations operation inductionHypothesis =>
      rw [after_append_singleton, (place_perform _ operation).1, inductionHypothesis]

/-- Streams are numbered in the order of the calls, so a stream that has been opened is not opened
again. -/
theorem HasOpened.lt_streams {number : Nat}
    (opened : HasOpened start operations (.stream number) options) :
    number < (start.after operations).streams := by
  generalize isSink : Sink.stream number = sink at opened
  induction opened with
  | @now operations operation sink options opens =>
      rw [after_append_singleton]
      cases opens with
      | @call options toStandardOutput _ _ =>
          cases toStandardOutput with
          | true => cases isSink
          | false =>
              cases isSink
              exact Nat.lt_succ_self _
  | @before operations operation _ _ _ inductionHypothesis =>
      have earlier := inductionHypothesis isSink
      rw [after_append_singleton]
      rcases (place_perform (start.after operations) operation).2 with same | ⟨_, _, more⟩ <;> omega

theorem Opens.unique {otherSink : Sink} {other : LoggingOptions}
    (opens : session.Opens operation sink options)
    (opensOther : session.Opens operation otherSink other) : options = other := by
  cases opens
  cases opensOther
  rfl

theorem hasOpened_append_singleton_iff :
    HasOpened start (operations ++ [operation]) sink options ↔
      (start.after operations).Opens operation sink options ∨
        HasOpened start operations sink options := by
  constructor
  · intro opened
    generalize isList : operations ++ [operation] = list at opened
    cases opened with
    | now opens =>
        rcases List.append_inj' isList rfl with ⟨rfl, same⟩
        cases same
        exact Or.inl opens
    | before opened =>
        rcases List.append_inj' isList rfl with ⟨rfl, same⟩
        cases same
        exact Or.inr opened
  · rintro (opens | opened)
    · exact .now opens
    · exact .before opened

theorem HasOpened.unique {number : Nat} {other : LoggingOptions}
    (opened : HasOpened start operations (.stream number) options)
    (openedOther : HasOpened start operations (.stream number) other) : options = other := by
  have fresh : ∀ {operations operation options other},
      (start.after operations).Opens operation (.stream number) options →
        ¬HasOpened start operations (.stream number) other := by
    intro operations operation options other opens opened
    have below := opened.lt_streams
    generalize isSink : Sink.stream number = sink at opens
    cases opens with
    | @call _ toStandardOutput _ _ =>
        cases toStandardOutput with
        | true => cases isSink
        | false =>
            cases isSink
            exact Nat.lt_irrefl _ below
  induction operations using List.reverseRecOn with
  | nil =>
      generalize isList : ([] : List Operation) = list at opened
      cases opened <;> exact absurd isList.symm (List.append_ne_nil_of_right_ne_nil _ nofun)
  | append_singleton operations operation inductionHypothesis =>
      rcases hasOpened_append_singleton_iff.mp opened with opens | opened
      · rcases hasOpened_append_singleton_iff.mp openedOther with opensOther | openedOther
        · exact opens.unique opensOther
        · exact absurd openedOther (fresh opens)
      · rcases hasOpened_append_singleton_iff.mp openedOther with opensOther | openedOther
        · exact absurd opened (fresh opensOther)
        · exact inductionHypothesis opened openedOther

/-- Each handler has been added by a call that has opened its sink. -/
theorem handlers_after (unhandled : start.process.handlers = [])
    (noSetUp : ∀ operation ∈ operations, ∀ environment setup,
      operation ≠ .request (.setUpLogging environment setup)) :
    ∀ handler ∈ (start.after operations).process.handlers, ∃ options,
      HasOpened start operations handler.sink options ∧
        handler.IsAddedBy start.origin.identity options := by
  induction operations using List.reverseRecOn with
  | nil =>
      intro handler member
      rw [show (start.after []).process.handlers = [] from unhandled] at member
      cases member
  | append_singleton operations operation inductionHypothesis =>
      have old := inductionHypothesis fun earlier member =>
        noSetUp earlier (List.mem_append_left _ member)
      have kept : ∀ handler ∈ (start.after operations).process.handlers, ∃ options,
          HasOpened start (operations ++ [operation]) handler.sink options ∧
            handler.IsAddedBy start.origin.identity options := by
        intro handler member
        rcases old handler member with ⟨options, opened, added⟩
        exact ⟨options, .before opened, added⟩
      intro handler member
      rw [after_append_singleton] at member
      rcases moves (noSetUp operation (List.mem_append_right _ List.mem_cons_self)) with
        ⟨_, _, handlers⟩ | ⟨opens, named, _, handlers⟩
      · rw [handlers] at member
        exact kept handler member
      · rw [handlers] at member
        rcases List.mem_append.mp member with stays | new
        · split at stays
          · cases stays
          · exact kept handler stays
        · cases List.mem_singleton.mp new
          rw [origin_after] at named
          exact ⟨_, .now opens, named, rfl⟩

/-- The pipeline ascribes entries to the application of the latest call. -/
theorem pipeline_after (latest : Latest start operations options)
    (noSetUp : ∀ operation ∈ operations, ∀ environment setup,
      operation ≠ .request (.setUpLogging environment setup)) :
    ∃ pipeline, (start.after operations).process.pipeline = some pipeline ∧
      options.appName.orText start.origin.identity.appName = .text pipeline.appName := by
  induction latest with
  | now opens =>
      rw [after_append_singleton]
      rcases moves (noSetUp _ (List.mem_append_right _ List.mem_cons_self)) with
        ⟨idle, _, _⟩ | ⟨opensToo, named, isPipeline, _⟩
      · exact absurd opens (idle _ _)
      · cases opens.unique opensToo
        rw [origin_after] at named
        exact ⟨_, isPipeline, named.appName⟩
  | before _ idle inductionHypothesis =>
      rw [after_append_singleton]
      rcases inductionHypothesis fun earlier member =>
        noSetUp earlier (List.mem_append_left _ member) with ⟨pipeline, isPipeline, isName⟩
      rcases moves (noSetUp _ (List.mem_append_right _ List.mem_cons_self)) with
        ⟨_, same, _⟩ | ⟨opens, _, _, _⟩
      · exact ⟨pipeline, same.trans isPipeline, isName⟩
      · exact absurd opens (idle _ _)

theorem HasOpened.exists_latest (opened : HasOpened start operations sink options) :
    ∃ latest, Latest start operations latest := by
  induction opened with
  | now opens => exact ⟨_, .now opens⟩
  | @before operations operation _ _ _ inductionHypothesis =>
      by_cases idle : ∀ sink other, ¬(start.after operations).Opens operation sink other
      · rcases inductionHypothesis with ⟨latest, isLatest⟩
        exact ⟨latest, .before isLatest idle⟩
      · simp only [not_forall, not_not] at idle
        rcases idle with ⟨_, latest, opens⟩
        exact ⟨latest, .now opens⟩

/-- After any calls that configure logging, and whatever else, each line comes from a call that has
opened its sink, and a stream is opened by one call only.  The line of a plain entry has the
facility and the application of that call.  So does the line of a structured entry, unless it gives
the severity 8 or an application of its own, but for one thing: it is ascribed to the application of
the latest call if that has a name. -/
theorem lines_come_from_calls (unhandled : start.process.handlers = [])
    (noSetUp : ∀ operation ∈ operations, ∀ environment setup,
      operation ≠ .request (.setUpLogging environment setup)) :
    let current := start.after operations
    let ofProcess := start.origin.identity.appName
    (∀ number options other, HasOpened start operations (.stream number) options →
      HasOpened start operations (.stream number) other → options = other) ∧
    (∀ entry : PlainEntry, ∀ line ∈ (current.step (.logPlain entry)).1.2.lines,
      ∃ options own reading, HasOpened start operations line.1 options ∧
        options.appName.orText ofProcess = .text own ∧ line.2.Says reading ∧
        reading.IsFrom options.facility ∧ reading.appName = own.orNil) ∧
    ((∃ sink options, HasOpened start operations sink options) → ∃ latest last,
      Latest start operations latest ∧ latest.appName.orText ofProcess = .text last ∧
      ∀ entry : StructuredEntry, entry.held.valueOf? "app_name" = none →
        ∀ line ∈ (current.step (.logStructured entry)).1.2.lines,
          ∃ options own reading, HasOpened start operations line.1 options ∧
            options.appName.orText ofProcess = .text own ∧ line.2.Says reading ∧
            (entry.held.valueOf? "severity" ≠ some (.int 8) → reading.IsFrom options.facility) ∧
            reading.appName = (if last.isEmpty then own else last).orNil) := by
  intro current ofProcess
  have isOrigin : current.origin = start.origin := origin_after start operations
  refine ⟨fun number options other => HasOpened.unique, fun entry line written => ?_, ?_⟩
  · rcases exists_handler_of_logPlain written with
      ⟨handler, member, event, text, isPrepared, rendered, rfl⟩
    rcases handlers_after unhandled noSetUp handler member with ⟨options, opened, added⟩
    rw [← isOrigin] at added
    rcases added.exists_reading rendered with ⟨reading, isRead, isFrom, isAppName⟩
    refine ⟨options, handler.renderer.appName.text, reading, opened, ?_, ⟨text, rfl, isRead⟩,
      isFrom fun code => ?_, ?_⟩
    · rw [← added.named.appName, isOrigin]
    · rcases bind_eq_ok_iff.mp isPrepared with ⟨first, isEvent, isPrepared⟩
      refine Event.ne_eight_of_prepared isPrepared ?_
      rw [(PlainEntry.valueOf?_toEvent isEvent).2]
      nofun
    · rw [isAppName _ (PlainEntry.textOf_preparedFor isPrepared _), added.appName, ite_self]
  · rintro ⟨_, _, opened⟩
    rcases opened.exists_latest with ⟨latest, isLatest⟩
    rcases pipeline_after isLatest noSetUp with ⟨pipeline, isPipeline, isName⟩
    refine ⟨latest, pipeline.appName, isLatest, isName, fun entry nameless line written => ?_⟩
    rcases exists_handler_of_logStructured isPipeline written with
      ⟨handler, member, event, text, isPrepared, rendered, rfl⟩
    rcases handlers_after unhandled noSetUp handler member with ⟨options, opened, added⟩
    rw [← isOrigin] at added
    rcases added.exists_reading rendered with ⟨reading, isRead, isFrom, isAppName⟩
    rcases bind_eq_ok_iff.mp isPrepared with ⟨first, isEvent, isPrepared⟩
    have given : ∀ key, Text.ofString key ≠ Text.ofString "event" →
        first.valueOf? key = entry.held.valueOf? key :=
      fun key => StructuredEntry.valueOf?_toEvent isEvent
    refine ⟨options, handler.renderer.appName.text, reading, opened, ?_, ⟨text, rfl, isRead⟩,
      fun ordinary => isFrom fun code => ?_, ?_⟩
    · rw [← added.named.appName, isOrigin]
    · rw [← given "severity" (by decide)] at ordinary
      exact Event.ne_eight_of_prepared isPrepared ordinary
    · rw [← given "app_name" (by decide)] at nameless
      rw [isAppName _ (Event.textOf_of_prepared isPrepared nameless _)]

/-- The request for a configuration that adds a handler with a new stream. -/
def addStream (appName : Text) (facility : Facility) : Operation :=
  .request (.configureLogging {
    appName := .text appName
    facility := .int facility.code
    clearHandlers := false } false)

/-- A process with two handlers, and a stream for each of them. -/
def twoStreams : List Operation := [addStream "first" .local0, addStream "second" .daemon]

/-- With two streams, both lines of an entry have the facility of the call that their stream comes
from, on the plain path and on the structured one. -/
theorem lines_come_from_calls_of_two_streams :
    let start : Session := { origin := .atEpoch ⟨"host", "app", "42"⟩ }
    let current := start.after twoStreams
    let plain := (current.step (.logPlain {
      logger := "x", level := 30, message := .text "up" })).1.2
    let structured := (current.step (.logStructured {
      logger := "x", method := .warning, event := .text "up" })).1.2
    (plain.lines.map Prod.fst = [.stream 0, .stream 1] ∧
      ∀ line ∈ plain.lines, ∃ options reading, HasOpened start twoStreams line.1 options ∧
        line.2.Says reading ∧ reading.IsFrom options.facility) ∧
    structured.lines.map Prod.fst = [.stream 0, .stream 1] ∧
      ∀ line ∈ structured.lines, ∃ options reading, HasOpened start twoStreams line.1 options ∧
        line.2.Says reading ∧ reading.IsFrom options.facility := by
  intro start current plain structured
  have noSetUp : ∀ operation ∈ twoStreams, ∀ environment setup,
      operation ≠ .request (.setUpLogging environment setup) :=
    List.forall_mem_cons.mpr ⟨nofun, List.forall_mem_singleton.mpr nofun⟩
  have first : ∃ answer, (start.step (.configureLogging {
    appName := .text "first"
    facility := .int Facility.local0.code
    clearHandlers := false } false)).1.1 = .ok answer := ⟨_, rfl⟩
  rcases first with ⟨_, first⟩
  have opened : HasOpened start twoStreams (.stream 0) _ :=
    .before (@HasOpened.now start [] _ _ _ (.call first))
  rcases lines_come_from_calls (rfl : start.process.handlers = []) noSetUp with
    ⟨_, onPlain, onStructured⟩
  rcases onStructured ⟨_, _, opened⟩ with ⟨_, _, _, _, onStructured⟩
  refine ⟨⟨by decide +kernel, fun line written => ?_⟩, by decide +kernel, fun line written => ?_⟩
  · rcases onPlain _ line written with ⟨options, _, reading, isOpened, _, isRead, isFrom, _⟩
    exact ⟨options, reading, isOpened, isRead, isFrom⟩
  · rcases onStructured _ rfl line written with
      ⟨options, _, reading, isOpened, _, isRead, isFrom, _⟩
    exact ⟨options, reading, isOpened, isRead, isFrom nofun⟩

end Session

/-- That the lines of an emission have been written to two streams, and what is read from them of an
application. -/
def Emission.IsAscribed (emission : Emission) (first second : Text) : Prop :=
  (emission.lines.map fun line =>
    (line.1, (Reading.read? (Text.utf8 line.2.dropLast)).map Reading.appName)) =
      [(Sink.stream 0, some first), (Sink.stream 1, some second)]

instance (emission : Emission) (first second : Text) :
    Decidable (emission.IsAscribed first second) :=
  inferInstanceAs (Decidable (_ = _))

namespace Session

/-- So the stream of the first call gets structured entries under the name that the second one was
given, but plain ones under its own. -/
theorem structured_entries_take_the_latest_name :
    let current := after { origin := .atEpoch ⟨"host", "app", "42"⟩ } twoStreams
    (current.step (.logPlain {
      logger := "x", level := 30, message := .text "up" })).1.2.IsAscribed "first" "second" ∧
    (current.step (.logStructured {
      logger := "x", method := .warning, event := .text "up" })).1.2.IsAscribed "second"
        "second" := by
  decide +kernel

end Session

end Syslog
