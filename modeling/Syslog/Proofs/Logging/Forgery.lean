import Syslog.Proofs.Event.Reordered
import Syslog.Proofs.Logging.Delivery

namespace Syslog

/-!
# What a caller cannot forge

The logger, the level, the time and the message of a line come from the call itself.  A caller may
bind values under their keys, or give them as keywords, but what is given there is overwritten
before it is read.

So two calls that differ in nothing else cannot be told apart by what they bring about.  They have
the same answer, and the lines are the same but for the place where the logger is named
(`Session.overwritten_keywords_do_not_count`).
-/

namespace StructuredEntry

/-- That two entries are the same but for what is given under keys that are overwritten.  What is
bound is a dictionary in either. -/
structure SameButForOverwritten (left right : StructuredEntry) : Prop where
  logger : left.logger = right.logger
  method : left.method = right.method
  event : left.event = right.event
  arguments : left.arguments = right.arguments
  bound : left.bound.without Event.overwrittenKeys = right.bound.without Event.overwrittenKeys
  keywords : left.keywords.without Event.overwrittenKeys =
    right.keywords.without Event.overwrittenKeys
  isLeft : left.bound.IsDictionary
  isRight : right.bound.IsDictionary

variable {left right : StructuredEntry}

/-- What is given under keys that are overwritten does not count if none of these names is taken. -/
theorem checkKeywords_without {procedure : String} {taken : List Text}
    (free : ∀ text ∈ Event.overwrittenKeys, text ∉ taken) (keywords : Entries) :
    checkKeywords procedure taken (keywords.without Event.overwrittenKeys) =
      checkKeywords procedure taken keywords := by
  have passes : ∀ text ∈ Event.overwrittenKeys,
      (Value.text text).text?.filter taken.contains = none := by
    intro text member
    rw [Value.text?, Option.filter_some, if_neg]
    rw [List.contains_iff_mem]
    exact free text member
  rw [checkKeywords, checkKeywords, Entries.any_without fun _ _ _ => rfl,
    Entries.findSome?_without fun text member _ => passes text member]

namespace SameButForOverwritten

theorem checkKeywords_eq (same : left.SameButForOverwritten right) {procedure : String}
    {taken : List Text} (free : ∀ text ∈ Event.overwrittenKeys, text ∉ taken) :
    checkKeywords procedure taken left.keywords = checkKeywords procedure taken right.keywords := by
  rw [← checkKeywords_without free, same.keywords, checkKeywords_without free]

theorem checkBound_eq (same : left.SameButForOverwritten right) :
    left.checkBound = right.checkBound := by
  rw [checkBound, ← checkKeywords_without (by decide), same.bound,
    checkKeywords_without (by decide), checkBound]

theorem checkCall_eq (same : left.SameButForOverwritten right) (passes : Bool) :
    left.checkCall passes = right.checkCall passes := by
  have procedure : left.procedure passes = right.procedure passes := by
    rw [StructuredEntry.procedure, same.method, StructuredEntry.procedure]
  rw [checkCall, checkCall, procedure, same.checkKeywords_eq (by decide)]

theorem keywordsWithFailure (same : left.SameButForOverwritten right) :
    left.keywordsWithFailure.without Event.overwrittenKeys =
      right.keywordsWithFailure.without Event.overwrittenKeys := by
  have contains : ∀ keywords : Entries, keywords.contains (.text "exc_info") =
      (keywords.without Event.overwrittenKeys).contains (.text "exc_info") := by
    intro keywords
    rw [Entries.contains_eq_isSome, Entries.contains_eq_isSome, Entries.get?_without (by decide)]
  rw [StructuredEntry.keywordsWithFailure, StructuredEntry.keywordsWithFailure, same.method]
  split
  · rw [Entries.insertNew, Entries.insertNew, contains, same.keywords, ← contains]
    split
    · exact same.keywords
    · exact Entries.without_insert_congr same.keywords _ _
  · exact same.keywords

/-- What is held is the same but for the keys that are overwritten. -/
theorem held (same : left.SameButForOverwritten right) :
    Event.Alike [] left.held right.held where
  isLeft := same.isLeft.insertAll _
  isRight := same.isRight.insertAll _
  others := by
    rw [StructuredEntry.held, StructuredEntry.held, Entries.without_insertAll, same.bound,
      same.keywordsWithFailure, Entries.without_insertAll]
  settled := List.forall_mem_nil _

theorem logged_eq (same : left.SameButForOverwritten right) : left.logged = right.logged := by
  rw [logged, logged, same.arguments, same.event]

theorem toEvent (same : left.SameButForOverwritten right) :
    EndAlike (Event.Alike []) left.toEvent right.toEvent := by
  rw [toEvent_eq, toEvent_eq, same.logged_eq]
  refine EndAlike.bind_of_eq rfl fun value => ?_
  refine EndAlike.bind_of_eq (same.checkKeywords_eq (by decide)) fun _ => ?_
  split
  · exact .results same.held
  · exact .results (same.held.put_mono "event" _)

theorem preparedFor (same : left.SameButForOverwritten right) (origin : Origin)
    (pipeline : Pipeline) :
    EndAlike (fun event other => Event.AlikeThroughout event other ∧
        event.finished.valueOf? "logger" = some (.text (Process.loggerName left.logger)))
      (left.preparedFor origin pipeline) (right.preparedFor origin pipeline) := by
  refine EndAlike.and_left ?_ fun event isPrepared => ?_
  · rw [StructuredEntry.preparedFor, StructuredEntry.preparedFor, same.logger, same.method]
    exact same.toEvent.bind fun alike => Event.prepared_alike alike _
  · rcases bind_eq_ok_iff.mp isPrepared with ⟨first, _, isPrepared⟩
    exact Event.logger_of_prepared isPrepared

end SameButForOverwritten

end StructuredEntry

/-- That two texts are lines for the same sink, and that they are the same but for the place where
they name the logger. -/
def SameLineButForLogger (logger : Text) (line other : Sink × Text) : Prop :=
  line.1 = other.1 ∧ ∃ reading otherReading, line.2.Says reading ∧ other.2.Says otherReading ∧
    reading.SameButForLogger logger otherReading

/-- That two emissions have such lines in the same order, so that no line has no counterpart. -/
def Emission.SameButForLogger (logger : Text) (emission other : Emission) : Prop :=
  List.Forall₂ (SameLineButForLogger logger) emission.lines other.lines

variable {origin : Origin} {logger : Text} {left right : Event}

theorem Handler.emit_alike (settings : Settings) (handler : Handler) (method : Text)
    (alike : Event.AlikeThroughout left right)
    (entered : left.finished.valueOf? "logger" = some (.text logger)) :
    (handler.emit origin settings method (.ok left)).SameButForLogger logger
      (handler.emit origin settings method (.ok right)) := by
  have finished : Event.AlikeThroughout left.finished right.finished := alike.finished
  rw [Handler.emit, Handler.emit, Emission.SameButForLogger]
  dsimp only [Except.bind]
  cases rendered : handler.renderer.render origin settings method left.finished with
  | error fault =>
      cases renderedOther : handler.renderer.render origin settings method right.finished with
      | error _ => exact .nil
      | ok other =>
          rcases Renderer.exists_render_of_alike finished.symm ⟨other, renderedOther⟩ with
            ⟨line, impossible⟩
          cases rendered.symm.trans impossible
  | ok line =>
      rcases Renderer.exists_render_of_alike finished ⟨line, rendered⟩ with ⟨other, renderedOther⟩
      rw [renderedOther]
      rcases Renderer.sameButForLogger_of_render finished entered rendered renderedOther with
        ⟨reading, otherReading, isRead, isReadOther, same⟩
      exact .cons ⟨rfl, reading, otherReading, ⟨line, rfl, isRead⟩, ⟨other, rfl, isReadOther⟩,
        same⟩ .nil

namespace Process

theorem deliver_alike (process : Process) (method : Text)
    (alike : Event.AlikeThroughout left right)
    (entered : left.finished.valueOf? "logger" = some (.text logger)) :
    (process.deliver origin method fun _ => .ok left).SameButForLogger logger
      (process.deliver origin method fun _ => .ok right) := by
  rw [Emission.SameButForLogger, deliver, deliver]
  induction process.handlers with
  | nil => exact .nil
  | cons handler rest inductionHypothesis =>
      rw [List.map_cons, List.map_cons, Emission.joined_cons, Emission.joined_cons]
      exact List.rel_append (handler.emit_alike process.settings method alike entered)
        inductionHypothesis

theorem logStructured_alike {process : Process} {pipeline : Pipeline}
    {left right : StructuredEntry} (isPipeline : process.pipeline = some pipeline)
    (same : left.SameButForOverwritten right) :
    EndAlike (Emission.SameButForLogger (loggerName left.logger))
      (process.logStructured origin left) (process.logStructured origin right) := by
  rw [logStructured_eq origin isPipeline, logStructured_eq origin isPipeline, ← same.method,
    ← same.logger]
  refine EndAlike.bind_of_eq (same.checkCall_eq _) fun _ => ?_
  split
  · refine (same.preparedFor origin pipeline).bind fun ⟨alike, entered⟩ => ?_
    split
    · exact .results (process.deliver_alike _ alike entered)
    · exact .results .nil
  · exact .results .nil

/-! ## After a configuration -/

theorem Configures.isSome_pipeline {identity : Identity} {process next : Process}
    {options : LoggingOptions} {outcome : Except Fault Unit}
    (configures : process.Configures identity options outcome next)
    (configured : process.pipeline.isSome = true) : next.pipeline.isSome = true := by
  cases configures with
  | refused _ | levelless _ _ => exact configured
  | completed _ _ => rfl

end Process

/-- No call takes the pipeline away. -/
theorem SetUpCall.isSome_pipeline {identity : Identity} {process : Process} (call : SetUpCall)
    (configured : process.pipeline.isSome = true) :
    (call.perform identity process).2.pipeline.isSome = true := by
  cases call with
  | configure options => exact (process.configures identity options).isSome_pipeline configured
  | setUp environment options =>
      have setsUp := process.setsUp identity environment options
      rw [perform]
      generalize process.setUp identity environment options = result at setsUp
      rcases result with ⟨outcome, next⟩
      cases setsUp with
      | unknown _ => exact configured
      | failed _ configures | completed _ configures _ | fileless _ configures _ _
      | filed _ configures _ _ _ => exact configures.isSome_pipeline configured

namespace Session

variable {start session : Session}

theorem isSome_pipeline_perform (configured : session.process.pipeline.isSome = true)
    (operation : Operation) : (session.perform operation).process.pipeline.isSome = true := by
  have reaches := session.reaches operation
  generalize (session.perform operation).process = next at reaches
  cases reaches with
  | settings _ | opened _ => exact configured
  | @called call _ => exact call.isSome_pipeline configured

theorem isSome_pipeline_after (configured : session.process.pipeline.isSome = true)
    (operations : List Operation) : (session.after operations).process.pipeline.isSome = true := by
  induction operations generalizing session with
  | nil => exact configured
  | cons operation rest inductionHypothesis =>
      exact inductionHypothesis (isSome_pipeline_perform configured operation)

theorem isSome_pipeline_of_configureLogging {options : LoggingOptions} {toStandardOutput : Bool}
    {answer : Answer}
    (succeeds : (start.step (.configureLogging options toStandardOutput)).1.1 = .ok answer) :
    (start.step (.configureLogging options toStandardOutput)).2.process.pipeline.isSome = true := by
  rcases start.step_configureLogging options toStandardOutput with ⟨answered, process⟩
  have configures := start.process.configures start.origin.identity
    { options with sink := start.sinkFor toStandardOutput }
  rw [process]
  rw [succeeds] at answered
  generalize start.process.configure start.origin.identity
    { options with sink := start.sinkFor toStandardOutput } = result at answered configures
  rcases result with ⟨outcome, next⟩
  cases configures with
  | refused _ | levelless _ _ => cases answered
  | completed _ _ => rfl

/-- Once a call has configured logging, and whatever has happened since, two structured entries that
differ under the keys of the logger, the level, the time and the message only have the same
answer; and for each line of the one there is a line of the other for the same sink, which is
read as the same but for the place where it names the logger that both have been given to. -/
theorem overwritten_keywords_do_not_count {options : LoggingOptions} {toStandardOutput : Bool}
    {answer : Answer} {left right : StructuredEntry}
    (succeeds : (start.step (.configureLogging options toStandardOutput)).1.1 = .ok answer)
    (operations : List Operation) (same : left.SameButForOverwritten right) :
    let session := (start.step (.configureLogging options toStandardOutput)).2.after operations
    let result := (session.step (.logStructured left)).1
    let other := (session.step (.logStructured right)).1
    result.1 = other.1 ∧ result.2.SameButForLogger (Process.loggerName left.logger) other.2 := by
  intro session result other
  have configured := isSome_pipeline_after (isSome_pipeline_of_configureLogging succeeds) operations
  rcases Option.isSome_iff_exists.mp configured with ⟨pipeline, isPipeline⟩
  have isResult : result = _ := step_logStructured isPipeline left
  have isOther : other = _ := step_logStructured isPipeline right
  rw [← same.checkBound_eq, ← same.logger] at isOther
  rw [isResult, isOther]
  cases left.checkBound with
  | error fault => exact ⟨rfl, .nil⟩
  | ok _ =>
      let opened := session.process.openPlain left.logger
      have alike : EndAlike (Emission.SameButForLogger (Process.loggerName left.logger))
          (opened.logStructured session.origin left) (opened.logStructured session.origin right) :=
        Process.logStructured_alike isPipeline same
      dsimp only [Except.bind]
      generalize opened.logStructured session.origin left = ended,
        opened.logStructured session.origin right = endedOther at alike ⊢
      cases alike with
      | faults fault => exact ⟨rfl, .nil⟩
      | results related => exact ⟨rfl, related⟩

/-- A call with a value that is bound and with a keyword, none of which is overwritten. -/
def bareEntry : StructuredEntry where
  logger := "a.b"
  method := .warning
  event := .text "up"
  bound := [(.text "user", .text "alice")]
  keywords := [(.text "count", .int 2)]

/-- The same call, where the logger is also bound under another name, and the call has a level, a
time and a message of its own. -/
def forgedEntry : StructuredEntry where
  logger := "a.b"
  method := .warning
  event := .text "up"
  bound := [(.text "logger", .text "root"), (.text "user", .text "alice")]
  keywords := [(.text "level", .list []), (.text "count", .int 2), (.text "timestamp", .int 0),
    (.text "message", .text "down")]

/-- The forged call brings about the same line as the bare one, but for the place of the logger. -/
theorem overwritten_keywords_do_not_count_of_forgery :
    let start : Session := { origin := .atEpoch ⟨"host", "app", "42"⟩ }
    let session :=
      (start.step (.configureLogging {} true)).2.after [.request (.configure (some true))]
    let bare := (session.step (.logStructured bareEntry)).1
    let forged := (session.step (.logStructured forgedEntry)).1
    bare.2.lines.map Prod.fst = [.standardOutput] ∧ bare.2.lines ≠ forged.2.lines ∧
      bare.2.SameButForLogger "a.b" forged.2 := by
  have succeeds : ∃ answer, (step { origin := .atEpoch ⟨"host", "app", "42"⟩ }
      (.configureLogging {} true)).1.1 = .ok answer := ⟨_, rfl⟩
  rcases succeeds with ⟨_, succeeds⟩
  have isForged : forgedEntry.bound.IsDictionary :=
    List.pairwise_cons.mpr ⟨List.forall_mem_singleton.mpr rfl, List.pairwise_singleton _ _⟩
  have same : bareEntry.SameButForOverwritten forgedEntry :=
    ⟨rfl, rfl, rfl, rfl, rfl, rfl, List.pairwise_singleton _ _, isForged⟩
  rcases overwritten_keywords_do_not_count succeeds [.request (.configure (some true))] same with
    ⟨_, alike⟩
  rw [show Process.loggerName bareEntry.logger = "a.b" by decide] at alike
  exact ⟨by decide +kernel, by decide +kernel, alike⟩

end Session

end Syslog
