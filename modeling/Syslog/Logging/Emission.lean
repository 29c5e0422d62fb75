import Syslog.Logging.Process
import Syslog.Logging.Console

namespace Syslog

/-!
Logging entries on the structured and on the plain path.

A handler that cannot put an entry into a line drops it; the caller does not see that.  The
caller does see what goes wrong before an entry reaches the handlers.
-/

/-- What logging leaves behind: lines in the order of writing, and entries that were dropped. -/
structure Emission where
  lines : List (Sink × Text) := []
  dropped : List Fault := []

namespace Emission

/-- All that several emissions leave behind, in their order. -/
def joined (emissions : List Emission) : Emission where
  lines := emissions.flatMap lines
  dropped := emissions.flatMap dropped

/-- The lines in order, with those of files behind all others. -/
def listed (emission : Emission) : List (Sink × Text) :=
  emission.lines.filter (·.1 != .file) ++ emission.lines.filter (·.1 == .file)

end Emission

/-- An entry on the structured path. -/
structure StructuredEntry where
  logger : Text
  method : Method
  event : Value
  arguments : List Value := []
  bound : Entries := []
  keywords : Entries := []

/-- An entry on the plain path. -/
structure PlainEntry where
  logger : Text
  /-- The number of the level.  Numbers with too many digits to be put into words are outside. -/
  level : Int
  message : Value
  arguments : List Value := []
  failure : Value := .null

namespace StructuredEntry

/-- An exception comes with the failure being handled, unless the call says otherwise. -/
def keywordsWithFailure (entry : StructuredEntry) : Entries :=
  match entry.method with
  | .exception => entry.keywords.insertNew (.text "exc_info") (.bool true)
  | _ => entry.keywords

/-- Keywords are texts, and none is for what a procedure is given by position. -/
def checkKeywords (procedure : String) (taken : List Text) (keywords : Entries) :
    Except Fault Unit :=
  if keywords.any (·.1.text?.isNone) then .error .keywordKind
  else
    match keywords.findSome? fun (key, _) => key.text?.filter taken.contains with
    | some keyword => .error (.keywordTaken procedure keyword)
    | none => .ok ()

/-- What is bound goes to the logger itself. -/
def checkBound (entry : StructuredEntry) : Except Fault Unit :=
  checkKeywords "BoundLoggerLazyProxy.bind" ["self"] entry.bound

/-- The procedure that takes an entry, which depends on whether its level passes. -/
def procedure (entry : StructuredEntry) (passes : Bool) : String :=
  if entry.method = .exception then "exception"
  else if passes then "_make_filtering_bound_logger.<locals>.make_method.<locals>.meth"
  else "_nop"

/-- Keywords go to the procedure of the method beside the logger and what is logged. -/
def checkCall (entry : StructuredEntry) (passes : Bool) : Except Fault Unit :=
  checkKeywords (entry.procedure passes) ["self", "event"] entry.keywords

/-- The event of an entry: what is bound, then keywords over it, then what has been logged. -/
def toEvent (entry : StructuredEntry) : Except Fault Event := do
  let value ←
    if entry.arguments.isEmpty then pure entry.event
    else entry.event.filledIn "%" (.arguments entry.arguments)
  checkKeywords "BoundLoggerBase._proxy_to_logger" ["method_name"] entry.keywords
  let event : Event := entry.bound.insertAll entry.keywordsWithFailure
  match value with
  | .null => return event
  | value => return event.put "event" value

end StructuredEntry

namespace PlainEntry

/-- The text of an entry, with its arguments filled in if it has any. -/
def text (entry : PlainEntry) : Except Fault Text := do
  let text ← (entry.message.inWords Value.shown).mapError Fault.words
  if entry.arguments.isEmpty then return text
  else (Template.fill .text text (.arguments entry.arguments)).mapError Fault.template

/-- The event of an entry: its text, and the failure if there is one. -/
def toEvent (entry : PlainEntry) : Except Fault Event := do
  let text ← entry.text
  let failure : Event :=
    if entry.failure.isEmpty then [] else [(.text "exc_info", entry.failure)]
  return (.text "event", .text text) :: failure

end PlainEntry

namespace Handler

/-- What one handler makes of an event that has been prepared. -/
def emit (origin : Origin) (settings : Settings) (handler : Handler) (method : Text)
    (prepared : Except Fault Event) : Emission :=
  let line := prepared.bind fun event =>
    handler.renderer.render origin settings method event.finished
  match line with
  | .ok text => { lines := [(handler.sink, text ++ Text.ofString "\n")] }
  | .error fault => { dropped := [fault] }

end Handler

namespace Process

/-- Hands an event to all handlers in turn; each may have its own way to prepare it. -/
def deliver (origin : Origin) (process : Process) (method : Text)
    (prepare : Handler → Except Fault Event) : Emission :=
  .joined (process.handlers.map fun handler =>
    handler.emit origin process.settings method (prepare handler))

/-- The name of a logger as it is entered into events. -/
def loggerName (logger : Text) : Text :=
  if LoggerTree.isRoot logger then LoggerTree.rootName else logger

/-- Whether a plain logger lets a level pass. -/
def passes (process : Process) (logger : Text) (level : Int) : Bool :=
  decide (0 < level) && decide ((process.loggers.effectiveLevel logger : Int) ≤ level)

/-- Creates a logger on the plain path. -/
def openPlain (process : Process) (logger : Text) : Process :=
  { process with loggers := process.loggers.create logger }

/-- Creates the logger that a structured entry goes to, once there is a plain path to go on. -/
def openStructured (process : Process) (logger : Text) : Process :=
  if process.pipeline.isSome then process.openPlain logger else process

/-- Whether an entry passes the threshold of the structured path, if there is one yet. -/
def admits (process : Process) (method : Method) : Bool :=
  match process.pipeline with
  | none => true
  | some pipeline => pipeline.threshold ≤ method.level

/--
Logs an entry by a logger that is asked for at this call and not kept from an earlier one.  So
the pipeline of the moment is the one that counts; a logger that has been kept would go on with
the pipeline under which it was first used.
-/
def logStructured (origin : Origin) (process : Process) (entry : StructuredEntry) :
    Except Fault Emission := do
  let levelName := entry.method.levelName
  let admitted := process.admits entry.method
  entry.checkCall admitted
  if !admitted then return {}
  let event ← entry.toEvent
  match process.pipeline with
  | none =>
    let line ← Console.line origin.now levelName event
    return { lines := [(.standardOutput, line), (.standardOutput, Text.ofString "\n")] }
  | some pipeline =>
    let prepared ← event.prepared {
      logger := loggerName entry.logger
      method := levelName
      appName := pipeline.appName
      now := origin.now }
    if process.passes entry.logger entry.method.level then
      return process.deliver origin levelName fun _ => .ok prepared
    else return {}

/-- Without handlers a plain entry is only put into words, from the level of warnings on. -/
def logPlain (origin : Origin) (process : Process) (entry : PlainEntry) : Emission :=
  if !process.passes entry.logger entry.level then {}
  else if process.handlers.isEmpty then
    match entry.text with
    | .error fault => if (Level.warning : Int) ≤ entry.level then { dropped := [fault] } else {}
    | .ok _ => {}
  else
    let levelName := Level.plainName entry.level.toNat
    process.deliver origin levelName fun handler => do
      let event ← entry.toEvent
      event.prepared {
        logger := loggerName entry.logger
        method := levelName
        appName := handler.appName
        now := origin.now }

end Process

end Syslog
