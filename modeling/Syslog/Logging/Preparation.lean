import Syslog.Event.Enrichment
import Syslog.Template.Filling

namespace Syslog

/-!
What an event goes through on its way from the call to the renderer.

Every event is *prepared*: its origin is entered over whatever stands there, other entries are
completed, and what has been logged moves from `event` to `message`.  Then, for each handler,
it is *finished*: bookkeeping entries go, and a failure that comes with it is put into words.

The event is all that is prepared.  What the process has bound to the context of the call is
taken to be nothing, so that no entries are merged into the event from there, and the stack of
the call is not known, so that no event gets a `stack`.
-/

/-- Where and when an event was logged. -/
structure EventOrigin where
  logger : Text
  method : Text
  appName : Text
  now : DateTime

/-- A UTC time with the letter for an offset of zero. -/
def DateTime.stamp (dateTime : DateTime) : Text :=
  ({ dateTime with zone := .naive }).written 'T' ++ Text.ofString "Z"

/--
Fills a value in: texts and octets are templates, and octets that may grow stay so.  Of all
other values the operator is reported.
-/
def Value.filledIn (operator : Text) (value arguments : Value) : Except Fault Value :=
  match value with
  | .text template => ((Template.fill .text template arguments).mapError .template).map .text
  | .octets .fixed template =>
    ((Template.fillOctets template arguments).mapError .template).map (.octets .fixed)
  | .octets .growable template =>
    ((Template.fillOctets template arguments).mapError .template).map (.octets .growable)
  | other => .error (.operands ⟨operator, other, arguments⟩)

/-- The arguments of a call: a single dictionary that is not empty stands for itself. -/
def Value.arguments : List Value → Value
  | [.dict (entry :: rest)] => .dict (entry :: rest)
  | values => .tuple values

/-- How many parts a value has, if it is of a kind that has any. -/
def Value.length? : Value → Option Nat
  | .text content => some content.length
  | .octets _ content => some content.length
  | .list items => some items.length
  | .tuple items => some items.length
  | .dict entries => some entries.length
  | _ => none

/-- The only part of a value; in a dictionary that is the one under the key zero. -/
def Value.onlyPart? : Value → Except Fault (Option Value)
  | .list [item] => .ok (some item)
  | .tuple [item] => .ok (some item)
  | .dict [entry] =>
    match Entries.get? [entry] (.int 0) with
    | some found => .ok (some found)
    | none => .error (.missingKey (.int 0))
  | _ => .ok none

/-- What stands for the text of a failure that cannot be put into words. -/
def wordlessFailure : Text := "<exception str() failed>"

/-- The words for a failure: its kind, and its text unless that is empty. -/
def Value.failureText? : Value → Option Text
  | .failure kind argument =>
    let text := ((Value.failure kind argument).inWords shown).toOption.getD wordlessFailure
    some (if text.isEmpty then kind.name else kind.name ++ Text.ofString ": " ++ text)
  | _ => none

namespace Event

/-- What stands for arguments that are kept in the event: a dictionary in them, or they. -/
def keptArguments (kept : Value) : Except Fault Value :=
  if kept.length?.isNone then .error (.noLength kept)
  else do
    match ← kept.onlyPart? with
    | some (.dict (entry :: rest)) => return .dict (entry :: rest)
    | _ => return kept

/-- Arguments that are kept in the event fill in what has been logged, and are dropped. -/
def fillPositional (event : Event) : Except Fault Event :=
  match (event.valueOf? "positional_args").getD .null with
  | .null => .ok event
  | kept =>
    if kept.isEmpty then .ok (event.remove "positional_args")
    else do
      let arguments ← keptArguments kept
      match event.valueOf? "event" with
      | none => .error (.missingKey (.text "event"))
      | some value =>
        let filled ← value.filledIn "%=" arguments
        return (event.put "event" filled).remove "positional_args"

/-- Octets that cannot change become texts; what is malformed in them is replaced. -/
def decodeOctets (event : Event) : Event :=
  event.map fun (key, value) =>
    match value with
    | .octets .fixed content => (key, .text (Utf8.decodeReplacing content))
    | value => (key, value)

/-- Moves what has been logged to where the renderer looks first. -/
def renameEvent (event : Event) : Except Fault Event :=
  match event.valueOf? "event" with
  | none => .error (.missingKey (.text "event"))
  | some value => .ok ((event.remove "event").put "message" value)

/-- The key of a record that the event may come from belongs to the handlers. -/
def checkRecord (event : Event) : Except Fault Unit :=
  match (event.valueOf? "_record").getD .null with
  | .null => .ok ()
  | value => .error (.lacks value "name")

/--
The event as the handlers get it.  Nothing comes from the context of the call, which is empty
here; and `stack_info` goes in any case, also where it asks for the stack, which would otherwise
be entered under `stack`.
-/
def prepared (origin : EventOrigin) (event : Event) : Except Fault Event := do
  event.checkRecord
  let event := event.put "logger" (.text origin.logger)
  let event := event.put "level" (.text origin.method)
  let event ← (event.normalizeLevel origin.method).mapError .words
  let event ← event.addSeverity
  let event ← event.fillPositional
  let event := event.put "timestamp" (.text origin.now.stamp)
  let event := event.addAppName (.text origin.appName)
  let event := (event.remove "stack_info").decodeOctets
  let event ← event.ensureText.mapError .words
  event.renameEvent

def finished (event : Event) : Event :=
  let event := (event.remove "_record").remove "_from_structlog"
  let failure := event.valueOf? "exc_info"
  let event := event.remove "exc_info"
  match failure.bind Value.failureText? with
  | some text => event.put "exception" (.text text)
  | none => event

end Event

end Syslog
