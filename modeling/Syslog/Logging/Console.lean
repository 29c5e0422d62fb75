import Syslog.Logging.Preparation

namespace Syslog

/-!
Structured entries for people to read, as long as logging has not been configured.

A line has columns for the time, the level, what has been logged and the logger, and then all
other entries as `key=value` in the order of their keys.  A failure follows on a line of its
own.
-/

namespace Console

/-- The width of the level, between brackets. -/
def levelWidth : Nat := 9

/-- The width of what has been logged. -/
def eventWidth : Nat := 30

/-- The characters that make it necessary to quote a text. -/
def specialCharacters : Text := " \t=\r\n\"'"

def entryValue : Value → Except WordsFault Text
  | .text content =>
    .ok (if content.any specialCharacters.contains then content.quoted else content)
  | value => value.inWords Value.quoted

/-- The order of texts by their code points. -/
def precedes : Text → Text → Bool
  | [], _ => true
  | _ :: _, [] => false
  | left :: lefts, right :: rights =>
    left.val < right.val || (left.val == right.val && precedes lefts rights)

/-- The keys of a line that have a column or a place of their own. -/
def placedKeys : List Text :=
  ["timestamp", "level", "event", "logger", "logger_name", "stack", "exception", "exc_info",
    "stack_info"]

/-- The entries without a place of their own, in the order of their keys. -/
def otherEntries (event : Event) : List (Text × Value) :=
  let others := event.filterMap fun (key, value) =>
    match key with
    | .text name => if placedKeys.contains name then none else some (name, value)
    | _ => none
  others.mergeSort fun left right => precedes left.1 right.1

/-- The columns of an event that was logged at the given time and level. -/
def columns (now : DateTime) (levelName : Text) (event : Event) :
    Except WordsFault (List Text) := do
  let column (key : String) (form : Text → Text) : Except WordsFault (List Text) :=
    (event.valueOf? key).toList.mapM fun value => (value.inWords Value.shown).map form
  let time := now.date.written ++ CodePoint.ofChar ' ' :: now.clock.written
  let logged ← column "event" (·.padRight eventWidth ' ')
  let logger ← column "logger" fun name => bracketed '[' ']' [name]
  let loggerName ← column "logger_name" fun name => bracketed '[' ']' [name]
  let others ← (otherEntries event).mapM fun (key, value) =>
    (entryValue value).map fun text => key ++ CodePoint.ofChar '=' :: text
  return [time, bracketed '[' ']' [levelName.padRight levelWidth ' ']] ++ logged ++ logger ++
    loggerName ++ others

/-- A line that separates a stack from a failure. -/
def separator : Text := List.replicate 79 (.ofChar '=')

/--
What follows on lines of its own: a stack, and a failure or the text of one.  They are separated
whenever a failure was asked for, even if there is none.
-/
def appendix (event : Event) : Except Fault Text := do
  let newline := CodePoint.ofChar '\n'
  let failure := (event.valueOf? "exc_info").getD .null
  let exception := (event.valueOf? "exception").getD .null
  let stack ← match (event.valueOf? "stack").getD .null with
    | .null => pure []
    | stack =>
      let text ← stack.joinable
      let ending := if failure.isEmpty && exception.isNull then [] else
        newline :: newline :: separator ++ [newline]
      pure (newline :: text ++ ending)
  match failure.failureText?, exception with
  | some text, _ => return stack ++ newline :: text
  | none, .null => return stack
  | none, exception => return stack ++ newline :: (← exception.joinable)

def line (now : DateTime) (levelName : Text) (event : Event) : Except Fault Text := do
  let parts := (← (columns now levelName event).mapError .words).filter (!·.isEmpty)
  return Text.dropEndWhile (· == .ofChar ' ') (Text.joined " " parts) ++ (← appendix event)

end Console

end Syslog
