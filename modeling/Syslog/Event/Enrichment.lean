import Syslog.Fault
import Syslog.Level.Canonical

namespace Syslog

/-!
Events, and the steps that complete them before they are rendered.

An event is a dictionary.  A step puts one entry right and leaves the others in their places;
an entry it adds comes last.
-/

abbrev Event := Entries

/-- A step that completes an event. -/
inductive Enrichment
  /-- The canonical name of the level, which is that of the method unless one is given. -/
  | level
  /-- The code of the severity, which follows from the level unless it is given. -/
  | severity
  /-- The name of the application, unless one is given. -/
  | appName (appName : Value)
  /-- The displayed form of what has been logged. -/
  | eventText

namespace Event

/-- The value under a key that is a text. -/
def valueOf? (event : Event) (key : String) : Option Value :=
  Entries.get? event (.text (Text.ofString key))

/-- Puts a value under a key that is a text; a key that is present keeps its place. -/
def put (event : Event) (key : String) (value : Value) : Event :=
  Entries.insert (.text (Text.ofString key)) value event

/-- Puts a value under a key unless the key is present. -/
def putNew (event : Event) (key : String) (value : Value) : Event :=
  Entries.insertNew (.text (Text.ofString key)) value event

def remove (event : Event) (key : String) : Event :=
  Entries.erase (.text (Text.ofString key)) event

theorem valueOf?_put (event : Event) (key other : String) (value : Value) :
    (event.put key value).valueOf? other =
      if Text.ofString other = Text.ofString key then some value else event.valueOf? other :=
  Entries.get?_insert_text event (Text.ofString key) (Text.ofString other) value

theorem valueOf?_remove (event : Event) (key other : String) :
    (event.remove key).valueOf? other =
      if Text.ofString other = Text.ofString key then none else event.valueOf? other :=
  Entries.get?_erase_text event (Text.ofString key) (Text.ofString other)

def normalizeLevel (method : Text) (event : Event) : Except WordsFault Event :=
  (Level.ofValue ((event.valueOf? "level").getD (.text method))).map fun name =>
    event.put "level" (.text name)

/-- The severity that a level stands for, which only a canonical name does. -/
def severityOf (level : Value) : Severity :=
  match level with
  | .text name => .ofCanonical name
  | _ => .info

/-- The level is looked up as it stands, so it must be of a kind that can be a key. -/
def addSeverity (event : Event) : Except Fault Event :=
  if (event.valueOf? "severity").isSome then .ok event
  else
    let level := (event.valueOf? "level").getD (.text "INFO")
    match level.unhashable? with
    | some kindName => .error (.unhashable kindName)
    | none => .ok (event.put "severity" (.int (severityOf level).code))

def addAppName (appName : Value) (event : Event) : Event := event.putNew "app_name" appName

def ensureText (event : Event) : Except WordsFault Event :=
  match event.valueOf? "event" with
  | none => .ok event
  | some .null => .ok event
  | some (.text _) => .ok event
  | some value => (value.inWords Value.shown).map fun text => event.put "event" (.text text)

end Event

/-- Completes an event that was logged by the given method. -/
def Enrichment.apply (method : Text) (event : Event) : Enrichment → Except Fault Event
  | .level => (event.normalizeLevel method).mapError .words
  | .severity => event.addSeverity
  | .appName given => .ok (event.addAppName given)
  | .eventText => event.ensureText.mapError .words

/-- Applies steps in turn and gives the event after each of them. -/
def Enrichment.applyAll (method : Text) : Event → List Enrichment → Except Fault (List Event)
  | _, [] => .ok []
  | event, step :: rest => do
    let event ← step.apply method event
    return event :: (← applyAll method event rest)

end Syslog
