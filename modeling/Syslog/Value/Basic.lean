import Syslog.Time.DateTime
import Syslog.Text.Utf8

namespace Syslog

/-!
Dynamic values.

The fields of a record, the entries of an event and the parts of a message that nobody has
checked yet may hold anything.  A value is therefore a tree whose leaves are the kinds of data
that callers pass, together with the names those kinds have in messages.
-/

/-- Octets come fixed, growable, or as a view of octets held elsewhere. -/
inductive OctetsKind
  | fixed
  | growable
  | view
deriving DecidableEq

/-- The kinds of failure that can be attached to a log entry. -/
inductive FailureKind
  | value
  | key
  | runtime
deriving DecidableEq

/--
A value of one of these kinds, and of no other: what is said of all values is said of these.
Outside are data of kinds derived from them that are written in a way of their own, such as texts
that format themselves and members of enumerations; records and sets inside of a value;
containers that contain themselves; octets whose view has been released; zones that fail when
they are asked for their offset; and objects that count as empty, that fail to give their
displayed form, or that have a form of their own in JSON.
-/
inductive Value
  | null
  | bool (truth : Bool)
  | int (number : Int)
  | float (number : Binary64)
  | text (content : Text)
  | octets (kind : OctetsKind) (content : Bytes)
  | list (items : List Value)
  | tuple (items : List Value)
  | dict (entries : List (Value × Value))
  | time (dateTime : DateTime)
  /-- An object of a plain kind, which never counts as empty and has a displayed form only. -/
  | object (display : Text)
  /-- A failure with one argument, without a trace of where it was raised. -/
  | failure (kind : FailureKind) (argument : Value)

abbrev Entries := List (Value × Value)

def FailureKind.name : FailureKind → Text
  | .value => "ValueError"
  | .key => "KeyError"
  | .runtime => "RuntimeError"

namespace Value

instance : Inhabited Value := ⟨.null⟩

instance : Coe Text Value := ⟨.text⟩

/-- The short name of the kind of a value. -/
def kindName : Value → Text
  | .null => "NoneType"
  | .bool _ => "bool"
  | .int _ => "int"
  | .float _ => "float"
  | .text _ => "str"
  | .octets .fixed _ => "bytes"
  | .octets .growable _ => "bytearray"
  | .octets .view _ => "memoryview"
  | .list _ => "list"
  | .tuple _ => "tuple"
  | .dict _ => "dict"
  | .time _ => "datetime"
  | .object _ => "Thing"
  | .failure kind _ => kind.name

/-- The name under which an operator reports the kind of its operand. -/
def operandName : Value → Text
  | .time _ => "datetime.datetime"
  | value => value.kindName

/-- The name of the kind with the place it is declared in, unless it is built in. -/
def qualifiedName : Value → Text
  | .object _ => "__main__.Thing"
  | value => value.operandName

/-- Absent, zero and without content; a time and an object are never empty. -/
def isEmpty : Value → Bool
  | .null => true
  | .bool truth => !truth
  | .int number => number == 0
  | .float number => number.isZero
  | .text content => content.isEmpty
  | .octets _ content => content.isEmpty
  | .list items => items.isEmpty
  | .tuple items => items.isEmpty
  | .dict entries => entries.isEmpty
  | .time _ => false
  | .object _ => false
  | .failure _ _ => false

def isNull : Value → Bool
  | .null => true
  | _ => false

/-- The integer of a value; truth values do not count as integers. -/
def int? : Value → Option Int
  | .int number => some number
  | _ => none

/-- The integer of a value, where truth values count as zero and one. -/
def integral? : Value → Option Int
  | .bool truth => some (if truth then 1 else 0)
  | .int number => some number
  | _ => none

def text? : Value → Option Text
  | .text content => some content
  | _ => none

def octets? : Value → Option Bytes
  | .octets _ content => some content
  | _ => none

mutual

/-- The kind name of the first part that keeps the value from being a key. -/
def unhashable? : Value → Option Text
  | .list _ => some "list"
  | .dict _ => some "dict"
  | .octets .growable _ => some "bytearray"
  | .tuple items => unhashableIn? items
  | _ => none

def unhashableIn? : List Value → Option Text
  | [] => none
  | item :: rest => item.unhashable?.or (unhashableIn? rest)

end

/-- So many lists, each but the innermost holding the next. -/
def nested (depth : Nat) : Value := (depth - 1).repeat (fun value => .list [value]) (.list [])

end Value

end Syslog
