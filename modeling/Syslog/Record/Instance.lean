import Syslog.Record.Reflection
import Syslog.Value.Words

namespace Syslog

/-!
Records, the instances of record types.

A record has one value for each field of its type, in the order of the fields, so it is made
from just as many values.
-/

structure Record where
  type : RecordType
  values : List Value
  length_eq : values.length = type.fields.length

namespace Record

/-- The record of a type with the given values, unless there are too few or too many of them. -/
def ofValues? (type : RecordType) (values : List Value) : Option Record :=
  if h : values.length = type.fields.length then some ⟨type, values, h⟩ else none

/--
The value of a field.  Field maps name only fields of their own type, so that it does not count
what stands here for a name that is none of these.
-/
def get (record : Record) (field : Text) : Value :=
  (((record.type.fields.map FieldDeclaration.name).zip record.values).lookup field).getD .null

/-- The record as it is quoted, with the values of all fields. -/
def quoted (record : Record) : Text :=
  let parts := (record.type.fields.zip record.values).map fun (field, value) =>
    field.name ++ CodePoint.ofChar '=' :: value.quoted
  record.type.name ++ bracketed '(' ')' parts

/-- The field of a role and its value, unless that is empty. -/
def role? (record : Record) (field : Option Text) : Option (Text × Value) :=
  match field with
  | none => none
  | some name =>
    let value := record.get name
    if value.isEmpty then none else some (name, value)

end Record

end Syslog
