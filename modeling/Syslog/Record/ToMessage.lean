import Syslog.Value.ParameterText

namespace Syslog

/-!
Messages from records.

A role that the type of a record does not have, or whose field holds an empty value, takes the
default of the field map or the name of the process; fields written as parameters are grouped
into elements in the order in which the elements turn up.
-/

/-- Where a role comes from: what process and time stand in for what is missing. -/
structure Origin where
  identity : Identity
  now : DateTime

/-- A process at the start of the epoch. -/
def Origin.atEpoch (identity : Identity) : Origin where
  identity
  now := {
    date := {
      year := 1970
      month := 1
      day := 1
      year_pos := by decide
      year_le := by decide
      month_pos := by decide
      month_le := by decide
      day_pos := by decide
      day_le := by decide }
    clock := .midnight
    zone := .utc }

namespace FieldMap

def mismatch (map : FieldMap) (field : Text) (expected : RoleKind) (value : Value) : Fault :=
  .configuration (.roleKind map.recordType field expected value.kindName)

/-- The value of a role, which must have the expected kind; its default if there is none. -/
def roleValue (map : FieldMap) (record : Record) (field : Option Text) (expected : RoleKind)
    (read? : Value → Option Value) (default : Value) : Except Fault Value :=
  match record.role? field with
  | none => .ok default
  | some (name, value) =>
    match read? value with
    | some found => .ok found
    | none => .error (map.mismatch name expected value)

def integerRole (map : FieldMap) (record : Record) (field : Option Text) (default : Nat) :
    Except Fault Value :=
  map.roleValue record field .integer (fun value => value.int?.map .int) (.int default)

def textRole (map : FieldMap) (record : Record) (field : Option Text) (default : Text) :
    Except Fault Value :=
  map.roleValue record field .text (fun value => value.text?.map .text) (.text default)

def timeRole (map : FieldMap) (record : Record) (now : DateTime) : Except Fault Value :=
  let read? : Value → Option Value
    | .time dateTime => some (.time dateTime)
    | .int nanoseconds => some (.int nanoseconds)
    | _ => none
  map.roleValue record map.timestampField .time read? (.time now)

/-- The octets of the body: those given, or those of a text. -/
def body (map : FieldMap) (record : Record) : Except Fault Value :=
  match record.role? map.bodyField with
  | none => .ok (.octets .fixed [])
  | some (_, .text content) => (content.encode.mapError .surrogates).map (.octets .fixed)
  | some (_, .octets _ content) => .ok (.octets .fixed content)
  | some (name, value) => .error (map.mismatch name .body value)

/-- The parameters of a record with the elements they belong to, in order of declaration. -/
def parameters (map : FieldMap) (record : Record) : Except Fault (List (Text × Parameter)) :=
  let kept := map.parameterFields.filter fun field =>
    !(field.omitEmpty && (record.get field.field).isEmpty)
  kept.mapM fun field => do
    let text ← (record.get field.field).parameterText
    return (field.elementId, ⟨.text field.name, .text text⟩)

end FieldMap

/-- Parameters gathered under their elements, in order of first appearance. -/
abbrev ParameterGroups := List (Text × List Parameter)

namespace ParameterGroups

/-- Puts a parameter behind the others of its element, or starts that element. -/
def add (id : Text) (parameter : Parameter) : ParameterGroups → ParameterGroups
  | [] => [(id, [parameter])]
  | (present, parameters) :: rest =>
    if present = id then (present, parameters ++ [parameter]) :: rest
    else (present, parameters) :: add id parameter rest

def ofList (parameters : List (Text × Parameter)) : ParameterGroups :=
  parameters.foldl (fun groups entry => add entry.1 entry.2 groups) []

def elements (groups : ParameterGroups) : List Element :=
  groups.map fun (id, parameters) => ⟨.text id, parameters⟩

end ParameterGroups

namespace Record

/-- The message of a record whose type has the given field map. -/
def toMessage (origin : Origin) (map : FieldMap) (record : Record) : Except Fault Message := do
  let timestamp ← map.timeRole record origin.now
  let severity ← map.integerRole record map.severityField map.severityDefault.code
  let facility ← map.integerRole record map.facilityField map.facilityDefault.code
  let hostname ← map.textRole record map.hostnameField origin.identity.hostname
  let appName ← map.textRole record map.appNameField map.appNameDefault
  let processId ← map.textRole record map.processIdField origin.identity.processId
  let messageId ← map.textRole record map.messageIdField map.messageIdDefault
  let parameters ← map.parameters record
  let body ← map.body record
  return {
    timestamp, severity, facility, hostname, appName, processId, messageId, body
    structuredData := (ParameterGroups.ofList parameters).elements }

end Record

/-- The name of a type has a UTF-8 form, and no null character in it. -/
def checkTypeName (name : Text) : Except Fault Unit :=
  match name.surrogateRun? with
  | some run => .error (.surrogates run)
  | none => if name.any (·.val == 0) then .error .nullCharacter else .ok ()

/-- What can be asked for its field map. -/
inductive Classifier
  | record (type : RecordType)
  | value (value : Value)
  /-- A record where its type is asked for. -/
  | recordItself (record : Record)
  /-- Anything else, by its quoted form. -/
  | other (quoted : Text)

namespace Classifier

def reflect (identity : Identity) : Classifier → Except ConfigurationFault FieldMap
  | .record type => (type.reflect identity).mapError .declaration
  | .value found => .error (.valueForType found)
  | .recordItself found => .error (.recordForType found)
  | .other quoted => .error (.notARecordType quoted)

/-- A class by its qualified name, which stands between apostrophes as it is. -/
def ofClass (name : Text) : Classifier :=
  .other (Text.ofString "<class '" ++ name ++ Text.ofString "'>")

end Classifier

/-- What can be passed as a record. -/
inductive Subject
  | record (record : Record)
  /-- An instance of a class that declares no fields. -/
  | plain (className : Text)
  | value (value : Value)

/-- A record without fields. -/
def Record.bare (typeName : Text) : Record := ⟨⟨typeName, [], .nil⟩, [], rfl⟩

/-- The class of a subject. -/
def Subject.classifier : Subject → Classifier
  | .record found => .record found.type
  | .plain className => .ofClass className
  | .value found => .ofClass found.qualifiedName

/-- The message of a subject, given the field map of its class.  Without declared fields, all
roles take their defaults. -/
def Subject.toMessage (origin : Origin) (map : FieldMap) : Subject → Except Fault Message
  | .record found => found.toMessage origin map
  | .plain className => (Record.bare className).toMessage origin map
  | .value found => (Record.bare found.kindName).toMessage origin map

/-- The octets of a subject whose class is reflected just for it. -/
def Subject.marshal (origin : Origin) (allowLong : Bool) (subject : Subject) :
    Except Fault Bytes := do
  let map ← (subject.classifier.reflect origin.identity).mapError Fault.configuration
  let message ← subject.toMessage origin map
  (message.marshal allowLong).mapError Fault.invalid

end Syslog
