import Syslog.Record.FieldMap
import Syslog.Message.Wire
import Syslog.Value.Basic
import Syslog.Text.Digit

namespace Syslog

/-!
Deriving the field map of a record type from its fields and their tags.

Fields with the name of a role fill that role, and their tag gives its default.  The field
`sd_id` gives the element for the parameters declared after it.  Every other field that is
public or tagged becomes a parameter, where the tag has the form

    [digits@token[ name] | name][,attribute]...

and the only attributes are `omitempty` and, alone and without a name, `message`.
-/

/-- What can be wrong with the tag of a field. -/
inductive TagFault
  | unknownSeverity (tag : Text)
  | unknownFacility (tag : Text)
  | headerDefault (limit : Nat) (tag : Text)
  | elementId (value : Text)
  | parameterName (value : Text)
  | unknownAttributes (words : List Text)
  | unknownAttribute (word : Text)
  | kind (kindName : Text)
deriving DecidableEq

/-- A tag at fault, with the field that has it. -/
structure DeclarationFault where
  typeName : Text
  fieldName : Text
  cause : TagFault
deriving DecidableEq

/-- The field names that stand for roles, and the one that gives the element. -/
inductive Role
  | severity
  | facility
  | timestamp
  | hostname
  | appName
  | processId
  | messageId
  | body
  | elementId
deriving DecidableEq

def Role.names : List (Text × Role) :=
  [("severity", .severity), ("facility", .facility), ("timestamp", .timestamp),
    ("hostname", .hostname), ("app_name", .appName), ("process_id", .processId),
    ("message_id", .messageId), ("message", .body), ("sd_id", .elementId)]

def Role.ofName? (name : Text) : Option Role := names.lookup name

namespace Tag

/--
Reads `digits@token`, optionally followed by a space and a name on the same line.  The digits
may be those of any script, and the token is anything without blanks.
-/
def elementAndName? (text : Text) : Option (Text × Option Text) :=
  let (digits, afterDigits) := text.span CodePoint.isDecimal
  match afterDigits with
  | [] => none
  | mark :: rest =>
    let (token, afterToken) := rest.span (!·.isBlank)
    if digits.isEmpty || token.isEmpty || mark != .ofChar '@' then none
    else
      match afterToken with
      | [] => some (digits ++ mark :: token, none)
      | blank :: name =>
        if blank = .ofChar ' ' ∧ ¬ name.contains (.ofChar '\n') then
          some (digits ++ mark :: token, some name)
        else none

/-- The first character in lower case. -/
def derivedName : Text → Text
  | [] => []
  | first :: rest => first.lower ++ rest

/-- The element and the parameter that the part of a tag before the attributes asks for. -/
def target (elementId fieldName namePart : Text) : Text × Text :=
  let (elementId, name) := match elementAndName? namePart with
    | some (own, name) => (own, name.getD [])
    | none => (elementId, namePart)
  (elementId, if name.isEmpty then derivedName fieldName else name)

def omitEmptyWord : Text := "omitempty"
def bodyWord : Text := "message"

/-- Whether the attributes ask to leave out empty values; they know no other word. -/
def omitEmpty? (attributes : List Text) : Except TagFault Bool :=
  match attributes.find? (· != omitEmptyWord) with
  | some unknown => .error (.unknownAttribute unknown)
  | none => .ok !attributes.isEmpty

def headerDefault (limit : Nat) (tag : Text) : Except TagFault Text :=
  if tag.isPrintUsAscii && tag.length ≤ limit then .ok tag
  else .error (.headerDefault limit tag)

/-- A name of any length; the cap is left to encoding, where it may be lifted. -/
def name (fault : Text → TagFault) (text : Text) : Except TagFault Text :=
  if text.isName true then .ok text else .error (fault text)

end Tag

namespace FieldMap

/-- A field that has the name of a role. -/
def addRole (map : FieldMap) (spec : FieldSpec) (role : Role) : Except TagFault FieldMap :=
  let field := some spec.name
  let tag := spec.tag
  match role with
  | .severity =>
    if tag.isEmpty then .ok { map with severityField := field }
    else
      match Severity.ofKeyword? tag with
      | some severity => .ok { map with severityField := field, severityDefault := severity }
      | none => .error (.unknownSeverity tag)
  | .facility =>
    if tag.isEmpty then .ok { map with facilityField := field }
    else
      match Facility.ofKeyword? tag with
      | some facility => .ok { map with facilityField := field, facilityDefault := facility }
      | none => .error (.unknownFacility tag)
  | .timestamp => .ok { map with timestampField := field }
  | .hostname => .ok { map with hostnameField := field }
  | .processId => .ok { map with processIdField := field }
  | .body => .ok { map with bodyField := field }
  | .appName =>
    if tag.isEmpty then .ok { map with appNameField := field }
    else do
      let appNameDefault ← Tag.headerDefault appNameLimit tag
      return { map with appNameField := field, appNameDefault }
  | .messageId =>
    if tag.isEmpty then .ok { map with messageIdField := field }
    else do
      let messageIdDefault ← Tag.headerDefault messageIdLimit tag
      return { map with messageIdField := field, messageIdDefault }
  | .elementId =>
    if tag.isEmpty then .ok map
    else do
      let elementIdDefault ← Tag.name TagFault.elementId tag
      return { map with elementIdDefault }

/-- The element for a parameter that names none. -/
def currentElementId (map : FieldMap) : Text :=
  if map.elementIdDefault.isEmpty then defaultElementId else map.elementIdDefault

/-- A field that is written as a parameter, or that is the body by its tag. -/
def addParameter (map : FieldMap) (spec : FieldSpec) : Except TagFault FieldMap :=
  let (namePart, attributes) := Text.parts ',' spec.tag
  if namePart.isEmpty && attributes.head? == some Tag.bodyWord then
    match attributes.drop 1 with
    | [] => .ok { map with bodyField := some spec.name }
    | more => .error (.unknownAttributes more)
  else do
    let (elementId, name) := Tag.target map.currentElementId spec.name namePart
    let elementId ← Tag.name TagFault.elementId elementId
    let name ← Tag.name TagFault.parameterName name
    let omitEmpty ← Tag.omitEmpty? attributes
    let field := { field := spec.name, elementId, name, omitEmpty }
    return { map with parameterFields := map.parameterFields ++ [field] }

/-- One more field. -/
def add (map : FieldMap) (spec : FieldSpec) : Except TagFault FieldMap :=
  match Role.ofName? spec.name with
  | some role => map.addRole spec role
  | none => if spec.tag.isEmpty && !spec.isPublic then .ok map else map.addParameter spec

/-- One more field, where a fault is reported with the field. -/
def addField (map : FieldMap) (spec : FieldSpec) : Except DeclarationFault FieldMap :=
  (map.add spec).mapError fun cause => ⟨map.recordType, spec.name, cause⟩

/-- The field map of a type with the given fields. -/
def ofFields (identity : Identity) (typeName : Text) (fields : List FieldSpec) :
    Except DeclarationFault FieldMap :=
  fields.foldlM addField (empty identity typeName)

/-- What is logged about a map that has been derived. -/
def summary (map : FieldMap) : Text :=
  Text.ofString "Reflected record type " ++ map.recordType ++ Text.ofString ": " ++
    Text.ofNat map.parameterFields.length ++ Text.ofString " structured-data field(s)"

end FieldMap

/-- A field as it is declared; its tag may be anything. -/
structure FieldDeclaration where
  name : Text
  tag : Option Value := none

/-- A type that declares fields, no two of them with the same name. -/
structure RecordType where
  name : Text
  fields : List FieldDeclaration
  distinct : (fields.map FieldDeclaration.name).Nodup

/-- A field whose name starts with an underscore is not public. -/
def FieldDeclaration.spec (typeName : Text) (declaration : FieldDeclaration) :
    Except DeclarationFault FieldSpec :=
  let isPublic := declaration.name.head? != some (.ofChar '_')
  match declaration.tag with
  | none => .ok { name := declaration.name, isPublic }
  | some (.text tag) => .ok { name := declaration.name, tag, isPublic }
  | some other => .error ⟨typeName, declaration.name, .kind other.kindName⟩

/-- The field map of a record type.  All tags must be texts before any of them is read. -/
def RecordType.reflect (identity : Identity) (type : RecordType) :
    Except DeclarationFault FieldMap := do
  let fields ← type.fields.mapM (FieldDeclaration.spec type.name)
  FieldMap.ofFields identity type.name fields

end Syslog
