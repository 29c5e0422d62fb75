import Syslog.Level.Threshold
import Syslog.Message.Check
import Syslog.Record.Instance
import Syslog.Template.Fault
import Syslog.Value.Json

namespace Syslog

/-!
Everything that can go wrong, and how it is worded.
-/

/-- What a field that supplies a role has to hold. -/
inductive RoleKind
  | integer
  | text
  | time
  | body
deriving DecidableEq

def RoleKind.description : RoleKind → Text
  | .integer => "an int"
  | .text => "a str"
  | .time => "a datetime or int nanoseconds"
  | .body => "str or bytes"

/-- A type, a record or a set-up that is declared wrongly. -/
inductive ConfigurationFault
  | declaration (fault : DeclarationFault)
  | notARecordType (quoted : Text)
  | valueForType (value : Value)
  | recordForType (record : Record)
  | roleKind (typeName fieldName : Text) (expected : RoleKind) (kindName : Text)
  | rendererHeader (name : Text) (limit : Nat) (value : Value)
  | rendererElementId (value : Value)
  | unknownFacility (name : Text)

inductive Fault
  | invalid (fault : InvalidValue)
  | configuration (fault : ConfigurationFault)
  | surrogates (run : SurrogateRun)
  | json (fault : JsonFault)
  | words (fault : WordsFault)
  | template (fault : TemplateFault)
  | operands (fault : OperandFault)
  | unhashable (kindName : Text)
  | missingKey (key : Value)
  /-- A value without parts where parts are counted. -/
  | noLength (value : Value)
  /-- A value that lacks what is asked of it by name. -/
  | lacks (value : Value) (name : Text)
  /-- Something that is not a text where a name is looked up. -/
  | nameKind (value : Value)
  /-- Something that is not a text where only a text will do. -/
  | textRequired (value : Value)
  /-- Something that is not a text behind one. -/
  | notJoinable (value : Value)
  /-- The name of a type with a null character in it. -/
  | nullCharacter
  /-- A path to a file that cannot be written to. -/
  | missingFile (path : Text)
  /-- Another number of values than a record of the type has. -/
  | valueCount (type : RecordType) (given : Nat)
  /-- A keyword that is not a text. -/
  | keywordKind
  /-- A keyword for what a procedure has been given by position. -/
  | keywordTaken (procedure keyword : Text)

/-- Texts put together. -/
private def sentence (parts : List Text) : Text := parts.flatten

def InvalidValue.message (fault : InvalidValue) : Text :=
  sentence ["Message cannot be serialized because ", fault.property.name, " is invalid: ",
    fault.value.quoted]

namespace DeclarationFault

/-- The field, as it is named in messages. -/
def place (fault : DeclarationFault) : Text :=
  fault.typeName ++ CodePoint.ofChar '.' :: fault.fieldName

/-- The demand on a text of a header field. -/
def headerDemand (limit : Nat) : Text :=
  sentence [" must be at most ", Text.ofNat limit, " printable US-ASCII characters, got "]

def message (fault : DeclarationFault) : Text :=
  let inTag : Text := sentence [" in log tag of ", fault.place]
  match fault.cause with
  | .unknownSeverity tag => sentence ["unknown severity ", tag.quoted, inTag]
  | .unknownFacility tag => sentence ["unknown facility ", tag.quoted, inTag]
  | .headerDefault limit tag =>
    sentence ["log tag of ", fault.place, headerDemand limit, tag.quoted]
  | .elementId value => sentence ["invalid SD-ID ", value.quoted, inTag]
  | .parameterName value => sentence ["invalid parameter name ", value.quoted, inTag]
  | .unknownAttributes words =>
    sentence ["unknown log tag attributes ", bracketed '[' ']' (words.map Text.quoted), " on ",
      fault.place]
  | .unknownAttribute word =>
    sentence ["unknown log tag attribute ", word.quoted, " on ", fault.place]
  | .kind kindName =>
    sentence ["log tag of ", fault.place, " must be a string, got ", kindName]

end DeclarationFault

def ConfigurationFault.message : ConfigurationFault → Text
  | .declaration fault => fault.message
  | .notARecordType quoted => sentence ["record type must be a dataclass, got ", quoted]
  | .valueForType value => sentence ["record type must be a dataclass, got ", value.quoted]
  | .recordForType record => sentence ["record type must be a dataclass, got ", record.quoted]
  | .roleKind typeName fieldName expected kindName =>
    sentence [typeName, ".", fieldName, " must be ", expected.description, ", got ", kindName]
  | .rendererHeader name limit value =>
    sentence [name, DeclarationFault.headerDemand limit, value.quoted]
  | .rendererElementId value => sentence ["sd_id must be a valid SD-NAME, got ", value.quoted]
  | .unknownFacility name => sentence ["Unknown SYSLOG_FACILITY: ", name.quoted]

/-- One surrogate is named, of several the first and the last place. -/
def SurrogateRun.message (run : SurrogateRun) : Text :=
  let place :=
    if run.length = 1 then
      sentence ["character '", run.first.numericEscape, "' in position ", Text.ofNat run.start]
    else
      sentence ["characters in position ", Text.ofNat run.start, "-",
        Text.ofNat (run.start + run.length - 1)]
  sentence ["'utf-8' codec can't encode ", place, ": surrogates not allowed"]

def JsonFault.message : JsonFault → Text
  | .integerRange => "Integer exceeds 64-bit range"
  | .surrogates => "str is not valid UTF-8: surrogates not allowed"
  | .keyKind => "Dict key must be str"
  | .tooDeep => "Recursion limit reached"
  | .wordless kindName => sentence ["Type is not JSON serializable: ", kindName]

def WordsFault.message : WordsFault → Text
  | .tooDeep => "maximum recursion depth exceeded while getting the repr of an object"
  | .tooManyDigits =>
    sentence ["Exceeds the limit (", Text.ofNat digitLimit,
      " digits) for integer string conversion; use sys.set_int_max_str_digits() to increase the ",
      "limit"]

namespace TemplateFault

/-- How a value with parts refuses a key that is no number. -/
def refusal (container key : Value) : Text :=
  let indices (name : Text) : Text :=
    sentence [name, " indices must be integers or slices, not ", key.kindName]
  match container with
  | .octets .fixed _ => indices "byte"
  | .octets .view _ => "memoryview: invalid slice key"
  | other => indices other.kindName

/-- The letter in messages: in texts only where it is printable, in octets as it is. -/
def shownConversion (form : TemplateForm) (conversion : CodePoint) : CodePoint :=
  if form = .octets ∨ (31 ≤ conversion.val ∧ conversion.val ≤ 126) then conversion else '?'

def message : TemplateFault → Text
  | .notEnoughArguments => "not enough arguments for format string"
  | .argumentsLeftOver form =>
    sentence ["not all arguments converted during ", form.productName, " formatting"]
  | .mappingRequired => "format requires a mapping"
  | .missingKey key => key.quoted
  | .keyKind container key => refusal container key
  | .starInteger => "* wants int"
  | .characterRequired => "%c requires int or char"
  | .characterRange => "%c arg not in range(0x110000)"
  | .octetRequired => "%c requires an integer in range(256) or a single byte"
  | .octetRange => "%c arg not in range(256)"
  | .octetsRequired kind =>
    sentence ["%b requires a bytes-like object, or an object that implements __bytes__, not '",
      kind, "'"]
  | .realRequired conversion kind =>
    sentence ["%", [conversion], " format: a real number is required, not ", kind]
  | .integerRequired conversion kind =>
    sentence ["%", [conversion], " format: an integer is required, not ", kind]
  | .floatRequired .text kind => sentence ["must be real number, not ", kind]
  | .floatRequired .octets kind => sentence ["float argument required, not ", kind]
  | .notANumberToInteger => "cannot convert float NaN to integer"
  | .infinityToInteger => "cannot convert float infinity to integer"
  | .integerTooLarge target => sentence ["Python int too large to convert to C ", target]
  | .integerToFloat => "int too large to convert to float"
  | .incomplete => "incomplete format"
  | .incompleteKey => "incomplete format key"
  | .widthTooBig => "width too big"
  | .precisionTooBig .text => "precision too big"
  | .precisionTooBig .octets => "prec too big"
  | .precisionTooLarge => "precision too large"
  | .unsupported form conversion index =>
    sentence ["unsupported format character '", [shownConversion form conversion], "' (0x",
      Text.hex 1 conversion.val, ") at index ", Text.ofNat index]
  | .conversionRange => "character argument not in range(0x110000)"
  | .outOfMemory => []
  | .words fault => fault.message

end TemplateFault

def OperandFault.message (fault : OperandFault) : Text :=
  sentence ["unsupported operand type(s) for ", fault.operator, ": '", fault.left.operandName,
    "' and '", fault.right.operandName, "'"]

namespace RecordType

/-- Names in a row, the last behind an "and". -/
def enumerated : List Text → Text
  | [] => []
  | [name] => name
  | [first, second] => sentence [first, " and ", second]
  | names => sentence [Text.joined ", " names.dropLast, ", and ", names.getLastD []]

/-- What is said of a number of values that is not that of the fields. -/
def countMessage (type : RecordType) (given : Nat) : Text :=
  let maker : Text := sentence [type.name, ".__init__()"]
  let declared := type.fields.length
  if declared < given then
    -- The record that is to be made counts as well.
    sentence [maker, " takes ", Text.ofNat (declared + 1),
      if declared = 0 then " positional argument but " else " positional arguments but ",
      Text.ofNat (given + 1), " were given"]
  else
    let missing := (type.fields.drop given).map fun declaration => declaration.name.quoted
    sentence [maker, " missing ", Text.ofNat missing.length,
      if missing.length = 1 then " required positional argument: "
      else " required positional arguments: ", enumerated missing]

end RecordType

namespace Fault

/-- The values that a message has to quote, in the order in which it does. -/
def quotedValues : Fault → List Value
  | .invalid fault => [fault.value]
  | .configuration (.valueForType value) => [value]
  | .configuration (.recordForType record) => record.values
  | .configuration (.rendererHeader _ _ value) => [value]
  | .configuration (.rendererElementId value) => [value]
  | _ => []

/-- What is to be reported instead, because a value in the message cannot be put into words. -/
def wordsFault? : Fault → Option WordsFault
  | .words fault => some fault
  | .template (.words fault) => some fault
  | fault => fault.quotedValues.findSome? Value.wordsFault?

/-- The words for a fault whose values can all be quoted. -/
def wording : Fault → Text
  | .invalid fault => fault.message
  | .configuration fault => fault.message
  | .surrogates run => run.message
  | .json fault => fault.message
  | .words fault => fault.message
  | .template fault => fault.message
  | .operands fault => fault.message
  | .unhashable kindName => sentence ["unhashable type: '", kindName, "'"]
  | .missingKey key => key.quoted
  | .noLength value => sentence ["object of type '", value.operandName, "' has no len()"]
  | .lacks value name =>
    sentence ["'", value.operandName, "' object has no attribute '", name, "'"]
  | .nameKind value =>
    sentence ["attribute name must be string, not '", value.operandName, "'"]
  | .textRequired (.octets _ _) => "cannot use a string pattern on a bytes-like object"
  | .textRequired value =>
    sentence ["expected string or bytes-like object, got '", value.operandName, "'"]
  | .notJoinable value =>
    sentence ["can only concatenate str (not \"", value.operandName, "\") to str"]
  | .nullCharacter => "type name must not contain null characters"
  | .missingFile path => sentence ["[Errno 2] No such file or directory: ", path.quoted]
  | .valueCount type given => type.countMessage given
  | .keywordKind => "keywords must be strings"
  | .keywordTaken procedure keyword =>
    sentence [procedure, "() got multiple values for argument '", keyword, "'"]

def message (fault : Fault) : Text :=
  match fault.wordsFault? with
  | some obstacle => obstacle.message
  | none => fault.wording

end Fault

namespace Value

/-- The text of a value that must be one. -/
def requireText (value : Value) : Except Fault Text :=
  match value with
  | .text content => .ok content
  | other => .error (.textRequired other)

/-- The text of a value that goes behind another text. -/
def joinable (value : Value) : Except Fault Text :=
  match value with
  | .text content => .ok content
  | other => .error (.notJoinable other)

/-- What is known under a keyword.  Octets can be trimmed like a text, but none is a keyword. -/
def lookUp (find? : Text → Option α) (keyword : Value) : Except Fault (Option α) :=
  match keyword with
  | .text content => .ok (find? content)
  | .octets .fixed _ => .ok none
  | .octets .growable _ => .error (.unhashable keyword.kindName)
  | other => .error (.lacks other "strip")

/-- The meaning of the name of a level.  Octets have an upper case like a text, but no meaning. -/
def levelMeaning (name : Value) : Except Fault Level.Meaning :=
  match name with
  | .text content => .ok (Level.ofName content)
  | .octets .view _ => .error (.lacks name "upper")
  | .octets _ _ => .error (.nameKind name)
  | other => .error (.lacks other "upper")

end Value

end Syslog
