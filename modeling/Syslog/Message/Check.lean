import Syslog.Message.Basic
import Syslog.Message.Wire

namespace Syslog

/-!
Checking a message against RFC 5424.

The parts are looked at in a fixed order, and the first that does not keep to its constraint is
reported.  A message that passes is handed on as a `WireMessage`.
-/

/-- A part of a message that has a constraint. -/
inductive Property
  | severity
  | facility
  | timestamp
  | hostname
  | appName
  | processId
  | messageId
  | elementId
  | parameterName
  | parameterValue
  | body
deriving DecidableEq

def Property.name : Property → Text
  | .severity => "Severity"
  | .facility => "Facility"
  | .timestamp => "Timestamp"
  | .hostname => "Hostname"
  | .appName => "AppName"
  | .processId => "ProcessID"
  | .messageId => "MessageID"
  | .elementId => "StructuredData/ID"
  | .parameterName => "StructuredData/Name"
  | .parameterValue => "StructuredData/Value"
  | .body => "Message"

/-- A part of a message that holds a value it may not hold. -/
structure InvalidValue where
  property : Property
  value : Value

namespace Timestamp

def ofDateTime (dateTime : DateTime) : Timestamp where
  dateTime
  nanoseconds := dateTime.clock.microsecond * 1000
  nanoseconds_lt := by
    have := dateTime.clock.microsecond_lt
    omega

/-- The UTC time of a number of nanoseconds from the epoch, within the calendar's years. -/
def ofNanoseconds? (nanoseconds : Int) : Option Timestamp :=
  (DateTime.ofSeconds? (nanoseconds.fdiv 1000000000)).map fun dateTime => {
    dateTime
    nanoseconds := (nanoseconds.fmod 1000000000).toNat
    nanoseconds_lt := by
      have := Int.fmod_lt_of_pos nanoseconds (show (0 : Int) < 1000000000 by decide)
      omega }

/-- A time, or an integer number of nanoseconds from the epoch. -/
def ofValue? : Value → Option Timestamp
  | .time dateTime => some (ofDateTime dateTime)
  | .int nanoseconds => ofNanoseconds? nanoseconds
  | _ => none

/-- The written form of a timestamp of any kind. -/
def format (value : Value) : Except InvalidValue Text :=
  match ofValue? value with
  | some timestamp => .ok timestamp.written
  | none => .error ⟨.timestamp, value⟩

end Timestamp

/-- An integer from zero to `greatest`. -/
def Value.code? (greatest : Nat) (value : Value) : Option { code : Nat // code ≤ greatest } :=
  match value with
  | .int (.ofNat code) => if h : code ≤ greatest then some ⟨code, h⟩ else none
  | _ => none

def Token.ofValue? (limit : Nat) (value : Value) : Option (Token limit) :=
  match value with
  | .text text =>
    if h : text.isPrintUsAscii = true ∧ text.length ≤ limit then some ⟨text, h.1, h.2⟩
    else none
  | _ => none

theorem Text.isName_of_isName {allowLong : Bool} {text : Text}
    (valid : text.isName allowLong = true) : text.isName true = true := by
  simp only [Text.isName, Bool.and_eq_true, Bool.true_or, true_and] at valid ⊢
  exact ⟨valid.1.2, valid.2⟩

def Name.ofValue? (allowLong : Bool) (value : Value) : Option Name :=
  match value with
  | .text text =>
    if h : text.isName allowLong = true then some ⟨text, Text.isName_of_isName h⟩ else none
  | _ => none

def EncodableText.ofValue? (value : Value) : Option EncodableText :=
  match value with
  | .text text => if h : text.isEncodable = true then some ⟨text, h⟩ else none
  | _ => none

/-- Takes the checked form of a part, or reports the part. -/
def Value.checked (property : Property) (read? : Value → Option α) (value : Value) :
    Except InvalidValue α :=
  match read? value with
  | some part => .ok part
  | none => .error ⟨property, value⟩

namespace Parameter

def check (allowLong : Bool) (parameter : Parameter) : Except InvalidValue WireParameter := do
  let name ← parameter.name.checked .parameterName (Name.ofValue? allowLong)
  let value ← parameter.value.checked .parameterValue EncodableText.ofValue?
  return ⟨name, value⟩

end Parameter

namespace Element

def check (allowLong : Bool) (element : Element) : Except InvalidValue WireElement := do
  let id ← element.id.checked .elementId (Name.ofValue? allowLong)
  let parameters ← element.parameters.mapM (Parameter.check allowLong)
  return ⟨id, parameters⟩

end Element

namespace Message

def check (allowLong : Bool) (message : Message) : Except InvalidValue WireMessage := do
  let severity ← message.severity.checked .severity (Value.code? 8)
  let facility ← message.facility.checked .facility (Value.code? 23)
  let timestamp ← message.timestamp.checked .timestamp Timestamp.ofValue?
  let hostname ← message.hostname.checked .hostname (Token.ofValue? hostnameLimit)
  let appName ← message.appName.checked .appName (Token.ofValue? appNameLimit)
  let processId ← message.processId.checked .processId (Token.ofValue? processIdLimit)
  let messageId ← message.messageId.checked .messageId (Token.ofValue? messageIdLimit)
  let structuredData ← message.structuredData.mapM (Element.check allowLong)
  let body ← message.body.checked .body Value.octets?
  return {
    timestamp, hostname, appName, processId, messageId, structuredData, body
    severity := severity.1
    facility := facility.1
    severity_le := severity.2
    facility_le := facility.2 }

/-- Whether a message passes, without its checked form. -/
def validate (allowLong : Bool) (message : Message) : Except InvalidValue Unit :=
  (message.check allowLong).map fun _ => ()

/-- The octets of a message that passes. -/
def marshal (allowLong : Bool) (message : Message) : Except InvalidValue Bytes :=
  (message.check allowLong).map WireMessage.encode

end Message

end Syslog
