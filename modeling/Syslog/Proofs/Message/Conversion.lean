import Syslog.Proofs.Message.Decoded
import Syslog.Proofs.Message.Reading
import Syslog.Settings
import Syslog.Value.Shown

namespace Syslog

/-!
# Converting a message without its checked form

A checked message is written without any conversion that could fail, since its parts carry what the
writing needs.  Here the same line is put together from the message itself, whose parts may hold
anything, and every conversion that is not defined on all values fails in its own way
(`ConversionFault`): the arithmetic of the priority, the time, the escaping of what is not a text,
UTF-8 of the whole text, and the octets of the body.

No conversion fails on a message that passes the check, and what comes out are the octets of the
checked form (`Message.Carries.convert_eq`).  So the check is as strict as the encoder needs, and
encoding fails exactly when it does (`Message.marshal_fails_exactly_as_validate`).
-/

/-- What can go wrong when a line is put together from parts that nobody has checked. -/
inductive ConversionFault
  | operands (fault : OperandFault)
  | timestamp (invalid : InvalidValue)
  | notText (value : Value)
  | surrogates (run : SurrogateRun)
  | notOctets (value : Value)

/-- A field of the header as it is displayed, where an empty value counts as absent. -/
def Value.shownOrNil (value : Value) : Text := if value.isEmpty then nilValue else value.shown

/-- Only texts can be escaped; a name is displayed whatever it is. -/
def Parameter.convert (parameter : Parameter) : Except ConversionFault Text :=
  match parameter.value with
  | .text content =>
    .ok (CodePoint.ofChar ' ' :: parameter.name.shown ++ Text.ofString "=\"" ++
      content.escaped ++ [CodePoint.ofChar '"'])
  | other => .error (.notText other)

def Element.convert (element : Element) : Except ConversionFault Text := do
  let parameters ← element.parameters.mapM Parameter.convert
  return CodePoint.ofChar '[' :: element.id.shown ++ parameters.flatten ++ [CodePoint.ofChar ']']

/-- The space and the octets behind it, unless the body is empty. -/
def Value.convertBody (body : Value) : Except ConversionFault Bytes :=
  if body.isEmpty then .ok []
  else
    match body.octets? with
    | some content => .ok (octet ' ' :: content)
    | none => .error (.notOctets body)

namespace Message

/-- All that stands before the body and the space in front of it, not yet encoded. -/
def convertHead (message : Message) : Except ConversionFault Text := do
  let priority ← message.priority.mapError .operands
  let timestamp ← (Timestamp.format message.timestamp).mapError .timestamp
  let elements ← message.structuredData.mapM Element.convert
  return Text.joined " " [
    CodePoint.ofChar '<' :: Text.ofInt priority ++ Text.ofString ">1",
    timestamp,
    message.hostname.shownOrNil,
    message.appName.shownOrNil,
    message.processId.shownOrNil,
    message.messageId.shownOrNil,
    if message.structuredData.isEmpty then nilValue else elements.flatten]

/-- The octets of a message that has not been checked. -/
def convert (message : Message) : Except ConversionFault Bytes := do
  let head ← message.convertHead
  let octets ← head.encode.mapError .surrogates
  let ending ← message.body.convertBody
  return octets ++ ending

end Message

/-! ## Conversions of checked parts -/

theorem WireParameter.convert_eq (wire : WireParameter) :
    wire.parameter.convert = .ok wire.written := rfl

theorem WireElement.convert_eq (wire : WireElement) :
    wire.element.convert = .ok wire.written := by
  rw [Element.convert, element, mapM_map_eq_ok WireParameter.convert_eq]
  change Except.ok _ = _
  rw [written, ← List.flatMap_def]
  rfl

theorem Value.convertBody_eq {body : Value} {content : Bytes}
    (found : body.octets? = some content) :
    body.convertBody = .ok (WireMessage.ending content) := by
  cases body with
  | octets kind octets =>
      cases found
      cases content <;> rfl
  | _ => cases found

namespace Message

variable {allowLong : Bool} {message : Message} {wire : WireMessage}

theorem Carries.convertHead_eq (carries : message.Carries allowLong wire) :
    message.convertHead = .ok wire.head := by
  have timestamp : Timestamp.format message.timestamp = .ok wire.timestamp.written :=
    Timestamp.format_eq_ok_iff.mpr ⟨_, carries.timestamp, rfl⟩
  rw [convertHead, carries.priority_eq, timestamp, carries.structuredData,
    mapM_map_eq_ok WireElement.convert_eq, carries.hostname, carries.appName, carries.processId,
    carries.messageId, WireMessage.head, WireMessage.writtenData, List.flatMap_def]
  change Except.ok _ = _
  rw [List.isEmpty_map]
  rfl

/-- No conversion fails on a message that passes. -/
theorem Carries.convert_eq (carries : message.Carries allowLong wire) :
    message.convert = .ok wire.encode := by
  have encoded : wire.head.encode = .ok wire.head.utf8 :=
    Text.encode_eq_ok_iff.mpr ⟨wire.isEncodable_head, rfl⟩
  rw [convert, carries.convertHead_eq, Value.convertBody_eq carries.body, ok_bind, encoded]
  rfl

end Message

/-- All that stands before the body, the space in front of it included, is well-formed. -/
theorem WireMessage.exists_front (wire : WireMessage) :
    ∃ front, Utf8.WellFormed front ∧ wire.encode = front ++ wire.body := by
  rw [encode]
  cases wire.body with
  | nil => exact ⟨_, Utf8.wellFormed_iff.mpr ⟨_, wire.isEncodable_head, rfl⟩, rfl⟩
  | cons first rest =>
      have encodable : (wire.head ++ [CodePoint.ofChar ' ']).isEncodable = true := by
        rw [Text.isEncodable_append, wire.isEncodable_head]
        rfl
      refine ⟨_, Utf8.wellFormed_iff.mpr ⟨_, encodable, rfl⟩, ?_⟩
      rw [Text.utf8_append, List.append_assoc]
      rfl

namespace Message

/-- Encoding fails exactly when the check fails, and with the same fault.  If the check passes, no
conversion of any part fails, and all octets before those of the body are well-formed UTF-8. -/
theorem marshal_fails_exactly_as_validate (settings : Settings) (choice : Option Bool)
    (message : Message) :
    let allowLong := settings.longNames choice
    (message.validate allowLong = .ok () → ∃ front body,
      message.body.octets? = some body ∧ Utf8.WellFormed front ∧
        message.convert = .ok (front ++ body) ∧
        message.marshal allowLong = .ok (front ++ body)) ∧
    ∀ invalid, message.validate allowLong = .error invalid ↔
      message.marshal allowLong = .error invalid := by
  intro allowLong
  constructor
  · intro accepted
    rcases validate_eq_ok_iff.mp accepted with ⟨wire, carries⟩
    rcases wire.exists_front with ⟨front, wellFormed, encoded⟩
    refine ⟨front, wire.body, carries.body, wellFormed, ?_, ?_⟩
    · rw [carries.convert_eq, encoded]
    · exact marshal_eq_ok_iff.mpr ⟨wire, carries, encoded⟩
  · intro invalid
    rw [validate, marshal, map_eq_error_iff, map_eq_error_iff]

/-- A value that has to be escaped, a long name, and a body that is no UTF-8 itself. -/
theorem marshal_fails_exactly_as_validate_of_long_name :
    let name : Text := List.replicate 40 (CodePoint.ofChar 'n')
    let message : Message := {
      timestamp := .int 1500000000
      structuredData := [⟨.text "a", [⟨.text name, .text "x\"]"⟩]⟩]
      body := .octets .view [0xFF] }
    (∃ front body, message.body.octets? = some body ∧ Utf8.WellFormed front ∧
      message.convert = .ok (front ++ body) ∧ message.marshal true = .ok (front ++ body)) ∧
    message.marshal false = .error ⟨.parameterName, .text name⟩ := by
  intro name message
  constructor
  · exact (marshal_fails_exactly_as_validate ⟨true⟩ none message).1 rfl
  · exact ((marshal_fails_exactly_as_validate ⟨true⟩ (some false) message).2 _).mp rfl

end Message

end Syslog
