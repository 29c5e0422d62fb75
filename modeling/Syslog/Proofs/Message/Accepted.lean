import Syslog.Message.Check
import Syslog.Proofs.Outcome

namespace Syslog

/-!
# What the check of a message accepts

A message that passes is handed on as a `WireMessage`.  The two say the same thing: each part
of the message is the value of the checked part, and the only thing that the checked form does
not remember is whether the names keep to the cap.  So the check is inverted once and for all
(`Message.check_eq_ok_iff`), and what is said about accepted messages elsewhere never looks
into it again.
-/

variable {allowLong : Bool}

/-! ## The readers -/

theorem Value.checked_eq_ok_iff {property : Property} {read? : Value → Option α} {value : Value}
    {part : α} : value.checked property read? = .ok part ↔ read? value = some part := by
  rw [Value.checked]
  cases read? value with
  | none => simp
  | some found => simp

theorem Value.code?_eq_some_iff {greatest : Nat} {value : Value}
    {code : { code : Nat // code ≤ greatest }} :
    value.code? greatest = some code ↔ value = .int code.1 := by
  constructor
  · intro found
    cases value with
    | int number =>
        cases number with
        | ofNat number =>
            simp only [code?] at found
            split at found
            · cases found
              rfl
            · cases found
        | negSucc _ => cases found
    | _ => cases found
  · rintro rfl
    rcases code with ⟨number, inside⟩
    exact dif_pos inside

theorem Token.ofValue?_eq_some_iff {limit : Nat} {value : Value} {token : Token limit} :
    ofValue? limit value = some token ↔ value = .text token.text := by
  constructor
  · intro found
    cases value with
    | text text =>
        simp only [ofValue?] at found
        split at found
        · cases found
          rfl
        · cases found
    | _ => cases found
  · rintro rfl
    rcases token with ⟨text, printable, short⟩
    exact dif_pos ⟨printable, short⟩

theorem Name.ofValue?_eq_some_iff {value : Value} {name : Name} :
    ofValue? allowLong value = some name ↔
      value = .text name.text ∧ name.text.isName allowLong = true := by
  constructor
  · intro found
    cases value with
    | text text =>
        simp only [ofValue?] at found
        split at found
        · next within =>
            cases found
            exact ⟨rfl, within⟩
        · cases found
    | _ => cases found
  · rintro ⟨rfl, within⟩
    rcases name with ⟨text, valid⟩
    exact dif_pos within

theorem EncodableText.ofValue?_eq_some_iff {value : Value} {content : EncodableText} :
    ofValue? value = some content ↔ value = .text content.text := by
  constructor
  · intro found
    cases value with
    | text text =>
        simp only [ofValue?] at found
        split at found
        · cases found
          rfl
        · cases found
    | _ => cases found
  · rintro rfl
    rcases content with ⟨text, encodable⟩
    exact dif_pos encodable

theorem Timestamp.format_eq_ok_iff {value : Value} {text : Text} :
    format value = .ok text ↔
      ∃ timestamp, ofValue? value = some timestamp ∧ timestamp.written = text := by
  rw [format]
  cases ofValue? value <;> simp

/-! ## Parts of the structured data -/

namespace WireParameter

/-- The parameter as a caller would put it together. -/
def parameter (wire : WireParameter) : Parameter :=
  ⟨.text wire.name.text, .text wire.value.text⟩

end WireParameter

namespace WireElement

@[inherit_doc WireParameter.parameter]
def element (wire : WireElement) : Element :=
  ⟨.text wire.id.text, wire.parameters.map WireParameter.parameter⟩

/-- Whether the names of an element keep to the cap, unless it is lifted. -/
def NamesWithin (allowLong : Bool) (wire : WireElement) : Prop :=
  wire.id.text.isName allowLong = true ∧
    ∀ parameter ∈ wire.parameters, parameter.name.text.isName allowLong = true

end WireElement

theorem Parameter.check_eq_ok_iff (parameter : Parameter) (wire : WireParameter) :
    parameter.check allowLong = .ok wire ↔
      parameter = wire.parameter ∧ wire.name.text.isName allowLong = true := by
  rw [Parameter.check, bind_eq_ok_iff]
  constructor
  · rintro ⟨name, passed, more⟩
    rcases bind_eq_ok_iff.mp more with ⟨value, passedValue, same⟩
    cases same
    rcases parameter with ⟨nameValue, valueValue⟩
    rcases Name.ofValue?_eq_some_iff.mp (Value.checked_eq_ok_iff.mp passed) with ⟨rfl, within⟩
    cases EncodableText.ofValue?_eq_some_iff.mp (Value.checked_eq_ok_iff.mp passedValue)
    exact ⟨rfl, within⟩
  · rintro ⟨rfl, within⟩
    refine ⟨wire.name, ?_, bind_eq_ok_iff.mpr ⟨wire.value, ?_, rfl⟩⟩
    · exact Value.checked_eq_ok_iff.mpr (Name.ofValue?_eq_some_iff.mpr ⟨rfl, within⟩)
    · exact Value.checked_eq_ok_iff.mpr (EncodableText.ofValue?_eq_some_iff.mpr rfl)

theorem Element.check_eq_ok_iff (element : Element) (wire : WireElement) :
    element.check allowLong = .ok wire ↔ element = wire.element ∧ wire.NamesWithin allowLong := by
  rw [Element.check, bind_eq_ok_iff]
  constructor
  · rintro ⟨id, passed, more⟩
    rcases bind_eq_ok_iff.mp more with ⟨parameters, passedParameters, same⟩
    cases same
    rcases element with ⟨idValue, parameterValues⟩
    rcases Name.ofValue?_eq_some_iff.mp (Value.checked_eq_ok_iff.mp passed) with ⟨rfl, within⟩
    rcases (mapM_eq_ok_iff Parameter.check_eq_ok_iff).mp passedParameters with ⟨rfl, names⟩
    exact ⟨rfl, within, names⟩
  · rintro ⟨rfl, within, names⟩
    refine ⟨wire.id, ?_, bind_eq_ok_iff.mpr ⟨wire.parameters, ?_, rfl⟩⟩
    · exact Value.checked_eq_ok_iff.mpr (Name.ofValue?_eq_some_iff.mpr ⟨rfl, within⟩)
    · exact (mapM_eq_ok_iff Parameter.check_eq_ok_iff).mpr ⟨rfl, names⟩

namespace Message

/-- A message and its checked form, part by part. -/
structure Carries (allowLong : Bool) (message : Message) (wire : WireMessage) : Prop where
  severity : message.severity = .int wire.severity
  facility : message.facility = .int wire.facility
  timestamp : Timestamp.ofValue? message.timestamp = some wire.timestamp
  hostname : message.hostname = .text wire.hostname.text
  appName : message.appName = .text wire.appName.text
  processId : message.processId = .text wire.processId.text
  messageId : message.messageId = .text wire.messageId.text
  structuredData : message.structuredData = wire.structuredData.map WireElement.element
  namesWithin : ∀ element ∈ wire.structuredData, element.NamesWithin allowLong
  body : message.body.octets? = some wire.body

/-- The check accepts exactly the messages that a checked form stands for. -/
theorem check_eq_ok_iff {message : Message} {wire : WireMessage} :
    message.check allowLong = .ok wire ↔ message.Carries allowLong wire := by
  simp only [check, bind_eq_ok_iff, Value.checked_eq_ok_iff, Value.code?_eq_some_iff,
    Token.ofValue?_eq_some_iff, mapM_eq_ok_iff Element.check_eq_ok_iff]
  constructor
  · rintro ⟨severity, isSeverity, facility, isFacility, timestamp, isTimestamp, hostname,
      isHostname, appName, isAppName, processId, isProcessId, messageId, isMessageId, data,
      ⟨isData, within⟩, body, isBody, same⟩
    cases same
    exact ⟨isSeverity, isFacility, isTimestamp, isHostname, isAppName, isProcessId, isMessageId,
      isData, within, isBody⟩
  · intro carries
    exact ⟨⟨wire.severity, wire.severity_le⟩, carries.severity,
      ⟨wire.facility, wire.facility_le⟩, carries.facility,
      wire.timestamp, carries.timestamp, wire.hostname, carries.hostname,
      wire.appName, carries.appName, wire.processId, carries.processId,
      wire.messageId, carries.messageId, wire.structuredData,
      ⟨carries.structuredData, carries.namesWithin⟩, wire.body, carries.body, rfl⟩

theorem validate_eq_ok_iff {message : Message} :
    message.validate allowLong = .ok () ↔ ∃ wire, message.Carries allowLong wire := by
  simp only [validate, map_eq_ok_iff, check_eq_ok_iff, and_true]

theorem marshal_eq_ok_iff {message : Message} {octets : Bytes} :
    message.marshal allowLong = .ok octets ↔
      ∃ wire, message.Carries allowLong wire ∧ wire.encode = octets := by
  simp only [marshal, map_eq_ok_iff, check_eq_ok_iff]

end Message

end Syslog
