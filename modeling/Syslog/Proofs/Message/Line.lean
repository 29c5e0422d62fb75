import Syslog.Proofs.Message.Accepted
import Syslog.Proofs.Message.Octets
import Syslog.Proofs.Text.Decimal

namespace Syslog

/-!
# The grammar of a line

The grammar is that of RFC 5424, octet by octet and without reference to the encoder.  It leaves
two things open: the time, which is any that can be formatted, and the body, which is any octets.

For each rule there is a description of the same octets as what some checked part is written as.
The rules are put together in the end: the lines of the grammar are exactly those that accepted
messages are written as.
-/

namespace Grammar

/-- The priority: a numeral up to 191. -/
def Priority (octets : Bytes) : Prop := Numeral octets ∧ decimalValue octets ≤ 191

/-- A time that can be formatted. -/
def Time (octets : Bytes) : Prop :=
  ∃ value text, Timestamp.format value = .ok text ∧ text.utf8 = octets

/-- A field of the header; one that is absent is a lone hyphen, and so a token as well. -/
abbrev Token (limit : Nat) : Bytes → Prop := Word IsPrintable limit

/-- A name in structured data. -/
abbrev Name : Bytes → Prop := Word IsNameCharacter 32

/-- Octets in which the backslash, the quote and the bracket are preceded by an escaping
backslash, and in which a backslash escapes nothing else. -/
inductive Escaped : Bytes → Prop
  | nil : Escaped []
  | plain {o : UInt8} {rest : Bytes} (plain : isEscapedOctet o = false) (more : Escaped rest) :
      Escaped (o :: rest)
  | pair {o : UInt8} {rest : Bytes} (special : isEscapedOctet o = true) (more : Escaped rest) :
      Escaped (octet '\\' :: o :: rest)

/-- A parameter value between its quotes. -/
structure Value (octets : Bytes) : Prop where
  wellFormed : Utf8.WellFormed octets
  escaped : Escaped octets

inductive Parameter : Bytes → Prop
  | mk {name value : Bytes} (isName : Name name) (isValue : Value value) :
      Parameter (octet ' ' :: (name ++ octet '=' :: octet '"' :: (value ++ [octet '"'])))

inductive Element : Bytes → Prop
  | mk {id parameters : Bytes} (isName : Name id) (areParameters : Repeated Parameter parameters) :
      Element (octet '[' :: (id ++ (parameters ++ [octet ']'])))

inductive StructuredData : Bytes → Prop
  | absent : StructuredData [octet '-']
  | elements {first rest : Bytes} (isElement : Element first) (more : Repeated Element rest) :
      StructuredData (first ++ rest)

/-- The body with the space in front of it; one that is empty is left out with its space. -/
inductive Ending : Bytes → Prop
  | absent : Ending []
  | body {body : Bytes} (nonempty : body ≠ []) : Ending (octet ' ' :: body)

inductive Line : Bytes → Prop
  | mk {priority time hostname appName processId messageId data ending : Bytes}
      (isPriority : Priority priority) (isTime : Time time) (isHostname : Token 255 hostname)
      (isAppName : Token 48 appName) (isProcessId : Token 128 processId)
      (isMessageId : Token 32 messageId) (isData : StructuredData data) (isEnding : Ending ending) :
      Line (octet '<' :: (priority ++ octet '>' :: octet '1' :: octet ' ' ::
        (time ++ octet ' ' :: (hostname ++ octet ' ' :: (appName ++ octet ' ' ::
          (processId ++ octet ' ' :: (messageId ++ octet ' ' :: (data ++ ending))))))))

/-! ## The header -/

theorem or_le_of_le : ∀ severity < 9, ∀ facility < 24, severity ||| facility * 8 ≤ 191 := by
  decide

/-- Every number up to 191 is the priority of some codes, and no other number is. -/
theorem le_iff_exists_or {number : Nat} :
    number ≤ 191 ↔ ∃ severity facility, severity ≤ 8 ∧ facility ≤ 23 ∧
      severity ||| facility * 8 = number := by
  constructor
  · intro small
    refine ⟨number % 8, number / 8, by omega, by omega, ?_⟩
    have small : number % 8 < 2 ^ 3 := Nat.mod_lt number (by decide)
    rw [Nat.or_comm, Nat.mul_comm]
    exact (Nat.two_pow_add_eq_or_of_lt small (number / 8)).symm.trans (Nat.div_add_mod number 8)
  · rintro ⟨severity, facility, severity_le, facility_le, rfl⟩
    exact or_le_of_le severity (by omega) facility (by omega)

theorem priority_iff {octets : Bytes} :
    Priority octets ↔ ∃ severity facility, severity ≤ 8 ∧ facility ≤ 23 ∧
      (Text.ofNat (severity ||| facility * 8)).utf8 = octets := by
  rw [Priority, le_iff_exists_or]
  constructor
  · rintro ⟨numeral, severity, facility, severity_le, facility_le, same⟩
    have written := Numeral.eq_ofNat_iff.mp ⟨numeral, same.symm⟩
    exact ⟨severity, facility, severity_le, facility_le, written⟩
  · rintro ⟨severity, facility, severity_le, facility_le, written⟩
    rcases Numeral.eq_ofNat_iff.mpr written with ⟨numeral, value⟩
    exact ⟨numeral, severity, facility, severity_le, facility_le, value.symm⟩

theorem time_iff {octets : Bytes} :
    Time octets ↔ ∃ value timestamp, Timestamp.ofValue? value = some timestamp ∧
      timestamp.written.utf8 = octets := by
  simp only [Time, Timestamp.format_eq_ok_iff]
  constructor
  · rintro ⟨value, _, ⟨timestamp, read, rfl⟩, written⟩
    exact ⟨value, timestamp, read, written⟩
  · rintro ⟨value, timestamp, read, written⟩
    exact ⟨value, _, ⟨timestamp, read, rfl⟩, written⟩

/-- A token is what some field is written as, an empty one with the nil value in its place. -/
theorem token_iff {limit : Nat} (positive : 0 < limit) {octets : Bytes} :
    Token limit octets ↔ ∃ token : Syslog.Token limit, token.text.orNil.utf8 = octets := by
  rw [Token, word_iff fun _ => IsPrintable.ascii]
  constructor
  · rintro ⟨text, filled, short, printable, rfl⟩
    refine ⟨⟨text, Text.isPrintUsAscii_iff.mpr printable, short⟩, ?_⟩
    cases text with
    | nil => exact absurd rfl filled
    | cons c rest => rfl
  · rintro ⟨token, rfl⟩
    refine ⟨token.text.orNil, ?_, ?_, token.isPrintable, rfl⟩
    · rw [Text.orNil]
      split
      · exact List.cons_ne_nil _ _
      · next filled => exact fun empty => filled (List.isEmpty_iff.mpr empty)
    · rw [Text.orNil]
      split
      · exact positive
      · exact token.length_le

/-! ## Structured data -/

/-- A grammatical name is what a name within the cap is written as. -/
theorem name_iff {octets : Bytes} :
    Name octets ↔
      ∃ name : Syslog.Name, name.text.isName false = true ∧ name.text.utf8 = octets := by
  rw [Name, word_iff fun _ => IsNameCharacter.ascii]
  constructor
  · rintro ⟨text, filled, short, characters, rfl⟩
    have within : text.isName false = true :=
      Text.isName_iff.mpr ⟨filled, fun _ => short, characters⟩
    exact ⟨⟨text, Text.isName_of_isName within⟩, within, rfl⟩
  · rintro ⟨name, within, rfl⟩
    rcases Text.isName_iff.mp within with ⟨filled, short, characters⟩
    exact ⟨name.text, filled, short rfl, characters, rfl⟩

theorem escaped_escape (octets : Bytes) : Escaped (escape isEscapedOctet (octet '\\') octets) := by
  induction octets with
  | nil => exact .nil
  | cons o rest inductionHypothesis =>
      rw [escape, List.flatMap_cons, ← escape]
      cases special : isEscapedOctet o with
      | true => exact .pair special inductionHypothesis
      | false => exact .plain special inductionHypothesis

theorem Escaped.of_plain {o : UInt8} {rest : Bytes} (plain : isEscapedOctet o = false)
    (escaped : Escaped (o :: rest)) : Escaped rest := by
  cases escaped with
  | plain _ more => exact more
  | pair _ _ => exact absurd plain (by decide)

theorem Escaped.of_special {o : UInt8} {rest : Bytes} (special : isEscapedOctet o = true)
    (escaped : Escaped (o :: rest)) :
    o = octet '\\' ∧ ∃ p more, rest = p :: more ∧ isEscapedOctet p = true ∧ Escaped more := by
  cases escaped with
  | plain plain _ => exact absurd special (by rw [plain]; decide)
  | pair specialNext more => exact ⟨rfl, _, _, rfl, specialNext, more⟩

/-- Octets that need no escape can be taken off. -/
theorem Escaped.of_append {before rest : Bytes}
    (plain : ∀ o ∈ before, isEscapedOctet o = false) (escaped : Escaped (before ++ rest)) :
    Escaped rest := by
  induction before with
  | nil => exact escaped
  | cons o before inductionHypothesis =>
      rcases List.forall_mem_cons.mp plain with ⟨first, others⟩
      exact inductionHypothesis others (escaped.of_plain first)

/-- Escaped octets of a text start with a code point that needs no escape, or with a backslash
and one that does. -/
theorem Escaped.cases_text {c : CodePoint} {rest : Text}
    (escaped : Escaped (Text.utf8 (c :: rest))) :
    (c.isEscaped = false ∧ Escaped rest.utf8) ∨
      (c = .ofChar '\\' ∧
        ∃ d more, rest = d :: more ∧ d.isEscaped = true ∧ Escaped (Text.utf8 more)) := by
  rw [Text.utf8_cons] at escaped
  cases special : c.isEscaped with
  | false => exact Or.inl ⟨rfl, escaped.of_append (c.plain_of_mem special)⟩
  | true =>
      rcases CodePoint.utf8_of_isEscaped special with ⟨o, single, specialOctet⟩
      rw [single, List.singleton_append] at escaped
      rcases escaped.of_special specialOctet with ⟨rfl, p, octets, same, specialNext, more⟩
      rcases Text.exists_of_utf8_eq_cons specialNext same with ⟨d, others, rfl, specialPoint, rfl⟩
      have code := c.val_eq_of_mem_utf8 (ascii_of_isEscapedOctet specialOctet)
        (by rw [single]; exact List.mem_singleton_self _)
      exact Or.inr ⟨CodePoint.ext code, d, others, rfl, specialPoint, more⟩

/-- The escapes of an encodable text can be taken out, and what is left is encodable. -/
theorem exists_escaped {text : Text} (encodable : text.isEncodable = true)
    (isEscaped : Escaped text.utf8) :
    ∃ content : Text, content.isEncodable = true ∧ content.escaped = text := by
  -- a backslash is taken out together with what it escapes, so the text may shrink by two
  induction length : text.length using Nat.strongRecOn generalizing text with
  | _ size inductionHypothesis =>
      subst length
      cases text with
      | nil => exact ⟨[], rfl, rfl⟩
      | cons c rest =>
          rw [Text.isEncodable_cons, Bool.and_eq_true] at encodable
          rcases isEscaped.cases_text with ⟨plain, more⟩ | ⟨rfl, d, more, rfl, special, escaped⟩
          · rcases inductionHypothesis _ (Nat.lt_succ_self _) encodable.2 more rfl with
              ⟨content, contentEncodable, rfl⟩
            refine ⟨c :: content, ?_, ?_⟩
            · rw [Text.isEncodable_cons, encodable.1, contentEncodable]
              rfl
            · rw [Text.escaped, List.flatMap_cons, plain]
              rfl
          · rw [Text.isEncodable_cons, Bool.and_eq_true] at encodable
            have shorter : more.length < (CodePoint.ofChar '\\' :: d :: more).length :=
              Nat.lt_succ_of_lt (Nat.lt_succ_self _)
            rcases inductionHypothesis _ shorter encodable.2.2 escaped rfl with
              ⟨content, contentEncodable, rfl⟩
            refine ⟨d :: content, ?_, ?_⟩
            · rw [Text.isEncodable_cons, encodable.2.1, contentEncodable]
              rfl
            · rw [Text.escaped, List.flatMap_cons, special]
              rfl

theorem isEncodable_escaped {text : Text} (encodable : text.isEncodable = true) :
    text.escaped.isEncodable = true := by
  induction text with
  | nil => rfl
  | cons c rest inductionHypothesis =>
      rw [Text.isEncodable_cons, Bool.and_eq_true] at encodable
      have others := inductionHypothesis encodable.2
      have mark : (CodePoint.ofChar '\\').isSurrogate = false := by decide
      rw [Text.escaped, List.flatMap_cons, ← Text.escaped]
      cases c.isEscaped <;> simp [encodable.1, others, mark]

theorem value_iff {octets : Bytes} :
    Value octets ↔ ∃ content : EncodableText, content.text.escaped.utf8 = octets := by
  constructor
  · rintro ⟨wellFormed, escaped⟩
    rcases Utf8.wellFormed_iff.mp wellFormed with ⟨text, encodable, rfl⟩
    rcases exists_escaped encodable escaped with ⟨content, contentEncodable, rfl⟩
    exact ⟨⟨content, contentEncodable⟩, rfl⟩
  · rintro ⟨content, rfl⟩
    constructor
    · exact Utf8.wellFormed_iff.mpr ⟨_, isEncodable_escaped content.encodable, rfl⟩
    · rw [Text.utf8_escaped]
      exact escaped_escape _

theorem parameter_iff (octets : Bytes) :
    Parameter octets ↔ ∃ wire : WireParameter, wire.name.text.isName false = true ∧
      octet ' ' :: wire.octets = octets := by
  constructor
  · rintro ⟨isName, isValue⟩
    rcases name_iff.mp isName with ⟨name, within, rfl⟩
    rcases value_iff.mp isValue with ⟨value, rfl⟩
    exact ⟨⟨name, value⟩, within, rfl⟩
  · rintro ⟨wire, within, rfl⟩
    exact .mk (name_iff.mpr ⟨wire.name, within, rfl⟩) (value_iff.mpr ⟨wire.value, rfl⟩)

theorem element_iff (octets : Bytes) :
    Element octets ↔ ∃ wire : WireElement, wire.NamesWithin false ∧
      octet '[' :: wire.octets = octets := by
  constructor
  · rintro ⟨isName, areParameters⟩
    rcases name_iff.mp isName with ⟨id, within, rfl⟩
    rcases (repeated_iff parameter_iff).mp areParameters with ⟨parameters, names, rfl⟩
    exact ⟨⟨id, parameters⟩, ⟨within, names⟩, rfl⟩
  · rintro ⟨wire, ⟨within, names⟩, rfl⟩
    refine .mk (name_iff.mpr ⟨wire.id, within, rfl⟩) ?_
    exact (repeated_iff parameter_iff).mpr ⟨wire.parameters, names, rfl⟩

theorem structuredData_iff {octets : Bytes} :
    StructuredData octets ↔ ∃ wires : List WireElement,
      (∀ wire ∈ wires, wire.NamesWithin false) ∧ WireMessage.dataOctets wires = octets := by
  constructor
  · intro data
    cases data with
    | absent => exact ⟨[], List.forall_mem_nil _, rfl⟩
    | elements isElement more =>
        rcases (element_iff _).mp isElement with ⟨wire, within, rfl⟩
        rcases (repeated_iff element_iff).mp more with ⟨wires, othersWithin, rfl⟩
        exact ⟨wire :: wires, List.forall_mem_cons.mpr ⟨within, othersWithin⟩, rfl⟩
  · rintro ⟨wires, within, rfl⟩
    cases wires with
    | nil => exact .absent
    | cons wire wires =>
        rcases List.forall_mem_cons.mp within with ⟨first, others⟩
        exact .elements ((element_iff _).mpr ⟨wire, first, rfl⟩)
          ((repeated_iff element_iff).mpr ⟨wires, others, rfl⟩)

theorem ending_iff {octets : Bytes} :
    Ending octets ↔ ∃ body, WireMessage.ending body = octets := by
  constructor
  · intro ending
    cases ending with
    | absent => exact ⟨[], rfl⟩
    | @body body nonempty =>
        refine ⟨body, if_neg ?_⟩
        rw [List.isEmpty_iff]
        exact nonempty
  · rintro ⟨body, rfl⟩
    cases body with
    | nil => exact .absent
    | cons o rest => exact .body (List.cons_ne_nil o rest)

/-! ## Lines -/

/-- The grammatical lines are what checked messages within the cap are written as. -/
theorem line_iff {octets : Bytes} :
    Line octets ↔ ∃ wire : WireMessage,
      (∃ value, Timestamp.ofValue? value = some wire.timestamp) ∧
        (∀ element ∈ wire.structuredData, element.NamesWithin false) ∧ wire.encode = octets := by
  constructor
  · rintro ⟨isPriority, isTime, isHostname, isAppName, isProcessId, isMessageId, isData, isEnding⟩
    rcases priority_iff.mp isPriority with ⟨severity, facility, severity_le, facility_le, rfl⟩
    rcases time_iff.mp isTime with ⟨value, timestamp, read, rfl⟩
    rcases (token_iff (by decide)).mp isHostname with ⟨hostname, rfl⟩
    rcases (token_iff (by decide)).mp isAppName with ⟨appName, rfl⟩
    rcases (token_iff (by decide)).mp isProcessId with ⟨processId, rfl⟩
    rcases (token_iff (by decide)).mp isMessageId with ⟨messageId, rfl⟩
    rcases structuredData_iff.mp isData with ⟨structuredData, within, rfl⟩
    rcases ending_iff.mp isEnding with ⟨body, rfl⟩
    let wire : WireMessage := {
      timestamp, severity, facility, hostname, appName, processId, messageId, structuredData, body
      severity_le, facility_le }
    exact ⟨wire, ⟨value, read⟩, within, wire.encode_eq⟩
  · rintro ⟨wire, ⟨value, read⟩, within, rfl⟩
    rw [wire.encode_eq]
    exact .mk
      (priority_iff.mpr ⟨_, _, wire.severity_le, wire.facility_le, rfl⟩)
      (time_iff.mpr ⟨value, _, read, rfl⟩)
      ((token_iff (by decide)).mpr ⟨wire.hostname, rfl⟩)
      ((token_iff (by decide)).mpr ⟨wire.appName, rfl⟩)
      ((token_iff (by decide)).mpr ⟨wire.processId, rfl⟩)
      ((token_iff (by decide)).mpr ⟨wire.messageId, rfl⟩)
      (structuredData_iff.mpr ⟨_, within, rfl⟩)
      (ending_iff.mpr ⟨_, rfl⟩)

end Grammar

namespace WireMessage

/-- A checked message as a caller would put it together, at the given time. -/
def messageAt (time : Value) (wire : WireMessage) : Message where
  timestamp := time
  severity := .int wire.severity
  facility := .int wire.facility
  hostname := .text wire.hostname.text
  appName := .text wire.appName.text
  processId := .text wire.processId.text
  messageId := .text wire.messageId.text
  structuredData := wire.structuredData.map WireElement.element
  body := .octets .fixed wire.body

theorem carries_messageAt {allowLong : Bool} {time : Value} {wire : WireMessage}
    (read : Timestamp.ofValue? time = some wire.timestamp)
    (within : ∀ element ∈ wire.structuredData, element.NamesWithin allowLong) :
    (wire.messageAt time).Carries allowLong wire :=
  ⟨rfl, rfl, read, rfl, rfl, rfl, rfl, rfl, within, rfl⟩

end WireMessage

/-- With the cap on names in place, the lines of accepted messages are exactly those of the
grammar. -/
theorem Message.exists_marshal_iff_line (octets : Bytes) :
    (∃ message : Message, message.validate false = .ok () ∧ message.marshal false = .ok octets) ↔
      Grammar.Line octets := by
  rw [Grammar.line_iff]
  constructor
  · rintro ⟨message, _, written⟩
    rcases marshal_eq_ok_iff.mp written with ⟨wire, carries, rfl⟩
    exact ⟨wire, ⟨_, carries.timestamp⟩, carries.namesWithin, rfl⟩
  · rintro ⟨wire, ⟨time, read⟩, within, rfl⟩
    have carries := WireMessage.carries_messageAt read within
    exact ⟨wire.messageAt time, validate_eq_ok_iff.mpr ⟨wire, carries⟩,
      marshal_eq_ok_iff.mpr ⟨wire, carries, rfl⟩⟩

end Syslog
