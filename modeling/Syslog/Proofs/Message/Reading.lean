import Syslog.Proofs.Message.Accepted
import Syslog.Proofs.Message.Octets
import Syslog.Proofs.Text.Decimal

namespace Syslog

/-!
# Reading a line

No knowledge of a message is needed to take its octets apart again.  The reader below goes
through a line once, from left to right, and gives back everything that the message said:
nothing is lost on the way but the difference between an empty field of the header and one that
holds the nil value, and the kind of the octets of the body.

Each part of the reader undoes one part of the encoder, whatever octets follow; that is what
makes the parts compose.  The body needs no reader, because it is all that is left.
-/

/-- What a line says. -/
structure Reading where
  priority : Nat
  timestamp : Text
  hostname : Text
  appName : Text
  processId : Text
  messageId : Text
  structuredData : List Element
  body : Bytes

namespace Reading

/-- A field of the header and the space behind it. -/
def field? (octets : Bytes) : Option (Text × Bytes) := do
  let (part, rest) ← upTo? (octet ' ') octets
  return (Utf8.decodeReplacing part, rest)

/-- A parameter, behind the space in front of it. -/
def parameter? (octets : Bytes) : Option (Parameter × Bytes) := do
  let (name, behindName) ← upTo? (octet '=') octets
  let quoted ← expect? (octet '"') behindName
  let (value, rest) ← scan (octet '\\') (octet '"') false quoted
  return (⟨.text (Utf8.decodeReplacing name), .text (Utf8.decodeReplacing value)⟩, rest)

/-- An octet of the id of an element: neither the space in front of a parameter nor the bracket
that closes the element. -/
def isIdOctet (o : UInt8) : Bool := o != octet ' ' && o != octet ']'

/-- An element, behind the bracket that opens it. -/
def element? (octets : Bytes) : Option (Element × Bytes) := do
  let (id, behindId) := splitWhile isIdOctet octets
  let (parameters, behindParameters) ← repeated? (octet ' ') parameter? behindId
  let rest ← expect? (octet ']') behindParameters
  return (⟨.text (Utf8.decodeReplacing id), parameters⟩, rest)

/-- The structured data, which is the nil value if there is none. -/
def structuredData? (octets : Bytes) : Option (List Element × Bytes) :=
  match expect? (octet '-') octets with
  | some rest => some ([], rest)
  | none => repeated? (octet '[') element? octets

/-- A whole line. -/
def read? (line : Bytes) : Option Reading := do
  let behindOpening ← expect? (octet '<') line
  let (priority, behindPriority) ← upTo? (octet '>') behindOpening
  let behindVersion ← expect? (octet '1') behindPriority
  let header ← expect? (octet ' ') behindVersion
  let (timestamp, behindTimestamp) ← field? header
  let (hostname, behindHostname) ← field? behindTimestamp
  let (appName, behindAppName) ← field? behindHostname
  let (processId, behindProcessId) ← field? behindAppName
  let (messageId, behindMessageId) ← field? behindProcessId
  let (structuredData, ending) ← structuredData? behindMessageId
  return {
    timestamp, hostname, appName, processId, messageId, structuredData
    priority := decimalValue priority
    body := ending.drop 1 }

/-! ## Each part undoes its encoding -/

/-- A printable text is read as a field of the header. -/
theorem field?_append {text : Text} (printable : ∀ c ∈ text, IsPrintable c.val) (rest : Bytes) :
    field? (text.utf8 ++ octet ' ' :: rest) = some (text, rest) := by
  have absent := Text.ne_octet_of_mem (fun _ => IsPrintable.ascii) printable
    (show ¬IsPrintable (octet ' ').toNat by decide)
  have encodable := Text.isEncodable_of_ascii fun c member => (printable c member).ascii
  rw [field?, upTo?_append rest absent]
  simp only [Option.bind_eq_bind, Option.bind_some, Option.pure_def,
    Utf8.decodeReplacing_utf8 encodable]

theorem parameter?_octets (wire : WireParameter) (rest : Bytes) :
    parameter? (wire.octets ++ rest) = some (wire.parameter, rest) := by
  have absent := Text.ne_octet_of_mem (fun _ => IsNameCharacter.ascii) wire.name.isNameCharacter
    (show ¬IsNameCharacter (octet '=').toNat from fun character => character.2.1 rfl)
  have name := Text.isEncodable_of_ascii fun c member => (wire.name.isNameCharacter c member).ascii
  have value : scan (octet '\\') (octet '"') false
      (wire.value.text.escaped.utf8 ++ octet '"' :: rest) = some (wire.value.text.utf8, rest) := by
    rw [Text.utf8_escaped]
    exact scan_escape rfl rfl (by decide) _ rest
  rw [WireParameter.octets, List.append_assoc, List.cons_append, List.cons_append,
    List.append_assoc, parameter?, upTo?_append _ absent]
  simp only [Option.bind_eq_bind, Option.bind_some, Option.pure_def, expect?_cons,
    List.singleton_append, value, Utf8.decodeReplacing_utf8 name,
    Utf8.decodeReplacing_utf8 wire.value.encodable]
  rfl

theorem splitWhile_isIdOctet (name : Name) (parameters : List WireParameter) (rest : Bytes) :
    let behindId := parameters.flatMap (fun wire => octet ' ' :: wire.octets) ++ octet ']' :: rest
    splitWhile isIdOctet (name.text.utf8 ++ behindId) = (name.text.utf8, behindId) := by
  intro behindId
  have inside : ∀ o ∈ name.text.utf8, isIdOctet o = true := by
    intro o member
    have noSpace := Text.ne_octet_of_mem (fun _ => IsNameCharacter.ascii) name.isNameCharacter
      (show ¬IsNameCharacter (octet ' ').toNat from fun character => absurd character.1 (by decide))
    have noBracket := Text.ne_octet_of_mem (fun _ => IsNameCharacter.ascii) name.isNameCharacter
      (show ¬IsNameCharacter (octet ']').toNat from fun character => character.2.2.1 rfl)
    rw [isIdOctet, Bool.and_eq_true, bne_iff_ne, bne_iff_ne]
    exact ⟨noSpace o member, noBracket o member⟩
  -- what ends the id depends on whether there is a parameter
  cases parameters with
  | nil => exact splitWhile_append _ inside rfl
  | cons parameter parameters => exact splitWhile_append _ inside rfl

theorem element?_octets (wire : WireElement) (rest : Bytes) :
    element? (wire.octets ++ rest) = some (wire.element, rest) := by
  have id := Text.isEncodable_of_ascii fun c member => (wire.id.isNameCharacter c member).ascii
  have ended : (octet ']' :: rest).head? ≠ some (octet ' ') := fun same =>
    absurd (Option.some.inj same) (by decide)
  have parameters := repeated?_flatMap parameter?_octets wire.parameters ended
  rw [WireElement.octets, List.append_assoc, List.append_assoc, List.singleton_append, element?,
    splitWhile_isIdOctet]
  simp only [Option.bind_eq_bind, Option.bind_some, Option.pure_def, parameters, expect?_cons,
    Utf8.decodeReplacing_utf8 id]
  rfl

theorem structuredData?_octets (wires : List WireElement) {rest : Bytes}
    (ended : rest.head? ≠ some (octet '[')) :
    structuredData? (WireMessage.dataOctets wires ++ rest) =
      some (wires.map WireElement.element, rest) := by
  cases wires with
  | nil => rfl
  | cons wire others => exact repeated?_flatMap element?_octets (wire :: others) ended

end Reading

/-- What the line of a checked message says. -/
def WireMessage.reading (wire : WireMessage) : Reading where
  priority := wire.priority
  timestamp := wire.timestamp.written
  hostname := wire.hostname.text.orNil
  appName := wire.appName.text.orNil
  processId := wire.processId.text.orNil
  messageId := wire.messageId.text.orNil
  structuredData := wire.structuredData.map WireElement.element
  body := wire.body

namespace Reading

theorem drop_ending (body : Bytes) : (WireMessage.ending body).drop 1 = body := by
  cases body with
  | nil => rfl
  | cons _ _ => rfl

theorem head?_ending_ne (body : Bytes) : (WireMessage.ending body).head? ≠ some (octet '[') := by
  cases body with
  | nil => exact fun same => nomatch same
  | cons _ _ => exact fun same => absurd (Option.some.inj same) (by decide)

/-- The line of a checked message is read as what the message says. -/
theorem read?_encode (wire : WireMessage) : read? wire.encode = some wire.reading := by
  have priority : ∀ rest, upTo? (octet '>') ((Text.ofNat wire.priority).utf8 ++ octet '>' :: rest) =
      some ((Text.ofNat wire.priority).utf8, rest) := by
    intro rest
    apply upTo?_append
    rintro o member rfl
    exact absurd ((Text.numeral_ofNat _).digit _ member) (by decide)
  have timestamp := Rfc3339.printable_written wire.timestamp.dateTime wire.timestamp.nanoseconds
  rw [WireMessage.encode_eq, read?, expect?_cons]
  simp only [Option.bind_eq_bind, Option.bind_some, Option.pure_def, priority, expect?_cons,
    Timestamp.written, field?_append timestamp, field?_append wire.hostname.isPrintable,
    field?_append wire.appName.isPrintable, field?_append wire.processId.isPrintable,
    field?_append wire.messageId.isPrintable,
    structuredData?_octets _ (head?_ending_ne wire.body), drop_ending,
    Text.decimalValue_ofNat]
  rfl

/-! ## What the line of a message determines -/

end Reading

/-- A field of the header, once an empty one is identified with the nil value. -/
def Value.orNil : Value → Value
  | .text content => .text content.orNil
  | value => value

/-- That a reading gives back what is in a message. -/
structure Reading.Recovers (reading : Reading) (message : Message) : Prop where
  priority : message.priority = .ok (reading.priority : Int)
  timestamp : Timestamp.format message.timestamp = .ok reading.timestamp
  hostname : message.hostname.orNil = .text reading.hostname
  appName : message.appName.orNil = .text reading.appName
  processId : message.processId.orNil = .text reading.processId
  messageId : message.messageId.orNil = .text reading.messageId
  structuredData : message.structuredData = reading.structuredData
  body : message.body.octets? = some reading.body

namespace Message

/-- That the severity is one of those with a name. -/
def HasNamedSeverity (message : Message) : Prop :=
  ∃ code : Nat, code ≤ 7 ∧ message.severity = .int code

/-- That two messages say the same. -/
structure Agrees (left right : Message) : Prop where
  priority : left.priority = right.priority
  severity : left.HasNamedSeverity → right.HasNamedSeverity → left.severity = right.severity
  facility : left.HasNamedSeverity → right.HasNamedSeverity → left.facility = right.facility
  timestamp : Timestamp.format left.timestamp = Timestamp.format right.timestamp
  hostname : left.hostname.orNil = right.hostname.orNil
  appName : left.appName.orNil = right.appName.orNil
  processId : left.processId.orNil = right.processId.orNil
  messageId : left.messageId.orNil = right.messageId.orNil
  structuredData : left.structuredData = right.structuredData
  body : left.body.octets? = right.body.octets?

variable {allowLong : Bool} {message : Message} {wire : WireMessage}

theorem Carries.priority_eq (carries : message.Carries allowLong wire) :
    message.priority = .ok (wire.priority : Int) := by
  rw [Message.priority, carries.severity, carries.facility]
  rfl

theorem Carries.recovers (carries : message.Carries allowLong wire) :
    wire.reading.Recovers message where
  priority := carries.priority_eq
  timestamp := by
    rw [Timestamp.format, carries.timestamp]
    rfl
  hostname := by
    rw [carries.hostname]
    rfl
  appName := by
    rw [carries.appName]
    rfl
  processId := by
    rw [carries.processId]
    rfl
  messageId := by
    rw [carries.messageId]
    rfl
  structuredData := carries.structuredData
  body := carries.body

end Message

namespace WireMessage

/-- Below 8 the severity fills the three bits that the facility leaves it. -/
theorem priority_of_lt (wire : WireMessage) (named : wire.severity < 8) :
    wire.priority = 8 * wire.facility + wire.severity := by
  have split := Nat.two_pow_add_eq_or_of_lt (i := 3) named wire.facility
  rw [priority, Nat.or_comm, Nat.mul_comm]
  exact split.symm

end WireMessage

namespace Message

variable {allowLong : Bool} {message : Message} {wire : WireMessage}

theorem Carries.severity_le (carries : message.Carries allowLong wire)
    (named : message.HasNamedSeverity) : wire.severity ≤ 7 := by
  rcases named with ⟨code, small, same⟩
  rw [carries.severity] at same
  injection same with same
  omega

/-- Messages that are read as the same say the same. -/
theorem Carries.agrees {longLeft longRight : Bool} {left right : Message}
    {wireLeft wireRight : WireMessage} (carriesLeft : left.Carries longLeft wireLeft)
    (carriesRight : right.Carries longRight wireRight)
    (same : wireLeft.reading = wireRight.reading) : left.Agrees right := by
  have recoversLeft := carriesLeft.recovers
  have recoversRight := carriesRight.recovers
  rw [← same] at recoversRight
  have priority : wireLeft.priority = wireRight.priority := congrArg Reading.priority same
  have codes : left.HasNamedSeverity → right.HasNamedSeverity →
      wireLeft.severity = wireRight.severity ∧ wireLeft.facility = wireRight.facility := by
    intro namedLeft namedRight
    have smallLeft := carriesLeft.severity_le namedLeft
    have smallRight := carriesRight.severity_le namedRight
    rw [wireLeft.priority_of_lt (by omega), wireRight.priority_of_lt (by omega)] at priority
    omega
  exact {
    priority := recoversLeft.priority.trans recoversRight.priority.symm
    severity := fun namedLeft namedRight => by
      rw [carriesLeft.severity, carriesRight.severity, (codes namedLeft namedRight).1]
    facility := fun namedLeft namedRight => by
      rw [carriesLeft.facility, carriesRight.facility, (codes namedLeft namedRight).2]
    timestamp := recoversLeft.timestamp.trans recoversRight.timestamp.symm
    hostname := recoversLeft.hostname.trans recoversRight.hostname.symm
    appName := recoversLeft.appName.trans recoversRight.appName.symm
    processId := recoversLeft.processId.trans recoversRight.processId.symm
    messageId := recoversLeft.messageId.trans recoversRight.messageId.symm
    structuredData := recoversLeft.structuredData.trans recoversRight.structuredData.symm
    body := recoversLeft.body.trans recoversRight.body.symm }

/-- The octets of an accepted message determine what it says, and one reader recovers it: two
accepted messages of the same octets agree, under whatever settings they were accepted. -/
theorem marshal_is_uniquely_decodable :
    (∀ (allowLong : Bool) (message : Message), message.validate allowLong = .ok () →
      ∃ octets reading, message.marshal allowLong = .ok octets ∧
        Reading.read? octets = some reading ∧ reading.Recovers message) ∧
    ∀ (longLeft longRight : Bool) (left right : Message),
      left.validate longLeft = .ok () → right.validate longRight = .ok () →
        left.marshal longLeft = right.marshal longRight → left.Agrees right := by
  constructor
  · intro allowLong message accepted
    rcases validate_eq_ok_iff.mp accepted with ⟨wire, carries⟩
    exact ⟨wire.encode, wire.reading, marshal_eq_ok_iff.mpr ⟨wire, carries, rfl⟩,
      Reading.read?_encode wire, carries.recovers⟩
  · intro longLeft longRight left right acceptedLeft acceptedRight sameOctets
    rcases validate_eq_ok_iff.mp acceptedLeft with ⟨wireLeft, carriesLeft⟩
    rcases validate_eq_ok_iff.mp acceptedRight with ⟨wireRight, carriesRight⟩
    rw [marshal_eq_ok_iff.mpr ⟨wireLeft, carriesLeft, rfl⟩,
      marshal_eq_ok_iff.mpr ⟨wireRight, carriesRight, rfl⟩] at sameOctets
    have sameReading : some wireLeft.reading = some wireRight.reading := by
      rw [← Reading.read?_encode wireLeft, ← Reading.read?_encode wireRight,
        Except.ok.inj sameOctets]
    exact carriesLeft.agrees carriesRight (Option.some.inj sameReading)

/-- An element without parameters, and one whose value holds the delimiters. -/
def nestedData : List Element :=
  [⟨.text "a", []⟩, ⟨.text "b", [⟨.text "k", .text "x\"] [y"⟩, ⟨.text "k", .text []⟩]⟩]

/-- A line with delimiters inside of a value and in the body is read back, and the same line
comes from a message that spells out the nil value and holds its body in another kind. -/
theorem marshal_is_uniquely_decodable_of_nested :
    let left : Message := {
      timestamp := .int 0, structuredData := nestedData, body := .octets .fixed [34, 93, 32, 255] }
    let right : Message := {
      timestamp := .int 0, hostname := .text nilValue, structuredData := nestedData
      body := .octets .view [34, 93, 32, 255] }
    (∃ octets reading, left.marshal false = .ok octets ∧
      Reading.read? octets = some reading ∧ reading.Recovers left) ∧ left.Agrees right :=
  ⟨marshal_is_uniquely_decodable.1 false _ rfl,
    marshal_is_uniquely_decodable.2 false true _ _ rfl rfl rfl⟩

end Message

end Syslog
