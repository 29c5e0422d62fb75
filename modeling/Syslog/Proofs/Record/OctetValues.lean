import Syslog.Proofs.Message.Constraint
import Syslog.Proofs.Message.Octets
import Syslog.Proofs.Record.Independence
import Syslog.Proofs.Text.Malformed

namespace Syslog

/-!
# Octets as the value of a parameter

A field that is written as a parameter may hold octets.  They are read as a text, checked as one,
escaped and encoded again; whether they survive all this is settled by the first step alone.  Octets
in UTF-8 are the form of the text that is read, and all others are read as a text that the check
refuses, so that nothing is carried that is not what the field holds
(`Subject.octets_are_carried_or_refused`).

The rest of the line is out of the way: it is the same whatever the field holds, as the message is
the same around its value.
-/

namespace WireMessage

/-- All of a line but the structured data is the same whatever these are. -/
theorem exists_head (wire : WireMessage) :
    ∃ head : Bytes, ∀ data, { wire with structuredData := data }.encode =
      head ++ (dataOctets data ++ ending wire.body) := by
  refine ⟨octet '<' :: ((Text.ofNat wire.priority).utf8 ++ octet '>' :: octet '1' :: octet ' ' ::
    (wire.timestamp.written.utf8 ++ octet ' ' ::
      (wire.hostname.text.orNil.utf8 ++ octet ' ' ::
        (wire.appName.text.orNil.utf8 ++ octet ' ' ::
          (wire.processId.text.orNil.utf8 ++ octet ' ' ::
            (wire.messageId.text.orNil.utf8 ++ [octet ' '])))))), fun data => ?_⟩
  rw [encode_eq]
  simp only [List.cons_append, List.append_assoc, List.nil_append]
  rfl

/-- All of the structured data but one parameter is the same whatever that parameter is. -/
theorem exists_dataOctets_around (before behind : List WireElement) (id : Name)
    (front rest : List WireParameter) :
    ∃ first last : Bytes, ∀ parameter,
      dataOctets (before ++ ⟨id, front ++ parameter :: rest⟩ :: behind) =
        first ++ (octet ' ' :: parameter.octets ++ last) := by
  refine ⟨before.flatMap (fun element => octet '[' :: element.octets) ++ octet '[' ::
      (id.text.utf8 ++ front.flatMap fun parameter => octet ' ' :: parameter.octets),
    rest.flatMap (fun parameter => octet ' ' :: parameter.octets) ++ octet ']' ::
      behind.flatMap (fun element => octet '[' :: element.octets), fun parameter => ?_⟩
  simp [dataOctets, WireElement.octets]

end WireMessage

namespace Message

variable {allowLong : Bool} {message : Message} {entry : ParameterField} {hole : Hole} {own : Text}

/-- A message with a text in the hole of its structured data. -/
def filled (message : Message) (hole : Hole) (entry : ParameterField) (text : Text) : Message :=
  { message with structuredData := hole.fill entry text }

/-- The parts of a message are the same around the value of a parameter. -/
theorem exists_parts_around (message : Message) (hole : Hole) (entry : ParameterField) :
    ∃ before behind, ∀ text, (message.filled hole entry text).parts =
      before ++ (Property.parameterValue, Value.text text) :: behind := by
  refine ⟨[(.severity, message.severity), (.facility, message.facility),
      (.timestamp, message.timestamp), (.hostname, message.hostname),
      (.appName, message.appName), (.processId, message.processId),
      (.messageId, message.messageId)] ++ hole.before.flatMap Element.parts ++
      (.elementId, .text entry.elementId) :: hole.front.flatMap Parameter.parts ++
      [(.parameterName, .text entry.name)],
    hole.rest.flatMap Parameter.parts ++ hole.behind.flatMap Element.parts ++
      [(.body, message.body)], fun text => ?_⟩
  simp [filled, Hole.fill, parts, Element.parts, Parameter.parts]

/-- A value without a UTF-8 form is what is wrong with a message that is valid apart from it. -/
theorem marshal_filled_eq_error
    (encoded : ∃ line, (message.filled hole entry own).marshal allowLong = .ok line) {text : Text}
    (invalid : ¬text.isEncodable = true) :
    (message.filled hole entry text).marshal allowLong =
      .error ⟨.parameterValue, .text text⟩ := by
  rcases exists_parts_around message hole entry with ⟨before, behind, around⟩
  have valid := isValid_iff.mp (exists_marshal_eq_ok_iff.mp encoded)
  rw [around, List.forall_mem_append, List.forall_mem_cons] at valid
  have refused : ¬Property.parameterValue.Allows allowLong (.text text) := by
    rintro ⟨_, same, characters⟩
    cases same
    exact invalid (Text.isEncodable_iff.mpr characters)
  cases outcome : (message.filled hole entry text).marshal allowLong with
  | ok line =>
      have allowed := isValid_iff.mp (exists_marshal_eq_ok_iff.mp ⟨line, outcome⟩)
      rw [around] at allowed
      exact absurd (allowed _ (List.mem_append_right _ List.mem_cons_self)) refused
  | error fault =>
      rcases violation_of_marshal_eq_error outcome with ⟨holds, violated⟩
      have member := mem_parts_iff.mpr holds
      rw [around, List.mem_append, List.mem_cons] at member
      rcases member with inside | same | inside
      · exact absurd (valid.1 _ inside) violated
      · cases fault
        cases same
        rfl
      · exact absurd (valid.2.2 _ inside) violated

/-- The octets of a parameter with the given name and value. -/
def parameterOctets (name text : Text) : Bytes :=
  octet ' ' :: (name.utf8 ++ octet '=' :: octet '"' :: (text.escaped.utf8 ++ [octet '"']))

/-- A checked message with a value in a hole has the hole as well, and any value with a UTF-8 form
can be put there. -/
theorem Carries.exists_around {wire : WireMessage}
    (carries : (message.filled hole entry own).Carries allowLong wire) :
    ∃ (before behind : List WireElement) (id name : Name) (front rest : List WireParameter),
      name.text = entry.name ∧ ∀ (text : Text) (encodable : text.isEncodable = true),
        (message.filled hole entry text).Carries allowLong { wire with structuredData :=
          before ++ ⟨id, front ++ ⟨name, text, encodable⟩ :: rest⟩ :: behind } := by
  have data := carries.structuredData
  rw [filled, Hole.fill] at data
  rcases List.map_eq_append_iff.mp data.symm with ⟨before, others, isData, isBefore, isOthers⟩
  rcases List.map_eq_cons_iff.mp isOthers with ⟨element, behind, rfl, isElement, isBehind⟩
  rcases Element.mk.inj isElement with ⟨isId, members⟩
  rcases List.map_eq_append_iff.mp members with ⟨front, more, isMembers, isFront, isMore⟩
  rcases List.map_eq_cons_iff.mp isMore with ⟨parameter, rest, rfl, isParameter, isRest⟩
  rcases Parameter.mk.inj isParameter with ⟨isName, _⟩
  refine ⟨before, behind, element.id, parameter.name, front, rest, Value.text.inj isName,
    fun text encodable => ?_⟩
  have within := carries.namesWithin
  rw [isData, List.forall_mem_append, List.forall_mem_cons] at within
  rcases within with ⟨withinBefore, ⟨withinId, withinMembers⟩, withinBehind⟩
  rw [isMembers, List.forall_mem_append, List.forall_mem_cons] at withinMembers
  exact { carries with
    structuredData := by
      simp only [filled, Hole.fill, List.map_append, List.map_cons, WireElement.element, isBefore,
        isFront, isRest, isBehind, WireParameter.parameter, isId, isName]
    namesWithin := List.forall_mem_append.mpr ⟨withinBefore, List.forall_mem_cons.mpr
      ⟨⟨withinId, List.forall_mem_append.mpr
        ⟨withinMembers.1, List.forall_mem_cons.mpr withinMembers.2⟩⟩, withinBehind⟩⟩ }

/-- A value with a UTF-8 form is written between octets that do not depend on it. -/
theorem exists_marshal_filled_eq_ok
    (encoded : ∃ line, (message.filled hole entry own).marshal allowLong = .ok line) :
    ∃ front behind : Bytes, ∀ text : Text, text.isEncodable = true →
      (message.filled hole entry text).marshal allowLong =
        .ok (front ++ (parameterOctets entry.name text ++ behind)) := by
  rcases encoded with ⟨line, encoded⟩
  rcases marshal_eq_ok_iff.mp encoded with ⟨wire, carries, _⟩
  rcases carries.exists_around with ⟨before, behind, id, name, front, rest, isName, carriesValue⟩
  rcases WireMessage.exists_head wire with ⟨head, aroundData⟩
  rcases WireMessage.exists_dataOctets_around before behind id front rest with
    ⟨first, last, aroundParameter⟩
  refine ⟨head ++ first, last ++ WireMessage.ending wire.body, fun text encodable => ?_⟩
  have octets : octet ' ' :: WireParameter.octets ⟨name, text, encodable⟩ =
      parameterOctets entry.name text := by
    rw [parameterOctets, ← isName]
    rfl
  refine marshal_eq_ok_iff.mpr ⟨_, carriesValue text encodable, ?_⟩
  rw [aroundData, aroundParameter, octets]
  simp only [List.append_assoc]

end Message

namespace Subject

/-- That a line holds a value between the quotes of a parameter: from behind the first of them up to
the next one that is not escaped, the marks of escapes left out, its octets are those of the
value. -/
def Quotes (front : Bytes) (name : Text) (content behind line : Bytes) : Prop :=
  ∃ quoted : Bytes,
    line = front ++ octet ' ' :: (name.utf8 ++ octet '=' :: octet '"' ::
      (quoted ++ octet '"' :: behind)) ∧
    scan (octet '\\') (octet '"') false (quoted ++ octet '"' :: behind) = some (content, behind)

theorem quotes_of_utf8 {front behind content : Bytes} {name text : Text}
    (same : text.utf8 = content) :
    Quotes front name content behind
      (front ++ (Message.parameterOctets name text ++ behind)) := by
  refine ⟨text.escaped.utf8, ?_, ?_⟩
  · simp [Message.parameterOctets]
  · rw [Text.utf8_escaped, same]
    exact scan_escape rfl rfl (by decide) content behind

variable {origin : Origin} {map : FieldMap} {template : Record} {entry : ParameterField}
  {allowLong : Bool} {line : Bytes}

/-- Around the value of a parameter, records are encoded in the same way. -/
theorem exists_message_around (reflected : template.type.reflect origin.identity = .ok map)
    (listed : entry ∈ map.parameterFields) (keeps : template.Keeps entry)
    (encoded : (Subject.record template).marshal origin allowLong = .ok line) :
    ∃ (message : Message) (hole : Message.Hole) (own : Text),
      (message.filled hole entry own).marshal allowLong = .ok line ∧
      ∀ (record : Record) (text : Text), Record.DiffersIn entry.field template record →
        record.Keeps entry → (record.get entry.field).parameterText = .ok text →
          (Subject.record record).marshal origin allowLong =
            ((message.filled hole entry text).marshal allowLong).mapError Fault.invalid := by
  rcases RecordType.exists_placed_of_reflect reflected with ⟨specs, placed, distinctSpecs, _⟩
  have noRole : ∀ role, map.locator? role ≠ some entry.field := fun role filled =>
    (placed.locator_unique distinctSpecs filled).2 (List.mem_map_of_mem listed)
  have composed : ∃ message, template.toMessage origin map = .ok message := by
    rw [marshal, bind_eq_ok_iff] at encoded
    rcases encoded with ⟨found, isFound, more⟩
    rw [mapError_eq_ok_iff, classifier, Classifier.reflect, mapError_eq_ok_iff] at isFound
    cases reflected.symm.trans isFound
    rcases bind_eq_ok_iff.mp more with ⟨message, isMessage, _⟩
    exact ⟨message, isMessage⟩
  rcases composed with ⟨message, composed⟩
  rcases Record.exists_text_of_keeps composed listed keeps with ⟨own, isOwn⟩
  rcases Record.toMessage_around_parameter composed noRole (placed.nodup_entries distinctSpecs)
    listed keeps with ⟨hole, around⟩
  have marshals : ∀ (record : Record) (text : Text), Record.DiffersIn entry.field template record →
      record.Keeps entry → (record.get entry.field).parameterText = .ok text →
        (Subject.record record).marshal origin allowLong =
          ((message.filled hole entry text).marshal allowLong).mapError Fault.invalid := by
    intro record text differs keepsToo isText
    rw [← differs.type] at reflected
    exact marshal_of_composed reflected (around record text differs keepsToo isText)
  have isLine := marshals template own (.refl _ _) keeps isOwn
  rw [encoded] at isLine
  exact ⟨message, hole, own, mapError_eq_ok_iff.mp isLine.symm, marshals⟩

/-- A record has valid parts apart from one that is written as a parameter if it can be encoded with
some other value there.  If the field holds octets, and they are not left out for being empty, then
it can be encoded exactly if they are UTF-8.  They stand between the quotes of their parameter as
they are, apart from escapes, and all around them is the same for all octets.  If they are not
UTF-8, the value of a parameter is reported as invalid. -/
theorem octets_are_carried_or_refused
    (reflected : template.type.reflect origin.identity = .ok map)
    (listed : entry ∈ map.parameterFields) (keeps : template.Keeps entry)
    (encoded : (Subject.record template).marshal origin allowLong = .ok line) :
    ∃ front behind : Bytes, ∀ (record : Record) (kind : OctetsKind) (content : Bytes),
      Record.DiffersIn entry.field template record →
      record.get entry.field = .octets kind content → kind ≠ .view → record.Keeps entry →
        ((∃ octets, (Subject.record record).marshal origin allowLong = .ok octets) ↔
          Utf8.WellFormed content) ∧
        (∀ octets, (Subject.record record).marshal origin allowLong = .ok octets →
          Quotes front entry.name content behind octets) ∧
        (¬Utf8.WellFormed content → ∃ fault,
          (Subject.record record).marshal origin allowLong = .error (.invalid fault) ∧
          fault.property.name = Text.ofString "StructuredData/Value" ∧
          fault.value = .text (Utf8.decodeEscaping content)) := by
  rcases exists_message_around reflected listed keeps encoded with
    ⟨message, hole, own, isLine, marshals⟩
  rcases Message.exists_marshal_filled_eq_ok ⟨line, isLine⟩ with ⟨front, behind, around⟩
  refine ⟨front, behind, fun record kind content differs holds owned keepsToo => ?_⟩
  have isText : (record.get entry.field).parameterText = .ok (Utf8.decodeEscaping content) := by
    rw [holds]
    cases kind with
    | view => exact absurd rfl owned
    | _ => rfl
  have outcome := marshals record _ differs keepsToo isText
  by_cases wellFormed : Utf8.WellFormed content
  · have isLine := around _ (Utf8.isEncodable_decodeEscaping_iff.mpr wellFormed)
    rw [isLine] at outcome
    refine ⟨iff_of_true ⟨_, outcome⟩ wellFormed, ?_, fun invalid => absurd wellFormed invalid⟩
    intro octets isOctets
    cases isOctets.symm.trans outcome
    exact quotes_of_utf8 (Utf8.utf8_decodeEscaping wellFormed)
  · have refused := Message.marshal_filled_eq_error ⟨line, isLine⟩
      (mt Utf8.isEncodable_decodeEscaping_iff.mp wellFormed)
    rw [refused] at outcome
    have noLine : ∀ octets, (Subject.record record).marshal origin allowLong ≠ .ok octets := by
      intro octets isOctets
      cases isOctets.symm.trans outcome
    exact ⟨iff_of_false (fun ⟨octets, isOctets⟩ => noLine octets isOctets) wellFormed,
      fun octets isOctets => absurd isOctets (noLine octets), fun _ => ⟨_, outcome, rfl, rfl⟩⟩

/-- Octets with a quote that has to be escaped, and a longer form than needed. -/
theorem octets_are_carried_or_refused_of_two_values :
    let origin := Origin.atEpoch ⟨"host", "app", "42"⟩
    let type : RecordType :=
      ⟨"T", [{ name := "first" }, { name := "Key" }, { name := "last" }], by decide⟩
    let template : Record := ⟨type, [.int 1, .text "value", .bool true], rfl⟩
    let put (content : Bytes) : Record := template.withValue 1 (.octets .growable content)
    ∃ front behind : Bytes,
      (∃ octets, (Subject.record (put [0xC3, 0xA9, 0x22])).marshal origin false = .ok octets ∧
        Quotes front "key" [0xC3, 0xA9, 0x22] behind octets) ∧
      ∃ fault, (Subject.record (put [0xC0, 0x80])).marshal origin false = .error (.invalid fault) ∧
        fault.property.name = Text.ofString "StructuredData/Value" := by
  intro origin type template put
  let map : FieldMap := { FieldMap.empty origin.identity "T" with
    parameterFields := [⟨"first", defaultElementId, "first", false⟩,
      ⟨"Key", defaultElementId, "key", false⟩, ⟨"last", defaultElementId, "last", false⟩] }
  have reflected : template.type.reflect origin.identity = .ok map := rfl
  have listed : ⟨"Key", defaultElementId, "key", false⟩ ∈ map.parameterFields := by decide
  have encoded : (Subject.record template).marshal origin false = .ok _ := rfl
  have differs : ∀ content, Record.DiffersIn "Key" template (put content) :=
    fun content => Record.differsIn_withValue rfl _
  rcases octets_are_carried_or_refused reflected listed nofun encoded with
    ⟨front, behind, all⟩
  have carried := (all (put [0xC3, 0xA9, 0x22]) .growable _ (differs _) rfl nofun nofun).2.1
  have refused := (all (put [0xC0, 0x80]) .growable _ (differs _) rfl nofun nofun).2.2
  have malformed : ¬Utf8.WellFormed [0xC0, 0x80] := by
    rw [← Utf8.isEncodable_decodeEscaping_iff]
    decide
  rcases refused malformed with ⟨fault, isFault, isValue, _⟩
  exact ⟨front, behind, ⟨_, rfl, carried _ rfl⟩, fault, isFault, isValue⟩

end Subject

end Syslog
