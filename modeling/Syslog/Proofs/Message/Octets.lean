import Syslog.Message.Wire
import Syslog.Proofs.Time.Written

namespace Syslog

/-!
# The octets of a checked message

A line is composed as a text and then encoded.  Here it is written out as octets, part by part
(`WireMessage.encode_eq`), together with what is known of each part: the fields of the header
are printable, and so do not hold the space that ends them; names do not hold what ends a name;
and escaping a value before encoding it is the same as escaping its octets
(`Text.utf8_escaped`).
-/

/-! ## Escaped values -/

/-- An octet that is escaped in a parameter value. -/
def isEscapedOctet (o : UInt8) : Bool := o == octet '\\' || o == octet '"' || o == octet ']'

theorem isEscapedOctet_iff {o : UInt8} :
    isEscapedOctet o = true ↔ o = octet '\\' ∨ o = octet '"' ∨ o = octet ']' := by
  simp only [isEscapedOctet, Bool.or_eq_true, beq_iff_eq, or_assoc]

theorem ascii_of_isEscapedOctet {o : UInt8} (special : isEscapedOctet o = true) :
    o.toNat < 0x80 := by
  rcases isEscapedOctet_iff.mp special with rfl | rfl | rfl <;> decide

theorem escape_append {α : Type} {special : α → Bool} {mark : α} (left right : List α) :
    escape special mark (left ++ right) = escape special mark left ++ escape special mark right :=
  List.flatMap_append

theorem escape_of_none {α : Type} {special : α → Bool} {mark : α} {items : List α}
    (none : ∀ item ∈ items, special item = false) : escape special mark items = items := by
  induction items with
  | nil => rfl
  | cons item items inductionHypothesis =>
      rcases List.forall_mem_cons.mp none with ⟨first, others⟩
      rw [escape, List.flatMap_cons, ← escape, inductionHypothesis others, first]
      rfl

namespace CodePoint

theorem isEscaped_iff {c : CodePoint} :
    c.isEscaped = true ↔ c = ofChar '\\' ∨ c = ofChar '"' ∨ c = ofChar ']' := by
  simp only [isEscaped, Bool.or_eq_true, beq_iff_eq, or_assoc]

/-- A code point is escaped if one of its octets is. -/
theorem isEscaped_of_mem {c : CodePoint} {o : UInt8} (member : o ∈ c.utf8)
    (special : isEscapedOctet o = true) : c.isEscaped = true := by
  have code : c.val = o.toNat := val_eq_of_mem_utf8 (ascii_of_isEscapedOctet special) member
  apply isEscaped_iff.mpr
  rcases isEscapedOctet_iff.mp special with rfl | rfl | rfl
  · exact Or.inl (ext code)
  · exact Or.inr (Or.inl (ext code))
  · exact Or.inr (Or.inr (ext code))

theorem plain_of_mem {c : CodePoint} (plain : c.isEscaped = false) :
    ∀ o ∈ c.utf8, isEscapedOctet o = false := by
  intro o member
  cases special : isEscapedOctet o with
  | false => rfl
  | true =>
      rw [isEscaped_of_mem member special] at plain
      cases plain

/-- An escaped code point is one octet. -/
theorem utf8_of_isEscaped {c : CodePoint} (special : c.isEscaped = true) :
    ∃ o, c.utf8 = [o] ∧ isEscapedOctet o = true := by
  rcases isEscaped_iff.mp special with rfl | rfl | rfl
  · exact ⟨octet '\\', rfl, rfl⟩
  · exact ⟨octet '"', rfl, rfl⟩
  · exact ⟨octet ']', rfl, rfl⟩

end CodePoint

namespace Text

/-- A text whose octets start with one that is escaped starts with a code point that is. -/
theorem exists_of_utf8_eq_cons {text : Text} {o : UInt8} {octets : Bytes}
    (special : isEscapedOctet o = true) (same : text.utf8 = o :: octets) :
    ∃ c rest, text = c :: rest ∧ c.isEscaped = true ∧ utf8 rest = octets := by
  cases text with
  | nil => cases same
  | cons c rest =>
      rw [utf8_cons] at same
      have first : o ∈ c.utf8 := by
        cases octets : c.utf8 with
        | nil => exact absurd octets c.utf8_ne_nil
        | cons p others =>
            rw [octets] at same
            cases same
            exact List.mem_cons_self
      have specialPoint := CodePoint.isEscaped_of_mem first special
      rcases CodePoint.utf8_of_isEscaped specialPoint with ⟨p, single, _⟩
      rw [single] at same
      cases same
      exact ⟨c, rest, rfl, specialPoint, rfl⟩

theorem utf8_flatMap (write : α → Text) (items : List α) :
    utf8 (items.flatMap write) = items.flatMap fun item => (write item).utf8 :=
  List.flatMap_assoc

/-- Escaping a text before it is encoded is escaping its octets, since what is escaped is one
octet and no other code point has that octet. -/
theorem utf8_escaped (text : Text) :
    text.escaped.utf8 = escape isEscapedOctet (octet '\\') text.utf8 := by
  induction text with
  | nil => rfl
  | cons c rest inductionHypothesis =>
      rw [escaped, List.flatMap_cons, ← escaped, utf8_append, utf8_cons, escape_append,
        inductionHypothesis]
      apply congrArg (· ++ _)
      by_cases special : c.isEscaped = true
      · rcases CodePoint.utf8_of_isEscaped special with ⟨o, single, specialOctet⟩
        rw [if_pos special, utf8_cons, utf8_cons, single, escape, List.flatMap_singleton,
          if_pos specialOctet]
        rfl
      · rw [if_neg special, utf8_cons, utf8_nil, List.append_nil, escape_of_none]
        exact CodePoint.plain_of_mem (Bool.eq_false_iff.mpr special)

end Text

/-! ## Parts of the structured data -/

/-- An octet of an ASCII class is no delimiter outside of it. -/
theorem Text.ne_octet_of_mem {Class : Nat → Prop} (ascii : ∀ code, Class code → code < 0x80)
    {text : Text} (inside : ∀ c ∈ text, Class c.val) {delimiter : UInt8}
    (outside : ¬Class delimiter.toNat) : ∀ o ∈ text.utf8, o ≠ delimiter := by
  rintro o member rfl
  exact outside (forall_mem_utf8 ascii inside o member)

theorem Name.isNameCharacter (name : Name) : ∀ c ∈ name.text, IsNameCharacter c.val :=
  (Text.isName_iff.mp name.valid).2.2

theorem Token.isPrintable {limit : Nat} (token : Token limit) :
    ∀ c ∈ token.text.orNil, IsPrintable c.val := by
  rw [Text.orNil]
  split
  · decide
  · exact Text.isPrintUsAscii_iff.mp token.printable

namespace WireParameter

/-- The octets of a parameter behind the space in front of it. -/
def octets (parameter : WireParameter) : Bytes :=
  parameter.name.text.utf8 ++ octet '=' :: octet '"' ::
    (parameter.value.text.escaped.utf8 ++ [octet '"'])

theorem utf8_written (parameter : WireParameter) :
    parameter.written.utf8 = octet ' ' :: parameter.octets := by
  rw [written, octets]
  simp only [Text.utf8_append, Text.utf8_cons, List.append_assoc]
  rfl

end WireParameter

namespace WireElement

/-- The octets of an element behind the bracket that opens it. -/
def octets (element : WireElement) : Bytes :=
  element.id.text.utf8 ++
    (element.parameters.flatMap (fun parameter => octet ' ' :: parameter.octets) ++ [octet ']'])

theorem utf8_written (element : WireElement) :
    element.written.utf8 = octet '[' :: element.octets := by
  rw [written, octets]
  simp only [Text.utf8_append, Text.utf8_cons, Text.utf8_flatMap, WireParameter.utf8_written,
    List.append_assoc]
  rfl

end WireElement

namespace WireMessage

/-- The octets of the structured data. -/
def dataOctets (elements : List WireElement) : Bytes :=
  if elements.isEmpty then [octet '-']
  else elements.flatMap fun element => octet '[' :: element.octets

theorem utf8_writtenData (message : WireMessage) :
    message.writtenData.utf8 = dataOctets message.structuredData := by
  rw [writtenData, dataOctets]
  split
  · rfl
  · simp only [Text.utf8_flatMap, WireElement.utf8_written]

/-- The octets of a body, with the space in front of it if there is one. -/
def ending (body : Bytes) : Bytes := if body.isEmpty then [] else octet ' ' :: body

/-- A line is its parts between their delimiters. -/
theorem encode_eq (message : WireMessage) :
    message.encode =
      octet '<' :: ((Text.ofNat message.priority).utf8 ++ octet '>' :: octet '1' :: octet ' ' ::
        (message.timestamp.written.utf8 ++ octet ' ' ::
          (message.hostname.text.orNil.utf8 ++ octet ' ' ::
            (message.appName.text.orNil.utf8 ++ octet ' ' ::
              (message.processId.text.orNil.utf8 ++ octet ' ' ::
                (message.messageId.text.orNil.utf8 ++ octet ' ' ::
                  (dataOctets message.structuredData ++ ending message.body))))))) := by
  rw [encode, head, Text.joined, ← utf8_writtenData]
  simp only [List.intersperse, List.flatten_cons, List.flatten_nil, Text.utf8_append,
    Text.utf8_cons, List.append_assoc, List.append_nil]
  rfl

end WireMessage

end Syslog
