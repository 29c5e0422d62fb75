import Mathlib.Data.List.TakeWhile
import Syslog.Proofs.Message.Line

namespace Syslog

/-!
# A line as a text

What stands before the body of a line has a UTF-8 form whatever the message says: header and
names are printable, and a parameter value has been checked.  So a line whose body is the
octets of a text is itself the octets of a text, and a decoder that puts replacement characters
for malformed octets has nothing to replace in it (`WireMessage.exists_text_of_body`).
-/

namespace Text

theorem surrogateRun?_eq_none_iff {text : Text} :
    text.surrogateRun? = none ↔ text.isEncodable = true := by
  rw [surrogateRun?, isEncodable, List.all_eq_true, ← List.dropWhile_eq_nil_iff]
  cases text.dropWhile (!·.isSurrogate) <;> simp

/-- The encoder accepts exactly the texts without surrogates. -/
theorem encode_eq_ok_iff {text : Text} {octets : Bytes} :
    text.encode = .ok octets ↔ text.isEncodable = true ∧ text.utf8 = octets := by
  rw [encode, ← surrogateRun?_eq_none_iff]
  cases text.surrogateRun? <;> simp

theorem isEncodable_of_printable {text : Text} (printable : ∀ c ∈ text, IsPrintable c.val) :
    text.isEncodable = true :=
  isEncodable_of_ascii fun c member => (printable c member).ascii

theorem isDigit_ofNat (number : Nat) : ∀ c ∈ ofNat number, IsDigit c.val := by
  intro c member
  rcases List.mem_map.mp member with ⟨char, listed, rfl⟩
  have digit := Nat.isDigit_of_mem_toDigits (by decide) (by decide) listed
  rw [Char.isDigit, Bool.and_eq_true, decide_eq_true_eq, decide_eq_true_eq] at digit
  have code : 48 ≤ char.toNat ∧ char.toNat ≤ 57 := digit
  rw [CodePoint.val_ofChar_of_ascii (by omega)]
  exact code

theorem isEncodable_ofNat (number : Nat) : (ofNat number).isEncodable = true :=
  isEncodable_of_printable fun c member => (isDigit_ofNat number c member).printable

end Text

theorem Name.isEncodable (name : Name) : name.text.isEncodable = true :=
  Text.isEncodable_of_ascii fun c member => (name.isNameCharacter c member).ascii

theorem WireParameter.isEncodable_written (wire : WireParameter) :
    wire.written.isEncodable = true := by
  have value := Grammar.isEncodable_escaped wire.value.encodable
  simp only [written, Text.isEncodable_append, Text.isEncodable_cons, wire.name.isEncodable, value]
  decide

theorem WireElement.isEncodable_written (wire : WireElement) : wire.written.isEncodable = true := by
  have parameters := Text.isEncodable_flatMap
    fun parameter (_ : parameter ∈ wire.parameters) => parameter.isEncodable_written
  simp only [written, Text.isEncodable_append, Text.isEncodable_cons, wire.id.isEncodable,
    parameters]
  decide

namespace WireMessage

variable (wire : WireMessage)

theorem isEncodable_writtenData : wire.writtenData.isEncodable = true := by
  rw [writtenData]
  split
  · decide
  · exact Text.isEncodable_flatMap fun element _ => element.isEncodable_written

/-- What stands before the body has a UTF-8 form. -/
theorem isEncodable_head : wire.head.isEncodable = true := by
  have timestamp : wire.timestamp.written.isEncodable = true := Text.isEncodable_of_printable
    (Rfc3339.printable_written wire.timestamp.dateTime wire.timestamp.nanoseconds)
  have hostname := Text.isEncodable_of_printable wire.hostname.isPrintable
  have appName := Text.isEncodable_of_printable wire.appName.isPrintable
  have processId := Text.isEncodable_of_printable wire.processId.isPrintable
  have messageId := Text.isEncodable_of_printable wire.messageId.isPrintable
  simp only [head, Text.joined, List.intersperse, List.flatten_cons, List.flatten_nil,
    Text.isEncodable_append, Text.isEncodable_cons, Text.isEncodable_ofNat, timestamp, hostname,
    appName, processId, messageId, wire.isEncodable_writtenData]
  decide

/-- A line whose body is a text in UTF-8 is a text in UTF-8. -/
theorem exists_text_of_body {content : Text} (encodable : content.isEncodable = true)
    (body : wire.body = content.utf8) :
    ∃ line : Text, line.isEncodable = true ∧ line.utf8 = wire.encode := by
  rw [encode, body]
  split
  · exact ⟨wire.head, wire.isEncodable_head, (List.append_nil _).symm⟩
  · refine ⟨wire.head ++ CodePoint.ofChar ' ' :: content, ?_, ?_⟩
    · rw [Text.isEncodable_append, Text.isEncodable_cons, wire.isEncodable_head, encodable]
      decide
    · rw [Text.utf8_append, Text.utf8_cons]
      rfl

end WireMessage

end Syslog
