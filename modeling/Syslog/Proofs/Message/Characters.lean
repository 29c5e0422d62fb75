import Syslog.Message.Grammar
import Syslog.Proofs.Text.Utf8

namespace Syslog

/-!
# The character classes of a message

The classes are stated on codes, so that they can be asked of code points and of octets alike.
All of them lie in ASCII, where a text and its octets correspond one to one
(`Text.exists_utf8_iff`).
-/

/-- The code of a printable US-ASCII character other than the space. -/
def IsPrintable (code : Nat) : Prop := 33 ≤ code ∧ code ≤ 126

instance (code : Nat) : Decidable (IsPrintable code) :=
  inferInstanceAs (Decidable (33 ≤ code ∧ code ≤ 126))

/-- The code of a printable character that ends neither a name nor its element, and is no
quote. -/
def IsNameCharacter (code : Nat) : Prop :=
  IsPrintable code ∧ code ≠ '='.toNat ∧ code ≠ ']'.toNat ∧ code ≠ '"'.toNat

theorem IsPrintable.ascii {code : Nat} (printable : IsPrintable code) : code < 0x80 :=
  Nat.lt_of_le_of_lt printable.2 (by decide)

theorem IsNameCharacter.ascii {code : Nat} (character : IsNameCharacter code) : code < 0x80 :=
  character.1.ascii

namespace CodePoint

theorem isPrintUsAscii_iff {c : CodePoint} : c.isPrintUsAscii = true ↔ IsPrintable c.val := by
  simp only [isPrintUsAscii, IsPrintable, Bool.and_eq_true, decide_eq_true_eq]

theorem val_ofChar_of_ascii {char : Char} (ascii : char.toNat < 0x80) :
    (ofChar char).val = char.toNat := by
  rw [ofChar, ofNat, dif_pos (by omega)]

theorem ne_ofChar_iff {c : CodePoint} {char : Char} (ascii : char.toNat < 0x80) :
    c ≠ ofChar char ↔ c.val ≠ char.toNat := by
  rw [← val_ofChar_of_ascii ascii]
  exact not_congr ⟨congrArg val, ext⟩

theorem isNameChar_iff {c : CodePoint} : c.isNameChar = true ↔ IsNameCharacter c.val := by
  simp only [isNameChar, IsNameCharacter, Bool.and_eq_true, bne_iff_ne, isPrintUsAscii_iff,
    and_assoc, ne_ofChar_iff (show '='.toNat < 0x80 by decide),
    ne_ofChar_iff (show ']'.toNat < 0x80 by decide),
    ne_ofChar_iff (show '"'.toNat < 0x80 by decide)]

end CodePoint

namespace Text

theorem isPrintUsAscii_iff {text : Text} :
    text.isPrintUsAscii = true ↔ ∀ c ∈ text, IsPrintable c.val := by
  simp only [isPrintUsAscii, List.all_eq_true, CodePoint.isPrintUsAscii_iff]

theorem isName_iff {allowLong : Bool} {text : Text} :
    text.isName allowLong = true ↔
      text ≠ [] ∧ (allowLong = false → text.length ≤ 32) ∧
        ∀ c ∈ text, IsNameCharacter c.val := by
  simp only [isName, Bool.and_eq_true, Bool.or_eq_true, decide_eq_true_eq, Bool.not_eq_true',
    List.isEmpty_eq_false_iff, List.all_eq_true, CodePoint.isNameChar_iff]
  cases allowLong <;> simp [nameLimit, and_assoc, and_left_comm]

variable {Class : Nat → Prop}

/-- In ASCII the octets of a text belong to the classes of its code points. -/
theorem forall_mem_utf8 (ascii : ∀ code, Class code → code < 0x80) {text : Text}
    (inside : ∀ c ∈ text, Class c.val) : ∀ o ∈ text.utf8, Class o.toNat := by
  rw [utf8_of_ascii fun c member => ascii _ (inside c member)]
  intro o member
  rcases List.mem_map.mp member with ⟨c, listed, rfl⟩
  have small := ascii _ (inside c listed)
  rw [toNat_ofNat_octet (by omega)]
  exact inside c listed

theorem length_utf8_of_ascii {text : Text} (ascii : ∀ c ∈ text, c.val < 0x80) :
    text.utf8.length = text.length := by
  rw [utf8_of_ascii ascii, List.length_map]

/-- Octets of an ASCII class are what the texts of that class are written as. -/
theorem exists_utf8_iff (ascii : ∀ code, Class code → code < 0x80) {octets : Bytes} :
    (∀ o ∈ octets, Class o.toNat) ↔
      ∃ text : Text, (∀ c ∈ text, Class c.val) ∧ text.utf8 = octets := by
  constructor
  · intro inside
    induction octets with
    | nil => exact ⟨[], List.forall_mem_nil _, rfl⟩
    | cons o rest inductionHypothesis =>
        rcases List.forall_mem_cons.mp inside with ⟨first, others⟩
        rcases inductionHypothesis others with ⟨text, insideText, rfl⟩
        let c : CodePoint := ⟨o.toNat, Nat.lt_trans (ascii _ first) (by decide)⟩
        refine ⟨c :: text, List.forall_mem_cons.mpr ⟨first, insideText⟩, ?_⟩
        rw [utf8_cons, CodePoint.utf8_of_ascii (ascii _ first), UInt8.ofNat_toNat]
        rfl
  · rintro ⟨text, inside, rfl⟩
    exact forall_mem_utf8 ascii inside

end Text

/-- Octets of one class, at least one of them and at most `limit`. -/
structure Word (Class : Nat → Prop) (limit : Nat) (octets : Bytes) : Prop where
  nonempty : octets ≠ []
  length_le : octets.length ≤ limit
  inside : ∀ o ∈ octets, Class o.toNat

/-- The words of an ASCII class are what the texts of that class and of that length are
written as. -/
theorem word_iff {Class : Nat → Prop} (ascii : ∀ code, Class code → code < 0x80) {limit : Nat}
    {octets : Bytes} :
    Word Class limit octets ↔
      ∃ text : Text, text ≠ [] ∧ text.length ≤ limit ∧ (∀ c ∈ text, Class c.val) ∧
        text.utf8 = octets := by
  have length : ∀ text : Text, (∀ c ∈ text, Class c.val) → text.utf8.length = text.length :=
    fun text inside => Text.length_utf8_of_ascii fun c member => ascii _ (inside c member)
  constructor
  · rintro ⟨nonempty, short, inside⟩
    rcases (Text.exists_utf8_iff ascii).mp inside with ⟨text, insideText, rfl⟩
    rw [length text insideText] at short
    exact ⟨text, fun empty => nonempty (congrArg Text.utf8 empty), short, insideText, rfl⟩
  · rintro ⟨text, filled, short, inside, rfl⟩
    refine ⟨?_, ?_, Text.forall_mem_utf8 ascii inside⟩
    · apply List.ne_nil_of_length_pos
      rw [length text inside]
      exact List.length_pos_iff.mpr filled
    · rw [length text inside]
      exact short

end Syslog
