import Mathlib.Data.List.Basic
import Mathlib.Data.List.Induction
import Syslog.Proofs.Text.Utf8

namespace Syslog

/-!
# Decimal numerals

A numeral is a sequence of digits that has no leading zero.  Every number is written as a
numeral, the numeral has the value of the number, and no other numeral has
(`Numeral.eq_ofNat_iff`).
-/

/-- The number that digits stand for. -/
def decimalValue (digits : Bytes) : Nat :=
  digits.foldl (fun value digit => 10 * value + (digit.toNat - 48)) 0

/-- A decimal numeral without leading zeros. -/
structure Numeral (digits : Bytes) : Prop where
  nonempty : digits ≠ []
  digit : ∀ o ∈ digits, 48 ≤ o.toNat ∧ o.toNat ≤ 57
  noLeadingZero : digits.head? = some (octet '0') → digits = [octet '0']

theorem decimalValue_append_singleton (digits : Bytes) (digit : UInt8) :
    decimalValue (digits ++ [digit]) = 10 * decimalValue digits + (digit.toNat - 48) := by
  simp [decimalValue, List.foldl_append]

namespace Text

private theorem utf8_digitChar {number : Nat} (small : number < 10) :
    (CodePoint.ofChar number.digitChar).utf8 = [.ofNat (48 + number)] := by
  have value : (CodePoint.ofChar number.digitChar).val = 48 + number := by
    rw [CodePoint.ofChar, CodePoint.ofNat, Nat.toNat_digitChar_of_lt_ten small,
      dif_pos (by omega)]
  rw [CodePoint.utf8_of_ascii (by omega), value]

theorem utf8_ofNat_of_lt {number : Nat} (small : number < 10) :
    (ofNat number).utf8 = [.ofNat (48 + number)] := by
  rw [ofNat, inBase, Nat.toDigits_of_lt_base small, List.map_singleton, utf8_cons,
    utf8_digitChar small]
  rfl

/-- A number is written as what stands before its last digit, followed by that digit. -/
theorem utf8_ofNat_of_le {number : Nat} (large : 10 ≤ number) :
    (ofNat number).utf8 = (ofNat (number / 10)).utf8 ++ [.ofNat (48 + number % 10)] := by
  rw [ofNat, inBase, Nat.toDigits_of_base_le (by decide) large, List.map_append, utf8_append,
    List.map_singleton, utf8_cons, utf8_digitChar (by omega)]
  rfl

theorem decimalValue_ofNat (number : Nat) : decimalValue (ofNat number).utf8 = number := by
  induction number using Nat.strongRecOn with
  | _ number inductionHypothesis =>
      by_cases small : number < 10
      · rw [utf8_ofNat_of_lt small]
        simp only [decimalValue, List.foldl_cons, List.foldl_nil]
        rw [toNat_ofNat_octet (by omega)]
        omega
      · rw [utf8_ofNat_of_le (by omega), decimalValue_append_singleton,
          inductionHypothesis (number / 10) (by omega), toNat_ofNat_octet (by omega)]
        omega

/-- Every number is written as a numeral. -/
theorem numeral_ofNat (number : Nat) : Numeral (ofNat number).utf8 := by
  induction number using Nat.strongRecOn with
  | _ number inductionHypothesis =>
      by_cases small : number < 10
      · rw [utf8_ofNat_of_lt small]
        refine ⟨List.cons_ne_nil _ _, ?_, ?_⟩
        · intro o member
          rw [List.mem_singleton.mp member, toNat_ofNat_octet (by omega)]
          omega
        · intro zero
          exact congrArg (fun o => [o]) (Option.some.inj zero)
      · have shorter := inductionHypothesis (number / 10) (by omega)
        have value := decimalValue_ofNat (number / 10)
        rw [utf8_ofNat_of_le (by omega)]
        refine ⟨List.append_ne_nil_of_right_ne_nil _ (List.cons_ne_nil _ _), ?_, ?_⟩
        · intro o member
          rcases List.mem_append.mp member with member | member
          · exact shorter.digit o member
          · rw [List.mem_singleton.mp member, toNat_ofNat_octet (by omega)]
            omega
        · intro zero
          rw [List.head?_append_of_ne_nil _ shorter.nonempty] at zero
          rw [shorter.noLeadingZero zero] at value
          change 0 = number / 10 at value
          omega

end Text

namespace Numeral

/-- A numeral is what its value is written as. -/
theorem ofNat_decimalValue {digits : Bytes} (numeral : Numeral digits) :
    (Text.ofNat (decimalValue digits)).utf8 = digits := by
  rcases numeral with ⟨nonempty, digit, noLeadingZero⟩
  induction digits using List.reverseRecOn with
  | nil => exact absurd rfl nonempty
  | append_singleton before last inductionHypothesis =>
      have lastDigit := digit last (List.mem_append_right before List.mem_cons_self)
      have lastOctet : UInt8.ofNat (48 + (last.toNat - 48)) = last := by
        rw [Nat.add_sub_cancel' lastDigit.1]
        exact UInt8.ofNat_toNat
      rw [decimalValue_append_singleton]
      by_cases single : before = []
      · subst single
        have value : 10 * decimalValue [] + (last.toNat - 48) = last.toNat - 48 :=
          Nat.zero_add _
        rw [value, Text.utf8_ofNat_of_lt (by omega), lastOctet]
        rfl
      · have written := inductionHypothesis single
          (fun o member => digit o (List.mem_append_left _ member)) (by
            intro zero
            rw [List.head?_append_of_ne_nil _ single] at noLeadingZero
            have one := noLeadingZero zero
            have short := congrArg List.length one
            have positive := List.length_pos_of_ne_nil single
            simp only [List.length_append, List.length_singleton] at short
            omega)
        have positive : decimalValue before ≠ 0 := by
          intro zero
          rw [zero] at written
          rw [← written] at noLeadingZero
          have short := congrArg List.length (noLeadingZero rfl)
          simp [Text.utf8_ofNat_of_lt] at short
        have front : (10 * decimalValue before + (last.toNat - 48)) / 10 = decimalValue before := by
          omega
        have digit : (10 * decimalValue before + (last.toNat - 48)) % 10 = last.toNat - 48 := by
          omega
        rw [Text.utf8_ofNat_of_le (by omega), front, digit, written, lastOctet]

theorem eq_ofNat_iff {digits : Bytes} {number : Nat} :
    Numeral digits ∧ decimalValue digits = number ↔ (Text.ofNat number).utf8 = digits := by
  constructor
  · rintro ⟨numeral, rfl⟩
    exact numeral.ofNat_decimalValue
  · rintro rfl
    exact ⟨Text.numeral_ofNat number, Text.decimalValue_ofNat number⟩

end Numeral

end Syslog
