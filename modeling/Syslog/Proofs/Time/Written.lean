import Syslog.Time.Rfc3339
import Syslog.Proofs.Message.Characters

namespace Syslog

/-!
# The characters of a written time

A time is written with digits and a handful of marks, all of them printable, so that the space
behind it in a line is the first one.
-/

/-- The code of a decimal digit. -/
def IsDigit (code : Nat) : Prop := 48 ≤ code ∧ code ≤ 57

theorem IsDigit.printable {code : Nat} (digit : IsDigit code) : IsPrintable code :=
  ⟨Nat.le_trans (by decide) digit.1, Nat.le_trans digit.2 (by decide)⟩

namespace Text

theorem isDigit_digit (number : Nat) : IsDigit (digit number).val := by
  have value : (digit number).val = 48 + number % 10 := by
    rw [digit, CodePoint.ofNat, show '0'.toNat = 48 from rfl, dif_pos (by omega)]
  rw [value, IsDigit]
  omega

theorem isDigit_fixed (width number : Nat) : ∀ c ∈ fixed width number, IsDigit c.val := by
  induction width generalizing number with
  | zero => exact List.forall_mem_nil _
  | succ width inductionHypothesis =>
      rw [fixed, List.forall_mem_append]
      have last : ∀ c ∈ [digit number], IsDigit c.val :=
        List.forall_mem_singleton.mpr (isDigit_digit number)
      exact ⟨inductionHypothesis (number / 10), last⟩

theorem printable_fixed (width number : Nat) : ∀ c ∈ fixed width number, IsPrintable c.val :=
  fun c member => (isDigit_fixed width number c member).printable

theorem mem_of_mem_dropEndWhile {drop : CodePoint → Bool} {text : Text} {c : CodePoint}
    (member : c ∈ dropEndWhile drop text) : c ∈ text := by
  rw [dropEndWhile, List.mem_reverse] at member
  exact List.mem_reverse.mp ((List.dropWhile_sublist drop).subset member)

end Text

theorem printable_sexagesimal (high low : Nat) :
    ∀ c ∈ sexagesimal high low, IsPrintable c.val := by
  rw [sexagesimal, List.forall_mem_append, List.forall_mem_cons]
  exact ⟨Text.printable_fixed 2 high, by decide, Text.printable_fixed 2 low⟩

theorem Date.printable_written (date : Date) : ∀ c ∈ date.written, IsPrintable c.val := by
  simp only [Date.written, List.forall_mem_append, List.forall_mem_cons]
  exact ⟨⟨Text.printable_fixed 4 _, by decide, Text.printable_fixed 2 _⟩, by decide,
    Text.printable_fixed 2 _⟩

theorem Clock.printable_written (clock : Clock) : ∀ c ∈ clock.written, IsPrintable c.val := by
  rw [Clock.written, List.forall_mem_append, List.forall_mem_cons]
  exact ⟨printable_sexagesimal _ _, by decide, Text.printable_fixed 2 _⟩

namespace Rfc3339

theorem printable_fraction (nanoseconds : Nat) :
    ∀ c ∈ fraction nanoseconds, IsPrintable c.val := by
  rw [fraction]
  split
  · exact List.forall_mem_nil _
  · rw [List.forall_mem_cons]
    refine ⟨by decide, fun c member => ?_⟩
    exact Text.printable_fixed 9 nanoseconds c (Text.mem_of_mem_dropEndWhile member)

theorem printable_offset (minutes : Int) : ∀ c ∈ offset minutes, IsPrintable c.val := by
  rw [offset]
  split
  · decide
  · rw [List.forall_mem_cons]
    refine ⟨?_, printable_sexagesimal _ _⟩
    split <;> decide

/-- No character of a written time can be taken for a delimiter of the header. -/
theorem printable_written (dateTime : DateTime) (nanoseconds : Nat) :
    ∀ c ∈ written dateTime nanoseconds, IsPrintable c.val := by
  simp only [written, List.forall_mem_append, List.forall_mem_cons]
  exact ⟨⟨⟨dateTime.date.printable_written, by decide, dateTime.clock.printable_written⟩,
    printable_fraction _⟩, printable_offset _⟩

end Rfc3339

end Syslog
