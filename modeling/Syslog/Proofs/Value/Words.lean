import Mathlib.Algebra.Group.Nat.Defs
import Syslog.Proofs.Outcome
import Syslog.Value.Words

namespace Syslog

/-!
# What can be put into words

A value can be put into words unless one of its parts stands inside of too many others, or is an
integer with too many digits.  Which parts a value has, and how deep they stand, is said here
without the search for obstacles; the search comes back empty-handed exactly if no part is an
obstacle (`Value.wordsFault?_eq_none_iff`).
-/

/-- An integer is refused from the first number on that has a digit too many. -/
theorem WordsFault.ofInteger?_eq_some_iff {number : Int} {fault : WordsFault} :
    ofInteger? number = some fault ↔
      fault = .tooManyDigits ∧ 10 ^ digitLimit ≤ number.natAbs := by
  have digits : (Text.ofNat number.natAbs).length ≤ digitLimit ↔
      number.natAbs < 10 ^ digitLimit := by
    rw [Text.ofNat, Text.inBase, List.length_map]
    exact Nat.length_toDigits_le_iff (by decide) (by decide)
  rw [ofInteger?]
  split
  · next wide =>
      rw [Option.some.injEq, eq_comm]
      exact (and_iff_left (Nat.le_of_not_lt fun narrow => by omega)).symm
  · next narrow =>
      have small := digits.mp (Nat.le_of_not_lt narrow)
      simp only [reduceCtorEq, false_iff, not_and]
      omega

theorem WordsFault.ofInteger?_eq_none_iff {number : Int} :
    ofInteger? number = none ↔ number.natAbs < 10 ^ digitLimit := by
  rw [Option.eq_none_iff_forall_ne_some]
  simp only [ne_eq, ofInteger?_eq_some_iff, not_and, Nat.not_le, forall_eq]

namespace Value

/-- What stands directly in a value, and is put into words with it. -/
inductive Contains : Value → Value → Prop
  | listItem {items : List Value} {item : Value} (member : item ∈ items) :
      Contains (.list items) item
  | tupleItem {items : List Value} {item : Value} (member : item ∈ items) :
      Contains (.tuple items) item
  | key {entries : Entries} {key value : Value} (member : (key, value) ∈ entries) :
      Contains (.dict entries) key
  | content {entries : Entries} {key value : Value} (member : (key, value) ∈ entries) :
      Contains (.dict entries) value
  | argument {kind : FailureKind} {argument : Value} :
      Contains (.failure kind argument) argument

/-- The parts of a value, each by the number of those that it stands inside of. -/
inductive Part : (depth : Nat) → Value → Value → Prop
  | whole {value : Value} : Part 0 value value
  | inside {depth : Nat} {value inner part : Value} (contains : Contains value inner)
      (deeper : Part depth inner part) : Part (depth + 1) value part

/-- That an integer, if a value is one, does not have too many digits. -/
def HasFewDigits (value : Value) : Prop :=
  ∀ number, value = .int number → number.natAbs < 10 ^ digitLimit

theorem contains_list_iff {items : List Value} {inner : Value} :
    Contains (.list items) inner ↔ inner ∈ items :=
  ⟨fun | .listItem member => member, .listItem⟩

theorem contains_tuple_iff {items : List Value} {inner : Value} :
    Contains (.tuple items) inner ↔ inner ∈ items :=
  ⟨fun | .tupleItem member => member, .tupleItem⟩

theorem contains_failure_iff {kind : FailureKind} {argument inner : Value} :
    Contains (.failure kind argument) inner ↔ inner = argument := by
  constructor
  · rintro ⟨⟩
    rfl
  · rintro rfl
    exact .argument

theorem hasFewDigits_int_iff {number : Int} :
    (Value.int number).HasFewDigits ↔ number.natAbs < 10 ^ digitLimit := by
  simp only [HasFewDigits, Value.int.injEq, forall_eq']

theorem hasFewDigits_of_int? {value : Value} (noInteger : value.int? = none) :
    value.HasFewDigits := by
  rintro number rfl
  cases noInteger

/-- That no part of a value has an obstacle, where there is room for so many values: none stands
too deep, and none has too many digits. -/
def FitsWithin (room : Nat) (value : Value) : Prop :=
  ∀ depth part, Part depth value part → depth < room ∧ part.HasFewDigits

/-- That a value can be put into words. -/
def HasWords (value : Value) : Prop := value.FitsWithin nestingLimit

variable {room : Nat} {value : Value}

theorem not_fitsWithin_zero (value : Value) : ¬value.FitsWithin 0 :=
  fun fits => absurd (fits 0 value .whole).1 (Nat.not_lt_zero 0)

/-- A value fits if what stands directly in it fits into the room that is left. -/
theorem fitsWithin_succ_iff :
    value.FitsWithin (room + 1) ↔
      value.HasFewDigits ∧ ∀ inner, Contains value inner → inner.FitsWithin room := by
  constructor
  · intro fits
    refine ⟨(fits 0 value .whole).2, fun inner contains depth part deeper => ?_⟩
    have inside := fits _ part (.inside contains deeper)
    exact ⟨Nat.lt_of_succ_lt_succ inside.1, inside.2⟩
  · rintro ⟨own, others⟩ depth part isPart
    cases isPart with
    | whole => exact ⟨Nat.succ_pos room, own⟩
    | inside contains deeper =>
        have inside := others _ contains _ part deeper
        exact ⟨Nat.succ_lt_succ inside.1, inside.2⟩

theorem obstacleIn?_eq_none_iff {items : List Value} :
    obstacleIn? items room = none ↔ ∀ item ∈ items, item.obstacle? room = none := by
  induction items with
  | nil => simp only [obstacleIn?, List.not_mem_nil, false_implies, implies_true]
  | cons item rest inductionHypothesis =>
      rw [obstacleIn?, Option.or_eq_none_iff, inductionHypothesis, List.forall_mem_cons]

theorem obstacleInEntries?_eq_none_iff {entries : Entries} :
    obstacleInEntries? entries room = none ↔
      ∀ entry ∈ entries, entry.1.obstacle? room = none ∧ entry.2.obstacle? room = none := by
  induction entries with
  | nil => simp only [obstacleInEntries?, List.not_mem_nil, false_implies, implies_true]
  | cons entry rest inductionHypothesis =>
      rw [obstacleInEntries?, Option.or_eq_none_iff, Option.or_eq_none_iff, inductionHypothesis,
        List.forall_mem_cons]

/-- The search finds nothing exactly where nothing is in the way.  The induction is on the room,
which gets less with every value that the search goes into. -/
theorem obstacle?_eq_none_iff : value.obstacle? room = none ↔ value.FitsWithin room := by
  induction room generalizing value with
  | zero => simp only [obstacle?, reduceCtorEq, not_fitsWithin_zero]
  | succ room inductionHypothesis =>
      rw [fitsWithin_succ_iff]
      simp only [← inductionHypothesis]
      cases value with
      | int number =>
          have isLeaf : ∀ inner, ¬Contains (.int number) inner := nofun
          rw [obstacle?, WordsFault.ofInteger?_eq_none_iff, hasFewDigits_int_iff]
          exact (and_iff_left fun inner contains => absurd contains (isLeaf inner)).symm
      | list items =>
          rw [obstacle?, obstacleIn?_eq_none_iff, and_iff_right (hasFewDigits_of_int? rfl)]
          simp only [contains_list_iff]
      | tuple items =>
          rw [obstacle?, obstacleIn?_eq_none_iff, and_iff_right (hasFewDigits_of_int? rfl)]
          simp only [contains_tuple_iff]
      | dict entries =>
          rw [obstacle?, obstacleInEntries?_eq_none_iff,
            and_iff_right (hasFewDigits_of_int? rfl)]
          constructor
          · intro clear inner contains
            cases contains with
            | key member => exact (clear _ member).1
            | content member => exact (clear _ member).2
          · exact fun clear entry member =>
              ⟨clear _ (.key member), clear _ (.content member)⟩
      | failure kind argument =>
          rw [obstacle?, and_iff_right (hasFewDigits_of_int? rfl)]
          simp only [contains_failure_iff, forall_eq]
      | _ =>
          simp only [obstacle?, true_iff]
          exact ⟨nofun, nofun⟩

theorem wordsFault?_eq_none_iff : value.wordsFault? = none ↔ value.HasWords :=
  obstacle?_eq_none_iff

/-- The words of a value are its form, if it has any. -/
theorem inWords_eq_ok_iff_hasWords {form : Value → Text} {text : Text} :
    value.inWords form = .ok text ↔ value.HasWords ∧ form value = text := by
  rw [inWords_eq_ok_iff, wordsFault?_eq_none_iff]

theorem exists_inWords_eq_error_iff {form : Value → Text} :
    (∃ fault, value.inWords form = .error fault) ↔ ¬value.HasWords := by
  simp only [inWords_eq_error_iff, ← wordsFault?_eq_none_iff, ← ne_eq, Option.ne_none_iff_exists']

theorem hasWords_text (content : Text) : (Value.text content).HasWords :=
  wordsFault?_eq_none_iff.mp rfl

end Value

end Syslog
