import Syslog.Proofs.Text.Utf8

namespace Syslog

/-!
# Octets that are no text

The decoder that keeps octets, `Utf8.decodeEscaping`, puts a surrogate for each octet of a malformed
stretch.  No text with a surrogate has a UTF-8 form, so the question is whether a malformed stretch
is found in all octets outside of the grammar, and only there.

That well-formed octets are read without one is known from the encoder.  For the converse, what the
machine has taken is followed octet by octet: a code point that has been started lacks only octets
within its bounds to be a character of the grammar (`Utf8.Pending.IsOpen`).
-/

namespace Utf8

/-- What a segment is read as by the decoder that keeps octets. -/
def Segment.escaped : Segment → Text
  | .scalar c => [c]
  | .malformed stretch => stretch.map fun octet => .ofNat (0xDC00 + octet.toNat)

theorem decodeEscaping_eq (octets : Bytes) :
    decodeEscaping octets = (segments octets).flatMap Segment.escaped := by
  rw [decodeEscaping]
  refine congrArg (List.flatMap · _) (funext fun segment => ?_)
  cases segment <;> rfl

/-- A malformed stretch has no UTF-8 form, unless it is empty. -/
theorem not_isEncodable_of_malformed {stretch : Bytes} (filled : stretch ≠ []) :
    ¬(Segment.malformed stretch).escaped.isEncodable = true := by
  cases stretch with
  | nil => exact absurd rfl filled
  | cons octet rest =>
      have small := octet.toNat_lt
      have code : (CodePoint.ofNat (0xDC00 + octet.toNat)).val = 0xDC00 + octet.toNat := by
        rw [CodePoint.ofNat, dif_pos (by omega)]
      intro encodable
      rw [Segment.escaped, List.map_cons, Text.isEncodable_iff] at encodable
      have first := encodable _ List.mem_cons_self
      omega

/-! ## What has been started -/

/-- A code point that has been started, and becomes a character with as many octets as are missing,
of which the first is within the bounds and the others are tails. -/
structure Pending.IsOpen (pending : Pending) : Prop where
  begun : pending.taken ≠ []
  missing : 1 ≤ pending.missing
  completes : ∀ (next : UInt8) (more : Bytes), pending.low ≤ next.toNat →
    next.toNat ≤ pending.high → more.length + 1 = pending.missing → (∀ tail ∈ more, IsTail tail) →
      Character (pending.taken ++ next :: more)

theorem range_of_lead? {octet : UInt8} {pending : Pending} (started : lead? octet = some pending) :
    (0xC2 ≤ octet.toNat ∧ octet.toNat ≤ 0xDF) ∨ (0xE0 ≤ octet.toNat ∧ octet.toNat ≤ 0xEF) ∨
      (0xF0 ≤ octet.toNat ∧ octet.toNat ≤ 0xF4) := by
  refine Decidable.byContradiction fun outside => ?_
  have none : lead? octet = none := by
    simp only [lead?]
    repeat rw [if_neg (by omega)]
  cases none.symm.trans started

theorem isOpen_of_lead? {octet : UInt8} {pending : Pending}
    (started : lead? octet = some pending) : pending.IsOpen ∧ pending.taken = [octet] := by
  rcases range_of_lead? started with ⟨low, high⟩ | ⟨low, high⟩ | ⟨low, high⟩
  · rw [lead?_two low high] at started
    obtain rfl := Option.some.inj started
    refine ⟨⟨List.cons_ne_nil _ _, Nat.le_refl 1, ?_⟩, rfl⟩
    intro next more least greatest count _
    obtain rfl := List.length_eq_zero_iff.mp (Nat.succ.inj count)
    exact .two low high ⟨least, greatest⟩
  · rw [lead?_three low high] at started
    obtain rfl := Option.some.inj started
    refine ⟨⟨List.cons_ne_nil _ _, show 1 ≤ 2 by decide, ?_⟩, rfl⟩
    intro next more least greatest count tails
    simp only at least greatest count
    rcases List.length_eq_one_iff.mp (Nat.succ.inj count) with ⟨third, rfl⟩
    have isThird := tails third List.mem_cons_self
    refine .three low high ?_ ?_ ?_ isThird
    · rw [IsTail]
      constructor <;> split at least <;> split at greatest <;> omega
    · intro shortest
      rwa [if_pos shortest] at least
    · intro scalar
      rwa [if_pos scalar] at greatest
  · rw [lead?_four low high] at started
    obtain rfl := Option.some.inj started
    refine ⟨⟨List.cons_ne_nil _ _, show 1 ≤ 3 by decide, ?_⟩, rfl⟩
    intro next more least greatest count tails
    simp only at least greatest count
    have two := Nat.succ.inj count
    rcases List.exists_cons_of_length_eq_add_one two with ⟨third, others, rfl⟩
    rcases List.length_eq_one_iff.mp (Nat.succ.inj two) with ⟨fourth, rfl⟩
    have isThird := tails third List.mem_cons_self
    have isFourth := tails fourth (List.mem_cons_of_mem _ List.mem_cons_self)
    refine .four low high ?_ ?_ ?_ isThird isFourth
    · rw [IsTail]
      constructor <;> split at least <;> split at greatest <;> omega
    · intro shortest
      rwa [if_pos shortest] at least
    · intro inside
      rwa [if_pos inside] at greatest

/-- One octet within the bounds leaves a code point open that lacks more than one. -/
theorem Pending.IsOpen.next {pending : Pending} (isOpen : pending.IsOpen) {octet : UInt8}
    (least : pending.low ≤ octet.toNat) (greatest : octet.toNat ≤ pending.high)
    (more : pending.missing ≠ 1) (bits : Nat) :
    Pending.IsOpen ⟨bits, pending.missing - 1, 0x80, 0xBF, pending.taken ++ [octet]⟩ where
  begun := List.append_ne_nil_of_right_ne_nil _ (List.cons_ne_nil _ _)
  missing := by
    have atLeast := isOpen.missing
    simp only
    omega
  completes next rest nextLeast nextGreatest count tails := by
    have atLeast := isOpen.missing
    have counted : (next :: rest).length + 1 = pending.missing := by
      simp only [List.length_cons] at count ⊢
      omega
    rw [List.append_assoc]
    exact isOpen.completes octet (next :: rest) least greatest counted
      (List.forall_mem_cons.mpr ⟨⟨nextLeast, nextGreatest⟩, tails⟩)

theorem Pending.IsOpen.last {pending : Pending} (isOpen : pending.IsOpen) {octet : UInt8}
    (least : pending.low ≤ octet.toNat) (greatest : octet.toNat ≤ pending.high)
    (one : pending.missing = 1) : Character (pending.taken ++ [octet]) :=
  isOpen.completes octet [] least greatest one.symm (List.forall_mem_nil _)

/-- What has been taken of a code point that may have been started. -/
def takenOf : Option Pending → Bytes
  | none => []
  | some started => started.taken

/-- That a code point, if one has been started, is open. -/
def OpenIfStarted (pending : Option Pending) : Prop :=
  ∀ started, pending = some started → started.IsOpen

theorem openIfStarted_none : OpenIfStarted none := by
  rintro _ ⟨⟩

theorem Pending.IsOpen.openIfStarted {pending : Pending} (isOpen : pending.IsOpen) :
    OpenIfStarted (some pending) := by
  rintro _ ⟨⟩
  exact isOpen

/-- One octet that is read without a surrogate is taken, and if it leaves nothing open, it completes
a character. -/
theorem taken_of_feed {octet : UInt8} {pending : Option Pending} (isOpen : OpenIfStarted pending)
    (encodable : ∀ segment ∈ (feed pending octet).1, segment.escaped.isEncodable = true) :
    OpenIfStarted (feed pending octet).2 ∧
      (takenOf (feed pending octet).2 = takenOf pending ++ [octet] ∨
        takenOf (feed pending octet).2 = [] ∧ Character (takenOf pending ++ [octet])) := by
  cases pending with
  | none =>
      by_cases ascii : octet.toNat < 0x80
      · simp only [feed, begin, if_pos ascii]
        exact ⟨openIfStarted_none, Or.inr ⟨rfl, .one (by omega)⟩⟩
      · cases lead : lead? octet with
        | none =>
            simp only [feed, begin, if_neg ascii, lead] at encodable
            exact absurd (encodable _ List.mem_cons_self)
              (not_isEncodable_of_malformed (List.cons_ne_nil _ _))
        | some started =>
            rcases isOpen_of_lead? lead with ⟨isOpen, taken⟩
            rw [feed_lead (by omega) lead]
            exact ⟨isOpen.openIfStarted, Or.inl taken⟩
  | some started =>
      have startedOpen := isOpen started rfl
      by_cases inside : started.low ≤ octet.toNat ∧ octet.toNat ≤ started.high
      · by_cases one : started.missing = 1
        · simp only [feed, if_pos inside, if_pos one]
          exact ⟨openIfStarted_none, Or.inr ⟨rfl, startedOpen.last inside.1 inside.2 one⟩⟩
        · simp only [feed, if_pos inside, if_neg one]
          exact ⟨(startedOpen.next inside.1 inside.2 one _).openIfStarted, Or.inl rfl⟩
      · simp only [feed, if_neg inside] at encodable
        exact absurd (encodable _ List.mem_cons_self)
          (not_isEncodable_of_malformed startedOpen.begun)

/-- Octets that are read without a surrogate are well-formed, together with what has been taken
before. -/
theorem wellFormed_of_segmentsFrom {octets : Bytes} {pending : Option Pending}
    (isOpen : OpenIfStarted pending)
    (encodable : ∀ segment ∈ segmentsFrom pending octets, segment.escaped.isEncodable = true) :
    WellFormed (takenOf pending ++ octets) := by
  induction octets generalizing pending with
  | nil =>
      cases pending with
      | none => exact .nil
      | some started =>
          exact absurd (encodable _ List.mem_cons_self)
            (not_isEncodable_of_malformed (isOpen started rfl).begun)
  | cons octet rest inductionHypothesis =>
      rw [segmentsFrom_cons] at encodable
      rcases List.forall_mem_append.mp encodable with ⟨now, later⟩
      rcases taken_of_feed isOpen now with ⟨nextOpen, taken⟩
      have more := inductionHypothesis nextOpen later
      rw [List.append_cons]
      rcases taken with taken | ⟨nothing, character⟩
      · rwa [taken] at more
      · rw [nothing] at more
        exact .cons character more

/-! ## What is read -/

/-- What the encoder made of a text is read back as that text. -/
theorem decodeEscaping_utf8 {text : Text} (encodable : text.isEncodable = true) :
    decodeEscaping text.utf8 = text := by
  rw [decodeEscaping_eq, segments_utf8 encodable, List.flatMap_map]
  exact List.flatMap_singleton' text

/-- Octets are read as a text that has a UTF-8 form exactly if they are well-formed. -/
theorem isEncodable_decodeEscaping_iff {octets : Bytes} :
    (decodeEscaping octets).isEncodable = true ↔ WellFormed octets := by
  constructor
  · intro encodable
    rw [decodeEscaping_eq, Text.isEncodable, List.all_flatMap, List.all_eq_true] at encodable
    exact @wellFormed_of_segmentsFrom octets none openIfStarted_none encodable
  · intro wellFormed
    rcases wellFormed_iff.mp wellFormed with ⟨text, encodable, rfl⟩
    rwa [decodeEscaping_utf8 encodable]

/-- A lone continuation, a longer form than needed, a surrogate, and a number beyond the code
space. -/
example : [[0x80], [0xC0, 0x80], [0xED, 0xA0, 0x80], [0xF4, 0x90, 0x80, 0x80]].any
    (fun octets => (decodeEscaping octets).isEncodable) = false := by decide

/-- Well-formed octets are the UTF-8 form of what they are read as. -/
theorem utf8_decodeEscaping {octets : Bytes} (wellFormed : WellFormed octets) :
    (decodeEscaping octets).utf8 = octets := by
  rcases wellFormed_iff.mp wellFormed with ⟨text, encodable, rfl⟩
  rw [decodeEscaping_utf8 encodable]

end Utf8

end Syslog
