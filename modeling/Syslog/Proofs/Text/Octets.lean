import Syslog.Text.Utf8

namespace Syslog

/-!
# Sequences of octets with delimiters

A line is made of parts between delimiters, and a part may be repeated.  What is needed to take
such a sequence apart again is collected here: a part that does not hold its delimiter is read
up to it, and a part in which the delimiter is escaped is read up to the first one that is not.

Escaping and its inverse are stated over any alphabet, since a parameter value is escaped as a
text and read as octets.
-/

/-- The octet of an ASCII character. -/
def octet (char : Char) : UInt8 := .ofNat char.toNat

theorem toNat_ofNat_octet {number : Nat} (small : number < 256) :
    (UInt8.ofNat number).toNat = number := by
  rw [UInt8.toNat_ofNat']
  exact Nat.mod_eq_of_lt small

/-! ## Repetition -/

/-- Any number of items, one directly after the other. -/
inductive Repeated (Item : Bytes → Prop) : Bytes → Prop
  | nil : Repeated Item []
  | cons {first rest : Bytes} (item : Item first) (more : Repeated Item rest) :
      Repeated Item (first ++ rest)

/-- If the items are what values of some kind are written as, then repeated items are what a
list of such values is written as. -/
theorem repeated_iff {Item : Bytes → Prop} {Within : α → Prop} {write : α → Bytes}
    (single : ∀ octets, Item octets ↔ ∃ value, Within value ∧ write value = octets)
    {octets : Bytes} :
    Repeated Item octets ↔
      ∃ values : List α, (∀ value ∈ values, Within value) ∧ values.flatMap write = octets := by
  constructor
  · intro repeated
    induction repeated with
    | nil => exact ⟨[], List.forall_mem_nil _, rfl⟩
    | cons item _ inductionHypothesis =>
        rcases (single _).mp item with ⟨value, within, rfl⟩
        rcases inductionHypothesis with ⟨values, allWithin, rfl⟩
        exact ⟨value :: values, List.forall_mem_cons.mpr ⟨within, allWithin⟩, rfl⟩
  · rintro ⟨values, within, rfl⟩
    induction values with
    | nil => exact .nil
    | cons value values inductionHypothesis =>
        rcases List.forall_mem_cons.mp within with ⟨first, others⟩
        exact .cons ((single _).mpr ⟨value, first, rfl⟩) (inductionHypothesis others)

/-! ## Readers

A reader takes a part off the front of the octets, and gives back what it has read together
with the octets that follow.
-/

/-- Takes the given octet. -/
def expect? (expected : UInt8) : Bytes → Option Bytes
  | [] => none
  | first :: rest => if first = expected then some rest else none

theorem expect?_cons (expected : UInt8) (rest : Bytes) :
    expect? expected (expected :: rest) = some rest := if_pos rfl

/-- The part whose octets all satisfy `inside`, and what follows it. -/
def splitWhile (inside : UInt8 → Bool) (octets : Bytes) : Bytes × Bytes :=
  (octets.takeWhile inside, octets.dropWhile inside)

theorem splitWhile_append {inside : UInt8 → Bool} {part : Bytes} {stop : UInt8} (rest : Bytes)
    (all : ∀ o ∈ part, inside o = true) (outside : inside stop = false) :
    splitWhile inside (part ++ stop :: rest) = (part, stop :: rest) := by
  rw [splitWhile, List.takeWhile_append_of_pos all, List.dropWhile_append_of_pos all,
    List.takeWhile_cons_of_neg (by simp [outside]), List.dropWhile_cons_of_neg (by simp [outside]),
    List.append_nil]

/-- Takes the part up to the first `stop`, and the `stop` as well. -/
def upTo? (stop : UInt8) (octets : Bytes) : Option (Bytes × Bytes) :=
  let split := splitWhile (· != stop) octets
  (expect? stop split.2).map fun rest => (split.1, rest)

theorem upTo?_append {stop : UInt8} {part : Bytes} (rest : Bytes) (absent : ∀ o ∈ part, o ≠ stop) :
    upTo? stop (part ++ stop :: rest) = some (part, rest) := by
  have split : splitWhile (· != stop) (part ++ stop :: rest) = (part, stop :: rest) :=
    splitWhile_append rest (fun o member => bne_iff_ne.mpr (absent o member))
      (bne_self_eq_false stop)
  simp only [upTo?, split, expect?_cons, Option.map_some]

/-- Reads items as long as the octet that starts one comes next. -/
def repeated? (start : UInt8) (item? : Bytes → Option (α × Bytes)) (octets : Bytes) :
    Option (List α × Bytes) :=
  match octets with
  | [] => some ([], [])
  | first :: behind =>
    if first = start then
      match item? behind with
      | none => none
      | some (value, rest) =>
        -- an item that gave back more than it was given would let the reading go on forever
        if rest.length ≤ behind.length then
          (repeated? start item? rest).map fun found => (value :: found.1, found.2)
        else none
    else some ([], first :: behind)
termination_by octets.length

/-- Items that are read one by one are read as a list. -/
theorem repeated?_flatMap {start : UInt8} {item? : Bytes → Option (α × Bytes)}
    {write : β → Bytes} {read : β → α}
    (single : ∀ value rest, item? (write value ++ rest) = some (read value, rest))
    (values : List β) {rest : Bytes} (ended : rest.head? ≠ some start) :
    repeated? start item? (values.flatMap (fun value => start :: write value) ++ rest) =
      some (values.map read, rest) := by
  induction values with
  | nil =>
      rw [List.flatMap_nil, List.nil_append]
      cases rest with
      | nil => rw [repeated?, List.map_nil]
      | cons first behind =>
          rw [repeated?]
          exact if_neg fun same => ended (congrArg some same)
  | cons value values inductionHypothesis =>
      rw [List.flatMap_cons, List.cons_append, List.cons_append, List.append_assoc, repeated?,
        if_pos rfl, single]
      simp only [inductionHypothesis, Option.map_some, List.map_cons]
      exact if_pos (List.suffix_append (write value) _).length_le

/-! ## Escapes -/

section Escapes

variable {α : Type} [DecidableEq α]

/-- Puts the mark in front of every special item. -/
def escape (special : α → Bool) (mark : α) (items : List α) : List α :=
  items.flatMap fun item => if special item then [mark, item] else [item]

/-- Reads up to the first `stop` that has no mark in front of it; `marked` tells whether a mark
has just been read.  The marks are taken out, and what follows the `stop` is given back. -/
def scan (mark stop : α) : (marked : Bool) → List α → Option (List α × List α)
  | _, [] => none
  | true, item :: rest =>
    (scan mark stop false rest).map fun found => (item :: found.1, found.2)
  | false, item :: rest =>
    if item = stop then some ([], rest)
    else if item = mark then scan mark stop true rest
    else (scan mark stop false rest).map fun found => (item :: found.1, found.2)

/-- Escaped items are read back, and reading ends at the `stop` that was put behind them. -/
theorem scan_escape {special : α → Bool} {mark stop : α} (markSpecial : special mark = true)
    (stopSpecial : special stop = true) (different : mark ≠ stop) (items rest : List α) :
    scan mark stop false (escape special mark items ++ stop :: rest) = some (items, rest) := by
  induction items with
  | nil => exact if_pos rfl
  | cons item items inductionHypothesis =>
      rw [escape, List.flatMap_cons, ← escape, List.append_assoc]
      by_cases isSpecial : special item = true
      · rw [if_pos isSpecial]
        simp only [List.cons_append, List.nil_append, scan, if_neg different, if_true]
        rw [inductionHypothesis]
        rfl
      · have notStop : item ≠ stop := fun same => isSpecial (same ▸ stopSpecial)
        have notMark : item ≠ mark := fun same => isSpecial (same ▸ markSpecial)
        rw [if_neg isSpecial]
        simp only [List.cons_append, List.nil_append, scan, if_neg notStop, if_neg notMark]
        rw [inductionHypothesis]
        rfl

end Escapes

end Syslog
