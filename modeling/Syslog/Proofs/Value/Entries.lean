import Syslog.Value.Same

namespace Syslog

/-!
# Dictionaries without some of their keys

A step on a dictionary concerns one key.  If some other keys are left out of it, it does not matter
whether that is done before the step or behind it, and a step that concerns a key that is left out
does not show at all.  This is stated here for the steps that there are: insertions, one by one
and all at once, erasures, and changes to the values.

All of these steps keep a dictionary one (`Entries.IsDictionary`), so that the value under a text is
that of a single entry.
-/

namespace Value

theorem text?_eq_some_iff {value : Value} {text : Text} :
    value.text? = some text ↔ value = .text text := by
  cases value <;> simp [text?]

theorem same_text_iff {value : Value} {text : Text} :
    value.same (.text text) = true ↔ value = .text text := by
  rw [same_text, beq_iff_eq, text?_eq_some_iff]

theorem text_same_iff {value : Value} {text : Text} :
    (Value.text text).same value = true ↔ value = .text text := by
  cases value with
  | text content =>
      rw [same_text_iff, eq_comm]
  | _ => exact iff_of_false nofun nofun

end Value

namespace Entries

/-- That no key occurs twice. -/
def IsDictionary (entries : Entries) : Prop :=
  entries.Pairwise fun earlier later => earlier.1.same later.1 = false

/-- The entries whose keys are none of some texts. -/
def without (keys : List Text) (entries : Entries) : Entries :=
  entries.filter fun entry => !entry.1.text?.any keys.contains

variable {keys : List Text} {entries : Entries}

theorem contains_eq_isSome (entries : Entries) (key : Value) :
    entries.contains key = (entries.get? key).isSome := by
  rw [contains, get?, Option.isSome_map, Bool.eq_iff_iff, List.any_eq_true, List.find?_isSome]

theorem get?_cons_self (text : Text) (value : Value) (rest : Entries) :
    get? ((.text text, value) :: rest) (.text text) = some value := by
  rw [get?_cons, if_pos (Value.same_text_iff.mpr rfl)]

theorem get?_cons_of_ne {key : Value} {text : Text} (other : key ≠ .text text) (value : Value)
    (rest : Entries) : get? ((key, value) :: rest) (.text text) = get? rest (.text text) := by
  rw [get?_cons, if_neg fun same => other (Value.same_text_iff.mp same)]

theorem any_text?_iff {key : Value} :
    key.text?.any keys.contains = true ↔ ∃ text ∈ keys, key = .text text := by
  simp only [Option.any_eq_true, List.contains_iff_mem, Value.text?_eq_some_iff]
  constructor
  · rintro ⟨text, same, member⟩
    exact ⟨text, member, same⟩
  · rintro ⟨text, member, same⟩
    exact ⟨text, same, member⟩

theorem mem_without_iff {entry : Value × Value} :
    entry ∈ entries.without keys ↔ entry ∈ entries ∧ ∀ text ∈ keys, entry.1 ≠ .text text := by
  rw [without, List.mem_filter, Bool.not_eq_true', Bool.eq_false_iff, ne_eq, any_text?_iff]
  simp only [not_exists, not_and]

theorem without_cons_of_mem {text : Text} (member : text ∈ keys) (value : Value) (rest : Entries) :
    without keys ((.text text, value) :: rest) = rest.without keys := by
  refine List.filter_cons_of_neg ?_
  rw [Bool.not_eq_true', Bool.not_eq_false]
  exact any_text?_iff.mpr ⟨text, member, rfl⟩

theorem without_cons_of_ne {key : Value} (other : ∀ text ∈ keys, key ≠ .text text) (value : Value)
    (rest : Entries) : without keys ((key, value) :: rest) = (key, value) :: rest.without keys := by
  refine List.filter_cons_of_pos ?_
  rw [Bool.not_eq_true', Bool.eq_false_iff, ne_eq, any_text?_iff]
  rintro ⟨text, member, same⟩
  exact other text member same

theorem cases_without (keys : List Text) (key : Value) :
    (∃ text ∈ keys, key = .text text) ∨ ∀ text ∈ keys, key ≠ .text text := by
  by_cases given : ∃ text ∈ keys, key = .text text
  · exact Or.inl given
  · exact Or.inr fun text member same => given ⟨text, member, same⟩

/-- What is not found under the keys that are left out is found among the rest. -/
theorem findSome?_without {pick : Value × Value → Option α}
    (passes : ∀ text ∈ keys, ∀ value, pick (.text text, value) = none) (entries : Entries) :
    List.findSome? pick (entries.without keys) = List.findSome? pick entries := by
  induction entries with
  | nil => rfl
  | cons entry rest inductionHypothesis =>
      rcases entry with ⟨key, value⟩
      rcases cases_without keys key with ⟨text, member, rfl⟩ | different
      · rw [without_cons_of_mem member, inductionHypothesis, List.findSome?_cons,
          passes text member value]
      · rw [without_cons_of_ne different, List.findSome?_cons, List.findSome?_cons,
          inductionHypothesis]

theorem any_without {test : Value × Value → Bool}
    (fails : ∀ text ∈ keys, ∀ value, test (.text text, value) = false) (entries : Entries) :
    List.any (entries.without keys) test = List.any entries test := by
  induction entries with
  | nil => rfl
  | cons entry rest inductionHypothesis =>
      rcases entry with ⟨key, value⟩
      rcases cases_without keys key with ⟨text, member, rfl⟩ | different
      · rw [without_cons_of_mem member, inductionHypothesis, List.any_cons,
          fails text member value, Bool.false_or]
      · rw [without_cons_of_ne different, List.any_cons, List.any_cons, inductionHypothesis]

/-! ## Steps under a key that is left out, and under another one -/

theorem without_insert_of_mem {text : Text} (member : text ∈ keys) (value : Value)
    (entries : Entries) :
    (insert (.text text) value entries).without keys = entries.without keys := by
  induction entries with
  | nil => exact without_cons_of_mem member value []
  | cons entry rest inductionHypothesis =>
      rcases entry with ⟨present, old⟩
      rw [insert]
      split
      · next same =>
          rw [Value.same_text_iff.mp same, without_cons_of_mem member, without_cons_of_mem member]
      · rcases cases_without keys present with ⟨other, isKey, rfl⟩ | different
        · rw [without_cons_of_mem isKey, without_cons_of_mem isKey, inductionHypothesis]
        · rw [without_cons_of_ne different, without_cons_of_ne different, inductionHypothesis]

theorem without_insert_of_ne {key : Value} (different : ∀ text ∈ keys, key ≠ .text text)
    (value : Value) (entries : Entries) :
    (insert key value entries).without keys = insert key value (entries.without keys) := by
  induction entries with
  | nil => exact without_cons_of_ne different value []
  | cons entry rest inductionHypothesis =>
      rcases entry with ⟨present, old⟩
      rcases cases_without keys present with ⟨text, member, rfl⟩ | kept
      · -- a key that is left out is not the one that is looked for
        have apart : ¬(Value.text text).same key = true := fun same =>
          different text member (Value.text_same_iff.mp same)
        rw [insert, if_neg apart, without_cons_of_mem member, without_cons_of_mem member,
          inductionHypothesis]
      · rw [insert, without_cons_of_ne kept, insert]
        split
        · exact without_cons_of_ne kept value rest
        · rw [without_cons_of_ne kept, inductionHypothesis]

/-- So an insertion keeps dictionaries the same that are the same but for these keys. -/
theorem without_insert_congr {left right : Entries} (same : left.without keys = right.without keys)
    (key value : Value) :
    (insert key value left).without keys = (insert key value right).without keys := by
  rcases cases_without keys key with ⟨text, member, rfl⟩ | different
  · rw [without_insert_of_mem member, without_insert_of_mem member, same]
  · rw [without_insert_of_ne different, without_insert_of_ne different, same]

theorem without_erase (key : Value) (entries : Entries) :
    (erase key entries).without keys = erase key (entries.without keys) := by
  rw [without, without, erase, erase, List.filter_filter, List.filter_filter]
  exact List.filter_congr fun entry _ => Bool.and_comm _ _

/-- Insertions under keys that are left out do not show. -/
theorem without_insertAll (entries new : Entries) :
    (entries.insertAll new).without keys = (entries.without keys).insertAll (new.without keys) := by
  induction new generalizing entries with
  | nil => rfl
  | cons entry rest inductionHypothesis =>
      rcases entry with ⟨key, value⟩
      have first : insertAll entries ((key, value) :: rest) =
          insertAll (insert key value entries) rest := rfl
      rw [first, inductionHypothesis]
      rcases cases_without keys key with ⟨text, member, rfl⟩ | different
      · rw [without_insert_of_mem member, without_cons_of_mem member]
      · rw [without_insert_of_ne different, without_cons_of_ne different]
        rfl

theorem without_map {change : Value × Value → Value × Value}
    (sameKey : ∀ entry, (change entry).1 = entry.1) (entries : Entries) :
    without keys (entries.map change) = (entries.without keys).map change := by
  rw [without, without, List.filter_map]
  refine congrArg (List.map change) (List.filter_congr fun entry _ => ?_)
  rw [Function.comp_apply, sameKey]

theorem get?_without {text : Text} (kept : text ∉ keys) (entries : Entries) :
    (entries.without keys).get? (.text text) = entries.get? (.text text) := by
  induction entries with
  | nil => rfl
  | cons entry rest inductionHypothesis =>
      rcases entry with ⟨present, value⟩
      rcases cases_without keys present with ⟨other, member, rfl⟩ | different
      · have apart : Value.text other ≠ .text text := by
          rintro ⟨⟩
          exact kept member
        rw [without_cons_of_mem member, get?_cons_of_ne apart, inductionHypothesis]
      · rw [without_cons_of_ne different, get?_cons, get?_cons, inductionHypothesis]

/-! ## Keys that occur once -/

theorem exists_of_mem_insert {key value : Value} {entry : Value × Value}
    (member : entry ∈ insert key value entries) :
    entry.1 = key ∨ ∃ old, (entry.1, old) ∈ entries := by
  induction entries with
  | nil =>
      cases List.mem_singleton.mp member
      exact Or.inl rfl
  | cons first rest inductionHypothesis =>
      rcases first with ⟨present, old⟩
      rw [insert] at member
      split at member
      · rcases List.mem_cons.mp member with rfl | later
        · exact Or.inr ⟨old, List.mem_cons_self⟩
        · exact Or.inr ⟨entry.2, List.mem_cons_of_mem _ later⟩
      · rcases List.mem_cons.mp member with rfl | later
        · exact Or.inr ⟨old, List.mem_cons_self⟩
        · refine (inductionHypothesis later).imp_right ?_
          rintro ⟨old, inside⟩
          exact ⟨old, List.mem_cons_of_mem _ inside⟩

namespace IsDictionary

theorem insert (isDictionary : entries.IsDictionary) (key value : Value) :
    (Entries.insert key value entries).IsDictionary := by
  induction entries with
  | nil => exact List.pairwise_singleton _ _
  | cons first rest inductionHypothesis =>
      rcases first with ⟨present, old⟩
      rcases List.pairwise_cons.mp isDictionary with ⟨apart, others⟩
      rw [Entries.insert]
      split
      · exact List.pairwise_cons.mpr ⟨apart, others⟩
      · next different =>
          refine List.pairwise_cons.mpr ⟨fun entry member => ?_, inductionHypothesis others⟩
          rcases exists_of_mem_insert member with same | ⟨replaced, inside⟩
          · rw [same]
            exact Bool.eq_false_iff.mpr different
          · exact apart (entry.1, replaced) inside

theorem insertAll (isDictionary : entries.IsDictionary) (new : Entries) :
    (Entries.insertAll entries new).IsDictionary := by
  rw [Entries.insertAll]
  induction new generalizing entries with
  | nil => exact isDictionary
  | cons entry rest inductionHypothesis =>
      exact inductionHypothesis (isDictionary.insert entry.1 entry.2)

theorem erase (isDictionary : entries.IsDictionary) (key : Value) :
    (Entries.erase key entries).IsDictionary :=
  List.Pairwise.filter _ isDictionary

theorem map (isDictionary : entries.IsDictionary) {change : Value × Value → Value × Value}
    (sameKey : ∀ entry, (change entry).1 = entry.1) :
    IsDictionary (List.map change entries) := by
  refine List.pairwise_map.mpr (List.Pairwise.imp (fun apart => ?_) isDictionary)
  rw [sameKey, sameKey]
  exact apart

/-- The value under a text is that of the only entry with this key. -/
theorem get?_eq_some_iff (isDictionary : entries.IsDictionary) {text : Text} {value : Value} :
    entries.get? (.text text) = some value ↔ (.text text, value) ∈ entries := by
  induction entries with
  | nil => exact iff_of_false nofun List.not_mem_nil
  | cons entry rest inductionHypothesis =>
      rcases entry with ⟨key, first⟩
      rcases List.pairwise_cons.mp isDictionary with ⟨apart, others⟩
      rw [List.mem_cons, Prod.mk.injEq]
      by_cases same : key = .text text
      · subst same
        have absent : (Value.text text, value) ∉ rest := fun member =>
          Bool.eq_false_iff.mp (apart _ member) (Value.text_same_iff.mpr rfl)
        simp only [get?_cons_self, absent, or_false, true_and, Option.some.injEq]
        exact eq_comm
      · rw [get?_cons_of_ne same, inductionHypothesis others]
        exact ⟨Or.inr, fun either => either.resolve_left fun first => same first.1.symm⟩

end IsDictionary

end Entries

end Syslog
