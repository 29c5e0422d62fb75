import Mathlib.Data.List.Forall2
import Mathlib.Data.List.Induction
import Mathlib.Data.List.Nodup

namespace Syslog

/-!
# Outcomes and lists

General facts that the rest of the theory is built on: when a computation in several steps has a
result or a fault, what a list of results has to do with the list that it was computed from, and
how lists without repetitions are looked into.
-/

/-! ## Outcomes of several steps -/

theorem ok_bind (value : α) (next : α → Except ε β) : (Except.ok value >>= next) = next value :=
  rfl

theorem bind_eq_ok_iff {outcome : Except ε α} {next : α → Except ε β} {result : β} :
    (outcome >>= next) = .ok result ↔ ∃ value, outcome = .ok value ∧ next value = .ok result := by
  cases outcome with
  | error fault =>
      constructor
      · intro impossible
        cases impossible
      · rintro ⟨_, impossible, _⟩
        cases impossible
  | ok value =>
      constructor
      · intro passed
        exact ⟨value, rfl, passed⟩
      · rintro ⟨_, same, passed⟩
        cases same
        exact passed

theorem map_eq_ok_iff {outcome : Except ε α} {next : α → β} {result : β} :
    outcome.map next = .ok result ↔ ∃ value, outcome = .ok value ∧ next value = result := by
  cases outcome <;> simp [Except.map]

/-- What is done with the result of several steps can be done in the last of them. -/
theorem map_bind_eq (outcome : Except ε α) (first : α → Except ε β) (next : β → γ) :
    (outcome >>= first).map next = outcome >>= fun value => (first value).map next := by
  cases outcome <;> rfl

theorem mapError_eq_ok_iff {outcome : Except ε α} {report : ε → δ} {result : α} :
    outcome.mapError report = .ok result ↔ outcome = .ok result := by
  constructor
  · intro mapped
    cases outcome with
    | error fault => cases mapped
    | ok value =>
        cases mapped
        rfl
  · rintro rfl
    rfl

theorem bind_eq_error_iff {outcome : Except ε α} {next : α → Except ε β} {fault : ε} :
    (outcome >>= next) = .error fault ↔
      outcome = .error fault ∨ ∃ value, outcome = .ok value ∧ next value = .error fault := by
  cases outcome <;> simp [bind, Except.bind]

theorem map_eq_error_iff {outcome : Except ε α} {next : α → β} {fault : ε} :
    outcome.map next = .error fault ↔ outcome = .error fault := by
  cases outcome <;> simp [Except.map]

theorem mapError_eq_error_iff {outcome : Except ε α} {report : ε → δ} {reported : δ} :
    outcome.mapError report = .error reported ↔
      ∃ fault, outcome = .error fault ∧ report fault = reported := by
  constructor
  · intro mapped
    cases outcome with
    | error fault =>
        cases mapped
        exact ⟨fault, rfl, rfl⟩
    | ok value => cases mapped
  · rintro ⟨fault, rfl, rfl⟩
    rfl

/-! ## Lists of outcomes -/

/-- Checking items in turn accepts a list exactly if it is the list of what the results are
written as. -/
theorem mapM_eq_ok_iff {check : α → Except ε β} {write : β → α} {Within : β → Prop}
    (single : ∀ item result, check item = .ok result ↔ item = write result ∧ Within result)
    {items : List α} {results : List β} :
    items.mapM check = .ok results ↔
      items = results.map write ∧ ∀ result ∈ results, Within result := by
  induction items generalizing results with
  | nil =>
      cases results with
      | nil => simp [pure, Except.pure]
      | cons result rest => simp [pure, Except.pure]
  | cons item rest inductionHypothesis =>
      rw [List.mapM_cons, bind_eq_ok_iff]
      constructor
      · rintro ⟨first, passed, more⟩
        rcases bind_eq_ok_iff.mp more with ⟨others, passedOthers, same⟩
        cases same
        rcases (single item first).mp passed with ⟨rfl, within⟩
        rcases inductionHypothesis.mp passedOthers with ⟨rfl, withinOthers⟩
        exact ⟨rfl, List.forall_mem_cons.mpr ⟨within, withinOthers⟩⟩
      · rintro ⟨written, within⟩
        cases results with
        | nil => cases written
        | cons first others =>
            cases written
            rcases List.forall_mem_cons.mp within with ⟨withinFirst, withinOthers⟩
            refine ⟨first, (single _ _).mpr ⟨rfl, withinFirst⟩, bind_eq_ok_iff.mpr ?_⟩
            exact ⟨others, inductionHypothesis.mpr ⟨rfl, withinOthers⟩, rfl⟩

/-- Every item of a list that passes has its result among the results, and there are no others. -/
theorem exists_of_mapM_eq_ok {check : α → Except ε β} {items : List α} {results : List β}
    (passed : items.mapM check = .ok results) :
    (∀ item ∈ items, ∃ result ∈ results, check item = .ok result) ∧
      ∀ result ∈ results, ∃ item ∈ items, check item = .ok result := by
  induction items generalizing results with
  | nil =>
      cases passed
      exact ⟨List.forall_mem_nil _, List.forall_mem_nil _⟩
  | cons item rest inductionHypothesis =>
      rw [List.mapM_cons, bind_eq_ok_iff] at passed
      rcases passed with ⟨first, passedFirst, more⟩
      rcases bind_eq_ok_iff.mp more with ⟨others, passedOthers, same⟩
      cases same
      rcases inductionHypothesis passedOthers with ⟨results, items⟩
      constructor
      · refine List.forall_mem_cons.mpr ⟨⟨first, List.mem_cons_self, passedFirst⟩, ?_⟩
        intro item member
        rcases results item member with ⟨result, inside, isResult⟩
        exact ⟨result, List.mem_cons_of_mem _ inside, isResult⟩
      · refine List.forall_mem_cons.mpr ⟨⟨item, List.mem_cons_self, passedFirst⟩, ?_⟩
        intro result member
        rcases items result member with ⟨item, inside, isResult⟩
        exact ⟨item, List.mem_cons_of_mem _ inside, isResult⟩

/-- A fault in a list of items is the fault of one of them. -/
theorem exists_of_mapM_eq_error {check : α → Except ε β} {items : List α} {fault : ε}
    (failed : items.mapM check = .error fault) : ∃ item ∈ items, check item = .error fault := by
  induction items with
  | nil => cases failed
  | cons item rest inductionHypothesis =>
      rw [List.mapM_cons, bind_eq_error_iff] at failed
      rcases failed with first | ⟨result, _, later⟩
      · exact ⟨item, List.mem_cons_self, first⟩
      · rcases bind_eq_error_iff.mp later with others | ⟨_, _, impossible⟩
        · rcases inductionHypothesis others with ⟨found, member, isFault⟩
          exact ⟨found, List.mem_cons_of_mem _ member, isFault⟩
        · cases impossible

/-- Each result is that of the item at its place. -/
theorem forall₂_of_mapM_eq_ok {write : α → Except ε β} {items : List α} {results : List β}
    (written : items.mapM write = .ok results) :
    List.Forall₂ (fun item result => write item = .ok result) items results := by
  induction items generalizing results with
  | nil =>
      cases written
      exact .nil
  | cons item rest inductionHypothesis =>
      rw [List.mapM_cons, bind_eq_ok_iff] at written
      rcases written with ⟨first, writtenFirst, more⟩
      rcases bind_eq_ok_iff.mp more with ⟨others, writtenOthers, same⟩
      cases same
      exact .cons writtenFirst (inductionHypothesis writtenOthers)

theorem mapM_congr {first second : α → Except ε β} {items : List α}
    (same : ∀ item ∈ items, first item = second item) : items.mapM first = items.mapM second := by
  induction items with
  | nil => rfl
  | cons item rest inductionHypothesis =>
      rcases List.forall_mem_cons.mp same with ⟨head, others⟩
      rw [List.mapM_cons, List.mapM_cons, head, inductionHypothesis others]

theorem mapM_append_cons_eq_ok_iff {write : α → Except ε β} {front behind : List α} {item : α}
    {results : List β} :
    (front ++ item :: behind).mapM write = .ok results ↔
      ∃ first result last, front.mapM write = .ok first ∧ write item = .ok result ∧
        behind.mapM write = .ok last ∧ results = first ++ result :: last := by
  simp only [List.mapM_append, List.mapM_cons, bind_eq_ok_iff]
  constructor
  · rintro ⟨first, isFirst, _, ⟨result, isResult, last, isLast, same⟩, whole⟩
    cases same
    cases whole
    exact ⟨first, result, last, isFirst, isResult, isLast, rfl⟩
  · rintro ⟨first, result, last, isFirst, isResult, isLast, rfl⟩
    exact ⟨first, isFirst, _, ⟨result, isResult, last, isLast, rfl⟩, rfl⟩

/-- Writing items in turn does not fail if none of them does. -/
theorem mapM_map_eq_ok {write : α → Except ε β} {item : γ → α} {written : γ → β}
    (single : ∀ part, write (item part) = .ok (written part)) (parts : List γ) :
    (parts.map item).mapM write = .ok (parts.map written) := by
  induction parts with
  | nil => rfl
  | cons part rest inductionHypothesis =>
      rw [List.map_cons, List.mapM_cons, single, inductionHypothesis]
      rfl

/-! ## Repetitions and look-ups -/

section

variable [BEq α] [LawfulBEq α]

/-- An item that has turned up before is not listed again. -/
theorem eraseDups_append_singleton (items : List α) (item : α) :
    (items ++ [item]).eraseDups = items.eraseDups ++ if item ∈ items then [] else [item] := by
  rw [List.eraseDups_append]
  split
  · next listed => simp [List.removeAll, listed]
  · next fresh => simp [List.removeAll, fresh, List.eraseDups_cons]

theorem nodup_eraseDups (items : List α) : items.eraseDups.Nodup := by
  induction items using List.reverseRecOn with
  | nil => exact List.nodup_nil
  | append_singleton items item inductionHypothesis =>
      rw [eraseDups_append_singleton]
      split
      · rwa [List.append_nil]
      · next fresh =>
          refine List.nodup_append.mpr ⟨inductionHypothesis, List.nodup_singleton item, ?_⟩
          rintro other listed _ last rfl
          cases List.mem_singleton.mp last
          exact fresh (List.mem_eraseDups.mp listed)

/-- Keys without repetitions find the values at their own places. -/
theorem lookup_zip_of_getElem? {keys : List α} {values : List β} {index : Nat} {key : α}
    (distinct : keys.Nodup) (same : values.length = keys.length)
    (isKey : keys[index]? = some key) : (keys.zip values).lookup key = values[index]? := by
  induction keys generalizing values index with
  | nil => cases isKey
  | cons first rest inductionHypothesis =>
      rcases List.nodup_cons.mp distinct with ⟨once, distinctRest⟩
      cases values with
      | nil => cases same
      | cons own others =>
          cases index with
          | zero =>
              cases isKey
              rw [List.zip_cons_cons, List.lookup_cons, beq_self_eq_true]
              rfl
          | succ index =>
              have different : key ≠ first := by
                rintro rfl
                exact once (List.mem_of_getElem? isKey)
              rw [List.zip_cons_cons, List.lookup_cons, beq_eq_false_iff_ne.mpr different]
              exact inductionHypothesis distinctRest (Nat.succ.inj same) isKey

end

end Syslog
