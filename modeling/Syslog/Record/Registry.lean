namespace Syslog

/-!
A registry keeps what has been computed for each key.

A look-up that misses computes the answer and offers it; the offer is taken only if nothing has
been kept for the key in the meantime, and the caller gets what is kept.  So what is kept for a
key is never replaced, also if two look-ups compute it at once or one look-up leads to another.
Failures are not kept.
-/

structure Registry (κ : Type) (α : Type) where
  entries : List (κ × α) := []

namespace Registry

variable {κ α ε σ : Type} [DecidableEq κ]

def empty : Registry κ α := {}

/-- What is kept for a key. -/
def find? (registry : Registry κ α) (key : κ) : Option α := registry.entries.lookup key

def contains (registry : Registry κ α) (key : κ) : Bool := (registry.find? key).isSome

def size (registry : Registry κ α) : Nat := registry.entries.length

def clear (_ : Registry κ α) : Registry κ α := empty

/-- Offers a value for a key; the first one is kept and given back. -/
def offer (registry : Registry κ α) (key : κ) (value : α) : α × Registry κ α :=
  match registry.find? key with
  | some kept => (kept, registry)
  | none => (value, ⟨registry.entries ++ [(key, value)]⟩)

@[simp] theorem find?_empty (key : κ) : (empty : Registry κ α).find? key = none := rfl

@[simp] theorem find?_clear (registry : Registry κ α) (key : κ) :
    registry.clear.find? key = none := rfl

theorem offer_of_find? {registry : Registry κ α} {key : κ} {kept : α}
    (found : registry.find? key = some kept) (value : α) :
    registry.offer key value = (kept, registry) := by
  simp [offer, found]

theorem offer_of_missing {registry : Registry κ α} {key : κ}
    (missing : registry.find? key = none) (value : α) :
    registry.offer key value = (value, ⟨registry.entries ++ [(key, value)]⟩) := by
  simp [offer, missing]

/-- The caller gets what the registry now keeps for the key. -/
theorem find?_offer_self (registry : Registry κ α) (key : κ) (value : α) :
    (registry.offer key value).2.find? key = some (registry.offer key value).1 := by
  cases found : registry.find? key with
  | some kept => simp [offer_of_find? found, found]
  | none =>
    have missing : registry.entries.lookup key = none := found
    simp [offer_of_missing found, find?, List.lookup_append, missing]

/-- An offer leaves alone what is kept for other keys. -/
theorem find?_offer_of_ne (registry : Registry κ α) {key other : κ} (different : other ≠ key)
    (value : α) : (registry.offer key value).2.find? other = registry.find? other := by
  cases found : registry.find? key with
  | some kept => simp [offer_of_find? found]
  | none =>
    have distinct : (other == key) = false := by simpa using different
    simp [offer_of_missing found, find?, List.lookup_append, List.lookup_cons, distinct]

/-- What is kept for a key stays, whatever is offered and for whatever key. -/
theorem find?_offer_of_kept {registry : Registry κ α} {key : κ} {kept : α}
    (found : registry.find? key = some kept) (offered : κ) (value : α) :
    (registry.offer offered value).2.find? key = some kept := by
  by_cases same : key = offered
  · subst same
    rw [offer_of_find? found]
    exact found
  · rw [find?_offer_of_ne registry same]
    exact found

/--
Looks a key up in a registry that is part of a state.  The computation may change the state,
and with it the registry, before its answer is offered.
-/
def lookUp (get : σ → Registry κ α) (set : Registry κ α → σ → σ)
    (compute : κ → σ → Except ε α × σ) (key : κ) (state : σ) : Except ε α × σ :=
  match (get state).find? key with
  | some kept => (.ok kept, state)
  | none =>
    match compute key state with
    | (.error fault, state) => (.error fault, state)
    | (.ok computed, state) =>
      let (kept, registry) := (get state).offer key computed
      (.ok kept, set registry state)

end Registry

end Syslog
