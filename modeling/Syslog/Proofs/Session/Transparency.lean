import Syslog.Proofs.Session.Caching

namespace Syslog

/-!
# What a caller can tell about the registries

Put together, a caller who starts with empty registries can tell the following, after whatever
has been done.  All answers about a type are those of reflection, and so are the messages of its
records; a registry says that it has the types that it must have kept, and how many these are; a
type that is refused leaves no trace in it; and neither registry is touched by an operation on the
other.  Keeping shows in one place only: a type that is kept is not reflected again.

A type is kept as soon as it has been reflected, also if the record that it was looked up for
turns out to hold something else than its roles allow.
-/

namespace Session

/-- What can be told about the registries of a session that started with empty ones. -/
structure Transparent (start : Session) (operations : List Operation) (current : Session) :
    Prop where
  fieldMap : ∀ choice type, (current.step (.fieldMap choice type)).1.1.map Answer.fieldMap? =
    (start.derived type).map some
  register : ∀ choice type, (current.step (.register choice type)).1.1 =
    (start.derived type).map fun _ => .truth true
  message : ∀ choice type values,
    (current.message choice type values).1 = start.composed type values ∧
      (current.message choice type values).1 = (start.message choice type values).1
  marshalRecord : ∀ choice type values allowLongNames,
    (current.step (.marshalRecord choice type values allowLongNames)).1.1 =
      (start.composed type values >>= fun message =>
        ((message.marshal (current.process.settings.longNames allowLongNames)).mapError
          Fault.invalid).map .octets)
  contains : ∀ choice type, ∃ truth,
    (current.step (.contains choice type)).1.1 = .ok (.truth truth) ∧
      (truth = true ↔ start.Keeps operations choice type)
  size : ∀ choice, ∃ kept : Finset Nat, (∀ type, type ∈ kept ↔ start.Keeps operations choice type) ∧
    (current.step (.size choice)).1.1 = .ok (.count kept.card)
  /-- A type that is refused leaves no trace, and so it is reflected again the next time. -/
  refused : ∀ operation choice type fault, start.asked? operation = some (choice, type) →
    start.derived type = .error fault →
      (current.perform operation).registry = current.registry ∧
        (current.perform operation).calls = current.calls ++ start.callsFor choice type
  /-- A type that can be reflected is reflected when it is asked for first; twice, if the reflector
  asks for it again. -/
  first : ∀ operation choice type map, start.asked? operation = some (choice, type) →
    start.derived type = .ok map → ¬start.Keeps operations choice type →
      (current.perform operation).calls = current.calls ++ start.callsFor choice type ∧
        (current.perform operation).nextSerial = current.nextSerial + start.passes choice
  /-- A type that is kept is not reflected again. -/
  kept : ∀ operation choice type, start.asked? operation = some (choice, type) →
    start.Keeps operations choice type →
      (current.perform operation).registry = current.registry ∧
        (current.perform operation).calls = current.calls ∧
        (current.perform operation).nextSerial = current.nextSerial
  /-- An operation on one registry, or on none, leaves the other alone. -/
  others : ∀ operation choice, operation.registry? ≠ some choice →
    (current.perform operation).registry choice = current.registry choice

variable {start current : Session} {operations : List Operation} {operation : Operation}

/-- An operation for which there is nothing to look up or to clear leaves both registries alone,
and any other only touches the one that it is given. -/
theorem registry_perform_of_ne {choice : RegistryChoice}
    (other : operation.registry? ≠ some choice) :
    (current.perform operation).registry choice = current.registry choice := by
  cases steps current operation with
  | idle _ _ registry _ => rw [registry]
  | cleared clears registry _ =>
      subst clears
      rw [registry, Function.update_of_ne]
      rintro rfl
      exact other rfl
  | kept _ _ registry _ => rw [registry]
  | refused _ _ _ registry _ => rw [registry]
  | stored asks _ _ registry _ =>
      rw [registry, Function.update_of_ne]
      rintro rfl
      exact other (registry?_of_asked? asks)

theorem perform_of_refused (caches : Caches start operations current) {choice : RegistryChoice}
    {type : Nat} {fault : Fault} (asks : start.asked? operation = some (choice, type))
    (refused : start.derived type = .error fault) :
    (current.perform operation).registry = current.registry ∧
      (current.perform operation).calls = current.calls ++ start.callsFor choice type := by
  rw [← caches.derived] at refused
  rcases (steps current operation).asked_cases (caches.asked? ▸ asks) with
    ⟨found, known, _⟩ | ⟨_, ⟨_, _, registry, advances⟩ | ⟨_, derived, _⟩⟩
  · have derived := caches.sound choice type found known
    rw [refused] at derived
    cases derived
  · rw [← caches.callsFor]
    exact ⟨registry, advances.calls⟩
  · rw [refused] at derived
    cases derived

theorem perform_of_first (caches : Caches start operations current) {choice : RegistryChoice}
    {type : Nat} {map : FieldMap} (asks : start.asked? operation = some (choice, type))
    (derived : start.derived type = .ok map) (first : ¬start.Keeps operations choice type) :
    (current.perform operation).calls = current.calls ++ start.callsFor choice type ∧
      (current.perform operation).nextSerial = current.nextSerial + start.passes choice := by
  rw [← caches.derived] at derived
  rcases (steps current operation).asked_cases (caches.asked? ▸ asks) with
    ⟨found, known, _⟩ | ⟨_, ⟨_, refused, _⟩ | ⟨_, _, _, advances⟩⟩
  · rw [caches.isNone_find?_iff.mpr first] at known
    cases known
  · rw [derived] at refused
    cases refused
  · rw [← caches.callsFor, ← caches.passes]
    exact ⟨advances.calls, advances.nextSerial⟩

theorem perform_of_keeps (caches : Caches start operations current) {choice : RegistryChoice}
    {type : Nat} (asks : start.asked? operation = some (choice, type))
    (keeps : start.Keeps operations choice type) :
    (current.perform operation).registry = current.registry ∧
      (current.perform operation).calls = current.calls ∧
      (current.perform operation).nextSerial = current.nextSerial := by
  rcases (steps current operation).asked_cases (caches.asked? ▸ asks) with
    ⟨_, _, registry, advances⟩ | ⟨missing, _⟩
  · exact ⟨registry, advances.calls.trans (List.append_nil _), advances.nextSerial⟩
  · exact absurd keeps (caches.isNone_find?_iff.mp missing)

theorem exists_kept (caches : Caches start operations current) (choice : RegistryChoice) :
    ∃ kept : Finset Nat, (∀ type, type ∈ kept ↔ start.Keeps operations choice type) ∧
      (current.registry choice).size = kept.card := by
  refine ⟨((current.registry choice).entries.map Prod.fst).toFinset, fun type => ?_, ?_⟩
  · rw [List.mem_toFinset, ← Registry.isSome_find?_iff, (caches.registry choice).keeps]
  · rw [List.toFinset_card_of_nodup (caches.registry choice).nodup, List.length_map]
    rfl

theorem Caches.composed (caches : Caches start operations current) :
    current.composed = start.composed := by
  funext type values
  have classifier : current.classifier = start.classifier := by
    funext type
    rw [Session.classifier, Session.classifier, caches.types]
  rw [Session.composed, Session.composed, caches.derived, classifier, caches.origin]

theorem Caches.transparent (fresh : ∀ choice, start.registry choice = .empty)
    (caches : Caches start operations current) : Transparent start operations current where
  fieldMap choice type := by
    rw [← caches.derived]
    exact step_fieldMap caches.sound choice type
  register choice type := by
    rw [← caches.derived]
    exact step_register caches.sound choice type
  message choice type values := by
    have atStart := message_eq_composed (Caches.ofEmpty fresh).sound choice type values
    rw [atStart, message_eq_composed caches.sound, caches.composed]
    exact ⟨rfl, rfl⟩
  marshalRecord choice type values allowLongNames := by
    rw [← caches.composed]
    exact step_marshalRecord caches.sound choice type values allowLongNames
  contains choice type := ⟨(current.registry choice).contains type, rfl,
    (caches.registry choice).keeps type⟩
  size choice := by
    rcases exists_kept caches choice with ⟨kept, mem, card⟩
    exact ⟨kept, mem, card ▸ rfl⟩
  refused _ _ _ _ asks refused := perform_of_refused caches asks refused
  first _ _ _ _ asks derived first := perform_of_first caches asks derived first
  kept _ _ _ asks keeps := perform_of_keeps caches asks keeps
  others _ _ other := registry_perform_of_ne other

/-- Keeping field maps is transparent: after any operations on a session that started with empty
registries, whatever can be told of these is as reflection and the operations so far have it.
Where there is no re-entrance, the own reflector is called once between two clears for each type
that is asked for and can be reflected, and every time for one that cannot. -/
theorem caching_is_transparent (fresh : ∀ choice, start.registry choice = .empty) :
    (∀ requests request, start.run (requests ++ [request]) =
      start.run requests ++ [((start.after (requests.map .request)).step request).1]) ∧
    (∀ operations, Transparent start operations (start.after operations)) ∧
    (start.reentrant = false → ∀ before segment type,
      before = [] ∨ (∃ earlier, before = earlier ++ [Operation.clear .own]) →
        Operation.clear .own ∉ segment →
          (start.after (before ++ segment)).calls.count type =
            (start.after before).calls.count type +
              start.reflections type (start.asks .own type segment)) := by
  refine ⟨fun requests request => run_append start requests [request],
    fun operations => (Caches.after fresh operations).transparent fresh, ?_⟩
  intro once before segment type cleared noClear
  refine count_calls_after fresh once ?_ noClear
  rcases cleared with rfl | ⟨earlier, rfl⟩
  · exact not_askedSince_nil
  · rw [askedSince_append_singleton]
    rintro (asks | ⟨noClear, _⟩)
    · cases asks
    · exact noClear rfl

/-- Three types, two of them of the same name and one that cannot be reflected. -/
def namesakes : Session where
  origin := .atEpoch ⟨"host", "app", "42"⟩
  types := [
    .record ⟨"T", [{ name := "severity" }], by decide⟩, .other "'T'",
    .record ⟨"T", [{ name := "user" }], by decide⟩]

/-- A record of the first type that holds a text as its severity leaves the type in the registry, so
that it need not be reflected for a second one. -/
theorem caching_is_transparent_of_namesakes :
    let before : List Operation := [.request (.register .own 0), .clear .own]
    let segment : List Operation := [
      .message .own 0 [.text "x"], .request (.register .own 0),
      .request (.register .own 1), .request (.register .own 1),
      .request (.register .own 2), .request (.register .shared 2)]
    let current := namesakes.after (before ++ segment)
    Transparent namesakes (before ++ segment) current ∧ current.own.size = 2 ∧
      current.calls.count 0 = 2 ∧ current.calls.count 1 = 2 := by
  intro before segment current
  have fresh : ∀ choice, namesakes.registry choice = .empty := by
    intro choice
    cases choice <;> rfl
  rcases caching_is_transparent fresh with ⟨_, transparent, counted⟩
  have noClear : Operation.clear .own ∉ segment := by
    simp [segment, Operation.clear]
  have counts := fun type => counted rfl before segment type (Or.inr ⟨[_], rfl⟩) noClear
  refine ⟨transparent _, by decide +kernel, ?_, ?_⟩
  · rw [counts]
    decide +kernel
  · rw [counts]
    decide +kernel

/-- A record that is refused for the kind of a value has its type stored all the same. -/
theorem mismatched_record_is_stored :
    let request : Request := .marshalRecord .own 0 [.text "x"] none
    (namesakes.step request).1.1 =
        .error (.configuration (.roleKind "T" "severity" .integer "str")) ∧
      namesakes.own.size = 0 ∧ (namesakes.step request).2.own.size = 1 :=
  ⟨rfl, rfl, rfl⟩

end Session

end Syslog
