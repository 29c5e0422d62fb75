import Mathlib.Data.Finset.Card
import Mathlib.Data.List.Induction
import Syslog.Proofs.Session.Step

namespace Syslog

/-!
# Caching is transparent

Whatever is requested of a session, and in whatever order, an answer about a type is the one that
reflection gives for it: a registry changes how often a type is reflected, but never the outcome.
What it keeps is known from the operations alone.  A type is kept exactly if it has been asked for
since the last clear and can be reflected; and where there is no re-entrance, a type that can be
reflected is reflected once between two clears, and one that cannot is reflected each time.

All of this rests on one description of the registries (`Session.Caches`), which every operation
preserves.
-/

namespace Registry

variable {κ α : Type} [DecidableEq κ] {registry : Registry κ α} {key : κ}

theorem isSome_find?_iff :
    (registry.find? key).isSome = true ↔ key ∈ registry.entries.map Prod.fst := by
  rw [find?, List.lookup_isSome_iff, List.mem_map]
  simp only [beq_iff_eq, @eq_comm κ key]

theorem find?_stored (missing : registry.find? key = none) (value : α) (other : κ) :
    find? ⟨registry.entries ++ [(key, value)]⟩ other =
      if other = key then some value else registry.find? other := by
  have offered := offer_of_missing missing value
  split
  · next same =>
      have self := registry.find?_offer_self key value
      rw [offered] at self
      rw [same]
      exact self
  · next different =>
      have kept := registry.find?_offer_of_ne different value
      rw [offered] at kept
      exact kept

end Registry

/-! ## Asking -/

namespace Session

/-- That a type has been asked for and the registry has not been cleared since. -/
def AskedSince (session : Session) (choice : RegistryChoice) (type : Nat)
    (operations : List Operation) : Prop :=
  ∃ before operation later, operations = before ++ operation :: later ∧
    session.asked? operation = some (choice, type) ∧ Operation.clear choice ∉ later

/-- How often a type is asked for. -/
def asks (session : Session) (choice : RegistryChoice) (type : Nat) (operations : List Operation) :
    Nat :=
  operations.countP fun operation => session.asked? operation = some (choice, type)

variable {session : Session} {choice : RegistryChoice} {type : Nat}
  {operations segment : List Operation} {operation : Operation}

/-- What is asked for depends on the types only, which stay what they are. -/
theorem asked?_eq {other : Session} (types : other.types = session.types) :
    other.asked? = session.asked? := by
  have classifier : other.classifier = session.classifier := by
    funext type
    rw [Session.classifier, types, Session.classifier]
  funext operation
  cases operation with
  | message _ _ _ => rw [asked?, asked?, classifier]
  | request request =>
      cases request with
      | marshalRecord _ _ _ _ => rw [asked?, asked?, classifier]
      | _ => rfl

theorem not_askedSince_nil : ¬session.AskedSince choice type [] := by
  rintro ⟨before, operation, later, split, _⟩
  exact List.append_ne_nil_of_right_ne_nil before (List.cons_ne_nil _ _) split.symm

theorem ne_clear_of_asked? {pair : RegistryChoice × Nat}
    (asks : session.asked? operation = some pair) : operation ≠ .clear choice := by
  rintro rfl
  cases asks

theorem askedSince_append_singleton :
    session.AskedSince choice type (operations ++ [operation]) ↔
      session.asked? operation = some (choice, type) ∨
        operation ≠ .clear choice ∧ session.AskedSince choice type operations := by
  constructor
  · rintro ⟨before, asking, later, split, asks, noClear⟩
    rcases List.eq_nil_or_concat later with rfl | ⟨others, last, rfl⟩
    · rcases List.append_singleton_inj.mp split with ⟨_, rfl⟩
      exact Or.inl asks
    · rw [List.concat_eq_append] at split noClear
      rw [← List.cons_append, ← List.append_assoc] at split
      rcases List.append_singleton_inj.mp split with ⟨rfl, rfl⟩
      rw [List.mem_append, not_or, List.mem_singleton] at noClear
      exact Or.inr ⟨Ne.symm noClear.2, before, asking, others, rfl, asks, noClear.1⟩
  · rintro (asks | ⟨noClear, before, asking, later, rfl, asks, noneLater⟩)
    · exact ⟨operations, operation, [], rfl, asks, List.not_mem_nil⟩
    · refine ⟨before, asking, later ++ [operation], ?_, asks, ?_⟩
      · rw [List.append_assoc, List.cons_append]
      · rw [List.mem_append, List.mem_singleton, not_or]
        exact ⟨noneLater, Ne.symm noClear⟩

theorem asks_append_singleton :
    session.asks choice type (segment ++ [operation]) = session.asks choice type segment +
      if session.asked? operation = some (choice, type) then 1 else 0 := by
  rw [asks, List.countP_append, List.countP_singleton]
  simp only [decide_eq_true_eq, asks]

/-- As long as the registry is not cleared, a type has been asked for if it was asked for at the
beginning or is asked for on the way. -/
theorem askedSince_append_iff (notBefore : ¬session.AskedSince choice type operations)
    (noClear : Operation.clear choice ∉ segment) :
    session.AskedSince choice type (operations ++ segment) ↔
      0 < session.asks choice type segment := by
  induction segment using List.reverseRecOn with
  | nil =>
      rw [List.append_nil]
      exact iff_of_false notBefore (Nat.lt_irrefl 0)
  | append_singleton segment operation inductionHypothesis =>
      rw [List.mem_append, List.mem_singleton, not_or] at noClear
      rw [← List.append_assoc, askedSince_append_singleton, inductionHypothesis noClear.1,
        asks_append_singleton]
      by_cases isAsked : session.asked? operation = some (choice, type)
      · simp [isAsked]
      · simp [isAsked, Ne.symm noClear.2]

/-- The session after operations that are made in turn. -/
def after (session : Session) (operations : List Operation) : Session :=
  operations.foldl perform session

theorem after_append_singleton (session : Session) (operations : List Operation)
    (operation : Operation) :
    session.after (operations ++ [operation]) = (session.after operations).perform operation :=
  List.foldl_append

/-- The answers to requests are each given by the session behind the requests before it. -/
theorem run_append (session : Session) (requests later : List Request) :
    session.run (requests ++ later) =
      session.run requests ++ (session.after (requests.map .request)).run later := by
  induction requests generalizing session with
  | nil => rfl
  | cons request rest inductionHypothesis =>
      exact congrArg ((session.step request).1 :: ·) (inductionHypothesis (session.step request).2)

/-- The types that a registry keeps after operations to a session that started with nothing kept. -/
def Keeps (start : Session) (operations : List Operation) (choice : RegistryChoice) (type : Nat) :
    Prop :=
  start.AskedSince choice type operations ∧ ∃ map, start.derived type = .ok map

/-- That a registry is what operations on a session that started with nothing kept leave of it. -/
structure Describes (start : Session) (operations : List Operation) (choice : RegistryChoice)
    (registry : Registry Nat Reflected) : Prop where
  sound : ∀ type found, registry.find? type = some found → start.derived type = .ok found.map
  keeps : ∀ type, (registry.find? type).isSome = true ↔ start.Keeps operations choice type
  nodup : (registry.entries.map Prod.fst).Nodup

/-- That a session is what operations leave of one that started with nothing kept. -/
structure Caches (start : Session) (operations : List Operation) (current : Session) : Prop where
  origin : current.origin = start.origin
  types : current.types = start.types
  reentrant : current.reentrant = start.reentrant
  registry : ∀ choice, Describes start operations choice (current.registry choice)

variable {start current : Session}

theorem keeps_append_singleton {type : Nat} :
    start.Keeps (operations ++ [operation]) choice type ↔
      (start.asked? operation = some (choice, type) ∧ ∃ map, start.derived type = .ok map) ∨
        operation ≠ .clear choice ∧ start.Keeps operations choice type := by
  rw [Keeps, askedSince_append_singleton, Keeps, or_and_right, and_assoc]

namespace Describes

variable {registry : Registry Nat Reflected}

theorem ofEmpty (nothing : ∀ type, ¬start.Keeps operations choice type) :
    Describes start operations choice .empty where
  sound _ _ impossible := nomatch impossible
  keeps type := iff_of_false Bool.false_ne_true (nothing type)
  nodup := List.nodup_nil

/-- A registry that is left alone by an operation that asks it for nothing new. -/
theorem keep (describes : Describes start operations choice registry)
    (noClear : operation ≠ .clear choice)
    (nothingNew : ∀ type, start.asked? operation = some (choice, type) →
      (∃ map, start.derived type = .ok map) → start.Keeps operations choice type) :
    Describes start (operations ++ [operation]) choice registry where
  sound := describes.sound
  keeps type := by
    rw [describes.keeps, keeps_append_singleton]
    constructor
    · exact fun keeps => Or.inr ⟨noClear, keeps⟩
    · rintro (⟨asks, derived⟩ | ⟨_, keeps⟩)
      · exact nothingNew type asks derived
      · exact keeps
  nodup := describes.nodup

theorem store (describes : Describes start operations choice registry) {type : Nat}
    {found : Reflected} (asks : start.asked? operation = some (choice, type))
    (missing : registry.find? type = none) (derived : start.derived type = .ok found.map) :
    Describes start (operations ++ [operation]) choice
      ⟨registry.entries ++ [(type, found)]⟩ where
  sound key kept known := by
    rw [Registry.find?_stored missing] at known
    split at known
    · next same =>
        cases known
        rw [same]
        exact derived
    · exact describes.sound key kept known
  keeps key := by
    have noClear : operation ≠ .clear choice := ne_clear_of_asked? asks
    rw [Registry.find?_stored missing, keeps_append_singleton, asks, Option.some.injEq,
      Prod.mk.injEq]
    split
    · next same =>
        subst same
        exact iff_of_true rfl (Or.inl ⟨⟨rfl, rfl⟩, _, derived⟩)
    · next different =>
        rw [describes.keeps]
        simp [noClear, Ne.symm different]
  nodup := by
    have absent := mt Registry.isSome_find?_iff.mpr (Option.not_isSome_iff_eq_none.mpr missing)
    rw [List.map_append, List.map_singleton]
    exact List.concat_eq_append ▸ List.Nodup.concat absent describes.nodup

end Describes

namespace Caches

theorem ofEmpty (fresh : ∀ choice, start.registry choice = .empty) : Caches start [] start where
  origin := rfl
  types := rfl
  reentrant := rfl
  registry choice := by
    rw [fresh]
    exact .ofEmpty fun _ keeps => not_askedSince_nil keeps.1

theorem derived (caches : Caches start operations current) : current.derived = start.derived := by
  funext type
  rw [Session.derived, Session.derived, classifier, classifier, caches.origin, caches.types]

theorem asked? (caches : Caches start operations current) : current.asked? = start.asked? :=
  asked?_eq caches.types

theorem sound (caches : Caches start operations current) : current.IsSound := by
  intro choice type found known
  rw [caches.derived]
  exact (caches.registry choice).sound type found known

/-- Every operation leaves the registries as the operations so far say. -/
theorem step (caches : Caches start operations current) (operation : Operation) :
    Caches start (operations ++ [operation]) (current.perform operation) := by
  have goesOn : ∀ {calls : List Nat} {serials : Nat},
      Advances current (current.perform operation) calls serials →
        (∀ choice, Describes start (operations ++ [operation]) choice
          ((current.perform operation).registry choice)) →
        Caches start (operations ++ [operation]) (current.perform operation) :=
    fun advances registry => ⟨advances.origin.trans caches.origin,
      advances.types.trans caches.types, advances.reentrant.trans caches.reentrant, registry⟩
  cases steps current operation with
  | idle noLookUp noClear registry advances =>
      refine goesOn advances fun choice => ?_
      rw [registry]
      refine (caches.registry choice).keep (noClear choice) fun type asks => ?_
      rw [← caches.asked?, noLookUp] at asks
      cases asks
  | @cleared cleared clears registry advances =>
      refine goesOn advances fun choice => ?_
      rw [registry, clears]
      by_cases same : choice = cleared
      · subst same
        rw [Function.update_self]
        exact .ofEmpty fun type => by simp [keeps_append_singleton]
      · rw [Function.update_of_ne same]
        refine (caches.registry choice).keep (by simp [Ne.symm same]) fun type asks => ?_
        rw [asked?_clear] at asks
        cases asks
  | kept asked known registry advances =>
      refine goesOn advances fun choice => ?_
      rw [caches.asked?] at asked
      rw [registry]
      refine (caches.registry choice).keep (ne_clear_of_asked? asked) ?_
      intro type asks _
      cases asked.symm.trans asks
      exact ((caches.registry _).keeps _).mp (Option.isSome_iff_exists.mpr ⟨_, known⟩)
  | refused asked _ refused registry advances =>
      refine goesOn advances fun choice => ?_
      rw [caches.asked?] at asked
      rw [registry]
      refine (caches.registry choice).keep (ne_clear_of_asked? asked) ?_
      rintro type asks ⟨map, derived⟩
      cases asked.symm.trans asks
      rw [caches.derived, derived] at refused
      cases refused
  | @stored asked type _ asks missing derived registry advances =>
      refine goesOn advances fun choice => ?_
      rw [caches.asked?] at asks
      rw [caches.derived] at derived
      rw [registry]
      by_cases same : choice = asked
      · subst same
        rw [Function.update_self]
        exact (caches.registry choice).store asks missing derived
      · rw [Function.update_of_ne same]
        refine (caches.registry choice).keep (ne_clear_of_asked? asks) ?_
        intro other asksOther _
        cases asks.symm.trans asksOther
        exact absurd rfl same

theorem after (fresh : ∀ choice, start.registry choice = .empty) (operations : List Operation) :
    Caches start operations (start.after operations) := by
  induction operations using List.reverseRecOn with
  | nil => exact .ofEmpty fresh
  | append_singleton operations operation inductionHypothesis =>
      rw [after_append_singleton]
      exact inductionHypothesis.step operation

/-! ## How often a type is reflected -/

theorem isNone_find?_iff (caches : Caches start operations current) {choice : RegistryChoice}
    {type : Nat} :
    (current.registry choice).find? type = none ↔ ¬start.Keeps operations choice type := by
  rw [← (caches.registry choice).keeps, Bool.not_eq_true, Option.isSome_eq_false_iff,
    Option.isNone_iff_eq_none]

theorem passes (caches : Caches start operations current) (choice : RegistryChoice) :
    current.passes choice = start.passes choice := by
  cases choice with
  | own => rw [Session.passes, Session.passes, caches.reentrant]
  | shared => rfl

theorem callsFor (caches : Caches start operations current) (choice : RegistryChoice) (type : Nat) :
    current.callsFor choice type = start.callsFor choice type := by
  cases choice with
  | own => exact congrArg (List.replicate · type) (caches.passes .own)
  | shared => rfl

/-- Without re-entrance there is one call for a type that is asked for and has not been kept. -/
theorem count_calls (caches : Caches start operations current) (once : start.reentrant = false)
    (operation : Operation) (type : Nat) :
    (current.perform operation).calls.count type = current.calls.count type +
      if start.asked? operation = some (.own, type) ∧ (current.registry .own).find? type = none
      then 1 else 0 := by
  rw [← caches.asked?]
  have silent : ∀ {next : Session} {serials : Nat}, Advances current next [] serials →
      next.calls.count type = current.calls.count type := by
    intro next serials advances
    rw [advances.calls, List.append_nil]
  have called : ∀ {next : Session} {choice : RegistryChoice} {asked serials : Nat},
      current.asked? operation = some (choice, asked) →
      (current.registry choice).find? asked = none →
        Advances current next (current.callsFor choice asked) serials →
          next.calls.count type = current.calls.count type +
            if current.asked? operation = some (.own, type) ∧
              (current.registry .own).find? type = none
            then 1 else 0 := by
    intro next choice asked serials asks missing advances
    have counted : (current.callsFor choice asked).count type =
        if choice = .own ∧ asked = type then 1 else 0 := by
      rw [caches.callsFor]
      cases choice with
      | own =>
          rw [Session.callsFor, Session.passes, once]
          simp [List.count_singleton]
      | shared => simp [Session.callsFor]
    rw [advances.calls, List.count_append, counted]
    refine congrArg _ (if_congr ?_ rfl rfl)
    constructor
    · rintro ⟨rfl, rfl⟩
      exact ⟨asks, missing⟩
    · rintro ⟨same, _⟩
      rw [asks] at same
      cases same
      exact ⟨rfl, rfl⟩
  cases steps current operation with
  | idle noLookUp _ _ advances => simp [silent advances, noLookUp]
  | cleared clears _ advances =>
      rw [silent advances, clears]
      simp
  | kept asks known _ advances =>
      rw [silent advances, asks, if_neg, Nat.add_zero]
      rintro ⟨same, missing⟩
      cases same
      rw [missing] at known
      cases known
  | refused asks missing _ _ advances => exact called asks missing advances
  | stored asks missing _ _ advances => exact called asks missing advances

end Caches

/-- How often a type is reflected that is asked for so often between two clears. -/
def reflections (start : Session) (type : Nat) (asks : Nat) : Nat :=
  match start.derived type with
  | .ok _ => min 1 asks
  | .error _ => asks

theorem count_calls_after (fresh : ∀ choice, start.registry choice = .empty)
    (once : start.reentrant = false) {before segment : List Operation} {type : Nat}
    (notBefore : ¬start.AskedSince .own type before)
    (noClear : Operation.clear .own ∉ segment) :
    (start.after (before ++ segment)).calls.count type =
      (start.after before).calls.count type +
        start.reflections type (start.asks .own type segment) := by
  induction segment using List.reverseRecOn with
  | nil =>
      have none : start.reflections type (start.asks .own type []) = 0 := by
        rw [reflections]
        split <;> rfl
      rw [List.append_nil, none, Nat.add_zero]
  | append_singleton segment operation inductionHypothesis =>
      rw [List.mem_append, List.mem_singleton, not_or] at noClear
      have caches := Caches.after fresh (before ++ segment)
      have asked := askedSince_append_iff notBefore noClear.1
      rw [← List.append_assoc, after_append_singleton, caches.count_calls once,
        inductionHypothesis noClear.1, asks_append_singleton, Nat.add_assoc]
      refine congrArg _ ?_
      have missing : ((start.after (before ++ segment)).registry .own).find? type = none ↔
          ¬(0 < start.asks .own type segment ∧ ∃ map, start.derived type = .ok map) := by
        rw [caches.isNone_find?_iff, Keeps, asked]
      by_cases isAsked : start.asked? operation = some (.own, type)
      · rw [if_pos isAsked, reflections, reflections]
        cases derived : start.derived type with
        | error fault =>
            rw [if_pos ⟨isAsked, missing.mpr fun ⟨_, _, impossible⟩ => by
              rw [derived] at impossible
              cases impossible⟩]
        | ok map =>
            by_cases first : start.asks .own type segment = 0
            · rw [if_pos ⟨isAsked, missing.mpr fun ⟨asked, _⟩ => Nat.ne_of_gt asked first⟩, first]
              rfl
            · have kept : ¬((start.after (before ++ segment)).registry .own).find? type = none :=
                fun none => missing.mp none ⟨Nat.pos_of_ne_zero first, map, derived⟩
              rw [if_neg fun both => kept both.2]
              dsimp only
              omega
      · rw [if_neg isAsked, if_neg fun both => isAsked both.1, Nat.add_zero, Nat.add_zero]

end Session

end Syslog
