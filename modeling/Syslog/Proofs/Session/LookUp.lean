import Mathlib.Logic.Function.Basic
import Syslog.Proofs.Message.Accepted
import Syslog.Session

namespace Syslog

/-!
# What one look-up does

A look-up of a type ends in one of three ways: what has been kept is given back, and then nothing
happens at all; or the type is refused, and then nothing is kept; or a field map is derived, and
then it is what the registry keeps from now on.  The three ways are spelt out once
(`Session.LooksUp`), with all that they do to a session, and hold for both registries and with
re-entrance or without.

With re-entrance the own reflector goes through the same derivation twice, the second time for
nothing: by then the registry keeps what the first one gave.
-/

namespace Registry

variable {κ α ε σ : Type} [DecidableEq κ] (get : σ → Registry κ α) {set : Registry κ α → σ → σ}
  {compute : κ → σ → Except ε α × σ} {key : κ} {state next : σ} {kept computed : α} {fault : ε}

theorem lookUp_of_kept (known : (get state).find? key = some kept) :
    lookUp get set compute key state = (.ok kept, state) := by
  rw [lookUp, known]

theorem lookUp_of_failed (missing : (get state).find? key = none)
    (failed : compute key state = (.error fault, next)) :
    lookUp get set compute key state = (.error fault, next) := by
  rw [lookUp, missing, failed]

theorem lookUp_of_computed (missing : (get state).find? key = none)
    (computes : compute key state = (.ok computed, next)) :
    lookUp get set compute key state =
      (.ok ((get next).offer key computed).1, set ((get next).offer key computed).2 next) := by
  rw [lookUp, missing, computes]

/-- What a look-up keeps to if the computation does so, and the registry is kept wherever it is. -/
theorem lookUp_keeps {get : σ → Registry κ α} {Keeps : σ → Prop}
    (computes : ∀ key state, Keeps state → Keeps (compute key state).2)
    (sets : ∀ registry state, Keeps state → Keeps (set registry state)) (key : κ)
    (keeps : Keeps state) : Keeps (lookUp get set compute key state).2 := by
  rw [lookUp]
  split
  · exact keeps
  · have computed := computes key state keeps
    split
    · next failed =>
        rw [failed] at computed
        exact computed
    · next passed =>
        rw [passed] at computed
        exact sets _ _ computed

end Registry

namespace Session

/-- The field map of a type, whatever the registries keep. -/
def derived (session : Session) (type : Nat) : Except Fault FieldMap :=
  ((session.classifier type).reflect session.origin.identity).mapError Fault.configuration

/-- How often a type is reflected when it is looked up and nothing has been kept for it. -/
def passes (session : Session) : RegistryChoice → Nat
  | .own => if session.reentrant then 2 else 1
  | .shared => 1

/-- The calls that are noted in such a case; only the own reflector notes any. -/
def callsFor (session : Session) (choice : RegistryChoice) (type : Nat) : List Nat :=
  match choice with
  | .own => List.replicate (session.passes .own) type
  | .shared => []

/-- That a session goes on: the types stay what they are, and calls and derivations are added. -/
structure Advances (session next : Session) (calls : List Nat) (serials : Nat) : Prop where
  origin : next.origin = session.origin
  types : next.types = session.types
  reentrant : next.reentrant = session.reentrant
  calls : next.calls = session.calls ++ calls
  nextSerial : next.nextSerial = session.nextSerial + serials

/-- The three ways in which a look-up ends. -/
inductive LooksUp (choice : RegistryChoice) (type : Nat) (session : Session) :
    Except Fault Reflected → Session → Prop
  | kept {found : Reflected} (known : (session.registry choice).find? type = some found) :
      LooksUp choice type session (.ok found) session
  | refused {fault : Fault} {next : Session}
      (missing : (session.registry choice).find? type = none)
      (refused : session.derived type = .error fault)
      (registry : next.registry = session.registry)
      (process : next.process = session.process)
      (advances : Advances session next (session.callsFor choice type) 0) :
      LooksUp choice type session (.error fault) next
  | stored {found : Reflected} {next : Session}
      (missing : (session.registry choice).find? type = none)
      (derived : session.derived type = .ok found.map)
      (registry : next.registry = Function.update session.registry choice
        ⟨(session.registry choice).entries ++ [(type, found)]⟩)
      (process : next.process = session.process)
      (advances : Advances session next (session.callsFor choice type) (session.passes choice)) :
      LooksUp choice type session (.ok found) next

variable {session : Session} {type : Nat} {map : FieldMap} {fault : Fault}

/-! ## The reflectors -/

theorem reflect_of_refused (refused : session.derived type = .error fault) :
    session.reflect type = (.error fault, session) := by
  rcases mapError_eq_error_iff.mp refused with ⟨cause, reflected, rfl⟩
  rw [reflect, reflected]

theorem reflect_of_derived (derived : session.derived type = .ok map) :
    ∃ emission, session.reflect type = (.ok ⟨session.nextSerial, map⟩,
      { session with nextSerial := session.nextSerial + 1, emission }) := by
  have reflected := mapError_eq_ok_iff.mp derived
  rw [reflect, reflected]
  exact ⟨_, rfl⟩

theorem exists_noteSerial (session : Session) (serial : Nat) :
    ∃ known, session.noteSerial serial = { session with known } := by
  rw [noteSerial]
  split
  · exact ⟨session.known, rfl⟩
  · exact ⟨_, rfl⟩

theorem reflectNoted_of_refused (refused : session.derived type = .error fault) :
    reflectNoted type session =
      (.error fault, { session with calls := session.calls ++ [type] }) := by
  have refusedAgain : derived { session with calls := session.calls ++ [type] } type =
    .error fault := refused
  rw [reflectNoted, reflect_of_refused refusedAgain]

theorem reflectNoted_of_derived (derived : session.derived type = .ok map) :
    ∃ emission known, reflectNoted type session = (.ok ⟨session.nextSerial, map⟩,
      { session with
        calls := session.calls ++ [type]
        nextSerial := session.nextSerial + 1
        emission, known }) := by
  have derivedAgain : Session.derived { session with calls := session.calls ++ [type] } type =
    .ok map := derived
  rcases reflect_of_derived derivedAgain with ⟨emission, reflected⟩
  rw [reflectNoted, reflected]
  rcases exists_noteSerial { session with
    calls := session.calls ++ [type], nextSerial := session.nextSerial + 1, emission }
    session.nextSerial with ⟨known, noted⟩
  exact ⟨emission, known, congrArg _ noted⟩

/-! ## Looking up -/

/-- The way in which a look-up without re-entrance ends if nothing is kept. -/
theorem ownLookUp_of_missing (missing : session.own.find? type = none)
    (derived : session.derived type = .ok map) :
    ∃ emission known, ownLookUp reflectNoted type session = (.ok ⟨session.nextSerial, map⟩,
      { session with
        own := ⟨session.own.entries ++ [(type, ⟨session.nextSerial, map⟩)]⟩
        calls := session.calls ++ [type]
        nextSerial := session.nextSerial + 1
        emission, known }) := by
  rcases reflectNoted_of_derived derived with ⟨emission, known, noted⟩
  refine ⟨emission, known, ?_⟩
  rw [ownLookUp, Registry.lookUp_of_computed own missing noted]
  simp only [Registry.offer_of_missing missing]

theorem reflectAgain_of_refused (missing : session.own.find? type = none)
    (refused : session.derived type = .error fault) :
    reflectAgain type session =
      (.error fault, { session with calls := session.calls ++ [type] ++ [type] }) := by
  have missingAgain : (own { session with calls := session.calls ++ [type] }).find? type = none :=
    missing
  have refusedAgain : Session.derived { session with calls := session.calls ++ [type] } type =
    .error fault := refused
  have inner := reflectNoted_of_refused refusedAgain
  rw [reflectAgain, ownLookUp, Registry.lookUp_of_failed own missingAgain inner]

/-- The outer derivation comes second, and finds that the registry keeps the inner one. -/
theorem reflectAgain_of_derived (missing : session.own.find? type = none)
    (derived : session.derived type = .ok map) :
    ∃ emission known, reflectAgain type session = (.ok ⟨session.nextSerial + 1, map⟩,
      { session with
        own := ⟨session.own.entries ++ [(type, ⟨session.nextSerial, map⟩)]⟩
        calls := session.calls ++ [type] ++ [type]
        nextSerial := session.nextSerial + 1 + 1, emission, known }) := by
  have missingAgain : (own { session with calls := session.calls ++ [type] }).find? type = none :=
    missing
  have derivedAgain : Session.derived { session with calls := session.calls ++ [type] } type =
    .ok map := derived
  rcases ownLookUp_of_missing missingAgain derivedAgain with ⟨innerEmission, innerKnown, inner⟩
  have derivedOnce : Session.derived { session with
    own := ⟨session.own.entries ++ [(type, ⟨session.nextSerial, map⟩)]⟩
    calls := session.calls ++ [type] ++ [type]
    nextSerial := session.nextSerial + 1
    emission := innerEmission
    known := innerKnown } type = .ok map := derived
  rcases reflect_of_derived derivedOnce with ⟨emission, outer⟩
  rw [reflectAgain, inner]
  simp only [outer]
  rcases exists_noteSerial { session with
    own := ⟨session.own.entries ++ [(type, ⟨session.nextSerial, map⟩)]⟩
    calls := session.calls ++ [type] ++ [type]
    nextSerial := session.nextSerial + 1 + 1
    emission
    known := innerKnown } (session.nextSerial + 1) with ⟨known, noted⟩
  exact ⟨emission, known, congrArg _ noted⟩

/-! ## Both registries -/

def registryOf (choice : RegistryChoice) (session : Session) : Registry Nat Reflected :=
  session.registry choice

def withRegistry (choice : RegistryChoice) (registry : Registry Nat Reflected) (session : Session) :
    Session :=
  match choice with
  | .own => { session with own := registry }
  | .shared => { session with shared := registry }

/-- What a registry asks when nothing is kept. -/
def reflector (session : Session) :
    RegistryChoice → Nat → Session → Except Fault Reflected × Session
  | .own => if session.reentrant then reflectAgain else reflectNoted
  | .shared => fun type session => session.reflect type

theorem lookUp_eq (choice : RegistryChoice) (type : Nat) (session : Session) :
    session.lookUp choice type = Registry.lookUp (registryOf choice) (withRegistry choice)
      (session.reflector choice) type session := by
  cases choice <;> rfl

theorem registry_withRegistry (choice : RegistryChoice) (registry : Registry Nat Reflected)
    (session : Session) :
    (session.withRegistry choice registry).registry =
      Function.update session.registry choice registry := by
  refine Function.eq_update_iff.mpr ⟨?_, fun other different => ?_⟩
  · cases choice <;> rfl
  · cases choice <;> cases other <;> first | rfl | exact absurd rfl different

theorem process_withRegistry (choice : RegistryChoice) (registry : Registry Nat Reflected)
    (session : Session) : (session.withRegistry choice registry).process = session.process := by
  cases choice <;> rfl

theorem Advances.withRegistry {next : Session} {calls : List Nat} {serials : Nat}
    (advances : Advances session next calls serials) (choice : RegistryChoice)
    (registry : Registry Nat Reflected) :
    Advances session (next.withRegistry choice registry) calls serials := by
  rcases advances with ⟨origin, types, reentrant, calls, nextSerial⟩
  cases choice <;> exact ⟨origin, types, reentrant, calls, nextSerial⟩

theorem own_cases (session : Session) :
    session.passes .own = 1 ∧ session.reflector .own = reflectNoted ∨
      session.passes .own = 2 ∧ session.reflector .own = reflectAgain := by
  rw [passes, reflector]
  cases session.reentrant
  · exact Or.inl ⟨rfl, rfl⟩
  · exact Or.inr ⟨rfl, rfl⟩

theorem reflector_of_refused {choice : RegistryChoice}
    (missing : (session.registry choice).find? type = none)
    (refused : session.derived type = .error fault) :
    ∃ next, session.reflector choice type session = (.error fault, next) ∧
      next.registry = session.registry ∧ next.process = session.process ∧
      Advances session next (session.callsFor choice type) 0 := by
  cases choice with
  | shared =>
      refine ⟨session, reflect_of_refused refused, rfl, rfl, rfl, rfl, rfl, ?_, rfl⟩
      exact (List.append_nil _).symm
  | own =>
      rcases own_cases session with ⟨once, isReflector⟩ | ⟨twice, isReflector⟩
      · rw [isReflector, callsFor, once]
        exact ⟨_, reflectNoted_of_refused refused, rfl, rfl, rfl, rfl, rfl, rfl, rfl⟩
      · rw [isReflector, callsFor, twice]
        refine ⟨_, reflectAgain_of_refused missing refused, rfl, rfl, rfl, rfl, rfl, ?_, rfl⟩
        exact List.append_assoc _ _ _

/-- Whether or not the registry has got an answer in the meantime, there is one new entry in it
after the offer, and that is what the caller gets. -/
theorem reflector_of_derived {choice : RegistryChoice}
    (missing : (session.registry choice).find? type = none)
    (derived : session.derived type = .ok map) :
    ∃ computed found next, session.reflector choice type session = (.ok computed, next) ∧
      found.map = map ∧
      (next.registry choice).offer type computed =
        (found, ⟨(session.registry choice).entries ++ [(type, found)]⟩) ∧
      (∀ other, other ≠ choice → next.registry other = session.registry other) ∧
      next.process = session.process ∧
      Advances session next (session.callsFor choice type) (session.passes choice) := by
  cases choice with
  | shared =>
      rcases reflect_of_derived derived with ⟨emission, reflected⟩
      refine ⟨_, _, _, reflected, ?_, Registry.offer_of_missing missing _, ?_, rfl, ?_⟩
      · rfl
      · intro other different
        cases other <;> rfl
      · exact ⟨rfl, rfl, rfl, (List.append_nil _).symm, rfl⟩
  | own =>
      rcases own_cases session with ⟨once, isReflector⟩ | ⟨twice, isReflector⟩
      · rcases reflectNoted_of_derived derived with ⟨emission, known, noted⟩
        rw [isReflector, callsFor, once]
        refine ⟨_, _, _, noted, ?_, Registry.offer_of_missing missing _, ?_, rfl, ?_⟩
        · rfl
        · intro other different
          cases other <;> rfl
        · exact ⟨rfl, rfl, rfl, rfl, rfl⟩
      · rcases reflectAgain_of_derived missing derived with ⟨emission, known, outer⟩
        have inner :=
          Registry.find?_offer_self (session.registry .own) type ⟨session.nextSerial, map⟩
        rw [Registry.offer_of_missing missing] at inner
        rw [isReflector, callsFor, twice]
        refine ⟨_, _, _, outer, ?_, Registry.offer_of_find? inner _, ?_, rfl, ?_⟩
        · rfl
        · intro other different
          cases other with
          | own => exact absurd rfl different
          | shared => rfl
        · exact ⟨rfl, rfl, rfl, List.append_assoc _ _ _, rfl⟩

/-- A look-up ends in one of the three ways. -/
theorem looksUp (choice : RegistryChoice) (type : Nat) (session : Session) :
    LooksUp choice type session (session.lookUp choice type).1 (session.lookUp choice type).2 := by
  rw [lookUp_eq]
  cases looked : (session.registry choice).find? type with
  | some found =>
      rw [Registry.lookUp_of_kept (registryOf choice) looked]
      exact .kept looked
  | none =>
      cases derived : session.derived type with
      | error fault =>
          rcases reflector_of_refused looked derived with
            ⟨next, computes, registry, process, advances⟩
          rw [Registry.lookUp_of_failed (registryOf choice) looked computes]
          exact .refused looked derived registry process advances
      | ok map =>
          rcases reflector_of_derived looked derived with
            ⟨computed, found, next, computes, rfl, offered, others, process, advances⟩
          rw [Registry.lookUp_of_computed (registryOf choice) looked computes, registryOf, offered]
          refine .stored looked derived ?_ ?_ (advances.withRegistry choice _)
          · rw [registry_withRegistry]
            refine Function.eq_update_iff.mpr ⟨Function.update_self _ _ _, ?_⟩
            intro other different
            rw [Function.update_of_ne different, others other different]
          · rw [process_withRegistry, process]

/-! ## What look-ups keep -/

/-- That a property of a session outlasts derivations, and does not depend on anything else that
look-ups note. -/
structure Outlasting (Keeps : Session → Prop) : Prop where
  reflect : ∀ (session : Session) (type : Nat), Keeps session → Keeps (session.reflect type).2
  note : ∀ (session : Session) (own shared : Registry Nat Reflected) (calls known : List Nat),
    Keeps session → Keeps { session with own, shared, calls, known }

namespace Outlasting

variable {Keeps : Session → Prop}

theorem noteSerial (outlasting : Outlasting Keeps) (serial : Nat) (keeps : Keeps session) :
    Keeps (session.noteSerial serial) := by
  rcases exists_noteSerial session serial with ⟨known, same⟩
  rw [same]
  exact outlasting.note session session.own session.shared session.calls known keeps

theorem reflectNoted (outlasting : Outlasting Keeps) (type : Nat) (keeps : Keeps session) :
    Keeps (reflectNoted type session).2 := by
  have called := outlasting.note session session.own session.shared (session.calls ++ [type])
    session.known keeps
  have reflected := outlasting.reflect _ type called
  rw [Session.reflectNoted]
  generalize Session.reflect { session with calls := session.calls ++ [type] } type = result
    at reflected
  rcases result with ⟨fault | found, next⟩
  · exact reflected
  · exact outlasting.noteSerial found.serial reflected

theorem ownLookUp (outlasting : Outlasting Keeps)
    {reflector : Nat → Session → Except Fault Reflected × Session}
    (reflects : ∀ type session, Keeps session → Keeps (reflector type session).2)
    (type : Nat) (keeps : Keeps session) : Keeps (ownLookUp reflector type session).2 := by
  refine Registry.lookUp_keeps reflects (fun registry session => ?_) type keeps
  exact outlasting.note session registry session.shared session.calls session.known

theorem reflectAgain (outlasting : Outlasting Keeps) (type : Nat) (keeps : Keeps session) :
    Keeps (reflectAgain type session).2 := by
  have called := outlasting.note session session.own session.shared (session.calls ++ [type])
    session.known keeps
  have looked := outlasting.ownLookUp (fun type _ => outlasting.reflectNoted type) type called
  rw [Session.reflectAgain]
  generalize Session.ownLookUp Session.reflectNoted type
    { session with calls := session.calls ++ [type] } = result at looked
  rcases result with ⟨fault | found, next⟩
  · exact looked
  · have reflected := outlasting.reflect next type looked
    dsimp only
    generalize next.reflect type = result at reflected
    rcases result with ⟨fault | found, next⟩
    · exact reflected
    · exact outlasting.noteSerial found.serial reflected

theorem lookUp (outlasting : Outlasting Keeps) (choice : RegistryChoice) (type : Nat)
    (keeps : Keeps session) : Keeps (session.lookUp choice type).2 := by
  cases choice with
  | shared =>
      refine Registry.lookUp_keeps (fun type session => outlasting.reflect session type)
        (fun registry session => ?_) type keeps
      exact outlasting.note session session.own registry session.calls session.known
  | own =>
      rw [Session.lookUp]
      cases session.reentrant
      · exact outlasting.ownLookUp (fun type _ => outlasting.reflectNoted type) type keeps
      · exact outlasting.ownLookUp (fun type _ => outlasting.reflectAgain type) type keeps

theorem message (outlasting : Outlasting Keeps) (choice : RegistryChoice) (type : Nat)
    (values : List Value) (keeps : Keeps session) :
    Keeps (session.message choice type values).2 := by
  rw [Session.message]
  split
  · exact keeps
  · exact outlasting.lookUp choice type keeps

end Outlasting

end Session

end Syslog
