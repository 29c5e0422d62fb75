import Syslog.Proofs.Session.LookUp

namespace Syslog

/-!
# What one operation does to the registries

Besides what can be requested of a session, the message of a record can be asked for.  Of all
these operations only four look a type up, those about a record only if there can be such a record,
and only one clears a registry.  The others leave both registries alone, whatever they configure or
log, and so an operation does to the registries what its look-up does, or it empties one of them, or
nothing (`Session.Steps`).
-/

/-- The field map in an answer, without its serial number. -/
def Answer.fieldMap? : Answer → Option FieldMap
  | .fieldMap _ map => some map
  | _ => none

inductive Operation
  | request (request : Request)
  | message (choice : RegistryChoice) (type : Nat) (values : List Value)

namespace Operation

def clear (choice : RegistryChoice) : Operation := .request (.clear choice)

/-- The registry that an operation is given. -/
def registry? : Operation → Option RegistryChoice
  | .message choice _ _ => some choice
  | .request (.marshalRecord choice _ _ _) => some choice
  | .request (.fieldMap choice _) => some choice
  | .request (.register choice _) => some choice
  | .request (.contains choice _) => some choice
  | .request (.size choice) => some choice
  | .request (.clear choice) => some choice
  | .request _ => none

@[simp] theorem clear_inj {choice other : RegistryChoice} :
    clear choice = clear other ↔ choice = other := by
  rw [clear, clear, request.injEq, Request.clear.injEq]

end Operation

namespace Session

/-- The look-up that an operation leads to.  What cannot be built is not looked up. -/
def asked? (session : Session) : Operation → Option (RegistryChoice × Nat)
  | .message choice type values =>
    (subject (session.classifier type) values).toOption.map fun _ => (choice, type)
  | .request (.marshalRecord choice type values _) =>
    (subject (session.classifier type) values).toOption.map fun _ => (choice, type)
  | .request (.fieldMap choice type) => some (choice, type)
  | .request (.register choice type) => some (choice, type)
  | .request _ => none

@[simp] theorem asked?_clear (session : Session) (choice : RegistryChoice) :
    session.asked? (.clear choice) = none := rfl

/-- The session behind an operation. -/
def perform (session : Session) : Operation → Session
  | .request request => (session.step request).2
  | .message choice type values => (session.message choice type values).2

/-- What an operation does to the registries. -/
inductive Steps (session : Session) (operation : Operation) (next : Session) : Prop
  | idle (noLookUp : session.asked? operation = none)
      (noClear : ∀ choice, operation ≠ .clear choice)
      (registry : next.registry = session.registry) (advances : Advances session next [] 0)
  | cleared {choice : RegistryChoice} (clears : operation = .clear choice)
      (registry : next.registry = Function.update session.registry choice .empty)
      (advances : Advances session next [] 0)
  | kept {choice : RegistryChoice} {type : Nat} {found : Reflected}
      (asks : session.asked? operation = some (choice, type))
      (known : (session.registry choice).find? type = some found)
      (registry : next.registry = session.registry) (advances : Advances session next [] 0)
  | refused {choice : RegistryChoice} {type : Nat} {fault : Fault}
      (asks : session.asked? operation = some (choice, type))
      (missing : (session.registry choice).find? type = none)
      (refused : session.derived type = .error fault)
      (registry : next.registry = session.registry)
      (advances : Advances session next (session.callsFor choice type) 0)
  | stored {choice : RegistryChoice} {type : Nat} {found : Reflected}
      (asks : session.asked? operation = some (choice, type))
      (missing : (session.registry choice).find? type = none)
      (derived : session.derived type = .ok found.map)
      (registry : next.registry = Function.update session.registry choice
        ⟨(session.registry choice).entries ++ [(type, found)]⟩)
      (advances : Advances session next (session.callsFor choice type) (session.passes choice))

/-- The session at the start of a request, when nothing has been logged yet. -/
def quiet (session : Session) : Session := { session with emission := {} }

variable {session next : Session} {choice : RegistryChoice} {type : Nat} {operation : Operation}

theorem exists_subject_of_asked {outcome : Except Fault Subject} {pair asked : RegistryChoice × Nat}
    (asks : (outcome.toOption.map fun _ => pair) = some asked) :
    (∃ subject, outcome = .ok subject) ∧ pair = asked := by
  cases outcome with
  | error fault => cases asks
  | ok subject =>
      cases asks
      exact ⟨⟨subject, rfl⟩, rfl⟩

theorem message_behind_of_subject {values : List Value} {subject : Subject}
    (isSubject : Session.subject (session.classifier type) values = .ok subject)
    (choice : RegistryChoice) :
    (session.message choice type values).2 = (session.lookUp choice type).2 := by
  rw [message, isSubject]

/-- Asking for a message of what cannot be built changes nothing. -/
theorem message_behind_of_not_asked {values : List Value}
    (noLookUp : session.asked? (.message choice type values) = none) :
    (session.message choice type values).2 = session := by
  rw [asked?] at noLookUp
  rw [message]
  split
  · rfl
  · next isSubject =>
      rw [isSubject] at noLookUp
      cases noLookUp

theorem marshalRecord_behind (session : Session) (choice : RegistryChoice) (type : Nat)
    (values : List Value) (allowLongNames : Option Bool) :
    (session.answer (.marshalRecord choice type values allowLongNames)).2 =
      (session.message choice type values).2 := rfl

theorem registry?_of_asked? (asks : session.asked? operation = some (choice, type)) :
    operation.registry? = some choice := by
  cases operation with
  | message _ _ _ =>
      cases (exists_subject_of_asked asks).2
      rfl
  | request request =>
      cases request with
      | marshalRecord _ _ _ _ =>
          cases (exists_subject_of_asked asks).2
          rfl
      | fieldMap _ _ | register _ _ =>
          cases asks
          rfl
      | _ => cases asks

theorem step_behind (session : Session) (request : Request) :
    (session.step request).2 = (session.quiet.answer request).2 := rfl

theorem answer_behind (session : Session) (request : Request) :
    (session.step request).1.1 = (session.quiet.answer request).1 := rfl

/-- The state behind an operation that looks a type up is that behind the look-up, but for what
has been logged before and the serial numbers that are known. -/
theorem exists_perform_of_lookUp (asks : session.asked? operation = some (choice, type)) :
    ∃ emission known, session.perform operation =
      { (lookUp choice type { session with emission }).2 with known } := by
  cases operation with
  | message _ _ values =>
      rcases exists_subject_of_asked asks with ⟨⟨subject, isSubject⟩, ⟨⟩⟩
      exact ⟨session.emission, _, message_behind_of_subject isSubject choice⟩
  | request request =>
      refine ⟨{}, ?_⟩
      rw [perform, step_behind]
      cases request with
      | marshalRecord _ _ values allowLongNames =>
          rcases exists_subject_of_asked asks with ⟨⟨subject, isSubject⟩, ⟨⟩⟩
          exact ⟨_, @message_behind_of_subject session.quiet type values subject isSubject choice⟩
      | register _ _ =>
          cases asks
          exact ⟨_, rfl⟩
      | fieldMap _ _ =>
          cases asks
          rw [answer]
          change ∃ known, _ = { (session.quiet.lookUp choice type).2 with known }
          rcases session.quiet.lookUp choice type with ⟨fault | found, behind⟩
          · exact ⟨behind.known, rfl⟩
          · exact exists_noteSerial behind found.serial
      | _ => cases asks

/-- What an operation can change if it neither looks a type up nor clears a registry. -/
theorem exists_perform_of_idle (noLookUp : session.asked? operation = none)
    (noClear : ∀ choice, operation ≠ .clear choice) :
    ∃ process renderers streams emission, session.perform operation =
      { session with process, renderers, streams, emission } := by
  cases operation with
  | message _ _ _ => exact ⟨_, _, _, _, message_behind_of_not_asked noLookUp⟩
  | request request =>
      rw [perform]
      cases request with
      | marshalRecord choice type values _ =>
          have unchanged : (session.quiet.message choice type values).2 = session.quiet :=
            message_behind_of_not_asked noLookUp
          rw [step_behind, marshalRecord_behind, unchanged]
          exact ⟨_, _, _, _, rfl⟩
      | register _ _ => cases noLookUp
      | fieldMap _ _ => cases noLookUp
      | clear choice => exact absurd rfl (noClear choice)
      | buildRenderer name options =>
          rw [step_behind, answer]
          split <;> exact ⟨_, _, _, _, rfl⟩
      | render name method event =>
          rw [step_behind, answer]
          split <;> exact ⟨_, _, _, _, rfl⟩
      | logStructured entry =>
          rw [step_behind, answer, logStructured]
          split
          · exact ⟨_, _, _, _, rfl⟩
          · dsimp only
            split <;> exact ⟨_, _, _, _, rfl⟩
      | _ => exact ⟨_, _, _, _, rfl⟩

/-- An operation does one of these things to the registries. -/
theorem steps (session : Session) (operation : Operation) :
    Steps session operation (session.perform operation) := by
  cases asks : session.asked? operation with
  | some pair =>
      rcases pair with ⟨choice, type⟩
      rcases exists_perform_of_lookUp asks with ⟨emission, known, behind⟩
      rw [behind]
      have looked := looksUp choice type { session with emission }
      generalize lookUp choice type { session with emission } = outcome at looked
      rcases outcome with ⟨_, next⟩
      cases looked with
      | kept found =>
          exact .kept asks found rfl ⟨rfl, rfl, rfl, (List.append_nil _).symm, rfl⟩
      | refused missing refused registry _ advances =>
          exact .refused asks missing refused registry { advances with }
      | stored missing derived registry _ advances =>
          exact .stored asks missing derived registry { advances with }
  | none =>
      by_cases clears : ∃ choice, operation = .clear choice
      · rcases clears with ⟨choice, rfl⟩
        have behind :
            session.perform (.clear choice) = session.quiet.withRegistry choice .empty := by
          cases choice <;> rfl
        have advances : Advances session session.quiet [] 0 :=
          ⟨rfl, rfl, rfl, (List.append_nil _).symm, rfl⟩
        rw [behind]
        exact .cleared rfl (registry_withRegistry choice .empty session.quiet)
          (advances.withRegistry choice .empty)
      · have noClear := not_exists.mp clears
        rcases exists_perform_of_idle asks noClear with
          ⟨process, renderers, streams, emission, same⟩
        rw [same]
        exact .idle asks noClear rfl ⟨rfl, rfl, rfl, (List.append_nil _).symm, rfl⟩

/-- An operation that looks a type up does what the look-up does. -/
theorem Steps.asked_cases (steps : Steps session operation next)
    (asks : session.asked? operation = some (choice, type)) :
    (∃ found, (session.registry choice).find? type = some found ∧
      next.registry = session.registry ∧ Advances session next [] 0) ∨
    (session.registry choice).find? type = none ∧
      ((∃ fault, session.derived type = .error fault ∧ next.registry = session.registry ∧
        Advances session next (session.callsFor choice type) 0) ∨
      ∃ found, session.derived type = .ok found.map ∧
        next.registry = Function.update session.registry choice
          ⟨(session.registry choice).entries ++ [(type, found)]⟩ ∧
        Advances session next (session.callsFor choice type) (session.passes choice)) := by
  cases steps with
  | idle noLookUp _ _ _ =>
      rw [noLookUp] at asks
      cases asks
  | cleared clears _ _ =>
      rw [clears, asked?_clear] at asks
      cases asks
  | kept asked known registry advances =>
      cases asks.symm.trans asked
      exact Or.inl ⟨_, known, registry, advances⟩
  | refused asked missing refused registry advances =>
      cases asks.symm.trans asked
      exact Or.inr ⟨missing, Or.inl ⟨_, refused, registry, advances⟩⟩
  | stored asked missing derived registry advances =>
      cases asks.symm.trans asked
      exact Or.inr ⟨missing, Or.inr ⟨_, derived, registry, advances⟩⟩

/-! ## What is answered -/

/-- That whatever a registry keeps for a type is the field map of that type. -/
def IsSound (session : Session) : Prop :=
  ∀ choice type found, (session.registry choice).find? type = some found →
    session.derived type = .ok found.map

/-- The message of a record of a type, whatever the registries keep. -/
def composed (session : Session) (type : Nat) (values : List Value) : Except Fault Message := do
  let subject ← subject (session.classifier type) values
  let map ← session.derived type
  subject.toMessage session.origin map

/-- A look-up gives what reflection gives, a fault included. -/
theorem map_lookUp (sound : session.IsSound) (choice : RegistryChoice) (type : Nat) :
    (session.lookUp choice type).1.map Reflected.map = session.derived type := by
  have looked := looksUp choice type session
  generalize session.lookUp choice type = outcome at looked
  rcases outcome with ⟨_, next⟩
  cases looked with
  | kept known => exact (sound choice type _ known).symm
  | refused _ refused => exact refused.symm
  | stored _ derived => exact derived.symm

theorem Advances.classifier {calls : List Nat} {serials : Nat}
    (advances : Advances session next calls serials) : next.classifier = session.classifier := by
  funext type
  rw [Session.classifier, advances.types]
  rfl

theorem Advances.derived {calls : List Nat} {serials : Nat}
    (advances : Advances session next calls serials) : next.derived = session.derived := by
  funext type
  rw [Session.derived, advances.classifier, advances.origin]
  rfl

/-- A look-up changes nothing that a message is made from. -/
theorem lookUp_leaves (session : Session) (choice : RegistryChoice) (type : Nat) :
    let next := (session.lookUp choice type).2
    next.origin = session.origin ∧ next.classifier = session.classifier ∧
      next.process = session.process := by
  have looked := looksUp choice type session
  generalize session.lookUp choice type = outcome at looked
  rcases outcome with ⟨_, next⟩
  cases looked with
  | kept _ => exact ⟨rfl, rfl, rfl⟩
  | refused _ _ _ process advances => exact ⟨advances.origin, advances.classifier, process⟩
  | stored _ _ _ process advances => exact ⟨advances.origin, advances.classifier, process⟩

theorem message_eq_composed (sound : session.IsSound) (choice : RegistryChoice) (type : Nat)
    (values : List Value) :
    (session.message choice type values).1 = session.composed type values := by
  rw [message, composed]
  cases subject (session.classifier type) values with
  | error fault => rfl
  | ok subject =>
      rw [ok_bind, ← map_lookUp sound choice type,
        ← (lookUp_leaves session choice type).1]
      rcases session.lookUp choice type with ⟨fault | found, behind⟩ <;> rfl

/-- Asking for a message changes nothing but the registries. -/
theorem process_message (session : Session) (choice : RegistryChoice) (type : Nat)
    (values : List Value) :
    (session.message choice type values).2.process = session.process := by
  rw [message]
  split
  · rfl
  · exact (lookUp_leaves session choice type).2.2

theorem step_fieldMap (sound : session.IsSound) (choice : RegistryChoice) (type : Nat) :
    (session.step (.fieldMap choice type)).1.1.map Answer.fieldMap? =
      (session.derived type).map some := by
  have found : (session.quiet.lookUp choice type).1.map Reflected.map = session.derived type :=
    @map_lookUp session.quiet sound choice type
  rw [← found, answer_behind, answer]
  rcases session.quiet.lookUp choice type with ⟨fault | found, behind⟩ <;> rfl

theorem step_register (sound : session.IsSound) (choice : RegistryChoice) (type : Nat) :
    (session.step (.register choice type)).1.1 =
      (session.derived type).map fun _ => .truth true := by
  have found : (session.quiet.lookUp choice type).1.map Reflected.map = session.derived type :=
    @map_lookUp session.quiet sound choice type
  rw [← found, answer_behind, answer]
  rcases session.quiet.lookUp choice type with ⟨fault | found, behind⟩ <;> rfl

theorem step_marshalRecord (sound : session.IsSound) (choice : RegistryChoice) (type : Nat)
    (values : List Value) (allowLongNames : Option Bool) :
    (session.step (.marshalRecord choice type values allowLongNames)).1.1 =
      (session.composed type values >>= fun message =>
        ((message.marshal (session.process.settings.longNames allowLongNames)).mapError
          Fault.invalid).map .octets) := by
  have composed : (session.quiet.message choice type values).1 = session.composed type values :=
    @message_eq_composed session.quiet sound choice type values
  have process : (session.quiet.message choice type values).2.process = session.process :=
    process_message session.quiet choice type values
  rw [← composed, ← process, answer_behind, answer, marshalRecord]
  rcases session.quiet.message choice type values with ⟨fault | message, behind⟩
  · rfl
  · have asMap : ∀ outcome : Except Fault Bytes,
        (outcome >>= fun octets => Except.ok (Answer.octets octets)) = outcome.map .octets := by
      intro outcome
      cases outcome <;> rfl
    exact asMap _

end Session

end Syslog
