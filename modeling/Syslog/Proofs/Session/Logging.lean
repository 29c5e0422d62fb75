import Syslog.Proofs.Logging.Configured
import Syslog.Proofs.Session.Caching

namespace Syslog

/-!
# What one operation does to the logging of its process

Only the two calls that set logging up change its handlers, its pipeline or the level of a logger.
Of all other operations some change the settings, and some create the logger that an entry goes
to (`Session.reaches`).
-/

/-- The call that an operation makes if it sets logging up; a stream of its own comes with it. -/
inductive Operation.Calls : Operation → SetUpCall → Prop
  | configure {options : LoggingOptions} {toStandardOutput : Bool} {sink : Sink} :
      Calls (.request (.configureLogging options toStandardOutput))
        (.configure { options with sink })
  | setUp {environment : Environment} {options : SetupOptions} :
      Calls (.request (.setUpLogging environment options)) (.setUp environment options)

namespace Session

/-- The processes that an operation can lead to. -/
inductive Reaches (session : Session) (operation : Operation) : Process → Prop
  | settings (settings : Settings) : Reaches session operation { session.process with settings }
  | opened (logger : Text) : Reaches session operation (session.process.openPlain logger)
  | called {call : SetUpCall} (calls : operation.Calls call) :
      Reaches session operation (call.perform session.origin.identity session.process).2

variable {session : Session} {operation : Operation}

theorem Reaches.same : Reaches session operation session.process :=
  .settings session.process.settings

theorem process_perform_of_lookUp {choice : RegistryChoice} {type : Nat}
    (asks : session.asked? operation = some (choice, type)) :
    (session.perform operation).process = session.process := by
  rcases exists_perform_of_lookUp asks with ⟨emission, known, same⟩
  rw [same]
  exact (lookUp_leaves { session with emission } choice type).2.2

/-- The logger of a structured entry is created as soon as logging has been configured. -/
theorem Reaches.openStructured (logger : Text) :
    Reaches session operation (session.process.openStructured logger) := by
  rw [Process.openStructured]
  split
  · exact .opened logger
  · exact .same

theorem reaches (session : Session) (operation : Operation) :
    Reaches session operation (session.perform operation).process := by
  cases asks : session.asked? operation with
  | some pair =>
      rw [process_perform_of_lookUp asks]
      exact .same
  | none =>
      cases operation with
      | message choice type values =>
          rw [perform, process_message]
          exact .same
      | request request =>
          rw [perform, step_behind]
          cases request with
          | marshalRecord choice type values allowLongNames =>
              rw [marshalRecord_behind, process_message]
              exact .same
          | fieldMap _ _ | register _ _ => cases asks
          | configure _ | reset => exact .settings _
          | configureLogging options toStandardOutput =>
              have calls : ∀ sink, Operation.Calls
                  (.request (.configureLogging options toStandardOutput))
                  (.configure { options with sink }) := fun _ => .configure
              rw [answer, configureLogging]
              split
              exact .called (calls _)
          | setUpLogging environment options => exact .called .setUp
          | logPlain entry => exact .opened entry.logger
          | logStructured entry =>
              rw [answer, logStructured]
              split
              · exact .same
              · dsimp only
                split
                · exact .openStructured entry.logger
                · exact .openStructured entry.logger
          | clear choice =>
              cases choice <;> exact .same
          | buildRenderer _ _ | render _ _ _ =>
              rw [answer]
              split <;> exact .same
          | _ => exact .same

/-- The sink of the handler that a call adds which configures logging. -/
def sinkFor (session : Session) (toStandardOutput : Bool) : Sink :=
  if toStandardOutput then .standardOutput else .stream session.streams

theorem step_configureLogging (session : Session) (options : LoggingOptions)
    (toStandardOutput : Bool) :
    let result := session.process.configure session.origin.identity
      { options with sink := session.sinkFor toStandardOutput }
    (session.step (.configureLogging options toStandardOutput)).1.1 =
        result.1.map (fun () => .state result.2.visibleState) ∧
      (session.step (.configureLogging options toStandardOutput)).2.process = result.2 := by
  cases toStandardOutput <;> exact ⟨rfl, rfl⟩

theorem outlasting_place (origin : Origin) (streams : Nat) :
    Outlasting fun session => session.origin = origin ∧ session.streams = streams where
  reflect session type place := by
    rw [reflect]
    split <;> exact place
  note _ _ _ _ _ place := place

/-- Time and place stay what they are, and there is no new stream unless an operation asks for
one. -/
theorem place_perform (session : Session) (operation : Operation) :
    (session.perform operation).origin = session.origin ∧
      ((session.perform operation).streams = session.streams ∨
        ∃ options, operation = .request (.configureLogging options false) ∧
          (session.perform operation).streams = session.streams + 1) := by
  have looked : ∀ (next : Session) choice type, next.origin = session.origin ∧
      next.streams = session.streams → (next.lookUp choice type).2.origin = session.origin ∧
        (next.lookUp choice type).2.streams = session.streams :=
    fun next choice type => (outlasting_place session.origin session.streams).lookUp choice type
  have same : ∀ next : Session, next.origin = session.origin ∧ next.streams = session.streams →
      next.origin = session.origin ∧ (next.streams = session.streams ∨
        ∃ options, operation = .request (.configureLogging options false) ∧
          next.streams = session.streams + 1) :=
    fun next place => ⟨place.1, Or.inl place.2⟩
  cases asks : session.asked? operation with
  | some pair =>
      rcases exists_perform_of_lookUp asks with ⟨emission, known, performed⟩
      rw [performed]
      exact same _ (looked { session with emission } pair.1 pair.2 ⟨rfl, rfl⟩)
  | none =>
      cases operation with
      | message _ _ _ =>
          rw [perform, message_behind_of_not_asked asks]
          exact same session ⟨rfl, rfl⟩
      | request request =>
          rw [perform, step_behind]
          cases request with
          | marshalRecord choice type values allowLongNames =>
              have unchanged : (session.quiet.message choice type values).2 = session.quiet :=
                message_behind_of_not_asked asks
              rw [marshalRecord_behind, unchanged]
              exact same session.quiet ⟨rfl, rfl⟩
          | fieldMap _ _ | register _ _ => cases asks
          | configureLogging options toStandardOutput =>
              cases toStandardOutput
              · exact ⟨rfl, Or.inr ⟨options, rfl, rfl⟩⟩
              · exact same _ ⟨rfl, rfl⟩
          | logStructured entry =>
              rw [answer, logStructured]
              split
              · exact same _ ⟨rfl, rfl⟩
              · dsimp only
                split <;> exact same _ ⟨rfl, rfl⟩
          | clear choice =>
              cases choice <;> exact same _ ⟨rfl, rfl⟩
          | buildRenderer _ _ | render _ _ _ =>
              rw [answer]
              split <;> exact same _ ⟨rfl, rfl⟩
          | _ => exact same _ ⟨rfl, rfl⟩

/-! ## What lasts -/

/-- That a property of a process depends neither on its settings nor on which loggers it has
created. -/
structure Lasting (Holds : Process → Prop) : Prop where
  settings : ∀ (process : Process) (settings : Settings),
    Holds process → Holds { process with settings }
  opened : ∀ (process : Process) (logger : Text), Holds process → Holds (process.openPlain logger)

variable {Holds : Process → Prop}

theorem lasts_perform (lasting : Lasting Holds) (holds : Holds session.process)
    (other : ∀ call, ¬operation.Calls call) : Holds (session.perform operation).process := by
  have reaches := session.reaches operation
  generalize (session.perform operation).process = next at reaches
  cases reaches with
  | settings settings => exact lasting.settings _ settings holds
  | opened logger => exact lasting.opened _ logger holds
  | called calls => exact absurd calls (other _)

theorem lasts_after (lasting : Lasting Holds) (holds : Holds session.process)
    {operations : List Operation}
    (others : ∀ operation ∈ operations, ∀ call, ¬operation.Calls call) :
    Holds (session.after operations).process := by
  induction operations generalizing session with
  | nil => exact holds
  | cons operation rest inductionHypothesis =>
      rcases List.forall_mem_cons.mp others with ⟨other, others⟩
      exact inductionHypothesis (lasts_perform lasting holds other) others

end Session

end Syslog
