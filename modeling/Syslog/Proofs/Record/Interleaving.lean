import Mathlib.Logic.Function.Basic
import Syslog.Record.Registry

namespace Syslog

/-!
# Look-ups that run at the same time

A look-up touches the registry at two points: it looks the key up, and if nothing is kept it
offers what it has derived.  Between the two points anything can happen.  Other threads look
keys up, the derivation itself looks keys up, the same one included, and the registry may be
cleared.

Here each of these is a move of its own, and a run is any sequence of moves.  The objects are
left open, so that two of them may differ although their contents are the same.  What holds of
every run follows from what one move does to the registry (`Registry.act_cases`): it leaves it
alone, or it makes an offer, or it clears it.
-/

namespace Registry

/-- How far a look-up has come: it is about to look, busy with its derivation, or about to offer
what it has derived. -/
inductive Stage (α : Type)
  | looking
  | busy
  | offering (derived : α)
deriving DecidableEq

structure Call (κ α : Type) where
  key : κ
  stage : Stage α
deriving DecidableEq

/-- What a thread can do: start a look-up, take the next step of the innermost one, or have its
derivation come to an end. -/
inductive Action (κ α : Type)
  | call (key : κ)
  | look
  | derive (value : α)
  | fail
  | offer

/-- What a look-up gives back. -/
structure Answer (κ α : Type) where
  key : κ
  value : α
deriving DecidableEq

/-- The registry and the look-ups of one thread, the innermost first, after an action; and the
answer, if the action was the last step of a look-up. -/
structure Outcome (κ α : Type) where
  answer? : Option (Answer κ α)
  registry : Registry κ α
  calls : List (Call κ α)

inductive Move (τ κ α : Type)
  | act (thread : τ) (action : Action κ α)
  | clear

/-- A registry, and for each thread the look-ups that it is in. -/
structure World (τ κ α : Type) where
  registry : Registry κ α
  calls : τ → List (Call κ α)

variable {τ κ α ε : Type} [DecidableEq τ] [DecidableEq κ]

/-- One action of a thread.  A look-up starts outside of any other, or while the innermost one is
busy; an action that does not fit changes nothing. -/
def act (registry : Registry κ α) : List (Call κ α) → Action κ α → Outcome κ α
  | [], .call key => ⟨none, registry, [⟨key, .looking⟩]⟩
  | ⟨outer, .busy⟩ :: rest, .call key =>
    ⟨none, registry, ⟨key, .looking⟩ :: ⟨outer, .busy⟩ :: rest⟩
  | ⟨key, .looking⟩ :: rest, .look =>
    match registry.find? key with
    | some kept => ⟨some ⟨key, kept⟩, registry, rest⟩
    | none => ⟨none, registry, ⟨key, .busy⟩ :: rest⟩
  | ⟨key, .busy⟩ :: rest, .derive value => ⟨none, registry, ⟨key, .offering value⟩ :: rest⟩
  | ⟨_, .busy⟩ :: rest, .fail => ⟨none, registry, rest⟩
  | ⟨key, .offering derived⟩ :: rest, .offer =>
    let (kept, registry) := registry.offer key derived
    ⟨some ⟨key, kept⟩, registry, rest⟩
  | calls, _ => ⟨none, registry, calls⟩

/-- An action leaves the registry alone, and an answer is then what the registry keeps, or it
offers something, and the answer is what the offer gives back. -/
theorem act_cases (registry : Registry κ α) (calls : List (Call κ α)) (action : Action κ α) :
    ((registry.act calls action).registry = registry ∧
      ∀ answer, (registry.act calls action).answer? = some answer →
        registry.find? answer.key = some answer.value) ∨
    ∃ key derived, (registry.act calls action).registry = (registry.offer key derived).2 ∧
      (registry.act calls action).answer? = some ⟨key, (registry.offer key derived).1⟩ := by
  have quiet : ∀ calls, (⟨none, registry, calls⟩ : Outcome κ α).registry = registry ∧
      ∀ answer, (⟨none, registry, calls⟩ : Outcome κ α).answer? = some answer →
        registry.find? answer.key = some answer.value :=
    fun _ => ⟨rfl, fun _ impossible => nomatch impossible⟩
  cases calls with
  | nil => cases action <;> exact Or.inl (quiet _)
  | cons call rest =>
      rcases call with ⟨key, stage⟩
      cases stage with
      | looking =>
          cases action with
          | look =>
              rw [act]
              cases found : registry.find? key with
              | none => exact Or.inl (quiet _)
              | some kept =>
                  refine Or.inl ⟨rfl, ?_⟩
                  intro answer same
                  cases same
                  exact found
          | _ => exact Or.inl (quiet _)
      | busy => cases action <;> exact Or.inl (quiet _)
      | offering derived =>
          cases action with
          | offer => exact Or.inr ⟨key, derived, rfl, rfl⟩
          | _ => exact Or.inl (quiet _)

/-- A look-up that is over has been given an answer, unless its derivation failed. -/
theorem act_ends {registry : Registry κ α} {call : Call κ α} {rest : List (Call κ α)}
    {action : Action κ α} (ends : (registry.act (call :: rest) action).calls = rest) :
    action = .fail ∨
      ∃ kept, (registry.act (call :: rest) action).answer? = some ⟨call.key, kept⟩ := by
  rcases call with ⟨key, stage⟩
  cases stage with
  | looking =>
      cases action with
      | look =>
          rw [act] at ends ⊢
          cases found : registry.find? key with
          | some kept => exact Or.inr ⟨kept, rfl⟩
          | none =>
              rw [found] at ends
              exact absurd ends (List.cons_ne_self _ _)
      | _ => exact absurd ends (List.cons_ne_self _ _)
  | busy =>
      cases action with
      | call inner =>
          have longer : [⟨inner, .looking⟩, ⟨key, .busy⟩] ++ rest = rest := ends
          exact absurd (List.append_left_eq_self.mp longer) (List.cons_ne_nil _ _)
      | fail => exact Or.inl rfl
      | _ => exact absurd ends (List.cons_ne_self _ _)
  | offering derived =>
      cases action with
      | offer => exact Or.inr ⟨_, rfl⟩
      | _ => exact absurd ends (List.cons_ne_self _ _)

namespace World

/-- One move; the answer is that of a look-up whose last step the move is. -/
def step (world : World τ κ α) : Move τ κ α → Option (Answer κ α) × World τ κ α
  | .act thread action =>
    let outcome := world.registry.act (world.calls thread) action
    (outcome.answer?, ⟨outcome.registry, Function.update world.calls thread outcome.calls⟩)
  | .clear => (none, { world with registry := world.registry.clear })

/-- The answer that a move gives, if it is the last step of a look-up. -/
def answer? (world : World τ κ α) (move : Move τ κ α) : Option (Answer κ α) := (world.step move).1

/-- The world after a sequence of moves. -/
def run (world : World τ κ α) (moves : List (Move τ κ α)) : World τ κ α :=
  moves.foldl (fun world move => (world.step move).2) world

variable {world : World τ κ α}

theorem run_cons (move : Move τ κ α) (moves : List (Move τ κ α)) :
    world.run (move :: moves) = (world.step move).2.run moves := rfl

theorem run_append (before moves : List (Move τ κ α)) :
    world.run (before ++ moves) = (world.run before).run moves := List.foldl_append

/-! ## One move -/

/-- What is kept stays, unless the registry is cleared. -/
theorem find?_step_of_kept {move : Move τ κ α} (noClear : move ≠ .clear) {key : κ} {kept : α}
    (found : world.registry.find? key = some kept) :
    (world.step move).2.registry.find? key = some kept := by
  cases move with
  | clear => exact absurd rfl noClear
  | act thread action =>
      rcases world.registry.act_cases (world.calls thread) action with
        ⟨same, _⟩ | ⟨offered, derived, same, _⟩
      · rw [step, same]
        exact found
      · rw [step, same]
        exact find?_offer_of_kept found offered derived

/-- What a look-up answers is kept when its last step has been taken. -/
theorem find?_of_answer {move : Move τ κ α} {answer : Answer κ α}
    (answers : world.answer? move = some answer) :
    (world.step move).2.registry.find? answer.key = some answer.value := by
  cases move with
  | clear => cases answers
  | act thread action =>
      rcases world.registry.act_cases (world.calls thread) action with
        ⟨same, kept⟩ | ⟨offered, derived, same, given⟩
      · rw [step, same]
        exact kept answer answers
      · rw [answer?, step, given] at answers
        cases answers
        rw [step, same]
        exact world.registry.find?_offer_self offered derived

/-! ## Runs -/

/-- What is kept stays through a run without a clear. -/
theorem find?_run_of_kept {moves : List (Move τ κ α)} (noClear : Move.clear ∉ moves) {key : κ}
    {kept : α} (found : world.registry.find? key = some kept) :
    (world.run moves).registry.find? key = some kept := by
  induction moves generalizing world with
  | nil => exact found
  | cons move moves inductionHypothesis =>
      rw [List.mem_cons, not_or] at noClear
      rw [run_cons]
      exact inductionHypothesis noClear.2 (find?_step_of_kept (Ne.symm noClear.1) found)

theorem ne_clear_of_answer {move : Move τ κ α} {answer : Answer κ α}
    (answers : world.answer? move = some answer) : move ≠ .clear := by
  rintro rfl
  cases answers

/-- The innermost look-up of a thread that ends without a failure has been given what is kept
for its key. -/
theorem answer?_of_ends {thread : τ} {action : Action κ α} {call : Call κ α}
    {rest : List (Call κ α)} (innermost : world.calls thread = call :: rest)
    (ends : (world.step (.act thread action)).2.calls thread = rest) (noFailure : action ≠ .fail) :
    ∃ kept, world.answer? (.act thread action) = some ⟨call.key, kept⟩ ∧
      (world.step (.act thread action)).2.registry.find? call.key = some kept := by
  simp only [step, Function.update_self, innermost] at ends
  rcases act_ends ends with failure | ⟨kept, given⟩
  · exact absurd failure noFailure
  · have answers : world.answer? (.act thread action) = some ⟨call.key, kept⟩ := by
      rw [answer?, step, innermost]
      exact given
    exact ⟨kept, answers, find?_of_answer answers⟩

/-- However the moves are interleaved, what is kept for a key is not replaced before the next
clear; a look-up that ends is given what is kept for its key at its last step; and two answers
for one key are the same if there is no clear between the moves that gave them. -/
theorem look_ups_agree (start : World τ κ α) :
    (∀ before moves, Move.clear ∉ moves → ∀ key kept,
      (start.run before).registry.find? key = some kept →
        (start.run (before ++ moves)).registry.find? key = some kept) ∧
    (∀ before thread action call rest, (start.run before).calls thread = call :: rest →
      (start.run (before ++ [.act thread action])).calls thread = rest → action ≠ .fail →
        ∃ kept, (start.run before).answer? (.act thread action) = some ⟨call.key, kept⟩ ∧
          (start.run (before ++ [.act thread action])).registry.find? call.key = some kept) ∧
    ∀ before first between second one other, Move.clear ∉ between →
      (start.run before).answer? first = some one →
        (start.run (before ++ first :: between)).answer? second = some other →
          one.key = other.key → one.value = other.value := by
  refine ⟨?_, ?_, ?_⟩
  · intro before moves noClear key kept found
    rw [run_append]
    exact find?_run_of_kept noClear found
  · intro before thread action call rest innermost ends noFailure
    rw [run_append] at ends ⊢
    exact answer?_of_ends innermost ends noFailure
  · intro before first between second one other noClear answersOne answersOther sameKey
    have keptOne := find?_run_of_kept noClear (find?_of_answer answersOne)
    rw [run_append, run_cons] at answersOther
    have keptOther := find?_of_answer answersOther
    have stillOne := find?_step_of_kept (ne_clear_of_answer answersOther) keptOne
    rw [sameKey, keptOther] at stillOne
    exact (Option.some.inj stillOne).symm

/-- Two threads look up one key, and both derive an object of their own for it.  While the
second is busy, its derivation looks the same key up and is the first to store anything. -/
def contendedLookUps : List (Move Nat Nat Nat) :=
  [.act 0 (.call 7), .act 1 (.call 7), .act 0 .look, .act 1 .look, .act 0 (.derive 100),
    .act 1 (.call 7), .act 1 .look, .act 1 (.derive 101), .act 1 .offer, .act 1 (.derive 102)]

/-- Both threads are given the object of the nested look-up, which the registry keeps. -/
theorem look_ups_agree_of_contended :
    let start : World Nat Nat Nat := ⟨empty, fun _ => []⟩
    let afterFirst := start.run (contendedLookUps ++ [.act 0 .offer])
    afterFirst.registry.find? 7 = some 101 ∧
    (∃ kept, (start.run contendedLookUps).answer? (.act 0 .offer) = some ⟨7, kept⟩ ∧
      afterFirst.registry.find? 7 = some kept) ∧
    ∃ one other, (start.run contendedLookUps).answer? (.act 0 .offer) = some one ∧
      afterFirst.answer? (.act 1 .offer) = some other ∧ one.value = other.value := by
  intro start afterFirst
  have stored : (start.run contendedLookUps).registry.find? 7 = some 101 := by decide +kernel
  have waiting : (start.run contendedLookUps).calls 0 = [⟨7, .offering 100⟩] := by decide +kernel
  have ends : afterFirst.calls 0 = [] := by decide +kernel
  have one : (start.run contendedLookUps).answer? (.act 0 .offer) = some ⟨7, 101⟩ := by
    decide +kernel
  have other : afterFirst.answer? (.act 1 .offer) = some ⟨7, 101⟩ := by decide +kernel
  refine ⟨?_, ?_, ⟨7, 101⟩, ⟨7, 101⟩, one, other, ?_⟩
  · exact (look_ups_agree start).1 contendedLookUps [.act 0 .offer] (by simp) 7 101 stored
  · exact (look_ups_agree start).2.1 contendedLookUps 0 .offer _ _ waiting ends (by simp)
  · exact (look_ups_agree start).2.2 contendedLookUps (.act 0 .offer) [] (.act 1 .offer) _ _
      List.not_mem_nil one other rfl

/-! ## A look-up that nothing disturbs -/

/-- The world in which one thread is in the given look-ups. -/
def withCalls (registry : Registry κ α) (others : τ → List (Call κ α)) (thread : τ)
    (calls : List (Call κ α)) : World τ κ α :=
  ⟨registry, Function.update others thread calls⟩

theorem step_withCalls (registry : Registry κ α) (others : τ → List (Call κ α)) (thread : τ)
    (calls : List (Call κ α)) (action : Action κ α) :
    (withCalls registry others thread calls).step (.act thread action) =
      ((registry.act calls action).answer?,
        withCalls (registry.act calls action).registry others thread
          (registry.act calls action).calls) := by
  simp only [step, withCalls, Function.update_self, Function.update_idem]

/-- Whether a look-up can start: outside of any other, or while the innermost one is busy. -/
def Ready (calls : List (Call κ α)) : Prop := ∀ call ∈ calls.head?, call.stage = .busy

theorem act_call {registry : Registry κ α} {calls : List (Call κ α)} (ready : Ready calls)
    (key : κ) : registry.act calls (.call key) = ⟨none, registry, ⟨key, .looking⟩ :: calls⟩ := by
  cases calls with
  | nil => rfl
  | cons call rest =>
      rcases call with ⟨outer, stage⟩
      cases ready _ rfl
      rfl

/-- A look-up that is computed in one go is the run in which no other thread makes a move.  What
its computation does to the registry is left to the moves of the look-ups nested in it. -/
theorem exists_run_lookUp (compute : κ → Registry κ α → Except ε α × Registry κ α)
    {registry : Registry κ α} {others : τ → List (Call κ α)} {thread : τ}
    {calls : List (Call κ α)} {key : κ} (ready : Ready calls) {nested : List (Move τ κ α)}
    (runs : (withCalls registry others thread (⟨key, .busy⟩ :: calls)).run nested =
      withCalls (compute key registry).2 others thread (⟨key, .busy⟩ :: calls)) :
    let start := withCalls registry others thread calls
    let found := lookUp id (fun registry _ => registry) compute key registry
    ∃ before last, start.run (before ++ [last]) = withCalls found.2 others thread calls ∧
      ∀ kept, found.1 = .ok kept → (start.run before).answer? last = some ⟨key, kept⟩ := by
  intro start found
  have called : start.run [.act thread (.call key)] =
      withCalls registry others thread (⟨key, .looking⟩ :: calls) := by
    rw [run_cons, step_withCalls, act_call ready]
    rfl
  cases present : registry.find? key with
  | some kept =>
      have looked : registry.act (⟨key, .looking⟩ :: calls) .look =
          ⟨some ⟨key, kept⟩, registry, calls⟩ := by
        simp only [act, present]
      have foundKept : found = (.ok kept, registry) := by
        simp only [found, lookUp, id, present]
      refine ⟨[.act thread (.call key)], .act thread .look, ?_, ?_⟩
      · rw [run_append, called, run_cons, step_withCalls, looked, foundKept]
        rfl
      · rw [called, answer?, step_withCalls, looked, foundKept]
        intro given same
        cases same
        rfl
  | none =>
      have looked : registry.act (⟨key, .looking⟩ :: calls) .look =
          ⟨none, registry, ⟨key, .busy⟩ :: calls⟩ := by
        simp only [act, present]
      have reached : ∃ before, start.run before =
          withCalls (compute key registry).2 others thread (⟨key, .busy⟩ :: calls) := by
        refine ⟨[.act thread (.call key)] ++ ([.act thread .look] ++ nested), ?_⟩
        rw [run_append, called, run_append, ← runs]
        apply congrArg (run · nested)
        rw [run_cons, step_withCalls, looked]
        rfl
      rcases reached with ⟨before, reached⟩
      rcases computed : compute key registry with ⟨outcome, later⟩
      rw [computed] at reached
      cases outcome with
      | error fault =>
          have foundNone : found = (.error fault, later) := by
            simp only [found, lookUp, id, present, computed]
          refine ⟨before, .act thread .fail, ?_, ?_⟩
          · rw [run_append, reached, run_cons, step_withCalls, foundNone]
            rfl
          · intro kept impossible
            rw [foundNone] at impossible
            cases impossible
      | ok value =>
          have foundOffered :
              found = (.ok (later.offer key value).1, (later.offer key value).2) := by
            simp only [found, lookUp, id, present, computed]
          have offering : start.run (before ++ [.act thread (.derive value)]) =
              withCalls later others thread (⟨key, .offering value⟩ :: calls) := by
            rw [run_append, reached, run_cons, step_withCalls]
            rfl
          refine ⟨before ++ [.act thread (.derive value)], .act thread .offer, ?_, ?_⟩
          · rw [run_append, offering, run_cons, step_withCalls, foundOffered]
            rfl
          · rw [offering, answer?, step_withCalls, foundOffered]
            intro kept same
            cases same
            rfl

end World

end Registry

end Syslog
