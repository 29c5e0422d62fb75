import Syslog.Proofs.Session.Caching
import Syslog.Proofs.Session.Logging

namespace Syslog

/-!
# Where the level of a logger comes from

The level that counts for a logger is that of the root, unless the logger or one above it has a
level of its own.  The only such level there is in a process is that of warnings, and only
loggers have it that an application wanted to be quiet when it set logging up
(`Session.onlyQuiets_after`).
-/

namespace LoggerTree

/-- The logger of a name, or one above it. -/
inductive Over (tree : LoggerTree) : Option Text → Logger → Prop
  | self {name : Text} {logger : Logger} (found : tree.find? name = some logger) :
      Over tree (some name) logger
  | above {name : Text} {below logger : Logger} (found : tree.find? name = some below)
      (isOver : Over tree below.parent logger) : Over tree (some name) logger

/-- That a tree has no levels of loggers but those of quiet ones. -/
def OnlyQuiets (tree : LoggerTree) (quiet : Text → Prop) : Prop :=
  ∀ logger ∈ tree.loggers, logger.level = 0 ∨ logger.level = Level.warning ∧ quiet logger.name

variable {tree : LoggerTree} {quiet : Text → Prop}

theorem Over.mem {name : Option Text} {logger : Logger} (isOver : tree.Over name logger) :
    logger ∈ tree.loggers := by
  induction isOver with
  | self found => exact List.mem_of_find?_eq_some found
  | above _ _ inductionHypothesis => exact inductionHypothesis

/-- The level that counts is that of the root, or of the first logger on the way up that has one. -/
theorem levelFrom_cases (tree : LoggerTree) (fuel : Nat) (name : Option Text) :
    tree.levelFrom fuel name = tree.rootLevel ∨
      ∃ logger, tree.Over name logger ∧ logger.level ≠ 0 ∧
        tree.levelFrom fuel name = logger.level := by
  induction fuel generalizing name with
  | zero => cases name <;> exact Or.inl rfl
  | succ fuel inductionHypothesis =>
      cases name with
      | none => exact Or.inl rfl
      | some name =>
          rw [levelFrom]
          split
          · exact Or.inl rfl
          · next found logger isFound =>
              split
              · rcases inductionHypothesis logger.parent with isRoot | ⟨above, isOver, level⟩
                · exact Or.inl isRoot
                · exact Or.inr ⟨above, .above isFound isOver, level⟩
              · next own => exact Or.inr ⟨logger, .self isFound, own, rfl⟩

/-! ## Levels that are given -/

theorem OnlyQuiets.mono {more : Text → Prop} (only : tree.OnlyQuiets quiet)
    (weaker : ∀ name, quiet name → more name) : tree.OnlyQuiets more :=
  fun logger member => (only logger member).imp_right fun ⟨level, isQuiet⟩ =>
    ⟨level, weaker _ isQuiet⟩

theorem adopted_keeps (name : Text) (logger : Logger) :
    (Logger.adopted name logger).name = logger.name ∧
      (Logger.adopted name logger).level = logger.level := by
  rw [Logger.adopted]
  split <;> exact ⟨rfl, rfl⟩

theorem OnlyQuiets.create (only : tree.OnlyQuiets quiet) (name : Text) :
    (tree.create name).OnlyQuiets quiet := by
  rw [LoggerTree.create]
  split
  · exact only
  · intro logger member
    rcases List.mem_append.mp member with old | new
    · rcases List.mem_map.mp old with ⟨before, isBefore, rfl⟩
      split
      · rcases adopted_keeps name before with ⟨sameName, sameLevel⟩
        rw [sameName, sameLevel]
        exact only before isBefore
      · exact only before isBefore
    · cases List.mem_singleton.mp new
      exact Or.inl rfl

theorem OnlyQuiets.setLevel (only : tree.OnlyQuiets quiet) {name : Text} (isQuiet : quiet name) :
    (tree.setLevel name Level.warning).OnlyQuiets quiet := by
  rw [LoggerTree.setLevel]
  split
  · exact only
  · intro logger member
    rcases List.mem_map.mp member with ⟨before, isBefore, rfl⟩
    split
    · next same => exact Or.inr ⟨rfl, same ▸ isQuiet⟩
    · exact only.create name before isBefore

theorem OnlyQuiets.foldl_setLevel {names : List Text} (only : tree.OnlyQuiets quiet)
    (areQuiet : ∀ name ∈ names, quiet name) :
    (names.foldl (·.setLevel · Level.warning) tree).OnlyQuiets quiet := by
  induction names generalizing tree with
  | nil => exact only
  | cons name rest inductionHypothesis =>
      rcases List.forall_mem_cons.mp areQuiet with ⟨isQuiet, others⟩
      exact inductionHypothesis (only.setLevel isQuiet) others

/-! ## Loggers that are created -/

theorem contains_create (tree : LoggerTree) {name : Text} (below : isRoot name = false) :
    (tree.create name).contains name = true := by
  rw [create]
  split
  · next known => simpa only [below, Bool.false_or] using known
  · simp [contains, find?, List.find?_append]

/-- A logger that has been created is not created again. -/
theorem create_create (tree : LoggerTree) (name : Text) :
    (tree.create name).create name = tree.create name := by
  rw [create]
  split
  · rfl
  · next missing =>
      rw [Bool.or_eq_true, not_or, Bool.not_eq_true] at missing
      exact absurd (tree.contains_create missing.1) missing.2

end LoggerTree

/-- That an operation asks for a logger to be quiet. -/
def Operation.Quiets (operation : Operation) (name : Text) : Prop :=
  ∃ environment options, operation = .request (.setUpLogging environment options) ∧
    name ∈ options.quietLoggers

namespace Process

variable {process next : Process} {identity : Identity} {outcome : Except Fault Unit}
  {quiet : Text → Prop}

theorem Configures.onlyQuiets {options : LoggingOptions}
    (configures : process.Configures identity options outcome next)
    (only : process.loggers.OnlyQuiets quiet) : next.loggers.OnlyQuiets quiet := by
  cases configures <;> exact only

theorem SetsUp.onlyQuiets {environment : Environment} {options : SetupOptions}
    (setsUp : process.SetsUp identity environment options outcome next)
    (only : process.loggers.OnlyQuiets quiet)
    (areQuiet : ∀ name ∈ options.quietLoggers, quiet name) :
    next.loggers.OnlyQuiets quiet := by
  cases setsUp with
  | unknown _ => exact only
  | failed _ fails => exact fails.onlyQuiets only
  | completed _ configures _ => exact (configures.onlyQuiets only).foldl_setLevel areQuiet
  | fileless _ configures _ _ => exact (configures.onlyQuiets only).foldl_setLevel areQuiet
  | filed _ configures _ _ _ => exact (configures.onlyQuiets only).foldl_setLevel areQuiet

end Process

namespace Session

variable {start session : Session} {quiet : Text → Prop}

theorem onlyQuiets_perform (only : session.process.loggers.OnlyQuiets quiet)
    (operation : Operation) :
    (session.perform operation).process.loggers.OnlyQuiets
      fun name => quiet name ∨ operation.Quiets name := by
  have only := only.mono fun name (isQuiet : quiet name) =>
    (Or.inl isQuiet : quiet name ∨ operation.Quiets name)
  have reaches := session.reaches operation
  generalize (session.perform operation).process = next at reaches
  cases reaches with
  | settings _ => exact only
  | opened logger => exact only.create logger
  | called calls =>
      cases calls with
      | configure => exact (session.process.configures _ _).onlyQuiets only
      | setUp =>
          exact (session.process.setsUp _ _ _).onlyQuiets only fun name member =>
            Or.inr ⟨_, _, rfl, member⟩

/-- After operations, loggers have no levels but those of loggers that have been asked to be quiet;
the induction is on the last operation. -/
theorem onlyQuiets_after (fresh : ∀ logger ∈ start.process.loggers.loggers, logger.level = 0)
    (operations : List Operation) :
    (start.after operations).process.loggers.OnlyQuiets
      fun name => ∃ operation ∈ operations, operation.Quiets name := by
  induction operations using List.reverseRecOn with
  | nil => exact fun logger member => Or.inl (fresh logger member)
  | append_singleton operations operation inductionHypothesis =>
      rw [after_append_singleton]
      refine (onlyQuiets_perform inductionHypothesis operation).mono fun name isQuiet => ?_
      rcases isQuiet with ⟨earlier, member, quiets⟩ | quiets
      · exact ⟨earlier, List.mem_append_left _ member, quiets⟩
      · exact ⟨operation, List.mem_append_right _ List.mem_cons_self, quiets⟩

end Session

end Syslog
