import Aar.PublicRlm.Models

/-! What a public job is for: a bounded number of rounds, each opened, claimed and answered. -/

namespace Aar.PublicRlm

/-- Where the round that follows the committed steps stands. -/
inductive Stage where
  | pending
  | claimed
  | stopping
  | observed
  | succeeded
  | failed
  | cancelled
  | indeterminate
  deriving DecidableEq

/-- How far a job has come. -/
structure Progress where
  steps : Nat
  stage : Stage
  deriving DecidableEq

/-- The phase that shows a stage. -/
def Stage.phase : Stage → Phase
  | pending => .pendingModelCall
  | claimed => .awaitingCallerResult
  | stopping | observed => .cancelRequested
  | succeeded => .succeeded
  | failed => .failed
  | cancelled => .cancelled
  | indeterminate => .indeterminate

/-- The moves made since the last committed step. -/
def Stage.moves : Stage → Nat
  | pending | succeeded => 0
  | claimed | cancelled => 1
  | stopping | failed | indeterminate => 2
  | observed => 3

/-- The moves a job has made: two for each committed step, and those of its open round. -/
def Progress.revision (progress : Progress) : Nat := 2 * progress.steps + progress.stage.moves

/-- A job with a budget of rounds has committed all of them exactly when it succeeded. -/
def Progress.Within (budget : Nat) (progress : Progress) : Prop :=
  if progress.stage = .succeeded then progress.steps = budget else progress.steps < budget

/-- One move of a job with a budget of rounds. -/
inductive Move (budget : Nat) : Progress → Progress → Prop where
  | claim (steps : Nat) : Move budget ⟨steps, .pending⟩ ⟨steps, .claimed⟩
  | advance (steps : Nat) (more : steps + 1 < budget) :
      Move budget ⟨steps, .claimed⟩ ⟨steps + 1, .pending⟩
  | finish (steps : Nat) (last : steps + 1 = budget) :
      Move budget ⟨steps, .claimed⟩ ⟨steps + 1, .succeeded⟩
  | fail (steps : Nat) : Move budget ⟨steps, .claimed⟩ ⟨steps, .failed⟩
  | lose (steps : Nat) : Move budget ⟨steps, .claimed⟩ ⟨steps, .indeterminate⟩
  | stop (steps : Nat) : Move budget ⟨steps, .claimed⟩ ⟨steps, .stopping⟩
  | observe (steps : Nat) : Move budget ⟨steps, .stopping⟩ ⟨steps, .observed⟩
  | cancel (steps : Nat) : Move budget ⟨steps, .pending⟩ ⟨steps, .cancelled⟩

/-- The phases that no command leaves. -/
def Phase.Final (phase : Phase) : Prop :=
  phase ∈ [.succeeded, .failed, .cancelled, .indeterminate]

instance (phase : Phase) : Decidable phase.Final := inferInstanceAs (Decidable (_ ∈ _))

section Moves

variable {budget : Nat} {before after : Progress}

/-- A move raises the revision by one. -/
theorem Move.revision (move : Move budget before after) :
    after.revision = before.revision + 1 := by
  cases move <;> simp only [Progress.revision, Stage.moves] <;> omega

/-- A move keeps a job within its budget. -/
theorem Move.within (move : Move budget before after) (within : before.Within budget) :
    after.Within budget := by
  cases move <;> simp_all [Progress.Within]

/-- No move leaves a final phase. -/
theorem Move.leaves (move : Move budget before after) : ¬ before.stage.phase.Final := by
  cases move <;> simp [Phase.Final, Stage.phase]

/-- Within its budget, a job makes at most one move more than two for each round. -/
theorem Progress.revision_le (within : before.Within budget) :
    before.revision ≤ 2 * budget + 1 := by
  -- Three moves of an open round leave that round uncommitted.
  obtain ⟨steps, stage⟩ := before
  cases stage <;> simp only [Progress.Within, Progress.revision, Stage.moves, reduceCtorEq,
    if_true, if_false] at within ⊢ <;> omega

end Moves

end Aar.PublicRlm
