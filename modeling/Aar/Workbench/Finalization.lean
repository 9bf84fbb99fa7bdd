import Aar.Workbench.Cells

/-! How a workbench job ends: it is finalized, parked, or terminated by a deadline or a budget. -/

namespace Aar.Workbench

open Guarded Table CallerWork Registry

section Finalize

/-- What the first finalization transaction read, and the second one must still find. -/
structure FinalizationPlan where
  cancellationRevision : Nat
  deadlineUnixMs : Nat
  deriving DecidableEq

/-- `_finalize`, first transaction: a running job with nothing unresolved starts to finalize. -/
def finalizeStart (fence : AttemptFence) (artifactStageIds : List String) (clock : Clock)
    (s : Scope) : Except Err (Scope × FinalizationPlan) := do
  assertAttemptFence fence (clock 0) s
  require (s.stages.countP (fun row =>
      decide (row.state = .committed ∧ row.stageId ∈ artifactStageIds)) = artifactStageIds.length)
    (.rlmWorkbenchConflict "finalization references absent or uncommitted artifact stages")
  require (∀ row ∈ s.suspensions, row.state ≠ .pending)
    (.rlmWorkbenchConflict "finalization has unresolved required tickets")
  let job ← runningJob "workbench is not running at finalization" s
  let revision := job.controlRevision + 1
  let patched := patchWhere s.job (·.phase = .running) fun row => { row with
    phase := .finalizing, controlRevision := revision }
  return (overwriteControl revision { s with job := patched },
    { cancellationRevision := job.cancellationRevision
      deadlineUnixMs := job.cumulativeDeadlineUnixMs })

/-- The result a finalization commits. -/
structure FinalResult where
  resultJson : String
  resultDigest : Digest
  proposalDigest : Digest
  checkpointDigest : Digest

/-- The job is still the one the first finalization transaction saw. -/
def FinalizationPlan.Current (plan : FinalizationPlan) (job : JobRow) : Prop :=
  job.phase = .finalizing ∧ job.cancellationRevision = plan.cancellationRevision ∧
    job.cumulativeDeadlineUnixMs = plan.deadlineUnixMs

instance (plan : FinalizationPlan) : DecidablePred plan.Current :=
  fun _ => inferInstanceAs (Decidable (_ ∧ _))

/-- `_finalize`, second transaction: the manifest and the result are committed together. -/
def finalizeCommit (H : Hashing) (fence : AttemptFence) (plan : FinalizationPlan)
    (result : FinalResult) (clock : Clock) (s : Scope) : Except Err Scope := do
  assertAttemptFence fence (clock 0) s
  let changed := Err.rlmWorkbenchConflict "finalization authority changed before commit"
  let job ← orRaise s.job changed
  require (clock 1 < plan.deadlineUnixMs) (.rlmWorkbenchDeadlineExceeded
    "workbench cumulative deadline expired before finalization commit")
  require (plan.Current job) changed
  let revision := job.controlRevision + 1
  require (s.finalization = none) (.integrityError
    "UNIQUE constraint failed: rlm_workbench_finalization_manifests.operation_id")
  let manifest : FinalizationRow :=
    { finalizerAttemptId := fence.attempt.attemptId
      finalizerAttemptFence := attemptFenceDigest H fence
      expectedCancellationRevision := plan.cancellationRevision
      expectedCumulativeDeadlineUnixMs := plan.deadlineUnixMs, controlRevision := revision
      proposalDigest := result.proposalDigest, resultDigest := result.resultDigest }
  let patched := patchWhere s.job (·.phase = .finalizing) fun row => { row with
    phase := .succeeded, controlRevision := revision, resultJson := some result.resultJson
    resultDigest := some result.resultDigest
    checkpointDigest := some result.checkpointDigest }
  return overwriteControl revision { s with finalization := some manifest, job := patched }

end Finalize

section Stop

/-- `park_claimed`: the owner of an attempt gives a job up for an operator to look at. -/
def parkClaimed (fence : AttemptFence) (failure : FailureEnvelope) (clock : Clock)
    (s : Scope) : Except Err Scope := do
  assertAttemptFence fence (clock 0) s
  let job ← jobRow s
  require (job.phase ∉ closedPhases)
    (.rlmWorkbenchConflict "cannot park a terminal workbench job")
  let revision := job.controlRevision + 1
  let patched ← patchOne s.job (·.controlRevision = job.controlRevision)
    (fun row => { row with
      phase := .parked, certainty := .indeterminate, failure := some failure
      controlRevision := revision })
    (Err.rlmWorkbenchConflict "workbench park transition lost its CAS")
  return overwriteControl revision { s with job := patched }

/-- The errors one kind of terminalization raises when a row changed under it. -/
structure StopTexts where
  phase : String
  cancelled : String
  job : String
  control : String

/-- The row is an uncancelled job in one phase at one revision. -/
def OpenJobAt (phase : JobPhase) (revision : Nat) (row : JobRow) : Prop :=
  row.phase = phase ∧ row.controlRevision = revision ∧ row.cancellationRequested = false

instance (phase : JobPhase) (revision : Nat) : DecidablePred (OpenJobAt phase revision) :=
  fun _ => inferInstanceAs (Decidable (_ ∧ _))

/-- End an uncancelled job in one of the given phases, in step with its control. -/
def stopJob (texts : StopTexts) (origins : List JobPhase) (phase : JobPhase)
    (failure : FailureEnvelope) (s : Scope) : Except Err Scope := do
  let job ← jobRow s
  require (job.phase ∈ origins) (.rlmWorkbenchConflict texts.phase)
  require (job.cancellationRequested = false) (.rlmWorkbenchConflict texts.cancelled)
  let next := job.controlRevision + 1
  let patched ← patchOne s.job (OpenJobAt job.phase job.controlRevision)
    (fun row => { row with
      phase, controlRevision := next, certainty := .certain, failure := some failure })
    (Err.rlmWorkbenchConflict texts.job)
  let control ← patchOne s.control (OpenControlAt job.controlRevision)
    (fun row => { row with controlRevision := next }) (Err.rlmWorkbenchConflict texts.control)
  return { s with job := patched, control }

/-- The phases a passed deadline may end. -/
def deadlinePhases : List JobPhase :=
  [.accepted, .preparingWorkspace, .running, .waitingExternal, .checkpointing, .finalizing]

/-- The failure stored on a job whose cumulative deadline passed. -/
def deadlineFailure (operation : String) : FailureEnvelope :=
  { category := "deadline", code := "DEADLINE_EXCEEDED"
    message := "workbench cumulative deadline expired", retryable := false
    certainty := .certain, operation := some operation, details := [] }

/-- What a deadline terminalization raises. -/
def deadlineTexts : StopTexts :=
  { phase := "deadline terminalization lost nonterminal phase"
    cancelled := "deadline terminalization lost cancellation authority"
    job := "deadline terminalization lost its job CAS"
    control := "deadline terminalization lost its control CAS" }

/-- `mark_deadline_terminal`: end an open job at its cumulative deadline. -/
def markDeadlineTerminal (clock : Clock) (s : Scope) : Except Err Scope := do
  let job ← jobRow s
  if job.phase = .timedOut then return s
  else do
    let s ← stopJob deadlineTexts deadlinePhases .timedOut (deadlineFailure s.operation) s
    return { s with
      suspensions := updateWhere s.suspensions (·.state = .pending) fun row => { row with
        state := .parked, settledAtUnixMs := some (clock 0) }
      cells := updateWhere s.cells (·.state = .running) fun row => { row with
        state := .lostBeforeCommit } }

/-- The failure stored on a job that used its model-call budget up. -/
def budgetFailure (operation : String) : FailureEnvelope :=
  { category := "budget", code := "BUDGET_EXCEEDED"
    message := "workbench root planner model-call budget exhausted", retryable := false
    certainty := .certain, operation := some operation, details := [] }

/-- What a budget terminalization raises. -/
def budgetTexts : StopTexts :=
  { phase := "model-call budget terminalization lost running phase"
    cancelled := "model-call budget terminalization lost cancellation authority"
    job := "model-call budget terminalization lost its job CAS"
    control := "model-call budget terminalization lost its control CAS" }

/-- `mark_model_call_budget_terminal`: end a running job whose model-call budget is used up. -/
def markModelCallBudgetTerminal (fence : AttemptFence) (clock : Clock) (s : Scope) :
    Except Err Scope := do
  assertAttemptFence fence (clock 1) s
  let job ← jobRow s
  if job.phase = .failed then return s
  else stopJob budgetTexts [.running] .failed (budgetFailure s.operation) s

end Stop

end Aar.Workbench
