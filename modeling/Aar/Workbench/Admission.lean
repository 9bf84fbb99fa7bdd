import Aar.Registry.Suspension

/-! How a workbench job is admitted, gets its workspace, and starts to run. -/

namespace Aar.Workbench

open Guarded Table CallerWork Registry

section Fence

/-- The job phases that end a job or wait for an operator. -/
def closedPhases : List JobPhase :=
  [.succeeded, .failed, .cancelled, .timedOut, .indeterminate, .parked]

/-- The phase as it is stored. -/
def phaseWire : JobPhase → String
  | .accepted => "accepted"
  | .preparingWorkspace => "preparing_workspace"
  | .running => "running"
  | .waitingExternal => "waiting_external"
  | .checkpointing => "checkpointing"
  | .finalizing => "finalizing"
  | .succeeded => "succeeded"
  | .failed => "failed"
  | .cancelled => "cancelled"
  | .timedOut => "timed_out"
  | .indeterminate => "indeterminate"
  | .parked => "parked"

/-- `_attempt_fence_digest`: the digest under which an attempt owns its cells. -/
def attemptFenceDigest (H : Hashing) (fence : AttemptFence) : Digest :=
  H.attemptFence fence.dispatcherGeneration fence.leaseEpoch fence.ownerDigest

/-- The fence still names a running attempt with a live lease and a running dispatch row. -/
def FenceHolds (fence : AttemptFence) (now : Nat) (s : Scope) : Prop :=
  (∃ attempt ∈ s.attempts, RunningAs fence.attempt attempt ∧
      attempt.dispatcherGeneration = fence.dispatcherGeneration) ∧
    DispatchRuns s.dispatch fence.attempt.attemptNo ∧
    ∃ lease ∈ s.leases, HeldAs fence.attempt.attemptNo fence.leaseEpoch lease ∧
      lease.ownerDigest = fence.ownerDigest ∧ now < lease.expiresAtUnixMs

instance (fence : AttemptFence) (now : Nat) (s : Scope) : Decidable (FenceHolds fence now s) :=
  inferInstanceAs (Decidable (_ ∧ _))

/-- `_assert_attempt_fence`: raise unless the fence still holds. -/
def assertAttemptFence (fence : AttemptFence) (now : Nat) (s : Scope) : Except Err Unit :=
  require (FenceHolds fence now s) (.rlmWorkbenchConflict "workbench attempt fence is stale")

/-- The job of an operation. -/
def jobRow (s : Scope) : Except Err JobRow := orRaise s.job (.keyError s.operation)

/-- Overwrite the control revision, whatever it was. -/
def overwriteControl (revision : Nat) (s : Scope) : Scope :=
  { s with control := s.control.map fun row => { row with controlRevision := revision } }

end Fence

section Admit

/-- What an admission request carries besides the job specification. -/
structure AdmissionContext where
  contextDigest : Digest
  deadlineUnixMs : Nat

/-- `derive_cumulative_deadline_unix_ms`: the earlier of the context's and the budget's deadline. -/
def deriveCumulativeDeadlineUnixMs (intentPersistedAtUnixMs contextDeadlineUnixMs
    totalWallTimeMs : Nat) : Except Err Nat := do
  require (0 < intentPersistedAtUnixMs)
    (.valueError "intent_persisted_at_unix_ms must be a positive integer")
  require (0 < contextDeadlineUnixMs)
    (.valueError "context_deadline_unix_ms must be a positive integer")
  require (0 < totalWallTimeMs) (.valueError "total_wall_time_ms must be a positive integer")
  return min contextDeadlineUnixMs (intentPersistedAtUnixMs + totalWallTimeMs)

/-- `_assert_admission_binding`: a repeated admission binds the same bytes. -/
def assertAdmissionBinding (H : Hashing) (spec : RlmWorkbenchJobSpec)
    (context : AdmissionContext) (job : JobRow) : Except Err Unit :=
  require (job.spec = spec ∧ job.specDigest = H.jobSpec spec ∧
      job.contextDigest = context.contextDigest ∧
      job.routeBindingDigest = H.binding spec.routeBinding)
    (.rlmWorkbenchConflict "workbench operation already binds different admission bytes")

/-- The control row of an operation, created at revision one when it is missing. -/
def openControl (s : Scope) : ControlRow :=
  s.control.getD
    { controlRevision := 1, cancellationRequested := false, requestedAtUnixMs := none
      requestedByDigest := none, reasonCode := none }

/-- The row of a job that has just been admitted; it has no workspace yet. -/
def admittedJob (H : Hashing) (spec : RlmWorkbenchJobSpec) (context : AdmissionContext)
    (controlRevision deadline : Nat) : JobRow :=
  { phase := .accepted, controlRevision, cancellationRevision := 0
    cancellationRequested := false, spec, specDigest := H.jobSpec spec
    contextDigest := context.contextDigest
    routeBindingDigest := H.binding spec.routeBinding, cumulativeDeadlineUnixMs := deadline
    workspaceId := none, workspaceGeneration := 0, workspaceRevision := 0
    checkpointDigest := none, resultJson := none, resultDigest := none, failure := none
    certainty := .certain }

/-- `admit`: store the job of an operation once, with its control. -/
def admitJob (H : Hashing) (spec : RlmWorkbenchJobSpec) (context : AdmissionContext)
    (s : Scope) : Except Err Scope := do
  require (spec.seedCheckpoint = none) (.rlmWorkbenchUnsupported
    "seed checkpoint restore is not available in the admission slice")
  let deadline ← deriveCumulativeDeadlineUnixMs s.row.createdAtUnixMs context.deadlineUnixMs
    spec.totalWallTimeMs
  match s.job with
  | some job => do
    assertAdmissionBinding H spec context job
    return s
  | none => do
    let control := openControl s
    require (control.cancellationRequested = false)
      (.rlmWorkbenchConflict "operation control is absent or already cancelled")
    return { s with
      control := some control
      job := some (admittedJob H spec context control.controlRevision deadline) }

/-- The workspace a job is bound to. -/
structure BoundWorkspace where
  workspace : String
  generation : Nat
  revision : Nat
  deriving DecidableEq

/-- `_prepare_workspace`, first transaction: claim the preparation, or return the bound handle. -/
def prepareWorkspaceStart (s : Scope) : Except Err (Scope × Option BoundWorkspace) := do
  let job ← jobRow s
  let phase := phaseWire job.phase
  require (job.phase ∉ closedPhases)
    (.rlmWorkbenchConflict s!"cannot prepare workspace from terminal phase {phase}")
  match job.workspaceId with
  | some workspace =>
    return (s, some ⟨workspace, job.workspaceGeneration, job.workspaceRevision⟩)
  | none =>
    if job.phase = .accepted then
      let revision := job.controlRevision + 1
      return ({ s with
        job := patchWhere s.job (JobAt .accepted job.controlRevision) fun row => { row with
          phase := .preparingWorkspace, controlRevision := revision }
        control := patchWhere s.control (·.controlRevision = job.controlRevision)
          fun row => { row with controlRevision := revision } }, none)
    else do
      require (job.phase = .preparingWorkspace)
        (.rlmWorkbenchConflict s!"cannot prepare workspace from phase {phase}")
      return (s, none)

/-- The row is a job that still prepares its first workspace, at one revision. -/
def PreparingAt (revision : Nat) (row : JobRow) : Prop :=
  row.phase = .preparingWorkspace ∧ row.workspaceId = none ∧ row.controlRevision = revision

instance (revision : Nat) : DecidablePred (PreparingAt revision) :=
  fun _ => inferInstanceAs (Decidable (_ ∧ _))

/-- `_prepare_workspace`, second transaction: bind the created workspace. -/
def prepareWorkspaceBind (handle : ProgrammableWorkspaceHandle) (s : Scope) :
    Except Err Scope := do
  let job ← jobRow s
  match job.workspaceId with
  | some workspace => do
    require (workspace = handle.workspace ∧ job.workspaceGeneration = handle.generation ∧
        job.workspaceRevision = handle.revision)
      (.rlmWorkbenchConflict "workbench already binds another workspace generation")
    return s
  | none =>
    -- Neither statement checks how many rows it changed.
    let revision := job.controlRevision + 1
    return { s with
      job := patchWhere s.job (PreparingAt job.controlRevision) fun row => { row with
        workspaceId := some handle.workspace, workspaceGeneration := handle.generation
        workspaceRevision := handle.revision, controlRevision := revision }
      control := patchWhere s.control (·.controlRevision = job.controlRevision)
        fun row => { row with controlRevision := revision } }

/-- `_begin_running`: the owner of a claimed attempt starts the job, or finds it running. -/
def beginRunning (fence : AttemptFence) (clock : Clock) (s : Scope) : Except Err Scope := do
  assertAttemptFence fence (clock 0) s
  let job ← jobRow s
  require (job.cancellationRequested = false)
    (.rlmWorkbenchConflict "workbench cancellation is already requested")
  require (clock 1 < job.cumulativeDeadlineUnixMs)
    (.rlmWorkbenchConflict "workbench cumulative deadline expired")
  if job.phase = .preparingWorkspace then do
    let revision := job.controlRevision + 1
    let patched ← patchOne s.job (JobAt .preparingWorkspace job.controlRevision)
      (fun row => { row with phase := .running, controlRevision := revision })
      (Err.rlmWorkbenchConflict "workbench running transition lost its CAS")
    return overwriteControl revision { s with job := patched }
  else do
    let phase := phaseWire job.phase
    require (job.phase = .running)
      (.rlmWorkbenchConflict s!"cannot run workbench from phase {phase}")
    return s

end Admit

end Aar.Workbench
