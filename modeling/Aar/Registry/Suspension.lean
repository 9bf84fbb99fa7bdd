import Aar.Registry.Successor

/-! How the owner of an attempt hands a broker call to its caller and gives its ownership up. -/

namespace Aar.Registry

open Guarded Table CallerWork

section Wait

/-- The errors one kind of external wait raises when a row changed under it. -/
structure WaitTexts where
  phase : String
  control : String
  attempt : String
  lease : String
  outer : String
  dispatch : String

/-- The job and control rows an external wait was decided on. -/
structure WaitOrigin where
  phase : JobPhase
  jobRevision : Nat
  controlRevision : Nat

/-- The ticket identifiers of an operation's suspensions. -/
def suspensionTicketIds (record : OpRecord) : List String :=
  record.suspensions.map SuspensionRow.ticketId

/-- Store the suspension of one ticket, and the ticket itself. -/
def openSuspension (ticket : CallerWorkTicket) (controlRevision : Nat)
    (cellExecutionId : Option String) (checkpointDigest : Option Digest) (message : String)
    (s : Scope) : Except Err Scope := do
  let row : SuspensionRow :=
    { suspensionRevision := ticket.suspensionRevision, controlRevision, cellExecutionId
      logicalOwner := ticket.owner, brokerMethod := ticket.request.method
      contractId := ticket.request.contractId, requestDigest := ticket.requestDigest
      ticketId := ticket.ticketId, checkpointDigest, state := .pending, settledAtUnixMs := none }
  require (s.Fresh suspensionTicketIds ticket.ticketId)
    (.integrityError "UNIQUE constraint failed: rlm_workbench_suspensions.ticket_id")
  let suspensions ← insertUnique s.suspensions
    (·.suspensionRevision = ticket.suspensionRevision) row
    (Err.integrityError "UNIQUE constraint failed: rlm_workbench_suspensions")
  let created ← createTicket ticket { s with suspensions }
  require (created.2 = ticket) (.idempotencyConflict message)
  return created.1

/-- Move the job and its control to an external wait under the next control revision. -/
def waitExternally (texts : WaitTexts) (origin : WaitOrigin) (s : Scope) : Except Err Scope := do
  let next := origin.controlRevision + 1
  let job ← patchOne s.job (JobAt origin.phase origin.jobRevision)
    (fun row => { row with phase := .waitingExternal, controlRevision := next })
    (Err.staleAttemptFence texts.phase)
  let control ← patchOne s.control (OpenControlAt origin.controlRevision)
    (fun row => { row with controlRevision := next }) (Err.staleAttemptFence texts.control)
  return { s with job, control }

/-- Suspend the owning attempt: its lease is released and its operation is accepted again. -/
def suspendAttempt (texts : WaitTexts) (fence : AttemptFence) (recordRevision : Nat)
    (reason : String) (now : Nat) (s : Scope) : Except Err Scope := do
  let s ← closeAttempt fence.attempt .suspendedExternal (fun _ => some reason) now
    texts.attempt s
  let s ← releaseLease fence.attempt.attemptNo fence.leaseEpoch now texts.lease s
  let s ← closeOuter recordRevision .accepted OperationRow.failure texts.outer s
  closeRunningDispatch fence.attempt.attemptNo .parked now texts.dispatch s

/-- Record the start of an external wait. -/
def recordWait (ticket : CallerWorkTicket) (cellExecutionId : Option String)
    (attemptNo revision now : Nat) (s : Scope) : Scope :=
  insertEvent s .accepted .certain revision now waitingEvent (some attemptNo)
    [("suspension_revision", .int ticket.suspensionRevision),
      ("ticket_id", .text ticket.ticketId),
      ("cell_execution_id", cellExecutionId.elim .null .text)]

end Wait

section Suspend

/-- What a suspension call is refused with, before anything is written. -/
structure SuspendTexts where
  running : String
  phase : String
  cancelled : String
  deadline : String

/-- The checks on the job and its control before a suspension. -/
def checkSuspendable (texts : SuspendTexts) (now : Nat) (s : Scope) : Except Err JobRow := do
  require (s.row.state = .running) (.invalidTransition texts.running)
  let job ← orRaise s.job (.invalidTransition texts.phase)
  require (job.phase = .running) (.invalidTransition texts.phase)
  let control ← orRaise s.control (.invalidTransition texts.cancelled)
  require (control.cancellationRequested = false) (.invalidTransition texts.cancelled)
  require (job.controlRevision = control.controlRevision)
    (.invalidTransition "workbench and operation control revisions diverged")
  require (now < job.cumulativeDeadlineUnixMs) (.invalidTransition texts.deadline)
  return job

/-- The suspension revision the next suspension of an operation takes. -/
def nextSuspension (s : Scope) : Nat :=
  maxOf s.suspensions SuspensionRow.suspensionRevision + 1

/-- `suspend_planner_attempt`: suspend one root-planner call on its caller ticket. -/
def suspendPlannerAttempt (H : Hashing) (fence : AttemptFence) (ticket : CallerWorkTicket)
    (clock : Clock) (s : Scope) : Except Err Scope := do
  require (ticket.operation = s.operation)
    (.invalidTransition "planner ticket operation does not match the attempt")
  let _ ← validateFence (clock 0) fence s.generation s
  let now := clock 1
  let job ← checkSuspendable
    { running := "planner suspension requires a running operation"
      phase := "planner suspension requires running phase"
      cancelled := "planner suspension is fenced by cancellation"
      deadline := "planner suspension reached its cumulative deadline" } now s
  require (DispatchRuns s.dispatch fence.attempt.attemptNo)
    (.staleAttemptFence "planner suspension dispatch fence is stale")
  require (IsPlanner ticket.owner) (.invalidTransition "planner ticket owner is invalid")
  require (ticket.request.method = .modelRequest)
    (.invalidTransition "root planner ticket method must be model.request")
  require (ticket.requestDigest = H.request ticket.request)
    (.idempotencyConflict "planner ticket request digest is stale")
  require (ticket.suspensionRevision = nextSuspension s)
    (.invalidTransition "planner ticket suspension revision is stale")
  let texts : WaitTexts :=
    { phase := "workbench phase changed during planner suspension"
      control := "operation control changed during planner suspension"
      attempt := "attempt changed during planner suspension"
      lease := "attempt lease changed during planner suspension"
      outer := "outer operation changed during planner suspension"
      dispatch := "dispatch changed during planner suspension" }
  let recordRevision := s.row.recordRevision
  let s ← openSuspension ticket (job.controlRevision + 1) none none
    "planner ticket projection changed during suspension" s
  let s ← waitExternally texts ⟨.running, job.controlRevision, job.controlRevision⟩ s
  let s ← suspendAttempt texts fence recordRevision "planner_caller_work_wait" now s
  return recordWait ticket none fence.attempt.attemptNo (recordRevision + 1) now s

/-- What a caller repeats about the cell it suspends. -/
structure CellFence where
  attemptFence : Digest
  cellExecutionId : String
  preCheckpointDigest : Digest

/-- The row is the running cell that a fence names. -/
def CellFence.Runs (cell : CellFence) (attemptId : String) (row : CellRow) : Prop :=
  row.cellExecutionId = cell.cellExecutionId ∧ row.state = .running ∧
    row.attemptId = attemptId ∧ row.attemptFence = cell.attemptFence ∧
    row.preCheckpointDigest = cell.preCheckpointDigest

instance (cell : CellFence) (attemptId : String) : DecidablePred (cell.Runs attemptId) :=
  fun _ => inferInstanceAs (Decidable (_ ∧ _))

/-- The authority row is the one under which the cell runs. -/
def CellFence.Authorized (cell : CellFence) (attemptId : String) (stored : CellRow)
    (row : AuthorityRow) : Prop :=
  row.attemptId = attemptId ∧ row.attemptFence = cell.attemptFence ∧
    row.cellExecutionId = cell.cellExecutionId ∧ row.workspaceId = stored.workspaceId ∧
    row.workspaceGeneration = stored.workspaceGeneration ∧
    row.workspaceRevision = stored.preWorkspaceRevision

instance (cell : CellFence) (attemptId : String) (stored : CellRow) :
    DecidablePred (cell.Authorized attemptId stored) :=
  fun _ => inferInstanceAs (Decidable (_ ∧ _))

/-- The cell and its authority still match what the caller repeats. -/
def checkCellFence (cell : CellFence) (attemptId : String) (s : Scope) : Except Err Unit := do
  let stale := Err.staleAttemptFence "workbench cell suspension fence is stale"
  let stored ← orRaise
    (fetchOne s.cells (·.cellExecutionId = cell.cellExecutionId)) stale
  require (cell.Runs attemptId stored) stale
  require (s.authority.any fun row => cell.Authorized attemptId stored row)
    (.staleAttemptFence "workbench attempt authority fence is stale")

/-- `suspend_workbench_attempt`: suspend a running cell on the caller ticket of its broker call. -/
def suspendWorkbenchAttempt (fence : AttemptFence) (cell : CellFence)
    (ticket : CallerWorkTicket) (clock : Clock) (s : Scope) : Except Err Scope := do
  require (ticket.operation = s.operation)
    (.invalidTransition "caller ticket operation does not match the attempt")
  let _ ← validateFence (clock 0) fence s.generation s
  let job ← checkSuspendable
    { running := "workbench suspension requires a running operation"
      phase := "workbench suspension requires running phase"
      cancelled := "workbench suspension is fenced by cancellation"
      deadline := "workbench suspension reached its cumulative deadline" } (clock 1) s
  checkCellFence cell fence.attempt.attemptId s
  require (DispatchRuns s.dispatch fence.attempt.attemptNo)
    (.staleAttemptFence "workbench dispatch suspension fence is stale")
  require (ticket.suspensionRevision = nextSuspension s)
    (.invalidTransition "caller ticket suspension revision is stale")
  let texts : WaitTexts :=
    { phase := "workbench phase changed during suspension"
      control := "operation control changed during suspension"
      attempt := "attempt changed during suspension"
      lease := "attempt lease changed during suspension"
      outer := "outer operation changed during suspension"
      dispatch := "dispatch changed during suspension" }
  let recordRevision := s.row.recordRevision
  let now := clock 2
  let s ← openSuspension ticket (job.controlRevision + 1) (some cell.cellExecutionId)
    (some cell.preCheckpointDigest) "caller ticket projection changed during suspension" s
  let cells ← updateOne s.cells (cell.Runs fence.attempt.attemptId)
    (fun row => { row with state := .suspended })
    (Err.staleAttemptFence "workbench cell changed during suspension")
  let s ← waitExternally texts ⟨.running, job.controlRevision, job.controlRevision⟩
    { s with cells }
  let s ← suspendAttempt texts fence recordRevision "caller_work_wait" now s
  return recordWait ticket (some cell.cellExecutionId) fence.attempt.attemptNo
    (recordRevision + 1) now s

end Suspend

end Aar.Registry
