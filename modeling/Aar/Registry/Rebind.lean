import Aar.Registry.Suspension

/-! How a successor rebinds the live cell of its predecessor, and what a lost worker leaves. -/

namespace Aar.Registry

open Guarded Table CallerWork

section Commit

/-- A transfer joined with everything a rebind commit reads. -/
structure RebindRow where
  transfer : TransferRow
  suspension : SuspensionRow
  outbox : OutboxRow
  job : JobRow
  control : ControlRow
  authority : AuthorityRow
  cell : CellRow
  dispatch : DispatchRow

/-- The transfer of one token and one successor. -/
def transferTo (tokenDigest : Digest) (attemptId : String) (s : Scope) : Option TransferRow :=
  fetchOne s.transfers fun row =>
    row.tokenDigest = tokenDigest ∧ row.successorAttemptId = attemptId

/-- The rows a rebind commit of one token reads. -/
def rebindRow (tokenDigest : Digest) (attemptId : String) (s : Scope) : Option RebindRow := do
  let transfer ← transferTo tokenDigest attemptId s
  let suspension ← fetchOne s.suspensions (·.suspensionRevision = transfer.suspensionRevision)
  let outbox ← fetchOne s.outbox (·.suspensionRevision = transfer.suspensionRevision)
  let job ← s.job
  let control ← s.control
  let authority ← s.authority
  let cell ← fetchOne s.cells (·.cellExecutionId = transfer.cellExecutionId)
  let dispatch ← s.dispatch
  return { transfer, suspension, outbox, job, control, authority, cell, dispatch }

/-- `_workbench_rebind_token_from_row`: the token a transfer row stands for. -/
def rebindTokenOf (operation : String) (transfer : TransferRow) (ticketId : String) :
    RebindToken :=
  { operation, rebindGeneration := transfer.rebindGeneration
    priorAuthorityGeneration := transfer.priorAuthorityGeneration
    successorAuthorityGeneration := transfer.successorAuthorityGeneration
    expectedControlRevision := transfer.expectedControlRevision
    expectedCancellationRevision := transfer.expectedCancellationRevision
    expectedCumulativeDeadlineUnixMs := transfer.expectedCumulativeDeadlineUnixMs
    priorAttemptId := transfer.priorAttemptId, priorAttemptFence := transfer.priorAttemptFence
    successorAttemptId := transfer.successorAttemptId
    successorAttemptFence := transfer.successorAttemptFence, workspace := transfer.workspaceId
    workspaceGeneration := transfer.workspaceGeneration
    workspaceRevision := transfer.workspaceRevision
    cellExecutionId := transfer.cellExecutionId
    suspensionRevision := transfer.suspensionRevision, ticketId
    settledReceiptDigest := transfer.settlementDigest
    successorOutboxDigest := transfer.outboxDigest
    workerOwnerGeneration := transfer.workerOwnerGeneration
    workerProcessIdentityDigest := transfer.workerProcessIdentityDigest
    expiresAtUnixMs := transfer.expiresAtUnixMs }

/-- The worker that holds the live workspace. -/
structure WorkerIdentity where
  ownerGeneration : Nat
  processIdentityDigest : Digest
  deriving DecidableEq

/-- Both the authority and the transfer name the worker the caller repeats. -/
def RebindRow.HeldByWorker (read : RebindRow) (worker : WorkerIdentity) : Prop :=
  read.authority.workerOwnerGeneration = worker.ownerGeneration ∧
    read.authority.workerProcessIdentityDigest = worker.processIdentityDigest ∧
    read.transfer.workerOwnerGeneration = worker.ownerGeneration ∧
    read.transfer.workerProcessIdentityDigest = worker.processIdentityDigest

instance (read : RebindRow) (worker : WorkerIdentity) : Decidable (read.HeldByWorker worker) :=
  inferInstanceAs (Decidable (_ ∧ _))

/-- What a commit and the replay of one have in common, at one control revision. -/
def RebindRow.Aligned (read : RebindRow) (worker : WorkerIdentity) (attemptNo : Nat)
    (controlRevision : Nat) : Prop :=
  read.suspension.state ∈ endedSuspensions ∧ RunsAs attemptNo read.dispatch ∧
    read.job.controlRevision = controlRevision ∧
    read.control.controlRevision = controlRevision ∧
    read.job.cancellationRevision = read.transfer.expectedCancellationRevision ∧
    read.control.cancellationRequested = false ∧
    read.job.cumulativeDeadlineUnixMs = read.transfer.expectedCumulativeDeadlineUnixMs ∧
    read.authority.cellExecutionId = read.transfer.cellExecutionId ∧ read.HeldByWorker worker

instance (read : RebindRow) (worker : WorkerIdentity) (attemptNo controlRevision : Nat) :
    Decidable (read.Aligned worker attemptNo controlRevision) :=
  inferInstanceAs (Decidable (_ ∧ _))

/-- The rebind has been committed and nothing has moved on since. -/
def RebindRow.Committed (read : RebindRow) (worker : WorkerIdentity)
    (attempt : OperationAttemptRef) : Prop :=
  (read.transfer.state = .consumed →
      read.transfer.consumptionKind = some .workerAck ∧ read.transfer.ackDigest.isSome) ∧
    read.outbox.state = .consumed ∧ read.job.phase = .running ∧ read.cell.state = .running ∧
    read.Aligned worker attempt.attemptNo (read.transfer.expectedControlRevision + 1) ∧
    read.authority.attemptId = attempt.attemptId ∧
    read.authority.attemptFence = read.transfer.successorAttemptFence ∧
    read.authority.authorityGeneration = read.transfer.successorAuthorityGeneration ∧
    read.authority.rebindTokenDigest = some read.transfer.tokenDigest

instance (read : RebindRow) (worker : WorkerIdentity) (attempt : OperationAttemptRef) :
    Decidable (read.Committed worker attempt) :=
  inferInstanceAs (Decidable (_ ∧ _))

/-- The prepared rebind may be committed now. -/
def RebindRow.Committable (read : RebindRow) (worker : WorkerIdentity) (attemptNo now : Nat) :
    Prop :=
  read.transfer.state = .prepared ∧ read.outbox.state = .prepared ∧
    read.job.phase = .accepted ∧ read.cell.state = .suspended ∧
    read.Aligned worker attemptNo read.transfer.expectedControlRevision ∧
    now < read.transfer.expiresAtUnixMs ∧
    read.authority.attemptId = read.transfer.priorAttemptId ∧
    read.authority.attemptFence = read.transfer.priorAttemptFence ∧
    read.authority.authorityGeneration = read.transfer.priorAuthorityGeneration

instance (read : RebindRow) (worker : WorkerIdentity) (attemptNo now : Nat) :
    Decidable (read.Committable worker attemptNo now) :=
  inferInstanceAs (Decidable (_ ∧ _))

/-- The row is the suspended cell that one attempt left. -/
def SuspendedBy (transfer : TransferRow) (row : CellRow) : Prop :=
  row.cellExecutionId = transfer.cellExecutionId ∧ row.state = .suspended ∧
    row.attemptId = transfer.priorAttemptId ∧ row.attemptFence = transfer.priorAttemptFence

instance (transfer : TransferRow) : DecidablePred (SuspendedBy transfer) :=
  fun _ => inferInstanceAs (Decidable (_ ∧ _))

/-- The row is the authority one transfer was minted under. -/
def PriorAuthority (transfer : TransferRow) (row : AuthorityRow) : Prop :=
  row.attemptId = transfer.priorAttemptId ∧ row.attemptFence = transfer.priorAttemptFence ∧
    row.authorityGeneration = transfer.priorAuthorityGeneration

instance (transfer : TransferRow) : DecidablePred (PriorAuthority transfer) :=
  fun _ => inferInstanceAs (Decidable (_ ∧ _))

/-- The row is the outbox row prepared under one transfer's successor fence. -/
def PreparedUnder (transfer : TransferRow) (attemptId : String) (row : OutboxRow) : Prop :=
  row.suspensionRevision = transfer.suspensionRevision ∧ row.state = .prepared ∧
    row.successorAttemptId = some attemptId ∧
    row.successorAttemptFence = some transfer.successorAttemptFence

instance (transfer : TransferRow) (attemptId : String) :
    DecidablePred (PreparedUnder transfer attemptId) :=
  fun _ => inferInstanceAs (Decidable (_ ∧ _))

/-- Move one transfer of a known state. -/
def moveTransfer (tokenDigest : Digest) (state : TransferState)
    (change : TransferRow → TransferRow) (message : String) (s : Scope) : Except Err Scope := do
  let transfers ← updateOne s.transfers
    (fun row => row.tokenDigest = tokenDigest ∧ row.state = state) change
    (Err.staleAttemptFence message)
  return { s with transfers }

/-- Give the cell, its authority and the job to the successor, and consume the outbox row. -/
def commitTransfer (transfer : TransferRow) (attemptId : String) (s : Scope) :
    Except Err Scope := do
  let expected := transfer.expectedControlRevision
  let authority ← patchOne s.authority (PriorAuthority transfer)
    (fun row => { row with
      attemptId, attemptFence := transfer.successorAttemptFence
      authorityGeneration := transfer.successorAuthorityGeneration
      rebindTokenDigest := some transfer.tokenDigest })
    (Err.staleAttemptFence "workbench authority changed during rebind commit")
  let cells ← updateOne s.cells (SuspendedBy transfer)
    (fun row => { row with
      state := .running, attemptId, attemptFence := transfer.successorAttemptFence })
    (Err.staleAttemptFence "workbench cell changed during rebind commit")
  let job ← patchOne s.job (JobAt .accepted expected)
    (fun row => { row with phase := .running, controlRevision := expected + 1 })
    (Err.staleAttemptFence "workbench phase changed during rebind commit")
  let control ← patchOne s.control (OpenControlAt expected)
    (fun row => { row with controlRevision := expected + 1 })
    (Err.staleAttemptFence "operation control changed during rebind commit")
  let s ← moveTransfer transfer.tokenDigest .prepared
    (fun row => { row with state := .committed })
    "workbench transfer changed during rebind commit" { s with authority, cells, job, control }
  let outbox ← updateOne s.outbox (PreparedUnder transfer attemptId)
    (fun row => { row with state := .consumed })
    (Err.staleAttemptFence "workbench outbox changed during rebind commit")
  return { s with outbox }

/-- `commit_workbench_rebind`: give the suspended cell to its successor, once. -/
def commitWorkbenchRebind (fence : AttemptFence) (tokenDigest : Digest)
    (worker : WorkerIdentity) (clock : Clock) (s : Scope) :
    Except Err (Scope × RebindToken) := do
  let _ ← validateFence (clock 0) fence s.generation s
  let read ← orRaise (rebindRow tokenDigest fence.attempt.attemptId s)
    (.invalidTransition "prepared workbench rebind token does not exist")
  let token := rebindTokenOf s.operation read.transfer read.suspension.ticketId
  let now := clock 1
  if read.transfer.state = .committed ∨ read.transfer.state = .consumed then do
    require (read.Committed worker fence.attempt)
      (.staleAttemptFence "committed workbench rebind replay is stale")
    return (s, token)
  else do
    require (read.Committable worker fence.attempt.attemptNo now)
      (.staleAttemptFence "workbench rebind commit authority is stale")
    let s ← commitTransfer read.transfer fence.attempt.attemptId s
    return (insertEvent s .running .certain s.row.recordRevision now
      "workbench_rebind_committed" (some fence.attempt.attemptNo)
      [("token_digest", .text tokenDigest)], token)

end Commit

section Acknowledge

/-- A worker's acknowledgement, with the digest it claims for itself. -/
structure Acknowledgement extends AcknowledgementPayload where
  ackDigest : Option Digest
  deriving DecidableEq

/-- The acknowledgement describes the committed transfer and its current authority. -/
def Acknowledgement.Matches (H : Hashing) (ack : Acknowledgement) (transfer : TransferRow)
    (authority : AuthorityRow) (attemptId : String) : Prop :=
  authority.attemptId = attemptId ∧
    authority.attemptFence = transfer.successorAttemptFence ∧
    authority.authorityGeneration = transfer.successorAuthorityGeneration ∧
    authority.rebindTokenDigest = some transfer.tokenDigest ∧
    ack.tokenDigest = transfer.tokenDigest ∧ ack.acknowledgedPhase = "committed" ∧
    ack.workerProcessIdentityDigest = transfer.workerProcessIdentityDigest ∧
    ack.observedWorkspaceRevision = transfer.workspaceRevision ∧
    ack.liveStackResumed = true ∧
    ack.ackDigest = some (H.acknowledgement ack.toAcknowledgementPayload)

instance (H : Hashing) (ack : Acknowledgement) (transfer : TransferRow)
    (authority : AuthorityRow) (attemptId : String) :
    Decidable (ack.Matches H transfer authority attemptId) :=
  inferInstanceAs (Decidable (_ ∧ _))

/-- `acknowledge_workbench_rebind`: record that the worker resumed under the committed token. -/
def acknowledgeWorkbenchRebind (H : Hashing) (fence : AttemptFence) (tokenDigest : Digest)
    (ack : Acknowledgement) (clock : Clock) (s : Scope) : Except Err Scope := do
  let _ ← validateFence (clock 0) fence s.generation s
  let missing := Err.invalidTransition "committed workbench rebind token does not exist"
  let transfer ← orRaise (transferTo tokenDigest fence.attempt.attemptId s) missing
  let authority ← orRaise s.authority missing
  if transfer.state = .consumed ∧ transfer.consumptionKind = some .workerAck ∧
      transfer.ackDigest = ack.ackDigest ∧
      ack.Matches H transfer authority fence.attempt.attemptId then
    return s
  else do
    require (transfer.state = .committed ∧
        ack.Matches H transfer authority fence.attempt.attemptId)
      (.staleAttemptFence "workbench rebind acknowledgement is stale")
    let s ← moveTransfer tokenDigest .committed
      (fun row => { row with
        state := .consumed, consumptionKind := some .workerAck, ackDigest := ack.ackDigest })
      "workbench rebind acknowledgement lost authority" s
    return insertEvent s .running .certain s.row.recordRevision (clock 1)
      "workbench_rebind_acknowledged" (some fence.attempt.attemptNo)
      [("token_digest", .text tokenDigest), ("ack_digest", ack.ackDigest.elim .null .text)]

end Acknowledge

section WorkerLoss

/-- A transfer joined with everything the recovery of its lost worker reads. -/
structure LossRow where
  transfer : TransferRow
  job : JobRow
  cell : CellRow
  authority : AuthorityRow
  attempt : AttemptRow
  outbox : OutboxRow

/-- The rows the recovery of one token's worker reads. -/
def lossRow (tokenDigest : Digest) (s : Scope) : Option LossRow := do
  let transfer ← fetchOne s.transfers (·.tokenDigest = tokenDigest)
  let job ← s.job
  let cell ← fetchOne s.cells (·.cellExecutionId = transfer.cellExecutionId)
  let authority ← s.authority
  let attempt ← fetchOne s.attempts (·.attemptId = transfer.successorAttemptId)
  let outbox ← fetchOne s.outbox fun row =>
    row.suspensionRevision = transfer.suspensionRevision ∧
      row.outboxDigest = transfer.outboxDigest
  return { transfer, job, cell, authority, attempt, outbox }

/-- The worker behind a transfer has already been recovered as lost. -/
def FencedLoss (transfer : TransferRow) : Prop :=
  (transfer.state = .consumed ∧ transfer.consumptionKind = some .recoveryFencedLoss) ∨
    transfer.state = .aborted

instance : DecidablePred FencedLoss :=
  fun _ => inferInstanceAs (Decidable (_ ∨ _))

/-- The job is at the handle. -/
def AtHandle (handle : ProgrammableWorkspaceHandle) (job : JobRow) : Prop :=
  job.workspaceId = some handle.workspace ∧ job.workspaceGeneration = handle.generation ∧
    job.workspaceRevision = handle.revision

instance (handle : ProgrammableWorkspaceHandle) : DecidablePred (AtHandle handle) :=
  fun _ => inferInstanceAs (Decidable (_ ∧ _))

/-- The states of a cell whose worker may still be lost. -/
def liveCellStates : List CellState := [.running, .suspended]

/-- The lost worker still holds the authority the transfer left it with. -/
def LossRow.Current (read : LossRow) : Prop :=
  (read.transfer.state = .prepared ∨ read.transfer.state = .committed) ∧
    read.transfer.consumptionKind = none ∧ read.cell.state ∈ liveCellStates ∧
    read.authority.attemptId =
      (if read.transfer.state = .committed then read.transfer.successorAttemptId
        else read.transfer.priorAttemptId) ∧
    read.authority.cellExecutionId = read.transfer.cellExecutionId ∧
    read.attempt.state = .outer .indeterminate

instance (read : LossRow) : Decidable read.Current :=
  inferInstanceAs (Decidable (_ ∧ _))

/-- The restored handle is the start of the job's next workspace generation. -/
def NextGeneration (handle : ProgrammableWorkspaceHandle) (job : JobRow) : Prop :=
  job.workspaceId = some handle.workspace ∧
    handle.generation = job.workspaceGeneration + 1 ∧ handle.revision = 0

instance (handle : ProgrammableWorkspaceHandle) : DecidablePred (NextGeneration handle) :=
  fun _ => inferInstanceAs (Decidable (_ ∧ _))

/-- Consume the outbox row of a lost worker unless it has already been consumed. -/
def consumeLostOutbox (read : OutboxRow) (s : Scope) : Except Err Scope :=
  if read.state = .prepared then do
    let outbox ← updateOne s.outbox
      (fun row => row.outboxDigest = read.outboxDigest ∧ row.state = .prepared)
      (fun row => { row with state := .consumed })
      (Err.staleAttemptFence "worker-loss successor outbox consumption lost its CAS")
    return { s with outbox }
  else do
    require (read.state = .consumed)
      (.staleAttemptFence "worker-loss successor outbox state is stale")
    return s

/-- End the transfer of a lost worker: a committed one is consumed, a prepared one is aborted. -/
def endTransfer (read : TransferRow) (s : Scope) : Except Err Scope :=
  moveTransfer read.tokenDigest read.state
    (fun row => if read.state = .committed then
      { row with
        state := .consumed, consumptionKind := some .recoveryFencedLoss, ackDigest := none }
      else { row with state := .aborted })
    "worker-loss transfer consumption lost its CAS" s

/-- Bind the job to the checkpoint before the lost cell, in the restored workspace. -/
def restoreJob (read : LossRow) (restored : ProgrammableWorkspaceHandle) (s : Scope) :
    Except Err Scope := do
  let job ← patchOne s.job
    (fun row => row.workspaceId = read.job.workspaceId ∧
      row.workspaceGeneration = read.job.workspaceGeneration ∧
      row.workspaceRevision = read.job.workspaceRevision)
    (fun row => { row with
      phase := .running, workspaceGeneration := restored.generation
      workspaceRevision := restored.revision
      checkpointDigest := some read.cell.preCheckpointDigest })
    (Err.staleAttemptFence "worker-loss workspace restore lost its CAS")
  return { s with job }

/-- `mark_workbench_rebind_worker_lost`: fence a lost worker and restore the job before its cell. -/
def markWorkbenchRebindWorkerLost (runtimeGeneration : Nat) (tokenDigest : Digest)
    (restored : ProgrammableWorkspaceHandle) (clock : Clock) (s : Scope) : Except Err Scope := do
  requireCurrentRuntime runtimeGeneration s
  let read ← orRaise (lossRow tokenDigest s)
    (.invalidTransition "committed workbench recovery transfer does not exist")
  require (s.row.state = .indeterminate)
    (.invalidTransition "worker-loss recovery requires indeterminate outer state")
  require (read.job.phase = .accepted ∨ read.job.phase = .running)
    (.invalidTransition "worker-loss recovery requires a resumable workbench")
  if FencedLoss read.transfer then do
    require (read.cell.state = .lostBeforeCommit ∧ AtHandle restored read.job ∧
        read.outbox.state = .consumed)
      (.idempotencyConflict "worker-loss recovery replay changed its restore")
    return s
  else do
    require read.Current
      (.staleAttemptFence "committed workbench recovery authority is stale")
    require (NextGeneration restored read.job)
      (.invalidTransition "worker-loss restore is not the next workspace generation")
    let s ← endTransfer read.transfer s
    let s ← consumeLostOutbox read.outbox s
    let cells ← updateOne s.cells
      (fun row => row.cellExecutionId = read.transfer.cellExecutionId ∧
        row.state ∈ liveCellStates)
      (fun row => { row with state := .lostBeforeCommit })
      (Err.staleAttemptFence "worker-loss cell fencing lost its CAS")
    let s ← restoreJob read restored { s with cells }
    return insertEvent s .indeterminate .indeterminate s.row.recordRevision (clock 0)
      "workbench_rebind_worker_lost" none
      [("token_digest", .text tokenDigest),
        ("cell_execution_id", .text read.transfer.cellExecutionId),
        ("checkpoint_digest", .text read.cell.preCheckpointDigest),
        ("restored_workspace_generation", .int restored.generation)]

/-- A fenced loss joined with the authority its recovery continues. -/
structure RecoveryRow where
  job : JobRow
  authority : AuthorityRow
  transfer : TransferRow
  cell : CellRow

/-- The pending recovery of the cell that the authority is at. -/
def recoveryRow (s : Scope) : Option RecoveryRow := do
  let job ← s.job
  let authority ← s.authority
  let transfer ← fetchOne s.transfers fun row =>
    row.cellExecutionId = authority.cellExecutionId ∧ FencedLoss row
  let cell ← fetchOne s.cells (·.cellExecutionId = transfer.cellExecutionId)
  return { job, authority, transfer, cell }

/-- The authority generation a fenced loss left behind. -/
def lostGeneration (transfer : TransferRow) : Nat :=
  if transfer.state = .consumed then transfer.successorAuthorityGeneration
  else transfer.priorAuthorityGeneration

/-- `bind_workbench_recovery_authority`: a later attempt continues from the restored checkpoint. -/
def bindWorkbenchRecoveryAuthority (H : Hashing) (fence : AttemptFence)
    (workspace : ProgrammableWorkspaceHandle) (worker : WorkerIdentity) (clock : Clock)
    (s : Scope) : Except Err Scope := do
  let _ ← validateFence (clock 0) fence s.generation s
  let read ← orRaise (recoveryRow s)
    (.invalidTransition "workbench has no pending worker-loss recovery")
  let attemptId := fence.attempt.attemptId
  require (read.cell.state = .lostBeforeCommit ∧ AtHandle workspace read.job ∧
      read.authority.attemptId ≠ attemptId)
    (.staleAttemptFence "workbench recovery authority is stale")
  require (read.authority.authorityGeneration = lostGeneration read.transfer)
    (.staleAttemptFence "workbench recovery predecessor generation is stale")
  let generation := read.authority.authorityGeneration + 1
  let authority : AuthorityRow :=
    { attemptId
      attemptFence := H.attemptFence fence.dispatcherGeneration fence.leaseEpoch
        fence.ownerDigest
      authorityGeneration := generation, workerOwnerGeneration := worker.ownerGeneration
      workerProcessIdentityDigest := worker.processIdentityDigest
      workspaceId := workspace.workspace, workspaceGeneration := workspace.generation
      workspaceRevision := workspace.revision
      cellExecutionId := read.authority.cellExecutionId, rebindTokenDigest := none }
  return insertEvent { s with authority := some authority } .running .certain
    s.row.recordRevision (clock 1) "workbench_recovery_authority_bound"
    (some fence.attempt.attemptNo)
    [("prior_attempt_id", .text read.authority.attemptId),
      ("successor_attempt_id", .text attemptId), ("authority_generation", .int generation),
      ("cell_execution_id", .text read.authority.cellExecutionId)]

end WorkerLoss

end Aar.Registry
