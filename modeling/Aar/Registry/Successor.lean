import Aar.CallerWork.Settlement
import Aar.Registry.Fence

/-! How a claim prepares the successor of a settled suspension, or takes over a prepared cell. -/

namespace Aar.Registry

open Guarded Table CallerWork

/-- The attempt a claim prepares a successor for. -/
structure Successor where
  attemptNo : Nat
  attemptId : String
  dispatcherGeneration : Nat
  leaseEpoch : Nat
  ownerDigest : Digest
  deriving DecidableEq

/-- The attempt fence digest of a successor. -/
def Successor.fence (H : Hashing) (successor : Successor) : Digest :=
  H.attemptFence successor.dispatcherGeneration successor.leaseEpoch successor.ownerDigest

/-- The owner is a frozen root-planner step. -/
def IsPlanner : LogicalOwner → Prop
  | .planner .. => True
  | .cell .. => False

instance : DecidablePred IsPlanner
  | .planner .. => isTrue trivial
  | .cell .. => isFalse not_false

/-- The states of a suspension whose ticket has ended. -/
def endedSuspensions : List SuspensionState := [.settled, .cancelled]

/-- The name of the event that records the start of an external wait. -/
def waitingEvent : String := "workbench_waiting_external"

/-- The event recorded the start of the wait of one suspension. -/
def RecordsWait (suspensionRevision : Nat) (event : EventRow) : Prop :=
  event.eventKind = waitingEvent ∧
    event.payload.lookup "suspension_revision" = some (.int suspensionRevision)

instance (suspensionRevision : Nat) : DecidablePred (RecordsWait suspensionRevision) :=
  fun _ => inferInstanceAs (Decidable (_ ∧ _))

/-- The unreleased lease of one attempt, if it still holds one. -/
def activeLease (attemptNo : Nat) (s : Scope) : Option LeaseRow :=
  fetchOne s.leases fun lease => lease.attemptNo = attemptNo ∧ lease.releasedAtUnixMs = none

/-- The settled ticket of one suspension, when its settlement is the one of an outbox row. -/
def SettledFor (outbox : OutboxRow) (ticket : TicketRow) : Prop :=
  ticket.state ∈ successorStates ∧ ticket.settledReceiptDigest = some outbox.settlementDigest

instance (outbox : OutboxRow) : DecidablePred (SettledFor outbox) :=
  fun _ => inferInstanceAs (Decidable (_ ∧ _))

/-- The ticket of one suspension. -/
def suspensionTicket (suspension : SuspensionRow) (s : Scope) : Option TicketRow :=
  fetchOne s.tickets fun ticket =>
    ticket.ticketId = suspension.ticketId ∧
      ticket.suspensionRevision = suspension.suspensionRevision

/-- The suspension an outbox row continues. -/
def outboxSuspension (outbox : OutboxRow) (s : Scope) : Option SuspensionRow :=
  fetchOne s.suspensions (·.suspensionRevision = outbox.suspensionRevision)

/-- Record the checkpoint a running successor starts from. -/
def startFrom (successor : Successor) (checkpointDigest : Option Digest) (message : String)
    (s : Scope) : Except Err Scope := do
  let attempts ← updateOne s.attempts
    (RunningAs ⟨s.operation, successor.attemptNo, successor.attemptId⟩)
    (fun row => { row with checkpointDigest }) (.staleAttemptFence message)
  return { s with attempts }

section Planner

/-- An unconsumed outbox row joined with what a root-planner claim checks. -/
structure PlannerClaim where
  outbox : OutboxRow
  suspension : SuspensionRow
  job : JobRow
  control : ControlRow

/-- The unconsumed outbox rows of an operation, joined. -/
def plannerClaims (s : Scope) : List PlannerClaim :=
  s.outbox.filterMap fun outbox =>
    if outbox.state = .pending ∨ outbox.state = .prepared then do
      let suspension ← outboxSuspension outbox s
      let job ← s.job
      let control ← s.control
      return { outbox, suspension, job, control }
    else none

/-- The control authority under which a planner successor may be prepared. -/
def PlannerClaim.Current (claim : PlannerClaim) (s : Scope) : Prop :=
  s.row.state = .accepted ∧ claim.job.phase = .accepted ∧
    claim.suspension.state ∈ endedSuspensions ∧ claim.suspension.cellExecutionId = none ∧
    claim.job.controlRevision = claim.control.controlRevision ∧
    claim.control.cancellationRequested = false ∧
    claim.suspension.controlRevision + 1 = claim.job.controlRevision

instance (claim : PlannerClaim) (s : Scope) : Decidable (claim.Current s) :=
  inferInstanceAs (Decidable (_ ∧ _))

/-- The settled model ticket a planner successor is bound to. -/
def PlannerBound (outbox : OutboxRow) (suspension : SuspensionRow) (ticket : TicketRow) : Prop :=
  SettledFor outbox ticket ∧ ticket.requestDigest = suspension.requestDigest ∧
    ticket.method = .modelRequest ∧ ticket.logicalOwner = suspension.logicalOwner

instance (outbox : OutboxRow) (suspension : SuspensionRow) :
    DecidablePred (PlannerBound outbox suspension) :=
  fun _ => inferInstanceAs (Decidable (_ ∧ _))

/-- The attempt that entered the external wait of one suspension. -/
def waitingAttempt (suspensionRevision : Nat) (s : Scope) : Except Err Nat := do
  let missing := Err.invalidTransition "planner successor predecessor event is not unique"
  let event ← theOnly (s.events.filter fun event => RecordsWait suspensionRevision event) missing
  orRaise event.attemptNo missing

/-- The attempt an earlier claim prepared may still consume its outbox row. -/
def StillLive (prior : AttemptRow) (lease : Option LeaseRow) (dispatch : DispatchRow)
    (now : Nat) : Prop :=
  (prior.state = runningAttempt ∧
      lease.any fun row => row.releasedAtUnixMs = none ∧ now < row.expiresAtUnixMs) ∨
    RunsAs prior.attemptNo dispatch

instance (prior : AttemptRow) (lease : Option LeaseRow) (dispatch : DispatchRow) (now : Nat) :
    Decidable (StillLive prior lease dispatch now) :=
  inferInstanceAs (Decidable (_ ∨ _))

/-- Raise while the attempt an earlier claim prepared may still consume its outbox row. -/
def requireDeparted (outbox : OutboxRow) (now : Nat) (s : Scope) : Except Err Unit := do
  let live := Err.staleAttemptFence "prepared planner successor owner is still live"
  let prior ← orRaise
    (fetchOne s.attempts fun row => some row.attemptId = outbox.successorAttemptId) live
  let dispatch ← orRaise s.dispatch live
  let lease := fetchOne s.leases (·.attemptNo = prior.attemptNo)
  require (¬ StillLive prior lease dispatch now) live

/-- The outbox row as it was read, while it is still unconsumed. -/
def UnchangedOutbox (read : OutboxRow) (row : OutboxRow) : Prop :=
  row.suspensionRevision = read.suspensionRevision ∧ row.state = read.state ∧
    row.rebindGeneration = read.rebindGeneration ∧
    (read.state = .prepared →
      row.successorAttemptId = read.successorAttemptId ∧
        row.successorAttemptFence = read.successorAttemptFence)

instance (read : OutboxRow) : DecidablePred (UnchangedOutbox read) :=
  fun _ => inferInstanceAs (Decidable (_ ∧ _))

/-- Prepare an unconsumed outbox row for a successor under the next rebind generation. -/
def prepareOutbox (H : Hashing) (read : OutboxRow) (successor : Successor) (message : String)
    (s : Scope) : Except Err Scope := do
  let outbox ← updateOne s.outbox (UnchangedOutbox read)
    (fun row => { row with
      state := .prepared, rebindGeneration := read.rebindGeneration + 1
      successorAttemptId := some successor.attemptId
      successorAttemptFence := some (successor.fence H) })
    (.staleAttemptFence message)
  return { s with outbox }

/-- The event that records the preparation of a planner successor. -/
def preparedEvent (H : Hashing) (outbox : OutboxRow) (successor : Successor)
    (predecessorAttemptNo : Nat) : String × Payload :=
  let generation := outbox.rebindGeneration + 1
  let fence := successor.fence H
  let payload : Payload :=
    [("outbox_digest", .text outbox.outboxDigest),
      ("suspension_revision", .int outbox.suspensionRevision),
      ("rebind_generation", .int generation),
      ("successor_attempt_id", .text successor.attemptId),
      ("successor_attempt_fence", .text fence),
      ("predecessor_attempt_no", .int predecessorAttemptNo)]
  if outbox.state = .prepared then
    ("planner_successor_prepare_rebound", payload ++
      [("old_successor_attempt_id", .text (outbox.successorAttemptId.getD "None")),
        ("old_successor_attempt_fence", .text (outbox.successorAttemptFence.getD "None")),
        ("old_rebind_generation", .int outbox.rebindGeneration),
        ("new_successor_attempt_id", .text successor.attemptId),
        ("new_successor_attempt_fence", .text fence),
        ("new_rebind_generation", .int generation)])
  else ("planner_successor_prepared", payload)

/-- The checks before a planner successor is prepared; the result names its predecessor. -/
def checkPlannerClaim (claim : PlannerClaim) (s : Scope) : Except Err Nat := do
  require (claim.Current s)
    (.invalidTransition "planner successor control authority is stale")
  require (IsPlanner claim.suspension.logicalOwner)
    (.invalidTransition "planner successor owner is invalid")
  let stale := Err.invalidTransition "planner successor settlement binding is stale"
  let ticket ← orRaise (suspensionTicket claim.suspension s) stale
  require (PlannerBound claim.outbox claim.suspension ticket) stale
  let predecessor ← waitingAttempt claim.outbox.suspensionRevision s
  require (∃ row ∈ s.attempts, row.attemptNo = predecessor ∧ row.state = .suspendedExternal)
    (.staleAttemptFence "planner predecessor attempt is not suspended")
  require (activeLease predecessor s = none)
    (.staleAttemptFence "planner predecessor still owns a lease")
  return predecessor

/-- `_prepare_planner_successor_unlocked`: bind the settled planner step to a new attempt. -/
def preparePlannerSuccessor (H : Hashing) (successor : Successor) (now : Nat) (s : Scope) :
    Except Err (Scope × Digest) := do
  let claim ← theOnly (plannerClaims s)
    (.invalidTransition "planner successor claim requires exactly one outbox")
  let predecessor ← checkPlannerClaim claim s
  let outbox := claim.outbox
  if outbox.state = .prepared ∧ outbox.successorAttemptId = some successor.attemptId ∧
      outbox.successorAttemptFence = some (successor.fence H) then
    return (s, outbox.outboxDigest)
  else do
    runWhen (outbox.state = .prepared) (requireDeparted outbox now s)
    let s ← prepareOutbox H outbox successor
      "planner successor outbox changed during prepare" s
    let event := preparedEvent H outbox successor predecessor
    return (insertEvent s s.row.state .certain s.row.recordRevision now event.1
      (some successor.attemptNo) event.2, outbox.outboxDigest)

/-- A prepared cell joined with its authority and the attempt that prepared it. -/
structure PreparedCell where
  cell : CellRow
  authority : AuthorityRow
  prior : AttemptRow

/-- The prepared cell of an operation, joined. -/
def preparedCell (s : Scope) : Option PreparedCell :=
  s.cells.findSome? fun cell =>
    if cell.state = .prepared then do
      let authority ← s.authority
      let prior ← fetchOne s.attempts (·.attemptId = cell.attemptId)
      return { cell, authority, prior }
    else none

/-- The authority and the cell were left by the attempt right before the successor. -/
def PreparedCell.Abandoned (prepared : PreparedCell) (attemptNo : Nat) : Prop :=
  prepared.prior.attemptNo + 1 = attemptNo ∧ prepared.prior.state = .outer .indeterminate ∧
    prepared.authority.attemptId = prepared.cell.attemptId ∧
    prepared.authority.attemptFence = prepared.cell.attemptFence ∧
    prepared.authority.cellExecutionId = prepared.cell.cellExecutionId

instance (prepared : PreparedCell) (attemptNo : Nat) : Decidable (prepared.Abandoned attemptNo) :=
  inferInstanceAs (Decidable (_ ∧ _))

/-- The row is the cell as it was read. -/
def SameCell (read : CellRow) (row : CellRow) : Prop :=
  row.cellExecutionId = read.cellExecutionId ∧ row.state = read.state ∧
    row.attemptId = read.attemptId ∧ row.attemptFence = read.attemptFence

instance (read : CellRow) : DecidablePred (SameCell read) :=
  fun _ => inferInstanceAs (Decidable (_ ∧ _))

/-- The row is the authority as it was read. -/
def SameAuthority (read : AuthorityRow) (row : AuthorityRow) : Prop :=
  row.attemptId = read.attemptId ∧ row.attemptFence = read.attemptFence ∧
    row.authorityGeneration = read.authorityGeneration ∧
    row.cellExecutionId = read.cellExecutionId

instance (read : AuthorityRow) : DecidablePred (SameAuthority read) :=
  fun _ => inferInstanceAs (Decidable (_ ∧ _))

/-- `_takeover_prepared_planner_cell_unlocked`: continue a cell whose owner was lost. -/
def takeoverPreparedPlannerCell (H : Hashing) (successor : Successor) (s : Scope) :
    Except Err (Scope × Option Digest) :=
  match preparedCell s with
  | none => .ok (s, none)
  | some prepared => do
    require (prepared.Abandoned successor.attemptNo)
      (.staleAttemptFence "prepared planner cell predecessor authority is stale")
    let fence := successor.fence H
    let cells ← updateOne s.cells (SameCell prepared.cell)
      (fun row => { row with attemptId := successor.attemptId, attemptFence := fence })
      (Err.staleAttemptFence "prepared planner cell changed during takeover")
    let authority ← patchOne s.authority (SameAuthority prepared.authority)
      (fun row => { row with
        attemptId := successor.attemptId, attemptFence := fence
        authorityGeneration := row.authorityGeneration + 1, rebindTokenDigest := none })
      (Err.staleAttemptFence "prepared planner authority changed during takeover")
    let s ← startFrom successor (some prepared.cell.preCheckpointDigest)
      "prepared planner successor attempt changed" { s with cells, authority }
    return (s, some (H.preparedCellRecovery s.operation prepared.cell.cellExecutionId
      successor.attemptId fence))

end Planner

section Workbench

/-- A pending outbox row joined with what an in-cell successor claim checks. -/
structure WorkbenchClaim where
  outbox : OutboxRow
  suspension : SuspensionRow
  job : JobRow
  control : ControlRow
  authority : AuthorityRow

/-- The pending outbox rows of an operation, joined. -/
def workbenchClaims (s : Scope) : List WorkbenchClaim :=
  s.outbox.filterMap fun outbox =>
    if outbox.state = .pending then do
      let suspension ← outboxSuspension outbox s
      let job ← s.job
      let control ← s.control
      let authority ← s.authority
      return { outbox, suspension, job, control, authority }
    else none

/-- The control authority under which an in-cell successor may be prepared. -/
def WorkbenchClaim.Current (claim : WorkbenchClaim) : Prop :=
  claim.job.phase = .accepted ∧ claim.suspension.state ∈ endedSuspensions ∧
    claim.job.controlRevision = claim.control.controlRevision ∧
    claim.control.cancellationRequested = false ∧
    claim.suspension.cellExecutionId = some claim.authority.cellExecutionId

instance (claim : WorkbenchClaim) : Decidable claim.Current :=
  inferInstanceAs (Decidable (_ ∧ _))

/-- The unreleased lease of the attempt with one identifier. -/
def activeLeaseOf (attemptId : String) (s : Scope) : Option LeaseRow :=
  fetchOne s.leases fun lease => lease.releasedAtUnixMs = none ∧
    ∃ attempt ∈ s.attempts, attempt.attemptNo = lease.attemptNo ∧ attempt.attemptId = attemptId

/-- The checks before an in-cell successor is prepared. -/
def checkWorkbenchClaim (claim : WorkbenchClaim) (now : Nat) (s : Scope) : Except Err Unit := do
  require claim.Current (.invalidTransition "workbench successor control authority is stale")
  require (now < claim.job.cumulativeDeadlineUnixMs)
    (.invalidTransition "workbench successor token deadline has expired")
  require (∃ row ∈ s.attempts,
      row.attemptId = claim.authority.attemptId ∧ row.state = .suspendedExternal)
    (.staleAttemptFence "workbench predecessor attempt is not suspended")
  require (activeLeaseOf claim.authority.attemptId s = none)
    (.staleAttemptFence "workbench predecessor still owns a lease")
  let stale := Err.invalidTransition "workbench successor settlement binding is stale"
  let ticket ← orRaise (suspensionTicket claim.suspension s) stale
  require (SettledFor claim.outbox ticket) stale

/-- The token that lets one successor rebind the live workspace of its predecessor. -/
def rebindTokenFor (H : Hashing) (claim : WorkbenchClaim) (successor : Successor) (s : Scope) :
    RebindToken :=
  { operation := s.operation
    rebindGeneration := claim.outbox.rebindGeneration + 1
    priorAuthorityGeneration := claim.authority.authorityGeneration
    successorAuthorityGeneration := claim.authority.authorityGeneration + 1
    expectedControlRevision := claim.job.controlRevision
    expectedCancellationRevision := claim.job.cancellationRevision
    expectedCumulativeDeadlineUnixMs := claim.job.cumulativeDeadlineUnixMs
    priorAttemptId := claim.authority.attemptId
    priorAttemptFence := claim.authority.attemptFence
    successorAttemptId := successor.attemptId
    successorAttemptFence := successor.fence H
    workspace := claim.authority.workspaceId
    workspaceGeneration := claim.authority.workspaceGeneration
    workspaceRevision := claim.authority.workspaceRevision
    cellExecutionId := claim.suspension.cellExecutionId.getD "None"
    suspensionRevision := claim.outbox.suspensionRevision
    ticketId := claim.suspension.ticketId
    settledReceiptDigest := claim.outbox.settlementDigest
    successorOutboxDigest := claim.outbox.outboxDigest
    workerOwnerGeneration := claim.authority.workerOwnerGeneration
    workerProcessIdentityDigest := claim.authority.workerProcessIdentityDigest
    expiresAtUnixMs := claim.job.cumulativeDeadlineUnixMs }

/-- The transfer row a rebind token is stored as. -/
def transferFor (H : Hashing) (token : RebindToken) : TransferRow :=
  { tokenDigest := H.rebindToken token
    suspensionRevision := token.suspensionRevision
    settlementDigest := token.settledReceiptDigest
    outboxDigest := token.successorOutboxDigest
    rebindGeneration := token.rebindGeneration
    priorAuthorityGeneration := token.priorAuthorityGeneration
    successorAuthorityGeneration := token.successorAuthorityGeneration
    expectedControlRevision := token.expectedControlRevision
    expectedCancellationRevision := token.expectedCancellationRevision
    expectedCumulativeDeadlineUnixMs := token.expectedCumulativeDeadlineUnixMs
    priorAttemptId := token.priorAttemptId
    priorAttemptFence := token.priorAttemptFence
    successorAttemptId := token.successorAttemptId
    successorAttemptFence := token.successorAttemptFence
    workerOwnerGeneration := token.workerOwnerGeneration
    workerProcessIdentityDigest := token.workerProcessIdentityDigest
    workspaceId := token.workspace
    workspaceGeneration := token.workspaceGeneration
    workspaceRevision := token.workspaceRevision
    cellExecutionId := token.cellExecutionId
    expiresAtUnixMs := token.expiresAtUnixMs
    state := .prepared, consumptionKind := none, ackDigest := none }

/-- The token digests of an operation's transfers. -/
def tokenDigests (record : OpRecord) : List Digest := record.transfers.map TransferRow.tokenDigest

/-- `_prepare_workbench_successor_unlocked`: mint the rebind token of an in-cell successor. -/
def prepareWorkbenchSuccessor (H : Hashing) (successor : Successor) (now : Nat) (s : Scope) :
    Except Err (Scope × Digest) := do
  let claim ← theOnly (workbenchClaims s)
    (.invalidTransition "workbench successor claim requires exactly one pending outbox")
  checkWorkbenchClaim claim now s
  let transfer := transferFor H (rebindTokenFor H claim successor s)
  require (s.Fresh tokenDigests transfer.tokenDigest)
    (.integrityError "UNIQUE constraint failed: rlm_workbench_rebind_transfers.token_digest")
  let transfers ← insertUnique s.transfers
    (fun row => row.suspensionRevision = transfer.suspensionRevision ∧
      row.rebindGeneration = transfer.rebindGeneration) transfer
    (Err.integrityError "UNIQUE constraint failed: rlm_workbench_rebind_transfers")
  let s ← prepareOutbox H claim.outbox successor
    "workbench successor outbox changed during prepare" { s with transfers }
  let s ← startFrom successor claim.suspension.checkpointDigest
    "workbench successor attempt changed during prepare" s
  return (s, transfer.tokenDigest)

end Workbench

end Aar.Registry
