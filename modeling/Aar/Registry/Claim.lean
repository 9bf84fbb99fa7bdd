import Mathlib.Data.List.Sort
import Aar.Registry.Lifecycle
import Aar.Registry.Successor

/-! The dispatch queue: how the oldest queued operation is claimed, expired, or cancelled. -/

namespace Aar.Registry

open Guarded Table CallerWork

section Visit

/-- What a dispatcher asks for when it claims the next queued operation. -/
structure ClaimRequest where
  runtimeGeneration : Nat
  dispatcherGeneration : Nat
  ownerDigest : Digest
  leaseDurationMs : Nat
  deriving DecidableEq

/-- The claim a dispatcher receives. -/
structure OperationDispatchClaim where
  attempt : OperationAttemptRef
  runtimeGeneration : Nat
  dispatcherGeneration : Nat
  leaseEpoch : Nat
  ownerDigest : Digest
  kind : DispatchKind
  deriving DecidableEq

/-- The fence a claim gives to its owner. -/
def OperationDispatchClaim.fence (claim : OperationDispatchClaim) : AttemptFence :=
  { attempt := claim.attempt, dispatcherGeneration := claim.dispatcherGeneration
    leaseEpoch := claim.leaseEpoch, ownerDigest := claim.ownerDigest }

/-- The attempt identifiers of an operation. -/
def attemptIds (record : OpRecord) : List String := record.attempts.map AttemptRow.attemptId

/-- `_expire_queued_unlocked`: time a queued operation out before anyone claims it. -/
def expireQueued (now : Nat) (s : Scope) : Scope :=
  let revision := s.row.recordRevision + 1
  let deadline := s.row.request.deadlineUnixMs
  let row := if s.row.state = .accepted then { s.row with
    state := .timedOut, certainty := .certain, runtimeGeneration := s.generation
    recordRevision := revision, reconciliationRequired := false } else s.row
  let dispatch := s.dispatch.map fun stored => { stored with
    state := .completed, finishedAtUnixMs := some now }
  insertEvent { s with row, dispatch } .timedOut .certain revision now
    "deadline_expired_before_claim" none [("deadline_unix_ms", .int deadline)]

/-- The operation is dispatched as a workbench job. -/
def DispatchedAs (kind : DispatchKind) (s : Scope) : Prop :=
  s.dispatch.any fun row => row.kind = kind

instance (kind : DispatchKind) (s : Scope) : Decidable (DispatchedAs kind s) :=
  inferInstanceAs (Decidable (_ = true))

/-- The outbox row waits for the successor of a settled ticket. -/
def AwaitsSuccessor (s : Scope) (outbox : OutboxRow) : Prop :=
  outbox.state = .pending ∧
    ((outboxSuspension outbox s).bind fun suspension => suspensionTicket suspension s).any
      fun ticket => SettledFor outbox ticket

instance (s : Scope) : DecidablePred (AwaitsSuccessor s) :=
  fun _ => inferInstanceAs (Decidable (_ ∧ _))

/-- An expired workbench job is still claimed when its settlement waits for a successor. -/
def ExpiredSuccessor (s : Scope) : Prop :=
  DispatchedAs .rlmWorkbenchExecute s ∧ (∃ outbox ∈ s.outbox, AwaitsSuccessor s outbox) ∧
    s.job.any fun job => job.phase = .accepted

instance (s : Scope) : Decidable (ExpiredSuccessor s) :=
  inferInstanceAs (Decidable (_ ∧ _))

/-- The transfer's worker was fenced as lost and its cell is still the latest one. -/
def RecoversLoss (s : Scope) (transfer : TransferRow) : Prop :=
  ((transfer.state = .consumed ∧ transfer.consumptionKind = some .recoveryFencedLoss) ∨
      transfer.state = .aborted) ∧
    ∃ cell ∈ s.cells, cell.cellExecutionId = transfer.cellExecutionId ∧
      cell.state = .lostBeforeCommit ∧ ∀ later ∈ s.cells, later.cellIndex ≤ cell.cellIndex

instance (s : Scope) : DecidablePred (RecoversLoss s) :=
  fun _ => inferInstanceAs (Decidable (_ ∧ _))

/-- Prepare the successor of a planner step: take a prepared cell over, or bind the settlement. -/
def prepareDelegated (H : Hashing) (successor : Successor) (now : Nat) (s : Scope) :
    Except Err (Scope × Option Digest) := do
  let taken ← takeoverPreparedPlannerCell H successor s
  match taken.2 with
  | some token => return (taken.1, some token)
  | none =>
    let prepared ← preparePlannerSuccessor H successor now taken.1
    return (prepared.1, some prepared.2)

/-- Prepare the successor of an in-cell call, unless a lost worker's cell is being recovered. -/
def prepareManaged (H : Hashing) (successor : Successor) (now : Nat) (s : Scope) :
    Except Err (Scope × Option Digest) :=
  if ∃ transfer ∈ s.transfers, RecoversLoss s transfer then .ok (s, none)
  else do
    let prepared ← prepareWorkbenchSuccessor H successor now s
    return (prepared.1, some prepared.2)

/-- Prepare what a later attempt of a workbench job continues. -/
def prepareSuccessor (H : Hashing) (successor : Successor) (now : Nat) (s : Scope) :
    Except Err (Scope × Option Digest) :=
  if DispatchedAs .rlmWorkbenchExecute s ∧ 1 < successor.attemptNo then
    if s.job.any fun job => job.spec.executionMode = .callerDelegated then
      prepareDelegated H successor now s
    else prepareManaged H successor now s
  else .ok (s, none)

/-- The event that starts a workspace successor from its restored boundary. -/
def successorStarted (attemptNo revision now : Nat) (s : Scope) : Except Err Scope :=
  if DispatchedAs .workspaceProgramExecute s ∧ 1 < attemptNo then do
    let boundary ← orRaise
      (fetchOne s.workspaceBoundaries fun row => row.priorAttemptNo + 1 = attemptNo)
      (.invalidTransition "workspace successor claim requires a restored boundary")
    return insertEvent s .running .certain revision now "successor_started" (some attemptNo)
      [("boundary_digest", .text boundary.boundary.authority.boundaryDigest),
        ("successor_attempt_no", .int attemptNo)]
  else .ok s

/-- The attempt the next claim of an operation creates. -/
def nextSuccessor (H : Hashing) (request : ClaimRequest) (s : Scope) : Successor :=
  let attemptNo := maxOf s.attempts AttemptRow.attemptNo + 1
  { attemptNo
    attemptId := H.attemptId s.operation attemptNo request.runtimeGeneration
      request.dispatcherGeneration
    dispatcherGeneration := request.dispatcherGeneration
    leaseEpoch := maxOf s.leases LeaseRow.leaseEpoch + 1
    ownerDigest := request.ownerDigest }

/-- Add the running attempt and the unreleased lease of a claim. -/
def insertAttempt (request : ClaimRequest) (successor : Successor) (now : Nat) (s : Scope) :
    Except Err Scope := do
  require (s.Fresh attemptIds successor.attemptId)
    (.integrityError "UNIQUE constraint failed: operation_attempts.attempt_id")
  return { s with
    attempts := s.attempts ++ [{
      attemptNo := successor.attemptNo, attemptId := successor.attemptId
      runtimeGeneration := request.runtimeGeneration
      dispatcherGeneration := request.dispatcherGeneration, state := runningAttempt
      certainty := .certain, recoveryReason := none, endedAtUnixMs := none
      checkpointDigest := none }]
    leases := s.leases ++ [{
      attemptNo := successor.attemptNo, leaseEpoch := successor.leaseEpoch
      ownerDigest := successor.ownerDigest, heartbeatAtUnixMs := now
      expiresAtUnixMs := now + request.leaseDurationMs, releasedAtUnixMs := none }] }

/-- Start the claimed operation and its dispatch row. -/
def startClaimed (request : ClaimRequest) (attemptNo now : Nat) (s : Scope) :
    Except Err Scope := do
  require (s.row.state = .accepted) (.staleRuntimeGeneration "operation changed during claim")
  return { s with
    row := { s.row with
      state := .running, certainty := .certain, runtimeGeneration := request.runtimeGeneration
      recordRevision := s.row.recordRevision + 1, reconciliationRequired := false }
    dispatch := patchWhere s.dispatch (·.state = .queued) fun row => { row with
      state := .running, runningAtUnixMs := some now, currentAttemptNo := some attemptNo } }

/-- Claim one queued operation: a new attempt owns it and continues what was settled. -/
def claimQueued (H : Hashing) (request : ClaimRequest) (now : Nat) (s : Scope) :
    Except Err (Scope × OperationDispatchClaim) := do
  let dispatch ← orRaise s.dispatch (.keyError s.operation)
  let successor := nextSuccessor H request s
  let attemptNo := successor.attemptNo
  let s ← insertAttempt request successor now s
  let prepared ← prepareSuccessor H successor now s
  let s ← startClaimed request attemptNo now prepared.1
  let revision := s.row.recordRevision
  let s ← successorStarted attemptNo revision now s
  let s := insertEvent s .running .certain revision now "attempt_claimed" (some attemptNo)
    ([("attempt_id", .text successor.attemptId), ("attempt_no", .int attemptNo),
      ("dispatcher_generation", .int request.dispatcherGeneration),
      ("lease_epoch", .int successor.leaseEpoch),
      ("runtime_generation", .int request.runtimeGeneration)] ++
      prepared.2.toList.map fun token => ("successor_rebind_token_digest", .text token))
  return (s,
    { attempt := ⟨s.operation, attemptNo, successor.attemptId⟩
      runtimeGeneration := request.runtimeGeneration
      dispatcherGeneration := request.dispatcherGeneration
      leaseEpoch := successor.leaseEpoch, ownerDigest := request.ownerDigest
      kind := dispatch.kind })

/-- Visit one queued operation: skip a closed one, expire a late one, or claim it. -/
def visitQueued (H : Hashing) (request : ClaimRequest) (now : Nat) (s : Scope) :
    Except Err (Scope × Option OperationDispatchClaim) :=
  if s.row.state ≠ .accepted then
    .ok ({ s with dispatch := s.dispatch.map fun row => { row with state := .parked } }, none)
  else if s.row.request.deadlineUnixMs ≤ now ∧ ¬ ExpiredSuccessor s then
    .ok (expireQueued now s, none)
  else do
    let claimed ← claimQueued H request now s
    return (claimed.1, some claimed.2)

end Visit

section Queue

/-- A queued operation, under the key it is ordered by. -/
structure QueueEntry where
  queuedAtUnixMs : Option Nat
  operation : String
  deriving DecidableEq

/-- The order of the queue: by queueing time, then by operation. -/
def QueueEntry.Before (first second : QueueEntry) : Prop :=
  first.queuedAtUnixMs.getD 0 < second.queuedAtUnixMs.getD 0 ∨
    (first.queuedAtUnixMs.getD 0 = second.queuedAtUnixMs.getD 0 ∧
      first.operation ≤ second.operation)

instance : DecidableRel QueueEntry.Before :=
  fun _ _ => inferInstanceAs (Decidable (_ ∨ _))

/-- The queue entry of an operation whose dispatch row is queued. -/
def queueEntry (entry : String × OpRecord) : Option QueueEntry :=
  match entry.2.dispatch with
  | some row => if row.state = .queued then
      some { queuedAtUnixMs := row.queuedAtUnixMs, operation := entry.1 } else none
  | none => none

/-- The queued operations in the order in which a claim visits them. -/
def dispatchQueue (db : Db) : List QueueEntry :=
  (db.operations.filterMap queueEntry).insertionSort QueueEntry.Before

/-- Visit the queue until one operation has been claimed. -/
def claimFrom (H : Hashing) (request : ClaimRequest) (now : Nat) :
    List QueueEntry → Db → Except Err (Db × Option OperationDispatchClaim)
  | [], db => .ok (db, none)
  | entry :: rest, db => do
    let visited ← db.transact entry.operation (.keyError entry.operation)
      (visitQueued H request now)
    match visited.2 with
    | some claim => return (visited.1, some claim)
    | none => claimFrom H request now rest visited.1

/-- `claim_next`: claim the oldest queued accepted operation, in one transaction. -/
def claimNext (H : Hashing) (request : ClaimRequest) (clock : Clock) (db : Db) :
    Except Err (Db × Option OperationDispatchClaim) := do
  require (0 < request.leaseDurationMs) (.valueError "lease_duration_ms must be positive")
  let named := request.runtimeGeneration
  require (named = db.generation)
    (.staleRuntimeGeneration s!"runtime generation {named} is not current")
  claimFrom H request (clock 0) (dispatchQueue db) db

end Queue

section Cancellation

/-- The lease of one attempt is still live. -/
def LiveAt (attemptNo now : Nat) (row : LeaseRow) : Prop :=
  row.attemptNo = attemptNo ∧ row.releasedAtUnixMs = none ∧ now < row.expiresAtUnixMs

instance (attemptNo now : Nat) : DecidablePred (LiveAt attemptNo now) :=
  fun _ => inferInstanceAs (Decidable (_ ∧ _))

/-- The attempt the dispatch row last ran has ended and holds no live lease. -/
def Quiescent (dispatch : DispatchRow) (now : Nat) (s : Scope) : Prop :=
  ∀ attemptNo ∈ dispatch.currentAttemptNo,
    (∃ attempt ∈ s.attempts, attempt.attemptNo = attemptNo ∧ attempt.state ≠ runningAttempt) ∧
      ∀ lease ∈ s.leases, ¬ LiveAt attemptNo now lease

instance (dispatch : DispatchRow) (now : Nat) (s : Scope) : Decidable (Quiescent dispatch now s) :=
  inferInstanceAs (Decidable (∀ attemptNo ∈ dispatch.currentAttemptNo, _))

/-- The dispatch states in which no attempt owns the operation. -/
def idleDispatches : List DispatchState := [.queued, .parked]

/-- The operation is accepted, its dispatch row is idle, and its last attempt is quiescent. -/
def Unowned (now : Nat) (s : Scope) : Prop :=
  s.row.state = .accepted ∧
    s.dispatch.any fun row => row.state ∈ idleDispatches ∧ Quiescent row now s

instance (now : Nat) (s : Scope) : Decidable (Unowned now s) :=
  inferInstanceAs (Decidable (_ ∧ _))

/-- The job phases that end a job for good. -/
def terminalPhases : List JobPhase := [.succeeded, .failed, .cancelled, .timedOut]

/-- The failure stored on a job that is cancelled before its successor is claimed. -/
def cancellationFailure (operation : String) (reasonCode : Option String) : FailureEnvelope :=
  { category := "cancelled", code := "CONFLICT"
    message := "operation cancellation completed before successor claim", retryable := false
    certainty := .certain, operation := some operation
    details := [("reason_code",
      match reasonCode with
      | none => "user_requested"
      | some code => if code = "" then "user_requested" else code)] }

/-- The cell states a cancellation ends. -/
def cancellableCells : List CellState := [.prepared, .running, .suspended]

/-- Cancel the job of an unowned operation, with everything it still waits for. -/
def cancelJob (now : Nat) (s : Scope) : Except Err Scope := do
  let absent := Err.invalidTransition "workbench cancellation authority is absent"
  let control ← orRaise s.control absent
  require (control.cancellationRequested = true) absent
  let stored ← orRaise s.job absent
  let job ← patchOne s.job (·.phase ∉ terminalPhases)
    (fun row => { row with
      phase := .cancelled, controlRevision := control.controlRevision
      cancellationRevision := stored.cancellationRevision + 1, cancellationRequested := true
      failure := some (cancellationFailure s.operation control.reasonCode)
      certainty := .certain })
    (Err.staleAttemptFence "workbench cancellation lost its phase CAS")
  return { s with
    job
    cells := updateWhere s.cells (·.state ∈ cancellableCells) fun row => { row with
      state := .cancelled }
    suspensions := updateWhere s.suspensions (·.state = .pending) fun row => { row with
      state := .cancelled, settledAtUnixMs := some now }
    outbox := updateWhere s.outbox (·.state = .prepared) fun row => { row with
      state := .consumed }
    transfers := updateWhere s.transfers (·.state = .prepared) fun row => { row with
      state := .aborted }
    stages := updateWhere s.stages (·.state = .staged) fun row => { row with
      state := .discarded } }

/-- `cancel_queued_dispatch`: cancel an accepted operation that no attempt owns. -/
def cancelQueuedDispatch (runtimeGeneration : Nat) (resultJson : Option String) (clock : Clock)
    (s : Scope) : Except Err (Scope × Bool) := do
  requireCurrentRuntime runtimeGeneration s
  let now := clock 0
  if ¬ Unowned now s then return (s, false)
  else do
    let revision := s.row.recordRevision + 1
    let s := { s with
      row := { s.row with
        state := .cancelled, certainty := .certain, recordRevision := revision
        reconciliationRequired := false, resultJson }
      dispatch := patchWhere s.dispatch (·.state ∈ idleDispatches) fun row => { row with
        state := .completed, finishedAtUnixMs := some now } }
    let s ← (if DispatchedAs .rlmWorkbenchExecute s then cancelJob now s else .ok s)
    return (insertEvent s .cancelled .certain revision now "cancelled_before_claim" none
      [("state", .text OperationState.cancelled.wire)], true)

end Cancellation

end Aar.Registry
