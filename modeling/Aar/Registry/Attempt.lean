import Mathlib.Data.List.Sort
import Aar.Registry.Lifecycle

/-! What the owner of a live attempt may do, how attempts close, and how expired ones are fenced. -/

namespace Aar.Registry

open Guarded Table

section Owner

/-- The row is the lease of one attempt and epoch. -/
def LeasedAs (attemptNo leaseEpoch : Nat) (row : LeaseRow) : Prop :=
  row.attemptNo = attemptNo ∧ row.leaseEpoch = leaseEpoch

instance (attemptNo leaseEpoch : Nat) : DecidablePred (LeasedAs attemptNo leaseEpoch) :=
  fun _ => inferInstanceAs (Decidable (_ ∧ _))

/-- The row is the attempt a reference names. -/
def NamedAs (attempt : OperationAttemptRef) (row : AttemptRow) : Prop :=
  row.attemptNo = attempt.attemptNo ∧ row.attemptId = attempt.attemptId

instance (attempt : OperationAttemptRef) : DecidablePred (NamedAs attempt) :=
  fun _ => inferInstanceAs (Decidable (_ ∧ _))

/-- `heartbeat`: extend a live lease when every attempt fence matches exactly. -/
def heartbeat (fence : AttemptFence) (runtimeGeneration leaseDurationMs : Nat) (clock : Clock)
    (s : Scope) : Except Err Scope := do
  require (0 < leaseDurationMs) (.valueError "lease_duration_ms must be positive")
  let _ ← validateFence (clock 0) fence runtimeGeneration s
  return { s with
    leases := updateWhere s.leases (LeasedAs fence.attempt.attemptNo fence.leaseEpoch) fun row =>
      { row with
        heartbeatAtUnixMs := clock 1, expiresAtUnixMs := clock 1 + leaseDurationMs } }

/-- `transition_claimed`: commit a fenced attempt outcome and release its ownership. -/
def transitionClaimed (fence : AttemptFence) (runtimeGeneration : Nat) (state : OperationState)
    (resultJson : Option String) (failure : Option FailureEnvelope) (note : String)
    (clock : Clock) (s : Scope) : Except Err Scope := do
  require (state.Terminal ∨ state = .indeterminate)
    (.valueError "claimed outcome must be terminal or indeterminate")
  let _ ← validateFence (clock 0) fence runtimeGeneration s
  require (s.row.state = .running) (.staleAttemptFence "outer operation is no longer running")
  require (s.row.runtimeGeneration = runtimeGeneration)
    (.staleAttemptFence "outer operation changed during claimed commit")
  let attemptNo := fence.attempt.attemptNo
  let revision := s.row.recordRevision + 1
  let now := clock 1
  let reason := if state = .indeterminate then some note else none
  let s := { s with
    row := { s.row with
      state, certainty := closedCertainty state, recordRevision := revision
      reconciliationRequired := decide (state = .indeterminate), resultJson, failure }
    attempts := updateWhere s.attempts (RunningAs fence.attempt) fun row => { row with
      state := .outer state, certainty := closedCertainty state, recoveryReason := reason
      endedAtUnixMs := some now }
    leases := updateWhere s.leases (HeldAs attemptNo fence.leaseEpoch) fun row => { row with
      releasedAtUnixMs := some now }
    dispatch := patchWhere s.dispatch (RunsAs attemptNo) fun row => { row with
      state := closedDispatch state, finishedAtUnixMs := some now } }
  return insertEvent s state (closedCertainty state) revision now note (some attemptNo)
    [("attempt_no", .int attemptNo), ("state", .text state.wire)]

/-- `park_attempt`: commit a fenced attempt as indeterminate. -/
def parkAttempt (fence : AttemptFence) (runtimeGeneration : Nat) (note : String) :
    Clock → Scope → Except Err Scope :=
  transitionClaimed fence runtimeGeneration .indeterminate none none note

/-- The artifact reference a checkpoint binding repeats. -/
structure ArtifactReference where
  artifact : String
  digest : Digest
  mediaType : String
  sizeBytes : Nat
  createdBy : String
  redacted : Bool
  deriving DecidableEq

/-- `bind_checkpoint`: bind one portable artifact checkpoint to the exact live attempt. -/
def bindCheckpoint (fence : AttemptFence) (runtimeGeneration : Nat)
    (checkpoint : ArtifactReference) (environmentDigest : Digest) (clock : Clock) (s : Scope) :
    Except Err Scope := do
  require (checkpoint.redacted = false)
    (.valueError "redacted artifacts cannot be continuity checkpoints")
  let _ ← validateFence (clock 0) fence runtimeGeneration s
  let attemptNo := fence.attempt.attemptNo
  let row : CheckpointRow :=
    { attemptNo, checkpointDigest := checkpoint.digest, environmentDigest
      artifactId := checkpoint.artifact, mediaType := checkpoint.mediaType
      sizeBytes := checkpoint.sizeBytes, createdByOperationId := checkpoint.createdBy
      createdAtUnixMs := clock 1 }
  match fetchOne s.checkpoints fun stored =>
      stored.attemptNo = attemptNo ∧ stored.checkpointDigest = checkpoint.digest with
  | some existing => do
    require ({ existing with createdAtUnixMs := clock 1 } = row)
      (.idempotencyConflict "checkpoint digest already binds different artifact metadata")
    return s
  | none =>
    let s := { s with
      checkpoints := s.checkpoints ++ [row]
      attempts := updateWhere s.attempts (NamedAs fence.attempt) fun stored =>
        { stored with checkpointDigest := some checkpoint.digest } }
    return insertEvent s s.row.state s.row.certainty s.row.recordRevision (clock 1)
      "checkpoint_bound" (some attemptNo) [("checkpoint_digest", .text checkpoint.digest)]

/-- `finish_attempt`: close a fenced attempt after the outer operation has been decided. -/
def finishAttempt (fence : AttemptFence) (runtimeGeneration : Nat) (clock : Clock) (s : Scope) :
    Except Err Scope := do
  let stored ← orRaise (fencedAttempt fence s)
    (.staleAttemptFence "attempt identity is not current")
  if stored.state ≠ runningAttempt then do
    validateClosedFence fence stored runtimeGeneration s
    return s
  else do
    let _ ← validateFence (clock 0) fence runtimeGeneration s
    require (s.row.state.Terminal ∨ s.row.state = .indeterminate)
      (.invalidTransition "attempt can finish only after a terminal or indeterminate outer state")
    let now := clock 1
    return { s with
      attempts := updateWhere s.attempts (NamedAs fence.attempt) fun row => { row with
        state := .outer s.row.state, certainty := closedCertainty s.row.state
        endedAtUnixMs := some now }
      leases := updateWhere s.leases (LeasedAs fence.attempt.attemptNo fence.leaseEpoch)
        fun row => { row with releasedAtUnixMs := some now }
      dispatch := s.dispatch.map fun row => { row with
        state := closedDispatch s.row.state, finishedAtUnixMs := some now } }

end Owner

section Expiry

/-- An expired lease of a running attempt, with the operation it belongs to. -/
structure ExpiredLease where
  expiresAtUnixMs : Nat
  operation : String
  attemptNo : Nat
  leaseEpoch : Nat

/-- The order in which expired leases are fenced. -/
def ExpiredLease.Before (first second : ExpiredLease) : Prop :=
  first.expiresAtUnixMs < second.expiresAtUnixMs ∨
    (first.expiresAtUnixMs = second.expiresAtUnixMs ∧ first.operation ≤ second.operation)

instance : DecidableRel ExpiredLease.Before :=
  fun _ _ => inferInstanceAs (Decidable (_ ∨ _))

/-- The lease is unreleased, belongs to one attempt, and has expired. -/
def ExpiredBy (now attemptNo : Nat) (row : LeaseRow) : Prop :=
  row.attemptNo = attemptNo ∧ row.releasedAtUnixMs = none ∧ row.expiresAtUnixMs ≤ now

instance (now attemptNo : Nat) : DecidablePred (ExpiredBy now attemptNo) :=
  fun _ => inferInstanceAs (Decidable (_ ∧ _))

/-- The expired leases of one running operation. -/
def expiredLeases (now : Nat) (operation : String) (record : OpRecord) : List ExpiredLease :=
  match record.dispatch.bind DispatchRow.currentAttemptNo with
  | some attemptNo =>
    if record.row.state = .running ∧ DispatchRuns record.dispatch attemptNo ∧
        ∃ attempt ∈ record.attempts,
          attempt.attemptNo = attemptNo ∧ attempt.state = runningAttempt then
      (record.leases.filter fun row => ExpiredBy now attemptNo row).map fun row =>
        { expiresAtUnixMs := row.expiresAtUnixMs, operation, attemptNo
          leaseEpoch := row.leaseEpoch }
    else []
  | none => []

/-- Fence the attempt of one expired lease. -/
def fenceExpired (attemptNo leaseEpoch now : Nat) (s : Scope) : Scope :=
  let revision := s.row.recordRevision + 1
  let row := if s.row.state = .running then { s.row with
    state := .indeterminate, certainty := .indeterminate, recordRevision := revision
    reconciliationRequired := true } else s.row
  let s := { s with
    row
    attempts := updateWhere s.attempts
      (fun stored => stored.attemptNo = attemptNo ∧ stored.state = runningAttempt)
      fun stored => { stored with
        state := .outer .indeterminate, certainty := .indeterminate
        recoveryReason := some "lease_expired", endedAtUnixMs := some now }
    leases := updateWhere s.leases (HeldAs attemptNo leaseEpoch) fun stored => { stored with
      releasedAtUnixMs := some now } }
  insertEvent s .indeterminate .indeterminate revision now "lease_expired" (some attemptNo)
    [("attempt_no", .int attemptNo), ("lease_epoch", .int leaseEpoch)]

/-- Fence the listed expired leases in order. -/
def fenceEach (now : Nat) : List ExpiredLease → Db → Db
  | [], db => db
  | lease :: rest, db =>
    match db.lookup lease.operation with
    | some record =>
      fenceEach now rest (db.commit lease.operation
        (fenceExpired lease.attemptNo lease.leaseEpoch now (db.scope lease.operation record)))
    | none => fenceEach now rest db

/-- `fence_expired_attempts`: fence expired running attempts before recovery policy runs. -/
def fenceExpiredAttempts (runtimeGeneration : Nat) (clock : Clock) (db : Db) : Except Err Db := do
  require (runtimeGeneration = db.generation)
    (.staleRuntimeGeneration s!"runtime generation {runtimeGeneration} is not current")
  let expired := db.operations.flatMap fun entry => expiredLeases (clock 0) entry.1 entry.2
  return fenceEach (clock 0) (expired.insertionSort ExpiredLease.Before) db

end Expiry

end Aar.Registry
