import Aar.Lib.Table
import Aar.Schema.Hashing

/-! The checks and small writes that the registry's transactions share. -/

namespace Aar.Registry

open Guarded Table

/-- The state of an attempt that owns its operation. -/
abbrev runningAttempt : AttemptState := .outer .running

/-- Raise unless the caller names the current runtime generation. -/
def requireCurrentRuntime (runtimeGeneration : Nat) (s : Scope) : Except Err Unit :=
  require (runtimeGeneration = s.generation)
    (.staleRuntimeGeneration s!"runtime generation {runtimeGeneration} is not current")

/-- Append one event under the next sequence number. -/
def insertEvent (s : Scope) (state : OperationState) (certainty : OutcomeCertainty)
    (revision now : Nat) (note : String) (attemptNo : Option Nat) (payload : Payload) : Scope :=
  { s with
    lastSequence := s.lastSequence + 1
    events := s.events ++ [{
      sequence := s.lastSequence + 1
      state, certainty, recordRevision := revision, atUnixMs := now
      note, attemptNo, eventKind := note, payload }] }

/-- The attempt a fence names. -/
def fencedAttempt (fence : AttemptFence) (s : Scope) : Option AttemptRow :=
  fetchOne s.attempts fun attempt =>
    attempt.attemptNo = fence.attempt.attemptNo ∧ attempt.attemptId = fence.attempt.attemptId

/-- The lease a fence names. -/
def fencedLease (attemptNo leaseEpoch : Nat) (s : Scope) : Option LeaseRow :=
  fetchOne s.leases fun lease => lease.attemptNo = attemptNo ∧ lease.leaseEpoch = leaseEpoch

/-- The dispatch row is running one attempt. -/
def RunsAs (attemptNo : Nat) (row : DispatchRow) : Prop :=
  row.state = .running ∧ row.currentAttemptNo = some attemptNo

instance (attemptNo : Nat) : DecidablePred (RunsAs attemptNo) :=
  fun _ => inferInstanceAs (Decidable (_ ∧ _))

/-- The dispatch table runs exactly this attempt. -/
def DispatchRuns (dispatch : Option DispatchRow) (attemptNo : Nat) : Prop :=
  dispatch.any fun row => RunsAs attemptNo row

instance (dispatch : Option DispatchRow) (attemptNo : Nat) :
    Decidable (DispatchRuns dispatch attemptNo) :=
  inferInstanceAs (Decidable (_ = true))

/-- `_validate_fence_unlocked`: every part of the fence still matches a live attempt. -/
def validateFence (now : Nat) (fence : AttemptFence) (runtimeGeneration : Nat) (s : Scope) :
    Except Err (AttemptRow × LeaseRow) := do
  require (runtimeGeneration = s.generation)
    (.staleAttemptFence "runtime generation fence is stale")
  let attempt ← orRaise (fencedAttempt fence s)
    (.staleAttemptFence "attempt identity is not current")
  require (attempt.runtimeGeneration = runtimeGeneration)
    (.staleAttemptFence "attempt runtime generation fence is stale")
  require (attempt.dispatcherGeneration = fence.dispatcherGeneration)
    (.staleAttemptFence "dispatcher generation fence is stale")
  require (attempt.state = runningAttempt) (.staleAttemptFence "attempt is no longer running")
  let lease ← orRaise (fencedLease fence.attempt.attemptNo fence.leaseEpoch s)
    (.staleAttemptFence "lease epoch is stale")
  require (lease.ownerDigest = fence.ownerDigest)
    (.staleAttemptFence "lease owner fence is stale")
  require (lease.releasedAtUnixMs = none) (.staleAttemptFence "lease has been released")
  require (now < lease.expiresAtUnixMs) (.staleAttemptFence "lease has expired")
  require (DispatchRuns s.dispatch fence.attempt.attemptNo)
    (.staleAttemptFence "dispatch no longer owns this attempt")
  require (s.row.runtimeGeneration = runtimeGeneration)
    (.staleAttemptFence "outer runtime generation fence is stale")
  require (s.row.state ≠ .accepted) (.staleAttemptFence "outer operation fence is stale")
  return (attempt, lease)

/-- What a closed attempt of a suspended operation must still look like. -/
def SuspendedProjection (attemptNo : Nat) (s : Scope) : Prop :=
  s.row.state = .accepted ∧
    (s.dispatch.any fun row => row.state = .parked ∧ row.currentAttemptNo = some attemptNo) ∧
    (s.job.any fun job => job.phase = .waitingExternal)

instance (attemptNo : Nat) (s : Scope) : Decidable (SuspendedProjection attemptNo s) :=
  inferInstanceAs (Decidable (_ ∧ _))

/-- The dispatch state that belongs to a closed outer state. -/
def closedDispatch (outer : OperationState) : DispatchState :=
  if outer = .indeterminate then .parked else .completed

/-- The certainty that belongs to a closed outer state. -/
def closedCertainty (outer : OperationState) : OutcomeCertainty :=
  if outer = .indeterminate then .indeterminate else .certain

/-- `_validate_closed_fence_unlocked`: the fence named an attempt that has already been closed. -/
def validateClosedFence (fence : AttemptFence) (attempt : AttemptRow) (runtimeGeneration : Nat)
    (s : Scope) : Except Err Unit := do
  require (runtimeGeneration = s.generation)
    (.staleAttemptFence "runtime generation fence is stale")
  require (attempt.runtimeGeneration = runtimeGeneration)
    (.staleAttemptFence "attempt runtime generation fence is stale")
  require (attempt.dispatcherGeneration = fence.dispatcherGeneration)
    (.staleAttemptFence "dispatcher generation fence is stale")
  let lease ← orRaise (fencedLease attempt.attemptNo fence.leaseEpoch s)
    (.staleAttemptFence "closed lease ownership fence is stale")
  require (lease.ownerDigest = fence.ownerDigest)
    (.staleAttemptFence "closed lease ownership fence is stale")
  require (lease.releasedAtUnixMs ≠ none)
    (.staleAttemptFence "closed attempt still has a live lease")
  require (s.row.runtimeGeneration = runtimeGeneration)
    (.staleAttemptFence "outer runtime generation fence is stale")
  if attempt.state = .suspendedExternal then
    require (SuspendedProjection attempt.attemptNo s)
      (.staleAttemptFence "suspended workbench attempt projection is stale")
  else do
    require (s.row.state.Terminal ∨ s.row.state = .indeterminate)
      (.staleAttemptFence "outer operation is not closed")
    require (s.dispatch.any fun row =>
        row.state = closedDispatch s.row.state ∧ row.currentAttemptNo = some attempt.attemptNo)
      (.staleAttemptFence "closed dispatch fence is stale")

/-- The row is the running attempt a fence names. -/
def RunningAs (attempt : OperationAttemptRef) (row : AttemptRow) : Prop :=
  row.attemptNo = attempt.attemptNo ∧ row.attemptId = attempt.attemptId ∧
    row.state = runningAttempt

instance (attempt : OperationAttemptRef) : DecidablePred (RunningAs attempt) :=
  fun _ => inferInstanceAs (Decidable (_ ∧ _))

/-- The row is the unreleased lease of one attempt and epoch. -/
def HeldAs (attemptNo leaseEpoch : Nat) (row : LeaseRow) : Prop :=
  row.attemptNo = attemptNo ∧ row.leaseEpoch = leaseEpoch ∧ row.releasedAtUnixMs = none

instance (attemptNo leaseEpoch : Nat) : DecidablePred (HeldAs attemptNo leaseEpoch) :=
  fun _ => inferInstanceAs (Decidable (_ ∧ _))

/-- Close the running attempt a reference names. -/
def closeAttempt (attempt : OperationAttemptRef) (state : AttemptState)
    (reason : AttemptRow → Option String) (now : Nat) (message : String) (s : Scope) :
    Except Err Scope := do
  let attempts ← updateOne s.attempts (RunningAs attempt)
    (fun row => { row with
      state, certainty := .certain, recoveryReason := reason row, endedAtUnixMs := some now })
    (.staleAttemptFence message)
  return { s with attempts }

/-- Release the unreleased lease of one attempt and epoch. -/
def releaseLease (attemptNo leaseEpoch now : Nat) (message : String) (s : Scope) :
    Except Err Scope := do
  let leases ← updateOne s.leases (HeldAs attemptNo leaseEpoch)
    (fun row => { row with releasedAtUnixMs := some now }) (.staleAttemptFence message)
  return { s with leases }

/-- Move the running outer operation at a known revision to another certain state. -/
def closeOuter (recordRevision : Nat) (state : OperationState)
    (failure : OperationRow → Option FailureEnvelope) (message : String) (s : Scope) :
    Except Err Scope := do
  require (s.row.state = .running ∧ s.row.recordRevision = recordRevision)
    (.staleAttemptFence message)
  return { s with row := { s.row with
    state, certainty := .certain, recordRevision := recordRevision + 1
    reconciliationRequired := false, failure := failure s.row } }

/-- Finish the dispatch row that runs one attempt. -/
def closeRunningDispatch (attemptNo : Nat) (state : DispatchState) (now : Nat) (message : String)
    (s : Scope) : Except Err Scope := do
  let dispatch ← patchOne s.dispatch (RunsAs attemptNo)
    (fun row => { row with state, finishedAtUnixMs := some now }) (.staleAttemptFence message)
  return { s with dispatch }

end Aar.Registry
