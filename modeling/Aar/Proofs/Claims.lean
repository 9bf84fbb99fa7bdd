import Aar.Proofs.Transitions

/-! What a visit to one queued operation does: it is skipped, expired, or claimed for a new attempt. -/

namespace Aar.Registry

open Guarded Table CallerWork

section Preparation

variable {H : Hashing} {s s' : Scope}

/-- The attempts after a successor recorded the checkpoint it starts from. -/
abbrev startedFrom (operation : String) (successor : Successor) (checkpoint : Option Digest)
    (attempts : List AttemptRow) : List AttemptRow :=
  updateWhere attempts (RunningAs ⟨operation, successor.attemptNo, successor.attemptId⟩)
    fun row => { row with checkpointDigest := checkpoint }

theorem startFrom_ok {successor : Successor} {checkpoint : Option Digest} {message : String}
    (ran : startFrom successor checkpoint message s = .ok s') :
    s' = { s with attempts := startedFrom s.operation successor checkpoint s.attempts } := by
  simp only [startFrom, bind_ok, updateOne_ok, pure_ok] at ran
  obtain ⟨_, ⟨-, rfl⟩, rfl⟩ := ran
  rfl

/-- The outbox after a row was prepared for a successor. -/
abbrev preparedOutbox (H : Hashing) (read : OutboxRow) (successor : Successor)
    (outbox : List OutboxRow) : List OutboxRow :=
  updateWhere outbox (UnchangedOutbox read) fun row => { row with
    state := .prepared, rebindGeneration := read.rebindGeneration + 1
    successorAttemptId := some successor.attemptId
    successorAttemptFence := some (successor.fence H) }

/-- Preparing an outbox row needs it to be the only unchanged one. -/
theorem prepareOutbox_ok {read : OutboxRow} {successor : Successor} {message : String}
    (ran : prepareOutbox H read successor message s = .ok s') :
    s.outbox.countP (fun row => decide (UnchangedOutbox read row)) = 1 ∧
      s' = { s with outbox := preparedOutbox H read successor s.outbox } := by
  simp only [prepareOutbox, bind_ok, updateOne_ok, pure_ok] at ran
  obtain ⟨_, ⟨one, rfl⟩, rfl⟩ := ran
  exact ⟨one, rfl⟩

/-- What preparing a successor writes: nothing, a taken-over cell, or a prepared outbox row. -/
inductive Prepares (H : Hashing) (successor : Successor) (s : Scope) : Scope → Prop where
  | nothing : Prepares H successor s s
  | takenOver {prepared : PreparedCell} {authority : Option AuthorityRow}
      {checkpoint : Option Digest} (found : preparedCell s = some prepared)
      (abandoned : prepared.Abandoned successor.attemptNo) :
      Prepares H successor s { s with
        cells := updateWhere s.cells (SameCell prepared.cell) fun row => { row with
          attemptId := successor.attemptId, attemptFence := successor.fence H }
        authority
        attempts := startedFrom s.operation successor checkpoint s.attempts }
  | planner {read : OutboxRow} {events : List EventRow} {lastSequence : Nat}
      (member : read ∈ s.outbox) (unconsumed : read.state = .pending ∨ read.state = .prepared)
      (one : s.outbox.countP (fun row => decide (UnchangedOutbox read row)) = 1) :
      Prepares H successor s { s with
        outbox := preparedOutbox H read successor s.outbox, events, lastSequence }
  | workbench {read : OutboxRow} {transfer : TransferRow} {checkpoint : Option Digest}
      (member : read ∈ s.outbox) (pending : read.state = .pending)
      (one : s.outbox.countP (fun row => decide (UnchangedOutbox read row)) = 1)
      (prepared : transfer.state = .prepared)
      (suspension : transfer.suspensionRevision = read.suspensionRevision)
      (generation : transfer.rebindGeneration = read.rebindGeneration + 1)
      (owner : transfer.successorAttemptId = successor.attemptId)
      (fenced : transfer.successorAttemptFence = successor.fence H)
      (fresh : ∀ row ∈ s.transfers, row.tokenDigest ≠ transfer.tokenDigest)
      (first : ∀ row ∈ s.transfers, ¬ (row.suspensionRevision = transfer.suspensionRevision ∧
        row.rebindGeneration = transfer.rebindGeneration)) :
      Prepares H successor s { s with
        transfers := s.transfers ++ [transfer]
        outbox := preparedOutbox H read successor s.outbox
        attempts := startedFrom s.operation successor checkpoint s.attempts }

theorem Prepares.frame {successor : Successor} (prepares : Prepares H successor s s') :
    s'.row = s.row ∧ s'.dispatch = s.dispatch ∧ s'.leases = s.leases ∧
      s'.operation = s.operation ∧ s'.catalog = s.catalog := by
  cases prepares <;> exact ⟨rfl, rfl, rfl, rfl, rfl⟩

/-- A listed planner claim reads an unconsumed outbox row. -/
theorem plannerClaims_mem {claim : PlannerClaim} (listed : claim ∈ plannerClaims s) :
    claim.outbox ∈ s.outbox ∧ (claim.outbox.state = .pending ∨ claim.outbox.state = .prepared) := by
  obtain ⟨outbox, member, joined⟩ := List.mem_filterMap.mp listed
  by_cases unconsumed : outbox.state = .pending ∨ outbox.state = .prepared
  · simp only [unconsumed, if_true, Option.bind_eq_bind, Option.bind_eq_some_iff,
      Option.pure_def, Option.some.injEq] at joined
    obtain ⟨suspension, -, job, -, control, -, rfl⟩ := joined
    exact ⟨member, unconsumed⟩
  · simp [unconsumed] at joined

/-- A listed workbench claim reads a pending outbox row. -/
theorem workbenchClaims_mem {claim : WorkbenchClaim} (listed : claim ∈ workbenchClaims s) :
    claim.outbox ∈ s.outbox ∧ claim.outbox.state = .pending := by
  obtain ⟨outbox, member, joined⟩ := List.mem_filterMap.mp listed
  by_cases pending : outbox.state = .pending
  · simp only [pending, if_true, Option.bind_eq_bind, Option.bind_eq_some_iff,
      Option.pure_def, Option.some.injEq] at joined
    obtain ⟨suspension, -, job, -, control, -, authority, -, rfl⟩ := joined
    exact ⟨member, pending⟩
  · simp [pending] at joined

/-- Preparing a planner successor leaves its row alone or prepares it. -/
theorem preparePlannerSuccessor_ok {successor : Successor} {now : Nat} {result : Scope × Digest}
    (ran : preparePlannerSuccessor H successor now s = .ok result) :
    Prepares H successor s result.1 := by
  simp only [preparePlannerSuccessor, bind_ok, theOnly_ok, ite_ok, pure_ok] at ran
  obtain ⟨claim, only, predecessor, -, ⟨-, rfl⟩ | ⟨-, _, -, _, prepared, rfl⟩⟩ := ran
  · exact .nothing
  · have listed : claim ∈ plannerClaims s := by rw [only]; exact List.mem_singleton_self claim
    obtain ⟨member, unconsumed⟩ := plannerClaims_mem listed
    obtain ⟨one, rfl⟩ := prepareOutbox_ok prepared
    exact .planner member unconsumed one

/-- Taking a prepared cell over moves it, its authority and the attempt, or finds no such cell. -/
theorem takeoverPreparedPlannerCell_ok {successor : Successor} {result : Scope × Option Digest}
    (ran : takeoverPreparedPlannerCell H successor s = .ok result) :
    result = (s, none) ∨ result.2.isSome ∧ Prepares H successor s result.1 := by
  unfold takeoverPreparedPlannerCell at ran
  cases found : preparedCell s with
  | none =>
    simp only [found, Except.ok.injEq] at ran
    exact .inl ran.symm
  | some prepared =>
    simp only [found, bind_ok, require_ok, updateOne_ok, pure_ok] at ran
    obtain ⟨_, abandoned, _, ⟨-, rfl⟩, authority, -, _, started, rfl⟩ := ran
    obtain rfl := startFrom_ok started
    exact .inr ⟨rfl, .takenOver found abandoned⟩

/-- Preparing an in-cell successor mints its transfer and prepares its outbox row. -/
theorem prepareWorkbenchSuccessor_ok {successor : Successor} {now : Nat} {result : Scope × Digest}
    (ran : prepareWorkbenchSuccessor H successor now s = .ok result) :
    Prepares H successor s result.1 := by
  simp only [prepareWorkbenchSuccessor, bind_ok, theOnly_ok, require_ok, insertUnique_ok,
    pure_ok] at ran
  obtain ⟨claim, only, _, -, _, fresh, _, ⟨first, rfl⟩, _, prepared, _, started, rfl⟩ := ran
  have listed : claim ∈ workbenchClaims s := by rw [only]; exact List.mem_singleton_self claim
  obtain ⟨member, pending⟩ := workbenchClaims_mem listed
  obtain ⟨one, rfl⟩ := prepareOutbox_ok prepared
  obtain rfl := startFrom_ok started
  refine .workbench member pending one rfl rfl rfl rfl rfl ?_ first
  intro row stored same
  exact fresh.1 (List.mem_map.mpr ⟨row, stored, same⟩)

/-- What a claim prepares is one of the ways a successor can be prepared. -/
theorem prepareSuccessor_ok {successor : Successor} {now : Nat} {result : Scope × Option Digest}
    (ran : prepareSuccessor H successor now s = .ok result) : Prepares H successor s result.1 := by
  simp only [prepareSuccessor, prepareManaged, ite_ok, Except.ok.injEq] at ran
  rcases ran with ⟨-, ⟨-, delegated⟩ | ⟨-, ⟨-, rfl⟩ | ⟨-, managed⟩⟩⟩ | ⟨-, rfl⟩
  · simp only [prepareDelegated, bind_ok] at delegated
    obtain ⟨taken, took, delegated⟩ := delegated
    rcases takeoverPreparedPlannerCell_ok took with rfl | ⟨present, prepares⟩
    · simp only [bind_ok, pure_ok] at delegated
      obtain ⟨prepared, planner, rfl⟩ := delegated
      exact preparePlannerSuccessor_ok planner
    · obtain ⟨token, present⟩ := Option.isSome_iff_exists.mp present
      simp only [present, pure_ok] at delegated
      rw [← delegated]
      exact prepares
  · exact .nothing
  · simp only [bind_ok, pure_ok] at managed
    obtain ⟨prepared, workbench, rfl⟩ := managed
    exact prepareWorkbenchSuccessor_ok workbench
  · exact .nothing

end Preparation

section Claiming

variable {H : Hashing} {s s' : Scope}

/-- The attempt row of a claim, before its successor is prepared. -/
def claimedAttempt (request : ClaimRequest) (successor : Successor) : AttemptRow :=
  { attemptNo := successor.attemptNo, attemptId := successor.attemptId
    runtimeGeneration := request.runtimeGeneration
    dispatcherGeneration := request.dispatcherGeneration, state := runningAttempt
    certainty := .certain, recoveryReason := none, endedAtUnixMs := none
    checkpointDigest := none }

/-- The lease row of a claim. -/
def claimedLease (request : ClaimRequest) (successor : Successor) (now : Nat) : LeaseRow :=
  { attemptNo := successor.attemptNo, leaseEpoch := successor.leaseEpoch
    ownerDigest := successor.ownerDigest, heartbeatAtUnixMs := now
    expiresAtUnixMs := now + request.leaseDurationMs, releasedAtUnixMs := none }

/-- The rows of an operation with the attempt and the lease of a claim added. -/
def withAttempt (request : ClaimRequest) (successor : Successor) (now : Nat) (s : Scope) : Scope :=
  { s with
    attempts := s.attempts ++ [claimedAttempt request successor]
    leases := s.leases ++ [claimedLease request successor now] }

/-- The claim that names a successor of an operation. -/
def claimOf (request : ClaimRequest) (successor : Successor) (kind : DispatchKind)
    (operation : String) : OperationDispatchClaim :=
  { attempt := ⟨operation, successor.attemptNo, successor.attemptId⟩
    runtimeGeneration := request.runtimeGeneration
    dispatcherGeneration := request.dispatcherGeneration
    leaseEpoch := successor.leaseEpoch, ownerDigest := request.ownerDigest, kind }

theorem successorStarted_effect {attemptNo revision now : Nat}
    (ran : successorStarted attemptNo revision now s = .ok s') :
    ∃ events lastSequence, s' = { s with events, lastSequence } := by
  simp only [successorStarted, bind_ok, ite_ok, pure_ok, Except.ok.injEq] at ran
  obtain ⟨-, boundary, -, rfl⟩ | ⟨-, rfl⟩ := ran
  · exact ⟨_, _, rfl⟩
  · exact ⟨_, _, rfl⟩

/-- A claimed operation was accepted; it runs as a new attempt, with its successor prepared. -/
theorem claimQueued_ok {request : ClaimRequest} {now : Nat}
    {result : Scope × OperationDispatchClaim}
    (ran : claimQueued H request now s = .ok result) :
    s.row.state = .accepted ∧
      (nextSuccessor H request s).attemptId ∉ s.attempts.map AttemptRow.attemptId ∧
      ∃ dispatch prepared events lastSequence,
        s.dispatch = some dispatch ∧
        Prepares H (nextSuccessor H request s) (withAttempt request (nextSuccessor H request s) now s)
          prepared ∧
        result = ({ prepared with
            row := { s.row with
              state := .running, certainty := .certain
              runtimeGeneration := request.runtimeGeneration
              recordRevision := s.row.recordRevision + 1, reconciliationRequired := false }
            dispatch := patchWhere s.dispatch (·.state = .queued) fun row => { row with
              state := .running, runningAtUnixMs := some now
              currentAttemptNo := some (nextSuccessor H request s).attemptNo }
            events, lastSequence },
          claimOf request (nextSuccessor H request s) dispatch.kind s.operation) := by
  simp only [claimQueued, insertAttempt, startClaimed, bind_ok, orRaise_ok, require_ok,
    pure_ok] at ran
  obtain ⟨dispatch, stored, _, ⟨_, fresh, rfl⟩, prepared, prepares, _, ⟨_, accepted, rfl⟩, _,
    started, rfl⟩ := ran
  obtain ⟨events, lastSequence, rfl⟩ := successorStarted_effect started
  have effect := prepareSuccessor_ok prepares
  obtain ⟨row, dispatches, -, operation, -⟩ := effect.frame
  refine ⟨row ▸ accepted, fresh.1, dispatch, prepared.1, ?_⟩
  rw [← row, ← dispatches, ← operation]
  exact ⟨_, _, dispatches.trans stored, effect, rfl⟩

/-- A visited operation is skipped when it is closed, expired when it is late, or claimed. -/
theorem visitQueued_cases {request : ClaimRequest} {now : Nat}
    {result : Scope × Option OperationDispatchClaim}
    (ran : visitQueued H request now s = .ok result) :
    (s.row.state ≠ .accepted ∧ result.2 = none ∧
        result.1 = { s with dispatch := s.dispatch.map fun row => { row with state := .parked } }) ∨
      (s.row.state = .accepted ∧ result = (expireQueued now s, none)) ∨
        ∃ claimed, claimQueued H request now s = .ok claimed ∧
          result = (claimed.1, some claimed.2) := by
  simp only [visitQueued, ite_ok, bind_ok, pure_ok, Except.ok.injEq] at ran
  rcases ran with ⟨closed, rfl⟩ | ⟨accepted, ⟨-, rfl⟩ | ⟨-, claimed, claims, rfl⟩⟩
  · exact .inl ⟨closed, rfl, rfl⟩
  · exact .inr (.inl ⟨not_not.mp accepted, rfl⟩)
  · exact .inr (.inr ⟨claimed, claims, rfl⟩)

end Claiming

end Aar.Registry
