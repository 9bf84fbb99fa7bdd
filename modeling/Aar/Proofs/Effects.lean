import Aar.Proofs.Commands
import Aar.System

/-! Which tables a transaction may have changed when it succeeds; every other table is as before. -/

namespace Aar

/-- An outbox row stays as it is, or is consumed once it has been prepared. -/
def OutboxRow.Carried (old new : OutboxRow) : Prop :=
  new = old ∨ old.state = .prepared ∧ new = { old with state := .consumed }

/-- A transfer keeps what it was minted with. -/
def TransferRow.Carried (old new : TransferRow) : Prop :=
  ∃ state consumptionKind ackDigest, new = { old with state, consumptionKind, ackDigest }

theorem OutboxRow.Carried.refl (row : OutboxRow) : row.Carried row := .inl rfl

theorem TransferRow.Carried.refl (row : TransferRow) : row.Carried row := ⟨_, _, _, rfl⟩

end Aar

namespace Aar.Registry

open Guarded Table CallerWork

section Parts

variable {s s' : Scope}

/-- Closing a running attempt rewrites exactly one attempt. -/
theorem closeAttempt_ok {attempt : OperationAttemptRef} {state : AttemptState}
    {reason : AttemptRow → Option String} {now : Nat} {message : String} :
    closeAttempt attempt state reason now message s = .ok s' ↔
      s.attempts.countP (fun row => decide (RunningAs attempt row)) = 1 ∧
        { s with attempts := updateWhere s.attempts (RunningAs attempt) fun row => { row with
          state, certainty := .certain, recoveryReason := reason row
          endedAtUnixMs := some now } } = s' := by
  simp only [closeAttempt, bind_ok, updateOne_ok, pure_ok, and_assoc, exists_and_left,
    exists_eq_left']

/-- Releasing a lease rewrites exactly one lease. -/
theorem releaseLease_ok {attemptNo leaseEpoch now : Nat} {message : String} :
    releaseLease attemptNo leaseEpoch now message s = .ok s' ↔
      s.leases.countP (fun row => decide (HeldAs attemptNo leaseEpoch row)) = 1 ∧
        { s with leases := updateWhere s.leases (HeldAs attemptNo leaseEpoch) fun row =>
          { row with releasedAtUnixMs := some now } } = s' := by
  simp only [releaseLease, bind_ok, updateOne_ok, pure_ok, and_assoc, exists_and_left,
    exists_eq_left']

/-- Closing the outer operation needs it running at the revision that was read. -/
theorem closeOuter_ok {recordRevision : Nat} {state : OperationState}
    {failure : OperationRow → Option FailureEnvelope} {message : String} :
    closeOuter recordRevision state failure message s = .ok s' ↔
      (s.row.state = .running ∧ s.row.recordRevision = recordRevision) ∧
        { s with row := { s.row with
          state, certainty := .certain, recordRevision := recordRevision + 1
          reconciliationRequired := false, failure := failure s.row } } = s' := by
  simp only [closeOuter, bind_ok, require_ok, pure_ok, exists_const]

/-- Closing the dispatch row needs it to run the attempt. -/
theorem closeRunningDispatch_ok {attemptNo now : Nat} {state : DispatchState}
    {message : String} :
    closeRunningDispatch attemptNo state now message s = .ok s' ↔
      ∃ row, s.dispatch = some row ∧ RunsAs attemptNo row ∧
        { s with dispatch := some { row with state, finishedAtUnixMs := some now } } = s' := by
  simp only [closeRunningDispatch, bind_ok, patchOne_ok, pure_ok]
  constructor
  · rintro ⟨_, ⟨row, stored, runs, rfl⟩, rfl⟩
    exact ⟨row, stored, runs, rfl⟩
  · rintro ⟨row, stored, runs, rfl⟩
    exact ⟨_, ⟨row, stored, runs, rfl⟩, rfl⟩

/-- A new pending suspension is opened for a ticket, which is stored with it or was before. -/
structure Opens (ticket : CallerWorkTicket) (s : Scope) (suspensions : List SuspensionRow)
    (tickets : List TicketRow) : Prop where
  first : ∀ stored ∈ s.suspensions, stored.suspensionRevision ≠ ticket.suspensionRevision
  opened : ∃ row : SuspensionRow, row.suspensionRevision = ticket.suspensionRevision ∧
    row.ticketId = ticket.ticketId ∧ row.state = .pending ∧ suspensions = s.suspensions ++ [row]
  stored : (StoredAs s ticket ∧ tickets = s.tickets) ∨
    (Creatable { s with suspensions } ticket ∧ tickets = s.tickets ++ [rowOfDocument ticket])

theorem Opens.table {ticket : CallerWorkTicket} {suspensions : List SuspensionRow}
    {tickets : List TicketRow} (opens : Opens ticket s suspensions tickets) :
    TableMove s.tickets tickets := by
  rcases opens.stored with ⟨-, rfl⟩ | ⟨creatable, rfl⟩
  · exact .unchanged
  · exact .created creatable.fresh.1 creatable.checked

/-- Opening a suspension adds it, and adds its ticket or repeats the stored one. -/
theorem openSuspension_ok {ticket : CallerWorkTicket} {controlRevision : Nat}
    {cell : Option String} {checkpoint : Option Digest} {message : String}
    (opened : openSuspension ticket controlRevision cell checkpoint message s = .ok s') :
    ∃ suspensions tickets, Opens ticket s suspensions tickets ∧
      s' = { s with suspensions, tickets } := by
  simp only [openSuspension, bind_ok, require_ok, insertUnique_ok, pure_ok] at opened
  obtain ⟨_, -, suspensions, ⟨first, rfl⟩, created, made, _, -, rfl⟩ := opened
  rcases createTicket_cases made with ⟨known, same⟩ | ⟨creatable, same⟩
  · exact ⟨_, _, ⟨first, ⟨_, rfl, rfl, rfl, rfl⟩, .inl ⟨known, rfl⟩⟩, same⟩
  · exact ⟨_, _, ⟨first, ⟨_, rfl, rfl, rfl, rfl⟩, .inr ⟨creatable, rfl⟩⟩, same⟩

/-- Entering a wait moves the job and its uncancelled control to the next revision. -/
theorem waitExternally_ok {texts : WaitTexts} {origin : WaitOrigin}
    (waited : waitExternally texts origin s = .ok s') :
    ∃ job control, s.job = some job ∧ JobAt origin.phase origin.jobRevision job ∧
      s.control = some control ∧ OpenControlAt origin.controlRevision control ∧
      s' = { s with
        job := some { job with
          phase := .waitingExternal, controlRevision := origin.controlRevision + 1 }
        control := some { control with controlRevision := origin.controlRevision + 1 } } := by
  simp only [waitExternally, bind_ok, patchOne_ok, pure_ok] at waited
  obtain ⟨_, ⟨job, stored, current, rfl⟩, _, ⟨control, kept, uncancelled, rfl⟩, rfl⟩ := waited
  exact ⟨job, control, stored, current, kept, uncancelled, rfl⟩

/-- The owner of an attempt gave it up: one running attempt closed, one held lease released. -/
structure GivesUp (fence : AttemptFence) (state : OperationState) (attempt : AttemptState)
    (dispatch : DispatchState) (s s' : Scope) : Prop where
  one : s.attempts.countP (fun row => decide (RunningAs fence.attempt row)) = 1
  held : s.leases.countP
    (fun row => decide (HeldAs fence.attempt.attemptNo fence.leaseEpoch row)) = 1
  running : s.row.state = .running
  row : ∃ failure, s'.row = { s.row with
    state, certainty := .certain, recordRevision := s.row.recordRevision + 1
    reconciliationRequired := false, failure }
  attempts : ∃ (reason : AttemptRow → Option String) (now : Nat),
    s'.attempts = updateWhere s.attempts (RunningAs fence.attempt) fun row => { row with
      state := attempt, certainty := .certain, recoveryReason := reason row
      endedAtUnixMs := some now }
  leases : ∃ now, s'.leases =
    updateWhere s.leases (HeldAs fence.attempt.attemptNo fence.leaseEpoch) fun row =>
      { row with releasedAtUnixMs := some now }
  dispatch : ∃ row now, s.dispatch = some row ∧ RunsAs fence.attempt.attemptNo row ∧
    s'.dispatch = some { row with state := dispatch, finishedAtUnixMs := some now }

/-- Giving an attempt up does not depend on the outbox it was reached through. -/
theorem GivesUp.of_outbox {fence : AttemptFence} {state : OperationState} {attempt : AttemptState}
    {dispatch : DispatchState} {outbox : List OutboxRow}
    (gives : GivesUp fence state attempt dispatch { s with outbox } s') :
    GivesUp fence state attempt dispatch s s' :=
  ⟨gives.one, gives.held, gives.running, gives.row, gives.attempts, gives.leases, gives.dispatch⟩

/-- Suspending an attempt gives it up, and changes nothing else. -/
theorem suspendAttempt_ok {texts : WaitTexts} {fence : AttemptFence} {recordRevision : Nat}
    {reason : String} {now : Nat}
    (suspended : suspendAttempt texts fence recordRevision reason now s = .ok s') :
    GivesUp fence .accepted .suspendedExternal .parked s s' ∧
      ∃ row attempts leases dispatch, s' = { s with row, attempts, leases, dispatch } := by
  simp only [suspendAttempt, bind_ok, closeAttempt_ok, releaseLease_ok, closeOuter_ok,
    closeRunningDispatch_ok] at suspended
  obtain ⟨_, ⟨one, rfl⟩, _, ⟨held, rfl⟩, _, ⟨⟨running, rfl⟩, rfl⟩, row, stored, runs, rfl⟩ :=
    suspended
  exact ⟨⟨one, held, running, ⟨_, rfl⟩, ⟨_, _, rfl⟩, ⟨_, rfl⟩, ⟨row, _, stored, runs, rfl⟩⟩,
    _, _, _, _, rfl⟩

end Parts

section Unowned

variable {H : Hashing} {clock : Clock} {s s' : Scope}

/-- Binding a recovery policy stores it and an event. -/
theorem bindRecoveryPolicy_effect {kind : DispatchKind} {policy : RecoveryPolicy}
    {environment : Digest}
    (ran : bindRecoveryPolicy H clock kind policy environment s = .ok s') :
    ∃ policy events lastSequence, s' = { s with policy, events, lastSequence } := by
  simp only [bindRecoveryPolicy, bind_ok] at ran
  obtain ⟨_, -, ran⟩ := ran
  cases stored : s.policy with
  | some existing =>
    simp only [stored, bind_ok, pure_ok] at ran
    obtain ⟨_, -, rfl⟩ := ran
    exact ⟨_, _, _, rfl⟩
  | none =>
    simp only [stored, bind_ok, pure_ok] at ran
    obtain ⟨_, -, rfl⟩ := ran
    exact ⟨_, _, _, rfl⟩

/-- Requesting a dispatch queues the dispatch row of an accepted operation. -/
theorem requestDispatch_ok {kind : DispatchKind} (ran : requestDispatch kind clock s = .ok s') :
    s' = s ∨
      s.row.state = .accepted ∧ ∃ row events lastSequence,
        row.currentAttemptNo = s.dispatch.bind DispatchRow.currentAttemptNo ∧
          row.state = .queued ∧
          s' = { s with dispatch := some row, events, lastSequence } := by
  simp only [requestDispatch, bind_ok, require_ok, ite_ok, pure_ok] at ran
  obtain ⟨_, -, ⟨-, _, -, rfl⟩ | ⟨accepted, ran⟩⟩ := ran
  · exact .inl rfl
  · have accepted : s.row.state = .accepted := not_not.mp accepted
    cases stored : s.dispatch with
    | some existing =>
      simp only [stored, ite_ok, pure_ok] at ran
      rcases ran with ⟨-, rfl⟩ | ⟨-, rfl⟩
      · exact .inl rfl
      · refine .inr ⟨accepted, _, _, _, ?_, ?_, rfl⟩ <;> rfl
    | none =>
      simp only [stored, pure_ok] at ran
      refine .inr ⟨accepted, _, _, _, ?_, ?_, ran.symm⟩ <;> rfl

/-- A first cancellation request takes the next control revision; a later one changes nothing. -/
theorem requestCancel_ok {requestedBy : Digest} {reasonCode : String}
    (ran : requestCancel requestedBy reasonCode clock s = .ok s') :
    (s' = s ∧ s.control.any ControlRow.cancellationRequested) ∨
      ∃ control events lastSequence, ¬ s.control.any ControlRow.cancellationRequested ∧
        control.controlRevision = (s.control.elim 1 fun row => row.controlRevision + 1) ∧
        control.cancellationRequested = true ∧
        s' = { s with control := some control, events, lastSequence } := by
  simp only [requestCancel, bind_ok, ite_ok, pure_ok] at ran
  obtain ⟨_, -, ⟨already, rfl⟩ | ⟨first, rfl⟩⟩ := ran
  · exact .inl ⟨rfl, already⟩
  · refine .inr ⟨_, _, _, first, ?_, ?_, rfl⟩ <;> rfl

/-- Moving a transfer keeps what every transfer was minted with. -/
theorem moveTransfer_ok {tokenDigest : Digest} {state : TransferState}
    {change : TransferRow → TransferRow} {message : String}
    (carries : ∀ row : TransferRow, row.Carried (change row))
    (moved : moveTransfer tokenDigest state change message s = .ok s') :
    ∃ transfers, List.Forall₂ TransferRow.Carried s.transfers transfers ∧
      s' = { s with transfers } := by
  simp only [moveTransfer, bind_ok, updateOne_ok, pure_ok] at moved
  obtain ⟨_, ⟨-, rfl⟩, rfl⟩ := moved
  exact ⟨_, updateWhere_aged .refl fun row _ _ => carries row, rfl⟩

/-- What a rebind commit reads is stored under its token. -/
theorem rebindRow_some {tokenDigest : Digest} {attemptId : String} {read : RebindRow}
    (found : rebindRow tokenDigest attemptId s = some read) :
    (read.transfer ∈ s.transfers ∧ read.transfer.tokenDigest = tokenDigest ∧
        read.transfer.successorAttemptId = attemptId) ∧
      s.job = some read.job ∧ s.control = some read.control := by
  simp only [rebindRow, transferTo, Option.bind_eq_bind, Option.bind_eq_some_iff,
    Option.pure_def, Option.some.injEq] at found
  obtain ⟨transfer, minted, _, -, _, -, job, storedJob, control, storedControl, _, -, _, -, _, -,
    rfl⟩ := found
  exact ⟨fetchOne_some minted, storedJob, storedControl⟩

/-- A first rebind commit gives the cell, its authority and the job to the successor. -/
structure CommitsRebind (fence : AttemptFence) (worker : WorkerIdentity) (now : Nat)
    (read : RebindRow) (s s' : Scope) : Prop where
  first : ¬ (read.transfer.state = .committed ∨ read.transfer.state = .consumed)
  committable : read.Committable worker fence.attempt.attemptNo now
  one : s.outbox.countP
    (fun row => decide (PreparedUnder read.transfer fence.attempt.attemptId row)) = 1
  writes : ∃ authority transfers events lastSequence,
    List.Forall₂ TransferRow.Carried s.transfers transfers ∧ s' = { s with
      authority, transfers, events, lastSequence
      cells := updateWhere s.cells (SuspendedBy read.transfer) fun row => { row with
        state := .running, attemptId := fence.attempt.attemptId
        attemptFence := read.transfer.successorAttemptFence }
      job := some { read.job with
        phase := .running, controlRevision := read.transfer.expectedControlRevision + 1 }
      control := some { read.control with
        controlRevision := read.transfer.expectedControlRevision + 1 }
      outbox := updateWhere s.outbox (PreparedUnder read.transfer fence.attempt.attemptId)
        fun row => { row with state := .consumed } }

/-- A rebind commit is done by a live owner; it repeats a commit, or is the first one. -/
theorem commitWorkbenchRebind_cases {fence : AttemptFence} {token : Digest}
    {worker : WorkerIdentity} {result : Scope × RebindToken}
    (ran : commitWorkbenchRebind fence token worker clock s = .ok result) :
    (∃ owner, validateFence (clock 0) fence s.generation s = .ok owner) ∧
      ∃ read, rebindRow token fence.attempt.attemptId s = some read ∧
        ((read.transfer.state = .committed ∨ read.transfer.state = .consumed) ∧ result.1 = s ∨
          CommitsRebind fence worker (clock 1) read s result.1) := by
  simp only [commitWorkbenchRebind, bind_ok, require_ok, orRaise_ok, ite_ok, pure_ok] at ran
  obtain ⟨owner, live, read, found, ⟨again, _, -, rfl⟩ | ⟨first, _, committable, _, committed,
    rfl⟩⟩ := ran
  · exact ⟨⟨owner, live⟩, read, found, .inl ⟨again, rfl⟩⟩
  · obtain ⟨-, storedJob, storedControl⟩ := rebindRow_some found
    simp only [commitTransfer, bind_ok, patchOne_ok, updateOne_ok, pure_ok] at committed
    obtain ⟨_, -, _, ⟨-, rfl⟩, _, ⟨job, sameJob, -, rfl⟩, _, ⟨control, sameControl, -, rfl⟩, _,
      moved, _, ⟨one, rfl⟩, rfl⟩ := committed
    obtain ⟨transfers, carried, rfl⟩ := moveTransfer_ok (fun _ => ⟨_, _, _, rfl⟩) moved
    cases storedJob.symm.trans sameJob
    cases storedControl.symm.trans sameControl
    exact ⟨⟨owner, live⟩, read, found, .inr ⟨first, committable, one, _, _, _, _, carried, rfl⟩⟩

/-- A committed rebind moves a transfer and what it names, and leaves the ownership rows alone. -/
theorem commitWorkbenchRebind_effect {fence : AttemptFence} {token : Digest}
    {worker : WorkerIdentity} {result : Scope × RebindToken}
    (ran : commitWorkbenchRebind fence token worker clock s = .ok result) :
    ∃ authority cells job control transfers outbox events lastSequence, result.1 = { s with
      authority, cells, job, control, transfers, outbox, events, lastSequence } := by
  obtain ⟨-, read, -, ⟨-, same⟩ | commits⟩ := commitWorkbenchRebind_cases ran
  · exact ⟨_, _, _, _, _, _, _, _, same⟩
  · obtain ⟨_, _, _, _, -, same⟩ := commits.writes
    exact ⟨_, _, _, _, _, _, _, _, same⟩

/-- An acknowledged rebind moves one transfer. -/
theorem acknowledgeWorkbenchRebind_effect {fence : AttemptFence} {token : Digest}
    {ack : Acknowledgement} (ran : acknowledgeWorkbenchRebind H fence token ack clock s = .ok s') :
    ∃ transfers events lastSequence,
      List.Forall₂ TransferRow.Carried s.transfers transfers ∧
      s' = { s with transfers, events, lastSequence } := by
  simp only [acknowledgeWorkbenchRebind, bind_ok, ite_ok, pure_ok] at ran
  obtain ⟨_, -, _, -, _, -, ⟨-, rfl⟩ | ⟨-, _, -, _, moved, rfl⟩⟩ := ran
  · exact ⟨_, _, _, List.forall₂_same.mpr fun row _ => .refl row, rfl⟩
  · obtain ⟨transfers, carried, rfl⟩ := moveTransfer_ok (fun _ => ⟨_, _, _, rfl⟩) moved
    exact ⟨_, _, _, carried, rfl⟩

/-- The rows the recovery of a lost worker reads are stored. -/
theorem lossRow_some {tokenDigest : Digest} {read : LossRow}
    (found : lossRow tokenDigest s = some read) :
    s.job = some read.job ∧ read.cell ∈ s.cells ∧
      read.cell.cellExecutionId = read.transfer.cellExecutionId := by
  simp only [lossRow, Option.bind_eq_bind, Option.bind_eq_some_iff, Option.pure_def,
    Option.some.injEq] at found
  obtain ⟨_, -, job, storedJob, cell, storedCell, _, -, _, -, _, -, rfl⟩ := found
  exact ⟨storedJob, fetchOne_some storedCell⟩

/-- Consuming the outbox row of a lost worker consumes at most a prepared row. -/
theorem consumeLostOutbox_ok {read : OutboxRow} (consumed : consumeLostOutbox read s = .ok s') :
    ∃ outbox, List.Forall₂ OutboxRow.Carried s.outbox outbox ∧ s' = { s with outbox } := by
  simp only [consumeLostOutbox, ite_ok, bind_ok, updateOne_ok, pure_ok] at consumed
  rcases consumed with ⟨-, _, ⟨-, rfl⟩, rfl⟩ | ⟨-, _, -, rfl⟩
  · exact ⟨_, updateWhere_aged .refl fun row _ prepared => .inr ⟨prepared.2, rfl⟩, rfl⟩
  · exact ⟨_, List.forall₂_same.mpr fun row _ => .refl row, rfl⟩

/-- Fencing a lost worker ends its transfer, outbox row and cell, and restores the job. -/
theorem markWorkbenchRebindWorkerLost_ok {generation : Nat} {token : Digest}
    {restored : ProgrammableWorkspaceHandle}
    (ran : markWorkbenchRebindWorkerLost generation token restored clock s = .ok s') :
    s.row.state = .indeterminate ∧ (s' = s ∨
      ∃ job cell lost transfers outbox events lastSequence,
        s.job = some job ∧ (job.phase = .accepted ∨ job.phase = .running) ∧
        cell ∈ s.cells ∧ cell.cellExecutionId = lost ∧
        List.Forall₂ TransferRow.Carried s.transfers transfers ∧
        List.Forall₂ OutboxRow.Carried s.outbox outbox ∧
        s' = { s with
          transfers, outbox, events, lastSequence
          cells := updateWhere s.cells
            (fun row => row.cellExecutionId = lost ∧ row.state ∈ liveCellStates)
            fun row => { row with state := .lostBeforeCommit }
          job := some { job with
            phase := .running, workspaceGeneration := restored.generation
            workspaceRevision := restored.revision
            checkpointDigest := some cell.preCheckpointDigest } }) := by
  simp only [markWorkbenchRebindWorkerLost, restoreJob, bind_ok, require_ok, orRaise_ok, ite_ok,
    updateOne_ok, patchOne_ok, pure_ok] at ran
  obtain ⟨_, -, read, found, _, indeterminate, _, resumable, ⟨-, _, -, rfl⟩ | ⟨-, _, -, _, -, _,
    ended, _, consumed, _, ⟨-, rfl⟩, _, ⟨_, ⟨job, storedJob, -, rfl⟩, rfl⟩, rfl⟩⟩ := ran
  · exact ⟨indeterminate, .inl rfl⟩
  · obtain ⟨transfers, carriedTransfers, rfl⟩ := moveTransfer_ok
      (fun row => by split <;> exact ⟨_, _, _, rfl⟩) ended
    obtain ⟨outbox, carriedOutbox, rfl⟩ := consumeLostOutbox_ok consumed
    obtain ⟨sameJob, member, named⟩ := lossRow_some found
    cases storedJob.symm.trans sameJob
    exact ⟨indeterminate, .inr ⟨_, read.cell, _, transfers, outbox, _, _, sameJob, resumable,
      member, named, carriedTransfers, carriedOutbox, rfl⟩⟩

/-- Fencing a lost worker leaves the ownership rows alone. -/
theorem markWorkbenchRebindWorkerLost_effect {generation : Nat} {token : Digest}
    {restored : ProgrammableWorkspaceHandle}
    (ran : markWorkbenchRebindWorkerLost generation token restored clock s = .ok s') :
    ∃ transfers outbox cells job events lastSequence,
      s' = { s with transfers, outbox, cells, job, events, lastSequence } := by
  rcases (markWorkbenchRebindWorkerLost_ok ran).2 with rfl |
    ⟨_, _, _, _, _, _, _, -, -, -, -, -, -, rfl⟩ <;> exact ⟨_, _, _, _, _, _, rfl⟩

/-- A recovered authority replaces the authority row. -/
theorem bindWorkbenchRecoveryAuthority_effect {fence : AttemptFence}
    {workspace : ProgrammableWorkspaceHandle} {worker : WorkerIdentity}
    (ran : bindWorkbenchRecoveryAuthority H fence workspace worker clock s = .ok s') :
    ∃ authority events lastSequence, s' = { s with authority, events, lastSequence } := by
  simp only [bindWorkbenchRecoveryAuthority, bind_ok, pure_ok] at ran
  obtain ⟨_, -, read, -, _, -, _, -, rfl⟩ := ran
  exact ⟨_, _, _, rfl⟩

theorem catalogManifest_effect {manifest : WorkspaceCheckpointManifest}
    (ran : catalogManifest manifest s = .ok s') :
    s' = { s with catalog := insertCatalog (manifestRow manifest) s.catalog } := by
  simp only [catalogManifest, bind_ok, pure_ok] at ran
  obtain ⟨_, -, rfl⟩ := ran
  rfl

theorem recordWorkspaceCheckpoint_effect {manifest : WorkspaceCheckpointManifest}
    (ran : recordWorkspaceCheckpoint H manifest s = .ok s') :
    s' = { s with catalog := insertCatalog (manifestRow manifest) s.catalog } := by
  simp only [recordWorkspaceCheckpoint, bind_ok] at ran
  obtain ⟨_, -, _, -, ran⟩ := ran
  exact catalogManifest_effect ran

/-- A selected checkpoint is stored with its event. -/
theorem selectWorkspaceCheckpoint_effect {selection : CheckpointSelection} {generation : Nat}
    (ran : selectWorkspaceCheckpoint selection generation clock s = .ok s') :
    ∃ selections events lastSequence, s' = { s with selections, events, lastSequence } := by
  simp only [selectWorkspaceCheckpoint, bind_ok] at ran
  obtain ⟨_, -, _, -, _, -, _, -, _, -, _, -, _, -, _, -, ran⟩ := ran
  cases stored : fetchOne s.selections (·.priorAttemptNo = selection.priorAttempt.attemptNo) with
  | some existing =>
    simp only [stored, bind_ok, pure_ok] at ran
    obtain ⟨_, -, rfl⟩ := ran
    exact ⟨_, _, _, rfl⟩
  | none =>
    simp only [stored, bind_ok, pure_ok] at ran
    obtain ⟨_, -, rfl⟩ := ran
    exact ⟨_, _, _, rfl⟩

/-- A restored checkpoint is stored with its event. -/
theorem markWorkspaceCheckpointRestored_effect {selection : CheckpointSelection}
    {restored : ProgrammableWorkspaceHandle} {generation : Nat}
    (ran : markWorkspaceCheckpointRestored selection restored generation clock s = .ok s') :
    ∃ selections events lastSequence, s' = { s with selections, events, lastSequence } := by
  simp only [markWorkspaceCheckpointRestored, bind_ok] at ran
  obtain ⟨_, -, _, -, _, -, stored, -, _, -, ran⟩ := ran
  cases handle : stored.restoredHandle with
  | some existing =>
    simp only [handle, bind_ok, pure_ok] at ran
    obtain ⟨_, -, rfl⟩ := ran
    exact ⟨_, _, _, rfl⟩
  | none =>
    simp only [handle, bind_ok, pure_ok] at ran
    obtain ⟨_, -, rfl⟩ := ran
    exact ⟨_, _, _, rfl⟩

end Unowned

section Consumption

variable {H : Hashing} {clock : Clock} {s s' : Scope}

/-- The row is the outbox row an owner consumes. -/
def ConsumedBy (read : OutboxRow) (attemptId : String) (fence : Digest) (row : OutboxRow) : Prop :=
  row.suspensionRevision = read.suspensionRevision ∧ row.state = .prepared ∧
    row.rebindGeneration = read.rebindGeneration ∧ row.successorAttemptId = some attemptId ∧
    row.successorAttemptFence = some fence

instance (read : OutboxRow) (attemptId : String) (fence : Digest) :
    DecidablePred (ConsumedBy read attemptId fence) :=
  fun _ => inferInstanceAs (Decidable (_ ∧ _))

/-- The outbox after an owner consumed its prepared row. -/
abbrev consumedOutbox (read : OutboxRow) (attemptId : String) (fence : Digest)
    (outbox : List OutboxRow) : List OutboxRow :=
  updateWhere outbox (ConsumedBy read attemptId fence) fun row => { row with state := .consumed }

/-- Consuming the outbox needs exactly the prepared row of the owner. -/
theorem consumeOutbox_ok {read : OutboxRow} {attemptId : String} {fence : Digest}
    (consumed : consumeOutbox read attemptId fence s = .ok s') :
    s.outbox.countP (fun row => decide (ConsumedBy read attemptId fence row)) = 1 ∧
      s' = { s with outbox := consumedOutbox read attemptId fence s.outbox } := by
  simp only [consumeOutbox, bind_ok, updateOne_ok, pure_ok] at consumed
  obtain ⟨_, ⟨one, rfl⟩, rfl⟩ := consumed
  exact ⟨one, rfl⟩

/-- A terminal projection ends the job, moves its control, and gives the attempt up. -/
theorem projectPlannerTerminal_ok {read : PlannerRow} {fence : AttemptFence}
    {state : OperationState} {failure : Option FailureEnvelope} {now : Nat}
    (ran : projectPlannerTerminal read fence state failure now s = .ok s') :
    GivesUp fence state (.outer state) .completed s s' ∧
      ∃ job control failure certainty row attempts leases dispatch stages events lastSequence,
        s.job = some job ∧ JobAt .accepted read.job.controlRevision job ∧
        s.control = some control ∧ control.controlRevision = read.control.controlRevision ∧
        s' = { s with
          job := some { job with
            phase := terminalPhase state, controlRevision := read.control.controlRevision + 1
            failure, certainty }
          control := some { control with controlRevision := read.control.controlRevision + 1 }
          row, attempts, leases, dispatch, stages, events, lastSequence } := by
  simp only [projectPlannerTerminal, bind_ok, patchOne_ok, closeOuter_ok, closeAttempt_ok,
    releaseLease_ok, closeRunningDispatch_ok, pure_ok] at ran
  obtain ⟨_, ⟨job, storedJob, here, rfl⟩, _, ⟨control, storedControl, there, rfl⟩, _,
    ⟨⟨running, -⟩, rfl⟩, _, ⟨one, rfl⟩, _, ⟨held, rfl⟩, _, ⟨row, stored, runs, rfl⟩, rfl⟩ := ran
  exact ⟨⟨one, held, running, ⟨_, rfl⟩, ⟨_, _, rfl⟩, ⟨_, rfl⟩, ⟨row, _, stored, runs, rfl⟩⟩,
    job, control, _, _, _, _, _, _, _, _, _, storedJob, here, storedControl, there, rfl⟩

/-- A correction opens the next suspension, and gives the attempt up for it. -/
theorem projectCorrection_ok {read : PlannerRow} {fence : AttemptFence}
    {ticket : CallerWorkTicket} {now : Nat}
    (ran : projectCorrection H read fence ticket now s = .ok s') :
    GivesUp fence .accepted .suspendedExternal .parked s s' ∧
      ∃ tickets job control suspensions row attempts leases dispatch events lastSequence,
        Opens ticket s suspensions tickets ∧
        s.job = some job ∧ JobAt .accepted read.job.controlRevision job ∧
        s.control = some control ∧ OpenControlAt read.control.controlRevision control ∧
        s' = { s with
          tickets, suspensions
          job := some { job with
            phase := .waitingExternal, controlRevision := read.control.controlRevision + 1 }
          control := some { control with controlRevision := read.control.controlRevision + 1 }
          row, attempts, leases, dispatch, events, lastSequence } := by
  simp only [projectCorrection, bind_ok, pure_ok] at ran
  obtain ⟨_, -, _, -, _, -, _, -, _, -, _, opened, _, waited, _, suspended, rfl⟩ := ran
  obtain ⟨suspensions, tickets, opens, rfl⟩ := openSuspension_ok opened
  obtain ⟨job, control, storedJob, here, storedControl, there, rfl⟩ := waitExternally_ok waited
  obtain ⟨gives, row, attempts, leases, dispatch, rfl⟩ := suspendAttempt_ok suspended
  exact ⟨⟨gives.one, gives.held, gives.running, gives.row, gives.attempts, gives.leases,
    gives.dispatch⟩, tickets, job, control, suspensions, row, attempts, leases, dispatch, _, _,
    opens, storedJob, here, storedControl, there, rfl⟩

/-- A stored cell is appended to the cells. -/
theorem insertCell_ok {row : CellRow} (inserted : insertCell row s = .ok s') :
    row.cellExecutionId ∉ s.cells.map CellRow.cellExecutionId ∧
      (∀ stored ∈ s.cells, stored.cellIndex ≠ row.cellIndex) ∧
      s' = { s with cells := s.cells ++ [row] } := by
  simp only [insertCell, bind_ok, require_ok, insertUnique_ok, pure_ok] at inserted
  obtain ⟨_, fresh, _, ⟨free, rfl⟩, rfl⟩ := inserted
  exact ⟨fresh.1, free, rfl⟩

/-- A projected cell is prepared for its owner, at a checkpoint the catalog then holds. -/
theorem projectCell_ok {directive : RlmDirective} {read : PlannerRow} {attemptId : String}
    {fence : Digest} {cell : CellProjection}
    (ran : projectCell H directive read attemptId fence cell s = .ok s') :
    ∃ row authority, row.state = .prepared ∧ row.attemptId = attemptId ∧
      row.attemptFence = fence ∧ row.preCheckpointDigest = cell.preCheckpointDigest ∧
      row.postCheckpointDigest = none ∧
      row.cellExecutionId ∉ s.cells.map CellRow.cellExecutionId ∧
      s' = { s with
        catalog := insertCatalog (cell.catalogRow s.operation) s.catalog
        cells := s.cells ++ [row], authority } := by
  simp only [projectCell, bind_ok] at ran
  obtain ⟨_, -, _, -, _, inserted, advanced⟩ := ran
  obtain ⟨fresh, -, rfl⟩ := insertCell_ok inserted
  unfold advanceAuthority at advanced
  cases stored : s.authority with
  | none =>
    simp only [stored, bind_ok, pure_ok] at advanced
    obtain ⟨_, -, rfl⟩ := advanced
    refine ⟨_, _, ?_, ?_, ?_, ?_, ?_, ?_, rfl⟩ <;> first | rfl | exact fresh
  | some prior =>
    simp only [stored, bind_ok, pure_ok] at advanced
    obtain ⟨_, -, _, -, rfl⟩ := advanced
    refine ⟨_, _, ?_, ?_, ?_, ?_, ?_, ?_, rfl⟩ <;> first | rfl | exact fresh

/-- What a directive stores of the cell it starts: nothing, or one prepared cell. -/
inductive CellAdded (s : Scope) (attemptId : String) (fence : Digest) :
    List CellRow → List CatalogRow → Prop where
  | none : CellAdded s attemptId fence s.cells s.catalog
  | prepared {row : CellRow} {entry : CatalogRow} (state : row.state = .prepared)
      (owner : row.attemptId = attemptId) (fenced : row.attemptFence = fence)
      (pre : row.preCheckpointDigest = entry.manifestDigest)
      (post : row.postCheckpointDigest = Option.none)
      (fresh : row.cellExecutionId ∉ s.cells.map CellRow.cellExecutionId) :
      CellAdded s attemptId fence (s.cells ++ [row]) (insertCatalog entry s.catalog)

/-- A directive lets the job run again, at the revision it had. -/
theorem projectDirective_ok {read : PlannerRow} {fence : AttemptFence} {digest : Digest}
    {directive : RlmDirective} {projection : Option CellProjection} {now : Nat}
    (ran : projectDirective H read fence digest directive projection now s = .ok s') :
    ∃ cells catalog job authority events lastSequence,
      CellAdded s fence.attempt.attemptId digest cells catalog ∧
      s.job = some job ∧ JobAt .accepted read.job.controlRevision job ∧
      job.cancellationRequested = false ∧
      s' = { s with
        cells, catalog, authority, job := some { job with phase := .running }
        events, lastSequence } := by
  cases projection with
  | none =>
    simp only [projectDirective, bind_ok, patchOne_ok, pure_ok, Except.ok.injEq] at ran
    obtain ⟨_, rfl, _, ⟨job, stored, ⟨here, uncancelled⟩, rfl⟩, rfl⟩ := ran
    exact ⟨_, _, job, _, _, _, .none, stored, here, uncancelled, rfl⟩
  | some cell =>
    simp only [projectDirective, bind_ok, patchOne_ok, pure_ok] at ran
    obtain ⟨_, projected, _, ⟨job, stored, ⟨here, uncancelled⟩, rfl⟩, rfl⟩ := ran
    obtain ⟨row, authority, state, owner, fenced, pre, post, fresh, rfl⟩ := projectCell_ok projected
    exact ⟨_, _, job, _, _, _, .prepared state owner fenced pre post fresh, stored, here,
      uncancelled, rfl⟩

/-- A consumption is done by a live owner, on the prepared row its token presents. -/
structure ConsumesAs (H : Hashing) (fence : AttemptFence) (token : PlannerToken) (clock : Clock)
    (read : PlannerRow) (s : Scope) : Prop where
  live : ∃ owner, validateFence (clock 0) fence s.generation s = .ok owner
  found : plannerRow fence.attempt.attemptId s = some read
  presented : read.outbox.rebindGeneration = token.rebindGeneration
  prepared : PreparedFor fence.attempt.attemptId read.outbox
  member : read.outbox ∈ s.outbox
  job : s.job = some read.job
  control : s.control = some read.control
  running : s.row.state = .running
  fenced : read.outbox.successorAttemptFence =
    some (H.attemptFence fence.dispatcherGeneration fence.leaseEpoch fence.ownerDigest)
  inStep : InStep read.job read.control
  one : s.outbox.countP (fun row => decide (ConsumedBy read.outbox fence.attempt.attemptId
    (H.attemptFence fence.dispatcherGeneration fence.leaseEpoch fence.ownerDigest) row)) = 1

/-- The row a consumption reads is stored and prepared for its attempt. -/
theorem plannerRow_some {attemptId : String} {read : PlannerRow}
    (found : plannerRow attemptId s = some read) :
    read.outbox ∈ s.outbox ∧ PreparedFor attemptId read.outbox ∧ s.job = some read.job ∧
      s.control = some read.control := by
  obtain ⟨outbox, member, joined⟩ := List.exists_of_findSome?_eq_some found
  by_cases prepared : PreparedFor attemptId outbox
  · simp only [prepared, if_true, Option.bind_eq_bind, Option.bind_eq_some_iff,
      Option.pure_def, Option.some.injEq] at joined
    obtain ⟨suspension, -, job, storedJob, control, storedControl, dispatch, -, ticket, -, rfl⟩ :=
      joined
    exact ⟨member, prepared, storedJob, storedControl⟩
  · simp [prepared] at joined

/-- A consumption consumes its row and projects exactly one of the three outcomes. -/
theorem consumePlannerSuccessor_cases {fence : AttemptFence} {token : PlannerToken}
    {outcome : PlannerOutcome}
    (ran : consumePlannerSuccessor H fence token outcome clock s = .ok s') :
    ∃ read, ConsumesAs H fence token clock read s ∧
      let digest := H.attemptFence fence.dispatcherGeneration fence.leaseEpoch fence.ownerDigest
      let consumed : Scope := { s with
        outbox := consumedOutbox read.outbox fence.attempt.attemptId digest s.outbox }
      (∃ state ∈ plannerTerminals, ∃ failure now,
          projectPlannerTerminal read fence state failure now consumed = .ok s') ∨
        (∃ ticket now, outcome.correctionTicket = some ticket ∧
          projectCorrection H read fence ticket now consumed = .ok s') ∨
        read.control.cancellationRequested = false ∧ ∃ directive projection now,
          outcome.directive = some directive ∧
          projectDirective H read fence digest directive projection now consumed = .ok s' := by
  simp only [consumePlannerSuccessor, checkConsumption, PlannerOutcome.check, bind_ok,
    require_ok, orRaise_ok, pure_ok] at ran
  obtain ⟨_, ⟨_, -, _, -, terminals⟩, owner, live, _, ⟨read, found, _, owned, _, -, _, -, _, -, rfl⟩,
    s₁, consumed, ran⟩ := ran
  obtain ⟨member, prepared, storedJob, storedControl⟩ := plannerRow_some found
  obtain ⟨one, rfl⟩ := consumeOutbox_ok consumed
  obtain ⟨-, -, -, -, -, -, presented, fenced, -, -, inStep, running, -⟩ := owned
  refine ⟨read, ⟨⟨owner, live⟩, found, presented, prepared, member, storedJob, storedControl,
    running, fenced, inStep, one⟩, ?_⟩
  cases selected : selectTerminal read outcome.terminalState (clock 1) with
  | some state =>
    simp only [selected] at ran
    refine .inl ⟨state, ?_, _, _, ran⟩
    -- A cancellation and a passed deadline select terminal states of their own.
    unfold selectTerminal at selected
    split at selected
    · cases selected; decide
    · split at selected
      · cases selected; decide
      · exact terminals state selected
  | none =>
    simp only [selected] at ran
    cases asked : outcome.correctionTicket with
    | some ticket =>
      simp only [asked] at ran
      exact .inr (.inl ⟨ticket, _, rfl, ran⟩)
    | none =>
      cases directed : outcome.directive with
      | some directive =>
        simp only [asked, directed] at ran
        refine .inr (.inr ⟨?_, directive, _, _, rfl, ran⟩)
        unfold selectTerminal at selected
        split at selected
        · cases selected
        · exact Bool.eq_false_iff.mpr ‹_›
      | none => simp [asked, directed] at ran

end Consumption

end Aar.Registry
