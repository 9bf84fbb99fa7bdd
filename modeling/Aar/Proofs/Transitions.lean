import Aar.Proofs.Effects

/-! What the transactions that move an operation, its attempts or its leases do when they succeed. -/

namespace Aar.Registry

open Guarded Table CallerWork

section Unfenced

variable {H : Hashing} {clock : Clock} {s s' : Scope}

/-- An unfenced transition leaves an expected state under the current generation. -/
theorem transition_ok {change : Transition} {generation : Nat}
    (ran : transition change generation clock s = .ok s') :
    s.row.state ∈ change.expectedStates ∧ generation = s.generation ∧
      ∃ events lastSequence, s' = { s with
        row := { s.row with
          state := change.state, certainty := change.certainty, runtimeGeneration := generation
          recordRevision := s.row.recordRevision + 1
          reconciliationRequired := change.reconciliationRequired
          resultJson := change.resultJson.or s.row.resultJson
          failure := change.failure.or s.row.failure }
        events, lastSequence } := by
  simp only [transition, bind_ok, require_ok, pure_ok] at ran
  obtain ⟨_, expected, _, -, _, current, rfl⟩ := ran
  exact ⟨expected, current, _, _, rfl⟩

/-- A published checkpoint ends a running operation and catalogues its manifest. -/
theorem succeedWorkspaceCheckpoint_ok {manifest : WorkspaceCheckpointManifest} {generation : Nat}
    (ran : succeedWorkspaceCheckpoint H manifest generation clock s = .ok s') :
    s.row.state = .running ∧
      ∃ row events lastSequence, row.state = .succeeded ∧ s' = { s with
        row, events, lastSequence
        catalog := insertCatalog (manifestRow manifest) s.catalog } := by
  simp only [succeedWorkspaceCheckpoint, bind_ok, require_ok, pure_ok] at ran
  obtain ⟨_, -, _, -, _, running, _, -, _, catalogued, rfl⟩ := ran
  obtain rfl := catalogManifest_effect catalogued
  exact ⟨running, _, _, _, rfl, rfl⟩

end Unfenced

section Fenced

variable {H : Hashing} {clock : Clock} {s s' : Scope}

/-- A heartbeat extends the lease of a live owner. -/
theorem heartbeat_ok {fence : AttemptFence} {generation duration : Nat}
    (ran : heartbeat fence generation duration clock s = .ok s') :
    (∃ owner, validateFence (clock 0) fence generation s = .ok owner) ∧
      s' = { s with
        leases := updateWhere s.leases (LeasedAs fence.attempt.attemptNo fence.leaseEpoch)
          fun row => { row with
            heartbeatAtUnixMs := clock 1, expiresAtUnixMs := clock 1 + duration } } := by
  simp only [heartbeat, bind_ok, pure_ok] at ran
  obtain ⟨_, -, owner, live, rfl⟩ := ran
  exact ⟨⟨owner, live⟩, rfl⟩

/-- A claimed outcome closes the attempt and releases the lease of a live owner. -/
theorem transitionClaimed_ok {fence : AttemptFence} {generation : Nat} {state : OperationState}
    {resultJson : Option String} {failure : Option FailureEnvelope} {note : String}
    (ran : transitionClaimed fence generation state resultJson failure note clock s = .ok s') :
    (∃ owner, validateFence (clock 0) fence generation s = .ok owner) ∧
      (state.Terminal ∨ state = .indeterminate) ∧ s.row.state = .running ∧
      ∃ row dispatch reason events lastSequence,
        row.state = state ∧
        (∀ attemptNo ∈ dispatch.bind DispatchRow.currentAttemptNo,
          attemptNo ∈ s.dispatch.bind DispatchRow.currentAttemptNo) ∧
        s' = { s with
          row, dispatch, events, lastSequence
          attempts := updateWhere s.attempts (RunningAs fence.attempt) fun row => { row with
            state := .outer state, certainty := closedCertainty state, recoveryReason := reason
            endedAtUnixMs := some (clock 1) }
          leases := updateWhere s.leases (HeldAs fence.attempt.attemptNo fence.leaseEpoch)
            fun row => { row with releasedAtUnixMs := some (clock 1) } } := by
  simp only [transitionClaimed, bind_ok, require_ok, pure_ok] at ran
  obtain ⟨_, closed, owner, live, _, running, _, -, rfl⟩ := ran
  refine ⟨⟨owner, live⟩, closed, running, _, _, _, _, _, rfl, ?_, rfl⟩
  intro attemptNo current
  -- The rewritten dispatch row keeps the attempt it names.
  cases stored : s.dispatch with
  | none => simp [patchWhere, stored] at current
  | some row =>
    simp only [patchWhere, stored, Option.map_some] at current
    split at current <;> simpa using current

/-- A bound checkpoint is stored on the attempt of a live owner. -/
theorem bindCheckpoint_ok {fence : AttemptFence} {generation : Nat}
    {checkpoint : ArtifactReference} {environment : Digest}
    (ran : bindCheckpoint fence generation checkpoint environment clock s = .ok s') :
    (∃ owner, validateFence (clock 0) fence generation s = .ok owner) ∧
      (s' = s ∨ ∃ checkpoints events lastSequence, s' = { s with
        checkpoints, events, lastSequence
        attempts := updateWhere s.attempts (NamedAs fence.attempt) fun stored =>
          { stored with checkpointDigest := some checkpoint.digest } }) := by
  simp only [bindCheckpoint, bind_ok] at ran
  obtain ⟨_, -, owner, live, ran⟩ := ran
  refine ⟨⟨owner, live⟩, ?_⟩
  cases stored : fetchOne s.checkpoints fun row =>
      row.attemptNo = fence.attempt.attemptNo ∧ row.checkpointDigest = checkpoint.digest with
  | some existing =>
    simp only [stored, bind_ok, pure_ok] at ran
    obtain ⟨_, -, rfl⟩ := ran
    exact .inl rfl
  | none =>
    simp only [stored, pure_ok] at ran
    exact .inr ⟨_, _, _, ran.symm⟩

/-- A finished attempt was closed before, or is closed in the state of its operation. -/
theorem finishAttempt_ok {fence : AttemptFence} {generation : Nat}
    (ran : finishAttempt fence generation clock s = .ok s') :
    s' = s ∨ ∃ state certainty dispatch, state ≠ .running ∧ s.row.state ≠ .running ∧
      s.row.state ≠ .accepted ∧
      dispatch.bind DispatchRow.currentAttemptNo = s.dispatch.bind DispatchRow.currentAttemptNo ∧
      s' = { s with
        attempts := updateWhere s.attempts (NamedAs fence.attempt) fun row => { row with
          state := .outer state, certainty, endedAtUnixMs := some (clock 1) }
        leases := updateWhere s.leases (LeasedAs fence.attempt.attemptNo fence.leaseEpoch)
          fun row => { row with releasedAtUnixMs := some (clock 1) }
        dispatch } := by
  simp only [finishAttempt, bind_ok, ite_ok, require_ok, pure_ok] at ran
  obtain ⟨stored, -, ⟨-, _, -, rfl⟩ | ⟨-, owner, -, _, closed, rfl⟩⟩ := ran
  · exact .inl rfl
  · have ended : s.row.state ≠ .running ∧ s.row.state ≠ .accepted := by
      rcases closed with terminal | indeterminate
      · constructor <;> rintro state <;> simp [OperationState.Terminal, TERMINAL_STATES, state]
          at terminal
      · simp [indeterminate]
    refine .inr ⟨_, _, _, ended.1, ended.1, ended.2, ?_, rfl⟩
    cases s.dispatch <;> rfl

/-- The checks before a suspension, read back. -/
theorem checkSuspendable_ok {texts : SuspendTexts} {now : Nat} {job : JobRow}
    (checked : checkSuspendable texts now s = .ok job) :
    s.row.state = .running ∧ s.job = some job ∧ job.phase = .running ∧
      ∃ control, s.control = some control ∧ control.cancellationRequested = false ∧
        job.controlRevision = control.controlRevision := by
  simp only [checkSuspendable, bind_ok, require_ok, orRaise_ok, pure_ok] at checked
  obtain ⟨_, running, _, stored, _, phase, control, kept, _, uncancelled, _, inStep, _, -, rfl⟩ :=
    checked
  exact ⟨running, stored, phase, control, kept, uncancelled, inStep⟩

/-- A suspended attempt of a running job waits for the ticket it opened. -/
structure SuspendsOn (fence : AttemptFence) (ticket : CallerWorkTicket) (clock : Clock) (s : Scope)
    (job : JobRow) (control : ControlRow) (suspensions : List SuspensionRow)
    (tickets : List TicketRow) : Prop where
  live : ∃ owner, validateFence (clock 0) fence s.generation s = .ok owner
  storedJob : s.job = some job
  phase : job.phase = .running
  storedControl : s.control = some control
  uncancelled : control.cancellationRequested = false
  inStep : job.controlRevision = control.controlRevision
  opens : Opens ticket s suspensions tickets

/-- Suspending a root-planner call gives the attempt up, and moves the job to its wait. -/
theorem suspendPlannerAttempt_ok {fence : AttemptFence} {ticket : CallerWorkTicket}
    (ran : suspendPlannerAttempt H fence ticket clock s = .ok s') :
    GivesUp fence .accepted .suspendedExternal .parked s s' ∧
      ∃ job control tickets suspensions row attempts leases dispatch events lastSequence,
        SuspendsOn fence ticket clock s job control suspensions tickets ∧
        s' = { s with
          tickets, suspensions
          job := some { job with
            phase := .waitingExternal, controlRevision := job.controlRevision + 1 }
          control := some { control with controlRevision := job.controlRevision + 1 }
          row, attempts, leases, dispatch, events, lastSequence } := by
  simp only [suspendPlannerAttempt, bind_ok, pure_ok] at ran
  obtain ⟨_, -, owner, live, job, checked, _, -, _, -, _, -, _, -, _, -, _, opened, _, waited, _,
    suspended, rfl⟩ := ran
  obtain ⟨-, storedJob, phase, control, storedControl, uncancelled, inStep⟩ :=
    checkSuspendable_ok checked
  obtain ⟨suspensions, tickets, opens, rfl⟩ := openSuspension_ok opened
  obtain ⟨job', control', sameJob, -, sameControl, -, rfl⟩ := waitExternally_ok waited
  obtain ⟨gives, row, attempts, leases, dispatch, rfl⟩ := suspendAttempt_ok suspended
  cases storedJob.symm.trans sameJob
  cases storedControl.symm.trans sameControl
  exact ⟨⟨gives.one, gives.held, gives.running, gives.row, gives.attempts, gives.leases,
    gives.dispatch⟩, job, control, tickets, suspensions, row, attempts, leases, dispatch, _, _,
    ⟨⟨owner, live⟩, storedJob, phase, storedControl, uncancelled, inStep, opens⟩, rfl⟩

/-- Suspending a cell gives the attempt up, and moves the job and the cell to their wait. -/
theorem suspendWorkbenchAttempt_ok {fence : AttemptFence} {cell : CellFence}
    {ticket : CallerWorkTicket}
    (ran : suspendWorkbenchAttempt fence cell ticket clock s = .ok s') :
    GivesUp fence .accepted .suspendedExternal .parked s s' ∧
      ∃ job control tickets suspensions row attempts leases dispatch events lastSequence,
        SuspendsOn fence ticket clock s job control suspensions tickets ∧
        s' = { s with
          tickets, suspensions
          cells := updateWhere s.cells (cell.Runs fence.attempt.attemptId) fun row => { row with
            state := .suspended }
          job := some { job with
            phase := .waitingExternal, controlRevision := job.controlRevision + 1 }
          control := some { control with controlRevision := job.controlRevision + 1 }
          row, attempts, leases, dispatch, events, lastSequence } := by
  simp only [suspendWorkbenchAttempt, bind_ok, updateOne_ok, pure_ok] at ran
  obtain ⟨_, -, owner, live, job, checked, _, -, _, -, _, -, _, opened, _, ⟨-, rfl⟩, _, waited, _,
    suspended, rfl⟩ := ran
  obtain ⟨-, storedJob, phase, control, storedControl, uncancelled, inStep⟩ :=
    checkSuspendable_ok checked
  obtain ⟨suspensions, tickets, opens, rfl⟩ := openSuspension_ok opened
  obtain ⟨job', control', sameJob, -, sameControl, -, rfl⟩ := waitExternally_ok waited
  obtain ⟨gives, row, attempts, leases, dispatch, rfl⟩ := suspendAttempt_ok suspended
  cases storedJob.symm.trans sameJob
  cases storedControl.symm.trans sameControl
  exact ⟨⟨gives.one, gives.held, gives.running, gives.row, gives.attempts, gives.leases,
    gives.dispatch⟩, job, control, tickets, suspensions, row, attempts, leases, dispatch, _, _,
    ⟨⟨owner, live⟩, storedJob, phase, storedControl, uncancelled, inStep, opens⟩, rfl⟩

end Fenced

section Recovery

variable {H : Hashing} {clock : Clock} {s s' : Scope}

/-- Admitting a successor stores at most a boundary. -/
theorem admitSuccessor_effect {request : RequeueDecision} {inputDigest : Digest} {now : Nat}
    {result : Scope × BoundaryEvidence}
    (admitted : admitSuccessor request inputDigest now s = .ok result) :
    ∃ rlmBoundaries workspaceBoundaries,
      result.1 = { s with rlmBoundaries, workspaceBoundaries } := by
  unfold admitSuccessor at admitted
  cases bound : request.policyBinding with
  | none =>
    simp only [bound, Except.ok.injEq] at admitted
    exact ⟨_, _, by rw [← admitted]⟩
  | some binding =>
    simp only [bound, ite_ok, bind_ok, pure_ok, Except.ok.injEq] at admitted
    obtain ⟨-, boundary, -, prior, -, _, -, _, -, stored, kept, rfl⟩ | ⟨-, rfl⟩ := admitted
    · cases boundary with
      | rlmStep authority =>
        simp only [storeBoundary, bind_ok, pure_ok] at kept
        obtain ⟨_, -, _, -, rfl⟩ := kept
        exact ⟨_, _, rfl⟩
      | workspaceCheckpoint authority choice handle =>
        simp only [storeBoundary, bind_ok, pure_ok] at kept
        obtain ⟨_, -, row, -, restored, -, _, -, _, -, rfl⟩ := kept
        exact ⟨_, _, rfl⟩
    · exact ⟨_, _, rfl⟩

/-- A requeued dispatch row keeps the attempt it names, or takes the prior one when it is new. -/
theorem requeuedDispatch_current {binding : Option RecoveryPolicyBinding} {prior : Option Nat}
    {now : Nat} {dispatch : Option DispatchRow} {row : DispatchRow}
    (queued : requeuedDispatch binding prior now dispatch = .ok row) :
    row.currentAttemptNo = dispatch.elim prior DispatchRow.currentAttemptNo := by
  cases dispatch with
  | none =>
    simp only [requeuedDispatch, Except.ok.injEq] at queued
    rw [← queued]
    rfl
  | some stored =>
    simp only [requeuedDispatch, bind_ok, pure_ok] at queued
    obtain ⟨_, -, rfl⟩ := queued
    rfl

/-- A recovery decision closes the prior attempt of an indeterminate operation. -/
theorem requeueIndeterminate_ok {generation : Nat} {request : RequeueDecision}
    (ran : requeueIndeterminate generation request clock s = .ok s') :
    s.row.state = .indeterminate ∧
      ∃ row dispatch rlmBoundaries workspaceBoundaries decisions events lastSequence,
        (row.state = .accepted ∨ row.state = .indeterminate) ∧
        (∀ attemptNo ∈ dispatch.bind DispatchRow.currentAttemptNo,
          attemptNo ∈ s.dispatch.bind DispatchRow.currentAttemptNo ∨
            s.dispatch = none ∧ priorAttemptNo s = some attemptNo) ∧
        s' = { s with
          row, dispatch, rlmBoundaries, workspaceBoundaries, decisions, events, lastSequence
          attempts := (closePrior request.reasonCode (clock 0) s).attempts
          leases := (closePrior request.reasonCode (clock 0) s).leases } := by
  simp only [requeueIndeterminate, bind_ok, require_ok, ite_ok, pure_ok] at ran
  obtain ⟨_, -, _, -, _, state, _, -, _, -, admitted, admits, ran⟩ := ran
  obtain ⟨rlmBoundaries, workspaceBoundaries, same⟩ := admitSuccessor_effect admits
  have closes : closePrior request.reasonCode (clock 0)
      { s with rlmBoundaries, workspaceBoundaries } =
      { s with
        rlmBoundaries, workspaceBoundaries
        attempts := (closePrior request.reasonCode (clock 0) s).attempts
        leases := (closePrior request.reasonCode (clock 0) s).leases } := by
    -- The prior attempt is read from rows that a boundary does not touch.
    have prior : priorAttempt { s with rlmBoundaries, workspaceBoundaries } = priorAttempt s := rfl
    simp only [closePrior, prior]
    cases priorAttempt s <;> rfl
  rw [same, closes] at ran
  refine ⟨state, ?_⟩
  rcases ran with ⟨-, _, requeued, rfl⟩ | ⟨-, rfl⟩
  · simp only [requeue, bind_ok, pure_ok] at requeued
    obtain ⟨dispatch, queued, rfl⟩ := requeued
    refine ⟨_, _, rlmBoundaries, workspaceBoundaries, _, _, _, .inl rfl, ?_, rfl⟩
    intro attemptNo current
    have names := requeuedDispatch_current queued
    cases stored : s.dispatch with
    | none => simp_all
    | some row => simp_all
  · refine ⟨_, _, rlmBoundaries, workspaceBoundaries, _, _, _, .inr state, ?_, rfl⟩
    intro attemptNo current
    have kept : ∀ dispatch : Option DispatchRow,
        (dispatch.map fun row => { row with
          state := .parked, finishedAtUnixMs := some (clock 0) }).bind
            DispatchRow.currentAttemptNo = dispatch.bind DispatchRow.currentAttemptNo := by
      intro dispatch
      cases dispatch <;> rfl
    exact .inl (kept s.dispatch ▸ current)

/-- A receipt ends an indeterminate operation and closes the attempt its dispatch row names. -/
theorem recoverTerminalFromReceipt_ok {generation : Nat} {state : OperationState}
    {resultJson reasonCode : String} {inputDigest : Digest}
    (ran : recoverTerminalFromReceipt generation state resultJson reasonCode inputDigest clock s
      = .ok s') :
    s.row.state = .indeterminate ∧ state ∈ receiptStates ∧
      ∃ (row : OperationRow) (dispatch : Option DispatchRow) (reason : Option String)
          (ended : AttemptRow → Option Nat) (decisions : List DecisionRow)
          (events : List EventRow) (lastSequence : Nat),
        row.state = state ∧
        dispatch.bind DispatchRow.currentAttemptNo = s.dispatch.bind DispatchRow.currentAttemptNo ∧
        s' = { s with
          row, dispatch, decisions, events, lastSequence
          attempts := updateWhere s.attempts
            (fun row => some row.attemptNo = s.dispatch.bind DispatchRow.currentAttemptNo)
            fun row => { row with
              state := .outer state, certainty := .certain, recoveryReason := reason
              endedAtUnixMs := ended row } } := by
  simp only [recoverTerminalFromReceipt, bind_ok, require_ok, orRaise_ok, pure_ok] at ran
  obtain ⟨_, receipt, _, -, _, -, _, indeterminate, _, -, dispatch, stored, _, -, rfl⟩ := ran
  have named : s.dispatch.bind DispatchRow.currentAttemptNo = dispatch.currentAttemptNo := by
    rw [stored]; rfl
  rw [named]
  refine ⟨indeterminate, receipt, _, _, _, _, _, _, _, ?_, ?_, rfl⟩ <;> rfl

end Recovery

section Queue

variable {H : Hashing} {clock : Clock} {s s' : Scope}

/-- The rows of an operation whose job has been cancelled under one control. -/
def jobCancelled (control : ControlRow) (job : JobRow) (failure : Option FailureEnvelope)
    (certainty : OutcomeCertainty) (now : Nat) (s : Scope) : Scope :=
  { s with
    job := some { job with
      phase := .cancelled, controlRevision := control.controlRevision
      cancellationRevision := job.cancellationRevision + 1, cancellationRequested := true
      failure, certainty }
    cells := updateWhere s.cells (·.state ∈ cancellableCells) fun row => { row with
      state := .cancelled }
    suspensions := updateWhere s.suspensions (·.state = .pending) fun row => { row with
      state := .cancelled, settledAtUnixMs := some now }
    outbox := updateWhere s.outbox (·.state = .prepared) fun row => { row with
      state := .consumed }
    transfers := updateWhere s.transfers (·.state = .prepared) fun row => { row with
      state := .aborted }
    stages := updateWhere s.stages (·.state = .staged) fun row => { row with
      state := .discarded } }

/-- A job may be cancelled when its control asks for it and it is still open. -/
structure Cancellable (s : Scope) (control : ControlRow) (job : JobRow) : Prop where
  storedControl : s.control = some control
  requested : control.cancellationRequested = true
  storedJob : s.job = some job
  phase : job.phase ∉ terminalPhases

/-- A cancelled job was open, and everything it still waited for ends with it. -/
theorem cancelJob_ok {now : Nat} (ran : cancelJob now s = .ok s') :
    ∃ control job failure certainty, Cancellable s control job ∧
      s' = jobCancelled control job failure certainty now s := by
  simp only [cancelJob, bind_ok, require_ok, orRaise_ok, patchOne_ok, pure_ok] at ran
  obtain ⟨control, kept, _, requested, job, stored, _, ⟨job', same, phase, rfl⟩, rfl⟩ := ran
  cases stored.symm.trans same
  exact ⟨control, job, _, _, ⟨kept, requested, stored, phase⟩, rfl⟩

/-- Cancelling a queued operation leaves it alone, or ends it with its job when it has one. -/
theorem cancelQueuedDispatch_ok {generation : Nat} {resultJson : Option String}
    {result : Scope × Bool}
    (ran : cancelQueuedDispatch generation resultJson clock s = .ok result) :
    result.1 = s ∨ Unowned (clock 0) s ∧ ∃ row dispatch events lastSequence,
      row.state = .cancelled ∧
      dispatch.bind DispatchRow.currentAttemptNo = s.dispatch.bind DispatchRow.currentAttemptNo ∧
      ((∃ control job failure certainty, Cancellable s control job ∧
          result.1 = jobCancelled control job failure certainty (clock 0)
            { s with row, dispatch, events, lastSequence }) ∨
        ¬ DispatchedAs .rlmWorkbenchExecute s ∧
          result.1 = { s with row, dispatch, events, lastSequence }) := by
  simp only [cancelQueuedDispatch, bind_ok, ite_ok, pure_ok, Except.ok.injEq] at ran
  obtain ⟨_, -, ⟨-, rfl⟩ | ⟨unowned, s₁, ended, rfl⟩⟩ := ran
  · exact .inl rfl
  · refine .inr ⟨not_not.mp unowned, ?_⟩
    -- Rewriting the dispatch row keeps its kind and the attempt it names.
    have kept : ∀ (dispatch : Option DispatchRow) (state : DispatchState) (finished : Option Nat),
        (patchWhere dispatch (·.state ∈ idleDispatches) fun row => { row with
          state, finishedAtUnixMs := finished }).bind DispatchRow.currentAttemptNo =
            dispatch.bind DispatchRow.currentAttemptNo := by
      intro dispatch state finished
      cases dispatch with
      | none => rfl
      | some row => simp only [patchWhere, Option.map_some, Option.bind_some]; split <;> rfl
    rcases ended with ⟨workbench, cancelled⟩ | ⟨other, rfl⟩
    · obtain ⟨control, job, failure, certainty, ⟨storedControl, requested, storedJob, phase⟩,
        rfl⟩ := cancelJob_ok cancelled
      exact ⟨_, _, _, _, rfl, kept s.dispatch _ _, .inl ⟨control, job, failure, certainty,
        ⟨storedControl, requested, storedJob, phase⟩, rfl⟩⟩
    · refine ⟨_, _, _, _, rfl, kept s.dispatch _ _, .inr ⟨?_, rfl⟩⟩
      intro workbench
      apply other
      unfold DispatchedAs at workbench ⊢
      cases stored : s.dispatch with
      | none => simp [stored] at workbench
      | some row =>
        simp only [stored, Option.any_some] at workbench ⊢
        simp only [patchWhere, Option.map_some, Option.any_some]
        split <;> exact workbench

end Queue

end Aar.Registry
