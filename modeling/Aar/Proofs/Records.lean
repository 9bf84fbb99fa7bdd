import Aar.Lib.Journal
import Aar.Proofs.Calls

/-! What every transaction does to the record of an operation and to its event log. -/

namespace Aar

open Guarded Table Journal

section Log

variable {s m : Scope} {faithful : Prop}

/-- What an event repeats of its operation. -/
structure Shown where
  state : OperationState
  certainty : OutcomeCertainty
  recordRevision : Nat
  deriving DecidableEq

/-- What acceptance stores about an operation for good. -/
structure Intent where
  hostValue : String
  principalValue : String
  idempotencyKey : String
  inputDigest : Digest
  request : RequestEnvelope
  payloadJson : String
  createdAtUnixMs : Nat
  deriving DecidableEq

/-- What the events of an operation show about its row. -/
def OperationRow.shown (row : OperationRow) : Shown :=
  ⟨row.state, row.certainty, row.recordRevision⟩

/-- What an event shows about the row it was written beside. -/
def EventRow.shown (event : EventRow) : Shown :=
  ⟨event.state, event.certainty, event.recordRevision⟩

/-- The columns that acceptance stores for good. -/
def OperationRow.intent (row : OperationRow) : Intent :=
  { hostValue := row.hostValue, principalValue := row.principalValue
    idempotencyKey := row.idempotencyKey, inputDigest := row.inputDigest, request := row.request
    payloadJson := row.payloadJson, createdAtUnixMs := row.createdAtUnixMs }

/-- An operation needs reconciliation exactly when nobody knows how it ended. -/
structure OperationRow.Coherent (row : OperationRow) : Prop where
  certainty : row.state = .indeterminate ↔ row.certainty = .indeterminate
  reconciliation : row.state = .indeterminate ↔ row.reconciliationRequired = true

/-- How the rows and events of an operation are read. -/
def operationLog : Reading OperationRow EventRow Shown Intent where
  shown := OperationRow.shown
  entry := EventRow.shown
  revision := Shown.recordRevision
  sequence := EventRow.sequence
  intent := OperationRow.intent
  Sound := OperationRow.Coherent

/-- The record of an operation beside its events. -/
def Scope.log (s : Scope) : Log OperationRow EventRow := ⟨s.row, s.events, s.lastSequence⟩

/-- What a transaction did to the record of its operation. -/
abbrev Recorded (faithful : Prop) (s s' : Scope) : Prop :=
  Extends operationLog faithful s.log s'.log

theorem OperationRow.Coherent.certain {row : OperationRow} (coherent : row.Coherent)
    (known : row.state ≠ .indeterminate) : row.certainty = .certain := by
  cases found : row.certainty with
  | certain => rfl
  | indeterminate => exact absurd (coherent.certainty.mpr found) known

/-- The state, the certainty and the flag of a row that somebody knows agree. -/
theorem OperationRow.Coherent.of_known {row : OperationRow} (known : row.state ≠ .indeterminate)
    (certain : row.certainty = .certain) (required : row.reconciliationRequired = false) :
    row.Coherent := by
  constructor
  · rw [certain]
    exact ⟨fun state => absurd state known, by intros; contradiction⟩
  · rw [required]
    exact ⟨fun state => absurd state known, by intros; contradiction⟩

theorem OperationRow.Coherent.of_unknown {row : OperationRow} (state : row.state = .indeterminate)
    (certainty : row.certainty = .indeterminate) (required : row.reconciliationRequired = true) :
    row.Coherent :=
  ⟨⟨fun _ => certainty, fun _ => state⟩, ⟨fun _ => required, fun _ => state⟩⟩

/-- An event beside an unchanged row is a note. -/
theorem Recorded.note {state : OperationState} {certainty : OutcomeCertainty} {revision now : Nat}
    {text : String} {attemptNo : Option Nat} {payload : Payload}
    (before : Recorded faithful s m)
    (shows : faithful → m.row.shown = ⟨state, certainty, revision⟩) :
    Recorded faithful s
      (Registry.insertEvent m state certainty revision now text attemptNo payload) := by
  show Extends operationLog faithful s.log (m.log.append operationLog
    ⟨m.lastSequence + 1, state, certainty, revision, now, text, attemptNo, text, payload⟩)
  exact .noted before (Nat.lt_succ_self _) fun holds => (shows holds).symm

/-- An event beside a row that moved by one revision is a move. -/
theorem Recorded.move {row : OperationRow} {state : OperationState}
    {certainty : OutcomeCertainty} {revision now : Nat} {text : String} {attemptNo : Option Nat}
    {payload : Payload} (before : Recorded faithful s { m with row := row })
    (stored : m.row.intent = row.intent)
    (raised : faithful → m.row.recordRevision = row.recordRevision + 1)
    (coherent : faithful → m.row.Coherent)
    (shows : faithful → m.row.shown = ⟨state, certainty, revision⟩) :
    Recorded faithful s
      (Registry.insertEvent m state certainty revision now text attemptNo payload) := by
  show Extends operationLog faithful s.log
    ({ (⟨row, m.events, m.lastSequence⟩ : Log OperationRow EventRow) with record := m.row }.append
      operationLog
      ⟨m.lastSequence + 1, state, certainty, revision, now, text, attemptNo, text, payload⟩)
  exact .moved before (Nat.lt_succ_self _) stored raised coherent fun holds => (shows holds).symm

theorem Recorded.still (row : m.row = s.row) (events : m.events = s.events)
    (lastSequence : m.lastSequence = s.lastSequence) : Recorded faithful s m := by
  have same : m.log = s.log := by simp only [Scope.log, row, events, lastSequence]
  rw [Recorded, same]
  exact .same

/-- An event of a known state is true beside a coherent row in that state. -/
theorem Recorded.known {state : OperationState} {now : Nat} {text : String}
    {attemptNo : Option Nat} {payload : Payload} (before : Recorded faithful s m)
    (known : state ≠ .indeterminate)
    (beside : faithful → m.row.Coherent ∧ m.row.state = state) :
    Recorded faithful s (Registry.insertEvent m state .certain m.row.recordRevision now text
      attemptNo payload) := by
  refine .note before fun holds => ?_
  obtain ⟨coherent, rfl⟩ := beside holds
  simp only [OperationRow.shown, coherent.certain known]

/-- An event of an indeterminate state is true beside a coherent row in that state. -/
theorem Recorded.unknown {now : Nat} {text : String} {attemptNo : Option Nat} {payload : Payload}
    (before : Recorded faithful s m)
    (beside : faithful → m.row.Coherent ∧ m.row.state = .indeterminate) :
    Recorded faithful s (Registry.insertEvent m .indeterminate .indeterminate m.row.recordRevision
      now text attemptNo payload) := by
  refine .note before fun holds => ?_
  obtain ⟨coherent, state⟩ := beside holds
  simp only [OperationRow.shown, coherent.certainty.mp state, state]

end Log

end Aar

namespace Aar.Registry

open Guarded Table Journal

section Writers

variable {H : Hashing} {clock : Clock} {s s' : Scope}

/-- An unfenced transition moves the record to the state it enters. -/
theorem transition_recorded {change : Transition} {generation : Nat}
    (ran : transition change generation clock s = .ok s')
    (coherent : ∀ row : OperationRow, row.state = change.state →
      row.certainty = change.certainty →
      row.reconciliationRequired = change.reconciliationRequired → row.Coherent) :
    Recorded True s s' := by
  simp only [transition, bind_ok, require_ok, pure_ok] at ran
  obtain ⟨_, -, _, -, _, -, rfl⟩ := ran
  exact .move (.still rfl rfl rfl) rfl (fun _ => rfl)
    (fun _ => coherent _ rfl rfl rfl) fun _ => rfl

/-- Binding a recovery policy notes an accepted operation. -/
theorem bindRecoveryPolicy_recorded {kind : DispatchKind} {policy : RecoveryPolicy}
    {environment : Digest}
    (ran : bindRecoveryPolicy H clock kind policy environment s = .ok s') :
    Recorded s.row.Coherent s s' := by
  simp only [bindRecoveryPolicy, bind_ok] at ran
  obtain ⟨_, -, ran⟩ := ran
  cases stored : s.policy with
  | some existing =>
    simp only [stored, bind_ok, pure_ok] at ran
    obtain ⟨_, -, rfl⟩ := ran
    exact .same
  | none =>
    simp only [stored, bind_ok, require_ok, pure_ok] at ran
    obtain ⟨_, ⟨accepted, -, -⟩, rfl⟩ := ran
    exact .known (.still rfl rfl rfl) (by simp) fun coherent => ⟨coherent, accepted⟩

/-- Requesting a dispatch notes the operation as it is. -/
theorem requestDispatch_recorded {kind : DispatchKind}
    (ran : requestDispatch kind clock s = .ok s') : Recorded True s s' := by
  simp only [requestDispatch, bind_ok, require_ok, ite_ok, pure_ok] at ran
  obtain ⟨_, -, ⟨-, _, -, rfl⟩ | ⟨-, ran⟩⟩ := ran
  · exact .same
  · cases stored : s.dispatch with
    | some existing =>
      simp only [stored, ite_ok, pure_ok] at ran
      rcases ran with ⟨-, rfl⟩ | ⟨-, rfl⟩
      · exact .same
      · exact .note (.still rfl rfl rfl) fun _ => rfl
    | none =>
      simp only [stored, pure_ok] at ran
      rw [← ran]
      exact .note (.still rfl rfl rfl) fun _ => rfl

theorem requestCancel_recorded {requestedBy : Digest} {reasonCode : String}
    (ran : requestCancel requestedBy reasonCode clock s = .ok s') : Recorded True s s' := by
  simp only [requestCancel, bind_ok, ite_ok, pure_ok] at ran
  obtain ⟨_, -, ⟨-, rfl⟩ | ⟨-, rfl⟩⟩ := ran
  · exact .same
  · exact .note (.still rfl rfl rfl) fun _ => rfl

/-- A claimed outcome moves the record to it. -/
theorem transitionClaimed_recorded {fence : AttemptFence} {generation : Nat}
    {state : OperationState} {resultJson : Option String} {failure : Option FailureEnvelope}
    {note : String}
    (ran : transitionClaimed fence generation state resultJson failure note clock s = .ok s') :
    Recorded True s s' := by
  simp only [transitionClaimed, bind_ok, require_ok, pure_ok] at ran
  obtain ⟨_, -, _, -, _, -, _, -, rfl⟩ := ran
  refine .move (.still rfl rfl rfl) rfl (fun _ => rfl) (fun _ => ?_) fun _ => rfl
  -- Only an indeterminate outcome is uncertain and asks for reconciliation.
  cases state <;> constructor <;> simp [closedCertainty]

/-- Binding a checkpoint notes the operation as it is. -/
theorem bindCheckpoint_recorded {fence : AttemptFence} {generation : Nat}
    {checkpoint : ArtifactReference} {environment : Digest}
    (ran : bindCheckpoint fence generation checkpoint environment clock s = .ok s') :
    Recorded True s s' := by
  simp only [bindCheckpoint, bind_ok] at ran
  obtain ⟨_, -, _, -, ran⟩ := ran
  split at ran
  · simp only [bind_ok, pure_ok] at ran
    obtain ⟨_, -, rfl⟩ := ran
    exact .same
  · simp only [pure_ok] at ran
    rw [← ran]
    exact .note (.still rfl rfl rfl) fun _ => rfl

/-- Recording a wait follows the move that accepts the operation again. -/
theorem suspendAttempt_recorded {texts : WaitTexts} {fence : AttemptFence} {revision : Nat}
    {reason : String} {ticket : CallerWorkTicket} {cell : Option String} {now : Nat} {m : Scope}
    (still : m.row = s.row ∧ m.events = s.events ∧ m.lastSequence = s.lastSequence)
    (ran : suspendAttempt texts fence revision reason now m = .ok s') :
    s'.row.shown = ⟨.accepted, .certain, revision + 1⟩ ∧
      Recorded True s (recordWait ticket cell fence.attempt.attemptNo (revision + 1) now s') := by
  simp only [suspendAttempt, closeAttempt, releaseLease, closeRunningDispatch, bind_ok, closeOuter_ok,
    pure_ok] at ran
  obtain ⟨_, ⟨_, -, rfl⟩, _, ⟨_, -, rfl⟩, _, ⟨⟨running, rfl⟩, rfl⟩, _, -, rfl⟩ := ran
  obtain ⟨row, events, lastSequence⟩ := still
  refine ⟨rfl, .move (.still row events lastSequence) rfl (fun _ => rfl) (fun _ => ?_) fun _ => rfl⟩
  exact .of_known (by simp) rfl rfl

/-- Suspending a root-planner call records its wait. -/
theorem suspendPlannerAttempt_recorded {fence : AttemptFence} {ticket : CallerWorkTicket}
    (ran : suspendPlannerAttempt H fence ticket clock s = .ok s') : Recorded True s s' := by
  simp only [suspendPlannerAttempt, bind_ok, pure_ok] at ran
  obtain ⟨_, -, _, -, _, -, _, -, _, -, _, -, _, -, _, -, _, opened, _, waited, _, suspended,
    rfl⟩ := ran
  obtain ⟨_, _, -, rfl⟩ := openSuspension_ok opened
  obtain ⟨_, _, -, -, -, -, rfl⟩ := waitExternally_ok waited
  exact (suspendAttempt_recorded ⟨rfl, rfl, rfl⟩ suspended).2

/-- Suspending a cell records its wait. -/
theorem suspendWorkbenchAttempt_recorded {fence : AttemptFence} {cell : CellFence}
    {ticket : CallerWorkTicket}
    (ran : suspendWorkbenchAttempt fence cell ticket clock s = .ok s') : Recorded True s s' := by
  simp only [suspendWorkbenchAttempt, bind_ok, updateOne_ok, pure_ok] at ran
  obtain ⟨_, -, _, -, _, -, _, -, _, -, _, -, _, opened, _, ⟨-, rfl⟩, _, waited, _, suspended,
    rfl⟩ := ran
  obtain ⟨_, _, -, rfl⟩ := openSuspension_ok opened
  obtain ⟨_, _, -, -, -, -, rfl⟩ := waitExternally_ok waited
  exact (suspendAttempt_recorded ⟨rfl, rfl, rfl⟩ suspended).2

/-- A terminal projection moves the record to the terminal state. -/
theorem projectPlannerTerminal_recorded {read : PlannerRow} {fence : AttemptFence}
    {state : OperationState} {failure : Option FailureEnvelope} {now : Nat}
    (known : state ≠ .indeterminate)
    (ran : projectPlannerTerminal read fence state failure now s = .ok s') :
    Recorded True s s' := by
  simp only [projectPlannerTerminal, closeAttempt, releaseLease, closeRunningDispatch, bind_ok,
    patchOne_ok, closeOuter_ok, pure_ok] at ran
  obtain ⟨_, -, _, -, _, ⟨-, rfl⟩, _, ⟨_, -, rfl⟩, _, ⟨_, -, rfl⟩, _, ⟨_, -, rfl⟩, rfl⟩ := ran
  exact .move (.still rfl rfl rfl) rfl (fun _ => rfl) (fun _ => .of_known known rfl rfl) fun _ => rfl

/-- A correction records the next wait, and notes what it consumed. -/
theorem projectCorrection_recorded {read : PlannerRow} {fence : AttemptFence}
    {ticket : CallerWorkTicket} {now : Nat}
    (ran : projectCorrection H read fence ticket now s = .ok s') : Recorded True s s' := by
  simp only [projectCorrection, bind_ok, require_ok, pure_ok] at ran
  obtain ⟨_, -, _, -, _, -, _, -, _, -, _, opened, _, waited, m, suspended, rfl⟩ := ran
  obtain ⟨_, _, -, rfl⟩ := openSuspension_ok opened
  obtain ⟨_, _, -, -, -, -, rfl⟩ := waitExternally_ok waited
  obtain ⟨shown, recorded⟩ := suspendAttempt_recorded ⟨rfl, rfl, rfl⟩ suspended
  exact .note recorded fun _ => shown

/-- A directive notes the running operation whose successor it consumes. -/
theorem projectDirective_recorded {read : PlannerRow} {fence : AttemptFence} {digest : Digest}
    {directive : RlmDirective} {projection : Option CellProjection} {now : Nat}
    (running : s.row.state = .running)
    (ran : projectDirective H read fence digest directive projection now s = .ok s') :
    Recorded s.row.Coherent s s' := by
  have noted : ∀ {m : Scope}, m.row = s.row → m.events = s.events →
      m.lastSequence = s.lastSequence → ∀ text attemptNo payload,
      Recorded s.row.Coherent s (insertEvent m .running .certain m.row.recordRevision now text
        attemptNo payload) := by
    intro m row events lastSequence text attemptNo payload
    refine .known (.still row events lastSequence) (by simp) fun coherent => ?_
    rw [row]
    exact ⟨coherent, running⟩
  cases projection with
  | none =>
    simp only [projectDirective, bind_ok, patchOne_ok, pure_ok, Except.ok.injEq] at ran
    obtain ⟨m, rfl, _, -, rfl⟩ := ran
    exact noted rfl rfl rfl _ _ _
  | some cell =>
    simp only [projectDirective, bind_ok, patchOne_ok, pure_ok] at ran
    obtain ⟨m, projected, _, -, rfl⟩ := ran
    obtain ⟨_, _, -, -, -, -, -, -, rfl⟩ := projectCell_ok projected
    exact noted rfl rfl rfl _ _ _

/-- A consumption records what it projects. -/
theorem consumePlannerSuccessor_recorded {fence : AttemptFence} {token : PlannerToken}
    {outcome : PlannerOutcome}
    (ran : consumePlannerSuccessor H fence token outcome clock s = .ok s') :
    Recorded s.row.Coherent s s' := by
  obtain ⟨read, consumes, ⟨state, terminal, _, _, ran⟩ | ⟨_, _, -, ran⟩ | ⟨-, _, _, _, -, ran⟩⟩ :=
    consumePlannerSuccessor_cases ran
  · have known : state ≠ .indeterminate := by
      rintro rfl
      simp [plannerTerminals] at terminal
    have recorded := projectPlannerTerminal_recorded known ran
    exact recorded.weaken fun _ => trivial
  · have recorded := projectCorrection_recorded ran
    exact recorded.weaken fun _ => trivial
  · -- The consumed outbox does not show in the record.
    have recorded := fun running => projectDirective_recorded running ran
    exact recorded consumes.running

/-- A committed rebind notes a running operation; its replay notes nothing. -/
theorem commitWorkbenchRebind_recorded {fence : AttemptFence} {token : Digest}
    {worker : WorkerIdentity} {result : Scope × RebindToken} {faithful : Prop}
    (beside : ∀ read, rebindRow token fence.attempt.attemptId s = some read →
      read.transfer.state = .prepared → faithful → s.row.Coherent ∧ s.row.state = .running)
    (ran : commitWorkbenchRebind fence token worker clock s = .ok result) :
    Recorded faithful s result.1 := by
  simp only [commitWorkbenchRebind, bind_ok, require_ok, orRaise_ok, ite_ok, pure_ok] at ran
  obtain ⟨_, -, read, found, ⟨-, _, -, rfl⟩ | ⟨-, _, committable, m, committed, rfl⟩⟩ := ran
  · exact .same
  · simp only [commitTransfer, moveTransfer, bind_ok, patchOne_ok, updateOne_ok, pure_ok] at committed
    obtain ⟨_, -, _, ⟨-, rfl⟩, _, -, _, -, _, ⟨_, ⟨-, rfl⟩, rfl⟩, _, ⟨-, rfl⟩, rfl⟩ := committed
    exact .known (.still rfl rfl rfl) (by simp) (beside read found committable.1)

/-- An acknowledged rebind notes a running operation; its replay notes nothing. -/
theorem acknowledgeWorkbenchRebind_recorded {fence : AttemptFence} {token : Digest}
    {ack : Acknowledgement} {faithful : Prop}
    (beside : ∀ transfer, transferTo token fence.attempt.attemptId s = some transfer →
      transfer.state = .committed → faithful → s.row.Coherent ∧ s.row.state = .running)
    (ran : acknowledgeWorkbenchRebind H fence token ack clock s = .ok s') :
    Recorded faithful s s' := by
  simp only [acknowledgeWorkbenchRebind, bind_ok, require_ok, orRaise_ok, ite_ok, pure_ok] at ran
  obtain ⟨_, -, transfer, found, _, -, ⟨-, rfl⟩ | ⟨-, _, ⟨committed, -⟩, _, moved, rfl⟩⟩ := ran
  · exact .same
  · simp only [moveTransfer, bind_ok, updateOne_ok, pure_ok] at moved
    obtain ⟨_, ⟨-, rfl⟩, rfl⟩ := moved
    exact .known (.still rfl rfl rfl) (by simp) (beside transfer found committed)

/-- Fencing a lost worker notes an indeterminate operation. -/
theorem markWorkbenchRebindWorkerLost_recorded {generation : Nat} {token : Digest}
    {restored : ProgrammableWorkspaceHandle}
    (ran : markWorkbenchRebindWorkerLost generation token restored clock s = .ok s') :
    Recorded s.row.Coherent s s' := by
  simp only [markWorkbenchRebindWorkerLost, restoreJob, bind_ok, require_ok, orRaise_ok, ite_ok,
    updateOne_ok, patchOne_ok, pure_ok] at ran
  obtain ⟨_, -, read, -, _, indeterminate, _, -, ⟨-, _, -, rfl⟩ | ⟨-, _, -, _, -, _, ended, _,
    consumed, _, ⟨-, rfl⟩, _, ⟨_, -, rfl⟩, rfl⟩⟩ := ran
  · exact .same
  · obtain ⟨_, -, rfl⟩ := moveTransfer_ok (fun row => by split <;> exact ⟨_, _, _, rfl⟩) ended
    obtain ⟨_, -, rfl⟩ := consumeLostOutbox_ok consumed
    exact .unknown (.still rfl rfl rfl) fun coherent => ⟨coherent, indeterminate⟩

/-- A recovered authority notes a running operation. -/
theorem bindWorkbenchRecoveryAuthority_recorded {fence : AttemptFence}
    {workspace : ProgrammableWorkspaceHandle} {worker : WorkerIdentity} {faithful : Prop}
    (beside : faithful → s.row.Coherent ∧ s.row.state = .running)
    (ran : bindWorkbenchRecoveryAuthority H fence workspace worker clock s = .ok s') :
    Recorded faithful s s' := by
  simp only [bindWorkbenchRecoveryAuthority, bind_ok, pure_ok] at ran
  obtain ⟨_, -, _, -, _, -, _, -, rfl⟩ := ran
  exact .known (.still rfl rfl rfl) (by simp) beside

/-- A cancelled dispatch moves the record to its cancelled state. -/
theorem cancelQueuedDispatch_recorded {generation : Nat} {resultJson : Option String}
    {result : Scope × Bool}
    (ran : cancelQueuedDispatch generation resultJson clock s = .ok result) :
    Recorded True s result.1 := by
  have moved : ∀ {m : Scope}, m.row = { s.row with
        state := .cancelled, certainty := .certain, recordRevision := s.row.recordRevision + 1
        reconciliationRequired := false, resultJson } →
      m.events = s.events → m.lastSequence = s.lastSequence → ∀ now text attemptNo payload,
      Recorded True s (insertEvent m .cancelled .certain (s.row.recordRevision + 1) now text
        attemptNo payload) := by
    intro m row events lastSequence now text attemptNo payload
    refine .move (.still rfl events lastSequence) (by rw [row]; rfl) (fun _ => by rw [row])
      (fun _ => ?_) (fun _ => by rw [row]; rfl)
    rw [row]
    exact .of_known (by simp) rfl rfl
  simp only [cancelQueuedDispatch, bind_ok, ite_ok, pure_ok, Except.ok.injEq] at ran
  obtain ⟨_, -, ⟨-, rfl⟩ | ⟨-, _, ⟨-, cancelled⟩ | ⟨-, rfl⟩, rfl⟩⟩ := ran
  · exact .same
  · obtain ⟨_, _, _, _, -, rfl⟩ := cancelJob_ok cancelled
    apply moved <;> rfl
  · apply moved <;> rfl

/-- A recovery decision moves the record to the queue, or notes that it stays parked. -/
theorem requeueIndeterminate_recorded {generation : Nat} {request : RequeueDecision}
    (ran : requeueIndeterminate generation request clock s = .ok s') :
    Recorded s.row.Coherent s s' := by
  simp only [requeueIndeterminate, bind_ok, require_ok, ite_ok, pure_ok] at ran
  obtain ⟨_, -, _, -, _, state, _, -, _, -, admitted, admits, ran⟩ := ran
  have still : (closePrior request.reasonCode (clock 0) admitted.1).log = s.log := by
    obtain ⟨_, _, same⟩ := admitSuccessor_effect admits
    rw [same]
    simp only [closePrior]
    cases priorAttempt _ <;> rfl
  generalize closePrior request.reasonCode (clock 0) admitted.1 = closed at ran still
  have row : closed.row = s.row := congrArg Log.record still
  have events : closed.events = s.events := congrArg Log.entries still
  have lastSequence : closed.lastSequence = s.lastSequence := congrArg Log.last still
  rcases ran with ⟨-, m, requeued, rfl⟩ | ⟨-, rfl⟩
  · simp only [requeue, bind_ok, pure_ok] at requeued
    obtain ⟨_, -, rfl⟩ := requeued
    refine .move (.still row events lastSequence) rfl (fun _ => rfl)
      (fun _ => .of_known (by simp) rfl rfl) fun _ => rfl
  · refine .unknown (.still row events lastSequence) fun coherent => ?_
    simp only [keepParked, row]
    exact ⟨coherent, state⟩

/-- A recovered terminal state moves the record to it. -/
theorem recoverTerminalFromReceipt_recorded {generation : Nat} {state : OperationState}
    {resultJson reasonCode : String} {inputDigest : Digest}
    (ran : recoverTerminalFromReceipt generation state resultJson reasonCode inputDigest clock s =
      .ok s') : Recorded True s s' := by
  simp only [recoverTerminalFromReceipt, bind_ok, require_ok, pure_ok] at ran
  obtain ⟨_, proven, _, -, _, -, _, -, _, -, _, -, _, -, rfl⟩ := ran
  refine .move (.still rfl rfl rfl) rfl (fun _ => rfl) (fun _ => ?_) fun _ => rfl
  refine .of_known ?_ rfl rfl
  rintro rfl
  simp [receiptStates] at proven

/-- A published checkpoint moves the record to its success. -/
theorem succeedWorkspaceCheckpoint_recorded {manifest : WorkspaceCheckpointManifest}
    {generation : Nat} (ran : succeedWorkspaceCheckpoint H manifest generation clock s = .ok s') :
    Recorded True s s' := by
  simp only [succeedWorkspaceCheckpoint, catalogManifest, bind_ok, pure_ok] at ran
  obtain ⟨_, -, _, -, _, -, _, -, _, ⟨_, -, rfl⟩, rfl⟩ := ran
  exact .move (.still rfl rfl rfl) rfl (fun _ => rfl)
    (fun _ => .of_known (by simp) rfl rfl) fun _ => rfl

/-- A selected checkpoint notes an indeterminate operation; its replay notes nothing. -/
theorem selectWorkspaceCheckpoint_recorded {selection : CheckpointSelection} {generation : Nat}
    (ran : selectWorkspaceCheckpoint selection generation clock s = .ok s') :
    Recorded s.row.Coherent s s' := by
  simp only [selectWorkspaceCheckpoint, bind_ok, require_ok] at ran
  obtain ⟨_, -, _, state, _, -, _, -, _, -, _, -, _, -, _, -, ran⟩ := ran
  split at ran
  · simp only [bind_ok, pure_ok] at ran
    obtain ⟨_, -, rfl⟩ := ran
    exact .same
  · simp only [bind_ok, pure_ok] at ran
    obtain ⟨_, -, rfl⟩ := ran
    exact .unknown (.still rfl rfl rfl) fun coherent => ⟨coherent, state⟩

/-- A restored checkpoint notes an indeterminate operation; its replay notes nothing. -/
theorem markWorkspaceCheckpointRestored_recorded {selection : CheckpointSelection}
    {restored : ProgrammableWorkspaceHandle} {generation : Nat}
    (ran : markWorkspaceCheckpointRestored selection restored generation clock s = .ok s') :
    Recorded s.row.Coherent s s' := by
  simp only [markWorkspaceCheckpointRestored, bind_ok, require_ok] at ran
  obtain ⟨_, -, _, -, _, state, _, -, _, -, ran⟩ := ran
  split at ran
  · simp only [bind_ok, pure_ok] at ran
    obtain ⟨_, -, rfl⟩ := ran
    exact .same
  · simp only [bind_ok, updateOne_ok, pure_ok] at ran
    obtain ⟨_, ⟨-, rfl⟩, rfl⟩ := ran
    exact .unknown (.still rfl rfl rfl) fun coherent => ⟨coherent, state⟩

/-- What a claim prepares leaves the record alone, or notes the operation it prepares. -/
theorem prepareSuccessor_recorded {successor : Successor} {now : Nat}
    {result : Scope × Option Digest}
    (accepted : s.row.state = .accepted)
    (ran : prepareSuccessor H successor now s = .ok result) :
    Recorded s.row.Coherent s result.1 := by
  simp only [prepareSuccessor, prepareManaged, ite_ok, Except.ok.injEq] at ran
  rcases ran with ⟨-, ⟨-, delegated⟩ | ⟨-, ⟨-, rfl⟩ | ⟨-, managed⟩⟩⟩ | ⟨-, rfl⟩
  · simp only [prepareDelegated, bind_ok] at delegated
    obtain ⟨taken, took, delegated⟩ := delegated
    unfold takeoverPreparedPlannerCell at took
    cases found : preparedCell s with
    | none =>
      simp only [found, Except.ok.injEq] at took
      obtain rfl := took
      simp only [bind_ok, pure_ok, preparePlannerSuccessor, theOnly_ok, ite_ok] at delegated
      obtain ⟨_, ⟨claim, -, predecessor, -, ⟨-, rfl⟩ | ⟨-, _, -, _, prepared, rfl⟩⟩, rfl⟩ := delegated
      · exact .same
      · obtain ⟨-, rfl⟩ := prepareOutbox_ok prepared
        refine .note (.still rfl rfl rfl) fun coherent => ?_
        simp only [OperationRow.shown, coherent.certain (by simp [accepted])]
    | some prepared =>
      simp only [found, bind_ok, updateOne_ok, pure_ok] at took
      obtain ⟨_, -, _, ⟨-, rfl⟩, _, -, _, started, rfl⟩ := took
      obtain rfl := startFrom_ok started
      simp only [pure_ok] at delegated
      rw [← delegated]
      exact .still rfl rfl rfl
  · exact .same
  · simp only [bind_ok, pure_ok, prepareWorkbenchSuccessor, insertUnique_ok] at managed
    obtain ⟨_, ⟨claim, -, _, -, _, -, _, ⟨-, rfl⟩, _, prepared, _, started, rfl⟩, rfl⟩ := managed
    obtain ⟨-, rfl⟩ := prepareOutbox_ok prepared
    obtain rfl := startFrom_ok started
    exact .still rfl rfl rfl
  · exact .same

/-- A claim moves the record to its running state. -/
theorem claimQueued_recorded {request : ClaimRequest} {now : Nat}
    {result : Scope × OperationDispatchClaim}
    (ran : claimQueued H request now s = .ok result) : Recorded s.row.Coherent s result.1 := by
  have stored := (claimQueued_ok ran).1
  simp only [claimQueued, insertAttempt, startClaimed, bind_ok, pure_ok] at ran
  obtain ⟨dispatch, -, _, ⟨_, -, rfl⟩, prepared, prepares, _, ⟨_, -, rfl⟩, m, started, rfl⟩ := ran
  -- The attempt and the lease of the claim do not show in the record.
  have noted := fun accepted => prepareSuccessor_recorded accepted prepares
  have before : Recorded s.row.Coherent s prepared.1 := noted stored
  generalize prepared.1 = ready at before started
  have coherent : ∀ row : OperationRow, row = { ready.row with
      state := .running, certainty := .certain, runtimeGeneration := request.runtimeGeneration
      recordRevision := ready.row.recordRevision + 1, reconciliationRequired := false } →
      row.Coherent := by
    rintro row rfl
    exact .of_known (by simp) rfl rfl
  simp only [successorStarted, ite_ok, bind_ok, pure_ok, Except.ok.injEq] at started
  obtain ⟨-, boundary, -, rfl⟩ | ⟨-, rfl⟩ := started
  · -- The start of a workspace successor is noted first, and moves the record.
    refine .note (.move before ?_ ?_ ?_ ?_) ?_
    · rfl
    · exact fun _ => rfl
    · exact fun _ => coherent _ rfl
    · exact fun _ => rfl
    · exact fun _ => rfl
  · refine .move before ?_ ?_ ?_ ?_
    · rfl
    · exact fun _ => rfl
    · exact fun _ => coherent _ rfl
    · exact fun _ => rfl

/-- A visit records the claim or the expiry it makes, and a skipped operation records nothing. -/
theorem visitQueued_recorded {request : ClaimRequest} {now : Nat}
    {result : Scope × Option OperationDispatchClaim}
    (ran : visitQueued H request now s = .ok result) : Recorded s.row.Coherent s result.1 := by
  rcases visitQueued_cases ran with ⟨-, -, same⟩ | ⟨accepted, rfl⟩ | ⟨claimed, claims, rfl⟩
  · rw [same]
    exact .still rfl rfl rfl
  · simp only [expireQueued, if_pos accepted]
    exact .move (.still rfl rfl rfl) rfl (fun _ => rfl)
      (fun _ => .of_known (by simp) rfl rfl) fun _ => rfl
  · exact claimQueued_recorded claims

/-- A restart moves an accepted operation to the next generation. -/
theorem reboundAccepted_recorded (now : Nat) (accepted : s.row.state = .accepted) :
    Recorded s.row.Coherent s (reboundAccepted now s) := by
  refine .move (.still rfl rfl rfl) rfl (fun _ => rfl) (fun coherent => ?_) fun coherent => ?_
  · exact ⟨coherent.certainty, coherent.reconciliation⟩
  · simp only [OperationRow.shown, coherent.certain (by simp [accepted]), accepted]

theorem fenceRunning_recorded (now : Nat) : Recorded True s (fenceRunning now s) := by
  simp only [fenceRunning]
  cases latestRunning s <;>
    exact .move (.still rfl rfl rfl) rfl (fun _ => rfl)
      (fun _ => .of_unknown rfl rfl rfl) fun _ => rfl

/-- Fencing an expired lease moves a running operation to its indeterminate state. -/
theorem fenceExpired_recorded (attemptNo leaseEpoch now : Nat) :
    Recorded (s.row.state = .running) s (fenceExpired attemptNo leaseEpoch now s) := by
  by_cases running : s.row.state = .running
  · simp only [fenceExpired, if_pos running]
    exact .move (.still rfl rfl rfl) rfl (fun _ => rfl)
      (fun _ => .of_unknown rfl rfl rfl) fun _ => rfl
  · simp only [fenceExpired, if_neg running]
    exact .note (.still rfl rfl rfl) fun holds => absurd holds running

end Writers

end Aar.Registry

namespace Aar

open Guarded Table Journal

section Families

variable {H : Hashing} {clock : Clock} {s s' : Scope}

/-- The calls that write the event of a running operation do so beside a running one. -/
def RegistryCall.Truthful (s : Scope) : RegistryCall → Prop
  | commitWorkbenchRebind fence tokenDigest _ =>
    ∀ read ∈ Registry.rebindRow tokenDigest fence.attempt.attemptId s,
      read.transfer.state = .prepared → s.row.state = .running
  | acknowledgeWorkbenchRebind fence tokenDigest _ =>
    ∀ transfer ∈ Registry.transferTo tokenDigest fence.attempt.attemptId s,
      transfer.state = .committed → s.row.state = .running
  | bindWorkbenchRecoveryAuthority .. => s.row.state = .running
  | _ => True

/-- Every registry transaction records what it does, truthfully where the call is truthful. -/
theorem RegistryCall.recorded {call : RegistryCall} (ran : call.run H clock s = .ok s') :
    Recorded (s.row.Coherent ∧ call.Truthful s) s s' := by
  cases call <;> simp only [RegistryCall.run, map_ok] at ran
  case bindRecoveryPolicy => exact (Registry.bindRecoveryPolicy_recorded ran).weaken And.left
  case begin | cancel | timeOut =>
    exact (Registry.transition_recorded ran fun _ state certain required =>
      .of_known (by simp [state]) certain required).weaken fun _ => trivial
  case succeed =>
    exact (Registry.transition_recorded ran fun _ state certain required =>
      .of_known (by simp [state]) certain required).weaken fun _ => trivial
  case fail =>
    exact (Registry.transition_recorded ran fun _ state certain required =>
      .of_known (by simp [state]) certain required).weaken fun _ => trivial
  case markIndeterminate =>
    exact (Registry.transition_recorded ran fun _ => .of_unknown).weaken fun _ => trivial
  case requestDispatch => exact (Registry.requestDispatch_recorded ran).weaken fun _ => trivial
  case requestCancel => exact (Registry.requestCancel_recorded ran).weaken fun _ => trivial
  case heartbeat =>
    obtain ⟨-, rfl⟩ := Registry.heartbeat_ok ran
    exact .still rfl rfl rfl
  case transitionClaimed | parkAttempt =>
    exact (Registry.transitionClaimed_recorded ran).weaken fun _ => trivial
  case bindCheckpoint => exact (Registry.bindCheckpoint_recorded ran).weaken fun _ => trivial
  case finishAttempt =>
    rcases Registry.finishAttempt_ok ran with rfl | ⟨_, _, _, -, -, -, -, rfl⟩ <;>
      exact .still rfl rfl rfl
  case suspendPlannerAttempt =>
    exact (Registry.suspendPlannerAttempt_recorded ran).weaken fun _ => trivial
  case suspendWorkbenchAttempt =>
    exact (Registry.suspendWorkbenchAttempt_recorded ran).weaken fun _ => trivial
  case consumePlannerSuccessor =>
    exact (Registry.consumePlannerSuccessor_recorded ran).weaken And.left
  case commitWorkbenchRebind =>
    obtain ⟨result, ran, rfl⟩ := ran
    exact Registry.commitWorkbenchRebind_recorded
      (fun read found prepared holds => ⟨holds.1, holds.2 read found prepared⟩) ran
  case acknowledgeWorkbenchRebind =>
    exact Registry.acknowledgeWorkbenchRebind_recorded
      (fun transfer found committed holds => ⟨holds.1, holds.2 transfer found committed⟩) ran
  case markWorkbenchRebindWorkerLost =>
    exact (Registry.markWorkbenchRebindWorkerLost_recorded ran).weaken And.left
  case bindWorkbenchRecoveryAuthority =>
    exact Registry.bindWorkbenchRecoveryAuthority_recorded id ran
  case cancelQueuedDispatch =>
    obtain ⟨result, ran, rfl⟩ := ran
    exact (Registry.cancelQueuedDispatch_recorded ran).weaken fun _ => trivial
  case requeueIndeterminate =>
    exact (Registry.requeueIndeterminate_recorded ran).weaken And.left
  case recoverTerminalFromReceipt =>
    exact (Registry.recoverTerminalFromReceipt_recorded ran).weaken fun _ => trivial
  case succeedWorkspaceCheckpoint =>
    exact (Registry.succeedWorkspaceCheckpoint_recorded ran).weaken fun _ => trivial
  case recordWorkspaceCheckpoint =>
    obtain rfl := Registry.recordWorkspaceCheckpoint_effect ran
    exact .still rfl rfl rfl
  case selectWorkspaceCheckpoint =>
    exact (Registry.selectWorkspaceCheckpoint_recorded ran).weaken And.left
  case markWorkspaceCheckpointRestored =>
    exact (Registry.markWorkspaceCheckpointRestored_recorded ran).weaken And.left

/-- The calls that are truthful about the record they write beside. -/
def OpCall.Truthful (s : Scope) : OpCall → Prop
  | registry call => call.Truthful s
  | _ => True

/-- Every transaction on an operation records what it does. -/
theorem OpCall.recorded {call : OpCall} (ran : call.run H clock s = .ok s') :
    Recorded (s.row.Coherent ∧ call.Truthful s) s s' := by
  cases call with
  | registry call => exact RegistryCall.recorded ran
  | ticket call =>
    -- Caller work writes no event of the operation.
    cases TicketCall.written ran <;> exact .still rfl rfl rfl
  | workbench call =>
    obtain ⟨_, _, _, _, _, _, _, _, _, _, -, -, rfl⟩ := WorkbenchCall.effect ran
    exact .still rfl rfl rfl

end Families

end Aar
