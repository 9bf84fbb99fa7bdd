import Aar.CallerWork.Commands
import Aar.Lib.Run
import Aar.Registry.Claim
import Aar.Registry.Recovery
import Aar.Workbench.Recovery

/-! The whole runtime as one system: every call is one transaction, and a failed one changes nothing. -/

namespace Aar

open Guarded

section Calls

/-- A registry transaction on one operation. -/
inductive RegistryCall where
  | bindRecoveryPolicy (kind : DispatchKind) (policy : RecoveryPolicy) (environment : Digest)
  | begin (generation : Nat)
  | succeed (resultJson : String) (generation : Nat) (reconciled : Bool)
  | fail (failure : FailureEnvelope) (generation : Nat) (reconciled : Bool)
      (resultJson : Option String)
  | cancel (generation : Nat) (resultJson : Option String)
  | timeOut (generation : Nat) (resultJson : Option String)
  | markIndeterminate (generation : Nat) (note : String)
  | requestDispatch (kind : DispatchKind)
  | requestCancel (requestedByDigest : Digest) (reasonCode : String)
  | heartbeat (fence : AttemptFence) (generation leaseDurationMs : Nat)
  | transitionClaimed (fence : AttemptFence) (generation : Nat) (state : OperationState)
      (resultJson : Option String) (failure : Option FailureEnvelope) (note : String)
  | parkAttempt (fence : AttemptFence) (generation : Nat) (note : String)
  | bindCheckpoint (fence : AttemptFence) (generation : Nat)
      (checkpoint : Registry.ArtifactReference) (environment : Digest)
  | finishAttempt (fence : AttemptFence) (generation : Nat)
  | suspendPlannerAttempt (fence : AttemptFence) (ticket : CallerWorkTicket)
  | suspendWorkbenchAttempt (fence : AttemptFence) (cell : Registry.CellFence)
      (ticket : CallerWorkTicket)
  | consumePlannerSuccessor (fence : AttemptFence) (token : Registry.PlannerToken)
      (outcome : Registry.PlannerOutcome)
  | commitWorkbenchRebind (fence : AttemptFence) (tokenDigest : Digest)
      (worker : Registry.WorkerIdentity)
  | acknowledgeWorkbenchRebind (fence : AttemptFence) (tokenDigest : Digest)
      (ack : Registry.Acknowledgement)
  | markWorkbenchRebindWorkerLost (generation : Nat) (tokenDigest : Digest)
      (restored : ProgrammableWorkspaceHandle)
  | bindWorkbenchRecoveryAuthority (fence : AttemptFence)
      (workspace : ProgrammableWorkspaceHandle) (worker : Registry.WorkerIdentity)
  | cancelQueuedDispatch (generation : Nat) (resultJson : Option String)
  | requeueIndeterminate (generation : Nat) (request : Registry.RequeueDecision)
  | recoverTerminalFromReceipt (generation : Nat) (state : OperationState)
      (resultJson reasonCode : String) (inputDigest : Digest)
  | succeedWorkspaceCheckpoint (manifest : WorkspaceCheckpointManifest) (generation : Nat)
  | recordWorkspaceCheckpoint (manifest : WorkspaceCheckpointManifest)
  | selectWorkspaceCheckpoint (selection : CheckpointSelection) (generation : Nat)
  | markWorkspaceCheckpointRestored (selection : CheckpointSelection)
      (restored : ProgrammableWorkspaceHandle) (generation : Nat)

/-- A caller-work transaction; the operation is the one its ticket belongs to. -/
inductive TicketCall where
  | create (ticket : CallerWorkTicket)
  | claim (command : CallerWorkClaimInput) (claimId attemptId : String)
  | reclaimExpired (ticketId : String) (expectedRevision : Nat) (expectedClaimId : String)
      (expectedClaimFence : Digest)
  | markSendStarted (command : CallerWorkMarkSendStartedInput)
  | cancelBeforeSend (command : CallerWorkCancelBeforeSendInput)
  | requestCancel (ticketId : String) (expectedRevision : Nat)
  | markOutcomeUnknown (ticketId : String) (expectedRevision : Nat)
  | commit (command : CallerWorkCommitInput)
  | reconcile (command : CallerWorkReconcileInput)
  | appendCandidateReceipt (receipt : CandidateReceipt) (source : ReceiptSource)
  | appendModelCandidateReceipt (receipt : CandidateReceipt) (response : ModelResponse)
      (source : ReceiptSource)
  | settleCandidate (command : SettleCandidateInput)

/-- A coordinator transaction on one operation. -/
inductive WorkbenchCall where
  | admitJob (spec : RlmWorkbenchJobSpec) (context : Workbench.AdmissionContext)
  | prepareWorkspaceStart
  | prepareWorkspaceBind (handle : ProgrammableWorkspaceHandle)
  | beginRunning (fence : AttemptFence)
  | openBrokerCall (sequence : Nat)
  | answerBrokerCall (sequence : Nat)
  | stageArtifact (stageId cellExecutionId logicalName : String)
      (handle : ProgrammableWorkspaceHandle)
  | executeCellStart (fence : AttemptFence) (start : Workbench.CellStart)
  | executeCellPrepared (fence : AttemptFence) (cellExecutionId : String)
  | executeCellCommit (fence : AttemptFence) (outcome : Workbench.CellOutcome)
  | resumeSuccessorCommit (fence : AttemptFence) (resumed : Workbench.ResumedCell)
      (outcome : Workbench.CellOutcome)
  | finalizeStart (fence : AttemptFence) (artifactStageIds : List String)
  | finalizeCommit (fence : AttemptFence) (plan : Workbench.FinalizationPlan)
      (result : Workbench.FinalResult)
  | parkClaimed (fence : AttemptFence) (failure : FailureEnvelope)
  | markDeadlineTerminal
  | markModelCallBudgetTerminal (fence : AttemptFence)
  | recoverPreparedCell (read : Workbench.PreparedCellRecovery)
      (restored : ProgrammableWorkspaceHandle) (worker : Registry.WorkerIdentity)
  | recoverPlanner (read : OutboxRow) (restored : ProgrammableWorkspaceHandle)

/-- A transaction on the rows of one operation. -/
inductive OpCall where
  | registry (call : RegistryCall)
  | ticket (call : TicketCall)
  | workbench (call : WorkbenchCall)

/-- One call of the runtime. -/
inductive Call where
  | startRuntime
  | accept (envelope : RequestEnvelope) (payloadJson : String)
      (admission : Option Registry.Admission)
  | claimNext (request : Registry.ClaimRequest)
  | fenceExpiredAttempts (generation : Nat)
  | on (operation : String) (call : OpCall)

end Calls

section Transactions

variable (H : Hashing) (clock : Clock)

/-- Run one registry transaction. -/
def RegistryCall.run : RegistryCall → Scope → Except Err Scope
  | bindRecoveryPolicy kind policy environment =>
    Registry.bindRecoveryPolicy H clock kind policy environment
  | begin generation => Registry.begin generation clock
  | succeed resultJson generation reconciled =>
    Registry.succeed resultJson generation reconciled clock
  | fail failure generation reconciled resultJson =>
    Registry.fail failure generation reconciled resultJson clock
  | cancel generation resultJson => Registry.cancel generation resultJson clock
  | timeOut generation resultJson => Registry.timeOut generation resultJson clock
  | markIndeterminate generation note => Registry.markIndeterminate generation note clock
  | requestDispatch kind => Registry.requestDispatch kind clock
  | requestCancel requestedByDigest reasonCode =>
    Registry.requestCancel requestedByDigest reasonCode clock
  | heartbeat fence generation leaseDurationMs =>
    Registry.heartbeat fence generation leaseDurationMs clock
  | transitionClaimed fence generation state resultJson failure note =>
    Registry.transitionClaimed fence generation state resultJson failure note clock
  | parkAttempt fence generation note => Registry.parkAttempt fence generation note clock
  | bindCheckpoint fence generation checkpoint environment =>
    Registry.bindCheckpoint fence generation checkpoint environment clock
  | finishAttempt fence generation => Registry.finishAttempt fence generation clock
  | suspendPlannerAttempt fence ticket =>
    Registry.suspendPlannerAttempt H fence ticket clock
  | suspendWorkbenchAttempt fence cell ticket =>
    Registry.suspendWorkbenchAttempt fence cell ticket clock
  | consumePlannerSuccessor fence token outcome =>
    Registry.consumePlannerSuccessor H fence token outcome clock
  | commitWorkbenchRebind fence tokenDigest worker => fun s =>
    Prod.fst <$> Registry.commitWorkbenchRebind fence tokenDigest worker clock s
  | acknowledgeWorkbenchRebind fence tokenDigest ack =>
    Registry.acknowledgeWorkbenchRebind H fence tokenDigest ack clock
  | markWorkbenchRebindWorkerLost generation tokenDigest restored =>
    Registry.markWorkbenchRebindWorkerLost generation tokenDigest restored clock
  | bindWorkbenchRecoveryAuthority fence workspace worker =>
    Registry.bindWorkbenchRecoveryAuthority H fence workspace worker clock
  | cancelQueuedDispatch generation resultJson => fun s =>
    Prod.fst <$> Registry.cancelQueuedDispatch generation resultJson clock s
  | requeueIndeterminate generation request =>
    Registry.requeueIndeterminate generation request clock
  | recoverTerminalFromReceipt generation state resultJson reasonCode inputDigest =>
    Registry.recoverTerminalFromReceipt generation state resultJson reasonCode inputDigest clock
  | succeedWorkspaceCheckpoint manifest generation =>
    Registry.succeedWorkspaceCheckpoint H manifest generation clock
  | recordWorkspaceCheckpoint manifest => Registry.recordWorkspaceCheckpoint H manifest
  | selectWorkspaceCheckpoint selection generation =>
    Registry.selectWorkspaceCheckpoint selection generation clock
  | markWorkspaceCheckpointRestored selection restored generation =>
    Registry.markWorkspaceCheckpointRestored selection restored generation clock

/-- Run one caller-work transaction. -/
def TicketCall.run : TicketCall → Scope → Except Err Scope
  | create ticket => fun s => Prod.fst <$> CallerWork.createTicket ticket s
  | claim command claimId attemptId => fun s =>
    Prod.fst <$> CallerWork.claim H command claimId attemptId clock s
  | reclaimExpired ticketId expectedRevision expectedClaimId expectedClaimFence => fun s =>
    Prod.fst <$> CallerWork.reclaimExpired ticketId expectedRevision expectedClaimId
      expectedClaimFence clock s
  | markSendStarted command => fun s =>
    Prod.fst <$> CallerWork.markSendStarted H command clock s
  | cancelBeforeSend command => fun s => Prod.fst <$> CallerWork.cancelBeforeSend H command s
  | requestCancel ticketId expectedRevision => fun s =>
    Prod.fst <$> CallerWork.requestTicketCancel ticketId expectedRevision s
  | markOutcomeUnknown ticketId expectedRevision => fun s =>
    Prod.fst <$> CallerWork.markOutcomeUnknown ticketId expectedRevision s
  | commit command => fun s => Prod.fst <$> CallerWork.commit H command clock s
  | reconcile command => fun s => Prod.fst <$> CallerWork.reconcile H command clock s
  | appendCandidateReceipt receipt source => fun s =>
    Prod.fst <$> CallerWork.appendCandidateReceipt H receipt source s
  | appendModelCandidateReceipt receipt response source => fun s =>
    Prod.fst <$> CallerWork.appendModelCandidateReceipt H receipt response source s
  | settleCandidate command => fun s =>
    Prod.fst <$> CallerWork.settleCandidate H command clock s

/-- Run one coordinator transaction. -/
def WorkbenchCall.run : WorkbenchCall → Scope → Except Err Scope
  | admitJob spec context => Workbench.admitJob H spec context
  | prepareWorkspaceStart => fun s => Prod.fst <$> Workbench.prepareWorkspaceStart s
  | prepareWorkspaceBind handle => Workbench.prepareWorkspaceBind handle
  | beginRunning fence => Workbench.beginRunning fence clock
  | openBrokerCall sequence => Workbench.openBrokerCall sequence
  | answerBrokerCall sequence => Workbench.answerBrokerCall sequence
      "worker frame has no authoritative terminal receipt"
  | stageArtifact stageId cellExecutionId logicalName handle =>
    Workbench.stageArtifact stageId cellExecutionId logicalName handle
  | executeCellStart fence start => Workbench.executeCellStart H fence start clock
  | executeCellPrepared fence cellExecutionId =>
    Workbench.executeCellPrepared H fence cellExecutionId clock
  | executeCellCommit fence outcome => Workbench.executeCellCommit fence outcome clock
  | resumeSuccessorCommit fence resumed outcome =>
    Workbench.resumeSuccessorCommit H fence resumed outcome clock
  | finalizeStart fence artifactStageIds => fun s =>
    Prod.fst <$> Workbench.finalizeStart fence artifactStageIds clock s
  | finalizeCommit fence plan result => Workbench.finalizeCommit H fence plan result clock
  | parkClaimed fence failure => Workbench.parkClaimed fence failure clock
  | markDeadlineTerminal => Workbench.markDeadlineTerminal clock
  | markModelCallBudgetTerminal fence => Workbench.markModelCallBudgetTerminal fence clock
  | recoverPreparedCell read restored worker =>
    Workbench.recoverPreparedCell read restored worker
  | recoverPlanner read restored => Workbench.recoverPlanner read restored

/-- Run one transaction on the rows of an operation. -/
def OpCall.run : OpCall → Scope → Except Err Scope
  | registry call => call.run H clock
  | ticket call => call.run H clock
  | workbench call => call.run H clock

/-- Run one call on the database. -/
def Call.run : Call → Db → Except Err Db
  | startRuntime => fun db => .ok (Registry.startRuntime clock db)
  | accept envelope payloadJson admission => fun db =>
    Prod.fst <$> Registry.accept H clock envelope payloadJson
      (admission.map Registry.Admission.callback) db
  | claimNext request => fun db => Prod.fst <$> Registry.claimNext H request clock db
  | fenceExpiredAttempts generation => Registry.fenceExpiredAttempts generation clock
  | on operation call => fun db => db.update operation (.keyError operation) (call.run H clock)

end Transactions

section Steps

/-- A call together with the clock readings it gets. -/
structure Event where
  call : Call
  clock : Clock

/-- The database after one call; a call that raises leaves it unchanged. -/
def Event.step (H : Hashing) (event : Event) (db : Db) : Db :=
  match event.call.run H event.clock db with
  | .ok db' => db'
  | .error _ => db

/-- An empty database before its first runtime generation. -/
def Db.empty : Db :=
  { generation := 0, lastSequence := 0, catalog := [], operations := []
    primaryKey := List.nodup_nil }

/-- A database that some list of calls, with any clock readings, leads to. -/
def Db.Reachable (H : Hashing) (db : Db) : Prop :=
  Runs.Reachable (Event.step H) Db.empty db

/-- A call that raises changes nothing, and one that succeeds writes its result. -/
theorem Event.step_cases {H : Hashing} {event : Event} {db : Db} :
    (∃ db', event.call.run H event.clock db = .ok db' ∧ event.step H db = db') ∨
      event.step H db = db := by
  unfold Event.step
  cases ran : event.call.run H event.clock db with
  | ok db' => exact .inl ⟨db', rfl, rfl⟩
  | error raised => exact .inr rfl

end Steps

end Aar
