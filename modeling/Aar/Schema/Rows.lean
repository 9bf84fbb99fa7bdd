import Aar.Schema.Documents

/-! The tables of the registry database, grouped by the operation their rows belong to.

Columns that are only ever written, such as creation times, are left out. -/

namespace Aar

/-- A row of `operations`. -/
structure OperationRow where
  hostValue : String
  principalValue : String
  idempotencyKey : String
  inputDigest : Digest
  state : OperationState
  certainty : OutcomeCertainty
  runtimeGeneration : Nat
  recordRevision : Nat
  reconciliationRequired : Bool
  request : RequestEnvelope
  payloadJson : String
  resultJson : Option String
  failure : Option FailureEnvelope
  createdAtUnixMs : Nat
  deriving DecidableEq

/-- A row of `operation_attempts`. -/
structure AttemptRow where
  attemptNo : Nat
  attemptId : String
  runtimeGeneration : Nat
  dispatcherGeneration : Nat
  state : AttemptState
  certainty : OutcomeCertainty
  recoveryReason : Option String
  endedAtUnixMs : Option Nat
  checkpointDigest : Option Digest
  deriving DecidableEq

/-- A row of `operation_leases`. -/
structure LeaseRow where
  attemptNo : Nat
  leaseEpoch : Nat
  ownerDigest : Digest
  heartbeatAtUnixMs : Nat
  expiresAtUnixMs : Nat
  releasedAtUnixMs : Option Nat
  deriving DecidableEq

/-- A row of `operation_controls`. -/
structure ControlRow where
  controlRevision : Nat
  cancellationRequested : Bool
  requestedAtUnixMs : Option Nat
  requestedByDigest : Option Digest
  reasonCode : Option String
  deriving DecidableEq

/-- A row of `operation_dispatch`. -/
structure DispatchRow where
  kind : DispatchKind
  state : DispatchState
  queuedAtUnixMs : Option Nat
  runningAtUnixMs : Option Nat
  finishedAtUnixMs : Option Nat
  currentAttemptNo : Option Nat
  deriving DecidableEq

/-- A value inside an event payload. -/
inductive PayloadValue where
  | int (value : Nat)
  | text (value : String)
  | null
  | owner (value : LogicalOwner)
  | directive (value : RlmDirective)
  deriving DecidableEq

/-- An event payload as its fields in order. -/
abbrev Payload := List (String × PayloadValue)

/-- A row of `operation_events`. -/
structure EventRow where
  sequence : Nat
  state : OperationState
  certainty : OutcomeCertainty
  recordRevision : Nat
  atUnixMs : Nat
  note : String
  attemptNo : Option Nat
  eventKind : String
  payload : Payload
  deriving DecidableEq

/-- A row of `operation_checkpoints`. -/
structure CheckpointRow where
  attemptNo : Nat
  checkpointDigest : Digest
  environmentDigest : Digest
  artifactId : String
  mediaType : String
  sizeBytes : Nat
  createdByOperationId : String
  createdAtUnixMs : Nat
  deriving DecidableEq

/-- The recovery policy an operation is bound to at admission. -/
structure RecoveryPolicy where
  operationKind : DispatchKind
  policyVersion : Nat
  policyId : String
  allowedDecisions : List RecoveryDecision
  maxSuccessorAttempts : Nat
  deriving DecidableEq

/-- A row of `operation_recovery_policies`. -/
structure RecoveryPolicyBinding where
  operationKind : DispatchKind
  policy : RecoveryPolicy
  policyDigest : Digest
  environmentDigest : Digest
  deriving DecidableEq

/-- A row of `operation_recovery_decisions`. -/
structure DecisionRow where
  decisionNo : Nat
  priorAttemptNo : Option Nat
  decision : RecoveryDecision
  reasonCode : String
  inputDigest : Digest
  policyVersion : Option Nat
  policyDigest : Option Digest
  checkpointDigest : Option Digest
  continuationBoundaryDigest : Option Digest
  successorAttemptNo : Option Nat
  deriving DecidableEq

/-- The predecessor authority every continuation boundary repeats. -/
structure BoundaryAuthority where
  priorAttempt : OperationAttemptRef
  runtimeGeneration : Nat
  dispatcherGeneration : Nat
  leaseEpoch : Nat
  policyDigest : Digest
  inputDigest : Digest
  environmentDigest : Digest
  deadlineUnixMs : Nat
  boundaryDigest : Digest
  deriving DecidableEq

/-- The checkpoint a workspace selection or boundary names. -/
structure CheckpointChoice where
  checkpointOperation : String
  checkpointManifestDigest : Digest
  sourceHandle : ProgrammableWorkspaceHandle
  exclusionCount : Nat
  exclusionsDigest : Digest
  artifactsDigest : Digest
  completeness : String
  deriving DecidableEq

/-- A continuation boundary: after a language-model step, or at a restored workspace checkpoint. -/
inductive ContinuationBoundary where
  | rlmStep (authority : BoundaryAuthority)
  | workspaceCheckpoint (authority : BoundaryAuthority) (choice : CheckpointChoice)
      (restoredHandle : ProgrammableWorkspaceHandle)
  deriving DecidableEq

/-- The predecessor authority of a continuation boundary. -/
def ContinuationBoundary.authority : ContinuationBoundary → BoundaryAuthority
  | rlmStep authority => authority
  | workspaceCheckpoint authority _ _ => authority

/-- A row of `operation_rlm_boundaries` or `operation_workspace_boundaries`. -/
structure BoundaryRow where
  priorAttemptNo : Nat
  boundary : ContinuationBoundary
  deriving DecidableEq

/-- The persisted choice of one exact checkpoint before a restore begins. -/
structure CheckpointSelection where
  priorAttempt : OperationAttemptRef
  runtimeGeneration : Nat
  dispatcherGeneration : Nat
  leaseEpoch : Nat
  policyDigest : Digest
  inputDigest : Digest
  environmentDigest : Digest
  deadlineUnixMs : Nat
  choice : CheckpointChoice
  selectionDigest : Digest
  deriving DecidableEq

/-- A row of `operation_workspace_checkpoint_selections`; a restored row names its handle. -/
structure SelectionRow where
  priorAttemptNo : Nat
  selection : CheckpointSelection
  restoredHandle : Option ProgrammableWorkspaceHandle
  deriving DecidableEq

/-- A row of `workspace_checkpoint_catalog`. -/
structure CatalogRow where
  manifestDigest : Digest
  workspaceId : String
  sourceGeneration : Nat
  sourceRevision : Nat
  backendCapabilityDigest : Digest
  environmentDigest : Digest
  creationOperationId : String
  manifest : WorkspaceCheckpointManifest
  deriving DecidableEq

/-- A row of `rlm_workbench_jobs`. -/
structure JobRow where
  phase : JobPhase
  controlRevision : Nat
  cancellationRevision : Nat
  cancellationRequested : Bool
  spec : RlmWorkbenchJobSpec
  specDigest : Digest
  contextDigest : Digest
  routeBindingDigest : Digest
  cumulativeDeadlineUnixMs : Nat
  workspaceId : Option String
  workspaceGeneration : Nat
  workspaceRevision : Nat
  checkpointDigest : Option Digest
  resultJson : Option String
  resultDigest : Option Digest
  failure : Option FailureEnvelope
  certainty : OutcomeCertainty
  deriving DecidableEq

/-- A row of `rlm_workbench_cells`. -/
structure CellRow where
  cellExecutionId : String
  cellIndex : Nat
  source : RlmDirective
  sourceDigest : Digest
  preCheckpointDigest : Digest
  postCheckpointDigest : Option Digest
  state : CellState
  attemptId : String
  attemptFence : Digest
  workspaceId : String
  workspaceGeneration : Nat
  preWorkspaceRevision : Nat
  postWorkspaceRevision : Option Nat
  resultJson : Option String
  resultDigest : Option Digest
  deriving DecidableEq

/-- A row of `rlm_workbench_suspensions`. -/
structure SuspensionRow where
  suspensionRevision : Nat
  controlRevision : Nat
  cellExecutionId : Option String
  logicalOwner : LogicalOwner
  brokerMethod : BrokerMethod
  contractId : String
  requestDigest : Digest
  ticketId : String
  checkpointDigest : Option Digest
  state : SuspensionState
  settledAtUnixMs : Option Nat
  deriving DecidableEq

/-- A row of `caller_work_tickets`. -/
structure TicketRow where
  ticketId : String
  suspensionRevision : Nat
  revision : Nat
  ticketDigest : Digest
  request : CallerWorkRequest
  requestDigest : Digest
  method : BrokerMethod
  contractId : String
  logicalOwner : LogicalOwner
  state : TicketState
  deadlineUnixMs : Nat
  claimantPrincipalId : Option String
  claimantSessionId : Option String
  adapterId : Option String
  adapterGeneration : Option Nat
  claimId : Option String
  claimFence : Option Digest
  claimExpiresAtUnixMs : Option Nat
  physicalAttemptId : Option String
  externalIdempotencyKey : Option String
  lookupSupported : Option Bool
  cancelSupported : Option Bool
  sendStartedAtUnixMs : Option Nat
  sentRequestDigest : Option Digest
  sentAtUnixMs : Option Nat
  providerOrChildRequestId : Option String
  settledReceiptDigest : Option Digest
  settledAtUnixMs : Option Nat
  deriving DecidableEq

/-- Where a candidate receipt came from. -/
inductive ReceiptSource where
  | claimantCallback
  | providerLookup
  | childLookup
  | cancellationAck
  | reconciler
  deriving DecidableEq

/-- A row of `caller_work_candidate_receipts`. -/
structure CandidateRow where
  ticketId : String
  physicalAttemptId : String
  receiptDigest : Digest
  receipt : CandidateReceipt
  sourceKind : ReceiptSource
  deriving DecidableEq

/-- A row of `caller_work_command_receipts`. -/
structure CommandRow where
  ticketId : String
  commandKind : CommandKind
  idempotencyKey : String
  commandDigest : Digest
  resultRevision : Nat
  resultTicket : CallerWorkTicket
  resultDigest : Digest
  deriving DecidableEq

/-- A row of `rlm_workbench_successor_outbox`. -/
structure OutboxRow where
  suspensionRevision : Nat
  settlementDigest : Digest
  outboxDigest : Digest
  state : OutboxState
  rebindGeneration : Nat
  successorAttemptId : Option String
  successorAttemptFence : Option Digest
  deriving DecidableEq

/-- A row of `rlm_workbench_attempt_authority`. -/
structure AuthorityRow where
  attemptId : String
  attemptFence : Digest
  authorityGeneration : Nat
  workerOwnerGeneration : Nat
  workerProcessIdentityDigest : Digest
  workspaceId : String
  workspaceGeneration : Nat
  workspaceRevision : Nat
  cellExecutionId : String
  rebindTokenDigest : Option Digest
  deriving DecidableEq

/-- The material of a workspace rebind token, as the successor's worker sees it. -/
structure RebindToken where
  operation : String
  rebindGeneration : Nat
  priorAuthorityGeneration : Nat
  successorAuthorityGeneration : Nat
  expectedControlRevision : Nat
  expectedCancellationRevision : Nat
  expectedCumulativeDeadlineUnixMs : Nat
  priorAttemptId : String
  priorAttemptFence : Digest
  successorAttemptId : String
  successorAttemptFence : Digest
  workspace : String
  workspaceGeneration : Nat
  workspaceRevision : Nat
  cellExecutionId : String
  suspensionRevision : Nat
  ticketId : String
  settledReceiptDigest : Digest
  successorOutboxDigest : Digest
  workerOwnerGeneration : Nat
  workerProcessIdentityDigest : Digest
  expiresAtUnixMs : Nat
  deriving DecidableEq

/-- A row of `rlm_workbench_rebind_transfers`. -/
structure TransferRow where
  tokenDigest : Digest
  suspensionRevision : Nat
  settlementDigest : Digest
  outboxDigest : Digest
  rebindGeneration : Nat
  priorAuthorityGeneration : Nat
  successorAuthorityGeneration : Nat
  expectedControlRevision : Nat
  expectedCancellationRevision : Nat
  expectedCumulativeDeadlineUnixMs : Nat
  priorAttemptId : String
  priorAttemptFence : Digest
  successorAttemptId : String
  successorAttemptFence : Digest
  workerOwnerGeneration : Nat
  workerProcessIdentityDigest : Digest
  workspaceId : String
  workspaceGeneration : Nat
  workspaceRevision : Nat
  cellExecutionId : String
  expiresAtUnixMs : Nat
  state : TransferState
  consumptionKind : Option ConsumptionKind
  ackDigest : Option Digest
  deriving DecidableEq

/-- A row of `rlm_workbench_artifact_stages`. -/
structure StageRow where
  stageId : String
  cellExecutionId : String
  logicalName : String
  state : StageState
  deriving DecidableEq

/-- A row of `rlm_workbench_cell_manifests`. -/
structure CellManifestRow where
  cellExecutionId : String
  manifestDigest : Digest
  deriving DecidableEq

/-- A row of `rlm_workbench_finalization_manifests`. -/
structure FinalizationRow where
  finalizerAttemptId : String
  finalizerAttemptFence : Digest
  expectedCancellationRevision : Nat
  expectedCumulativeDeadlineUnixMs : Nat
  controlRevision : Nat
  proposalDigest : Digest
  resultDigest : Digest
  deriving DecidableEq

/-- A committed row of `model_executions`. -/
structure ModelExecutionRow where
  idempotencyKey : String
  requestDigest : Digest
  request : CallerWorkRequest
  binding : ModelRouteBinding
  responseDigest : Digest
  response : ModelResponse
  usage : ModelUsageRecord
  deriving DecidableEq

/-- A row of `broker_calls`; a call is open until its response is stored. -/
structure BrokerCallRow where
  sequence : Nat
  succeeded : Bool
  deriving DecidableEq

/-- Every row that belongs to one operation. -/
structure OpRecord where
  row : OperationRow
  attempts : List AttemptRow
  leases : List LeaseRow
  control : Option ControlRow
  dispatch : Option DispatchRow
  events : List EventRow
  checkpoints : List CheckpointRow
  policy : Option RecoveryPolicyBinding
  decisions : List DecisionRow
  rlmBoundaries : List BoundaryRow
  workspaceBoundaries : List BoundaryRow
  selections : List SelectionRow
  job : Option JobRow
  cells : List CellRow
  suspensions : List SuspensionRow
  tickets : List TicketRow
  candidates : List CandidateRow
  commands : List CommandRow
  outbox : List OutboxRow
  authority : Option AuthorityRow
  transfers : List TransferRow
  stages : List StageRow
  cellManifests : List CellManifestRow
  finalization : Option FinalizationRow
  routeBinding : Option ModelRouteBinding
  modelExecutions : List ModelExecutionRow
  brokerCalls : List BrokerCallRow

/-- The database: the runtime generation, the shared catalog, and the rows of every operation. -/
structure Db where
  generation : Nat
  lastSequence : Nat
  catalog : List CatalogRow
  operations : List (String × OpRecord)
  primaryKey : (operations.map Prod.fst).Nodup

/-- What a transaction on one operation reads and writes; the other operations are read only. -/
structure Scope extends OpRecord where
  operation : String
  generation : Nat
  lastSequence : Nat
  catalog : List CatalogRow
  others : List OpRecord

/-- The value occurs in a unique column of no operation. -/
def Scope.Fresh (s : Scope) (column : OpRecord → List String) (value : String) : Prop :=
  value ∉ column s.toOpRecord ∧ ∀ other ∈ s.others, value ∉ column other

instance (s : Scope) (column : OpRecord → List String) (value : String) :
    Decidable (s.Fresh column value) :=
  inferInstanceAs (Decidable (_ ∧ _))

/-- The clock of one call: the readings it returns, in order. -/
abbrev Clock := Nat → Nat

end Aar
