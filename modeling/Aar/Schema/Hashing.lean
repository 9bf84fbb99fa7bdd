import Aar.Schema.Rows

/-! The digests and derived identifiers of the program, as functions of the documents they hash. -/

namespace Aar

/-- The claim a fence digest binds to one ticket revision and one physical attempt. -/
structure ClaimFenceDocument where
  ticketId : String
  revision : Nat
  claimId : String
  physicalAttemptId : String
  adapterId : String
  adapterGeneration : Nat
  deriving DecidableEq

/-- The identity a reconcile fence binds to one ticket authority epoch. -/
structure ReconcileFenceDocument where
  ticketId : String
  expectedRevision : Nat
  physicalAttemptId : String
  candidateReceiptDigest : Option Digest
  reconcilerId : String
  reconcilerGeneration : Nat
  reconciliationAction : ReconciliationAction
  deriving DecidableEq

/-- What the worker says about a resumed rebind, without the digest that seals it. -/
structure AcknowledgementPayload where
  tokenDigest : Digest
  acknowledgedPhase : String
  workerProcessIdentityDigest : Digest
  observedWorkspaceRevision : Nat
  liveStackResumed : Bool
  deriving DecidableEq

/-- The authority context every caller-work command repeats. -/
structure MutationContext where
  principalId : String
  sessionId : String
  deriving DecidableEq

/-- The fields shared by the commands that act on one ticket. -/
structure TicketCommand where
  context : MutationContext
  operation : String
  expectedControlRevision : Nat
  expectedCancellationRevision : Nat
  expectedSuspensionRevision : Nat
  expectedCumulativeDeadlineUnixMs : Nat
  ticketId : String
  expectedRevision : Nat
  ticketDigest : Digest
  idempotencyKey : String
  deriving DecidableEq

/-- The claim a command repeats to prove it still owns the ticket. -/
structure ClaimProof where
  claimId : Option String
  claimFence : Option Digest
  physicalAttemptId : Option String
  deriving DecidableEq

/-- A claim command. -/
structure CallerWorkClaimInput extends TicketCommand where
  adapterId : String
  adapterGeneration : Nat
  claimLeaseMs : Nat
  deriving DecidableEq

/-- A send-start command. -/
structure CallerWorkMarkSendStartedInput extends TicketCommand where
  proof : ClaimProof
  expectedClaimExpiresAtUnixMs : Nat
  providerOrChildIdempotencyKey : String
  sentRequestDigest : Digest
  lookupSupported : Bool
  cancelSupported : Bool
  deriving DecidableEq

/-- A command that cancels a ticket that has certainly not been sent. -/
structure CallerWorkCancelBeforeSendInput extends TicketCommand where
  expectedPreSendState : TicketState
  proof : ClaimProof
  expectedClaimExpiresAtUnixMs : Option Nat
  settledReceiptDigest : Digest
  settledAtUnixMs : Nat
  deriving DecidableEq

/-- A command that commits what the claimant observed. -/
structure CallerWorkCommitInput extends TicketCommand where
  proof : ClaimProof
  sentRequestDigest : Digest
  sentAtUnixMs : Nat
  providerOrChildRequestId : Option String
  observation : CallerWorkObservation
  modelResponse : Option ModelResponse
  deriving DecidableEq

/-- A reconciliation command. -/
structure CallerWorkReconcileInput extends TicketCommand where
  physicalAttemptId : String
  candidateReceiptDigest : Option Digest
  reconcilerId : String
  reconcilerGeneration : Nat
  reconcileFence : Digest
  reconciliationAction : ReconciliationAction
  deriving DecidableEq

/-- An internal request to settle one stored candidate. -/
structure SettleCandidateInput where
  ticketId : String
  expectedRevision : Nat
  candidateReceiptDigest : Digest
  reconcilerId : String
  reconcilerGeneration : Nat
  reconcileFence : Digest
  idempotencyKey : String
  deriving DecidableEq

/-- The bytes a command digest covers. -/
inductive CommandDocument where
  | claim (command : CallerWorkClaimInput)
  | markSendStarted (command : CallerWorkMarkSendStartedInput)
  | cancelBeforeSend (command : CallerWorkCancelBeforeSendInput)
  | commit (command : CallerWorkCommitInput)
  | reconcile (command : CallerWorkReconcileInput)
  | settleCandidate (command : SettleCandidateInput)
  deriving DecidableEq

/-- The digests and identifiers the program derives, one function for each hashed document. -/
structure Hashing where
  operationId (material : String) : String
  attemptId (operationId : String)
    (attemptNo runtimeGeneration dispatcherGeneration : Nat) : String
  attemptFence (dispatcherGeneration leaseEpoch : Nat) (ownerDigest : Digest) : Digest
  text (value : String) : Digest
  request (request : CallerWorkRequest) : Digest
  binding (binding : ModelRouteBinding) : Digest
  usage (usage : ModelUsageRecord) : Digest
  response (response : ModelResponse) : Digest
  directive (directive : RlmDirective) : Digest
  jobSpec (spec : RlmWorkbenchJobSpec) : Digest
  ticket (ticket : CallerWorkTicket) : Digest
  externalKey (ticketDigest : Digest) : String
  claimFence (document : ClaimFenceDocument) : Digest
  reconcileFence (document : ReconcileFenceDocument) : Digest
  commitSignature (ticketId physicalAttemptId : String)
    (providerOrChildRequestId : Option String) (observation : CallerWorkObservation) : Digest
  candidate (payload : CandidatePayload) : Digest
  command (kind : CommandKind) (document : CommandDocument) : Digest
  settlementOutbox (operationId : String) (suspensionRevision : Nat)
    (settlementDigest : Digest) : Digest
  rebindToken (token : RebindToken) : Digest
  acknowledgement (payload : AcknowledgementPayload) : Digest
  preparedCellRecovery (operationId cellExecutionId successorAttemptId : String)
    (successorAttemptFence : Digest) : Digest
  cellExecutionId (operationId : String) (cellIndex : Nat) (sourceDigest : Digest) : String
  recoveryPolicy (policy : RecoveryPolicy) : Digest
  manifestJson (manifest : WorkspaceCheckpointManifest) : String

end Aar
