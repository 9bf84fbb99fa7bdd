import Aar.Schema.States

/-! The typed documents that requests carry and that rows store. -/

namespace Aar

/-- The pattern of an opaque token: a letter or digit, and at most 127 plain characters after it. -/
def TokenPattern (value : String) : Prop :=
  value.toList.head?.any Char.isAlphanum ∧ value.toList.length ≤ 128 ∧
    ∀ char ∈ value.toList.tail, char.isAlphanum ∨ char ∈ ['.', '_', '~', '-']

-- The characters are decided along the list, never by going through all of `Char`.
instance (value : String) : Decidable (TokenPattern value) :=
  have := List.decidableBAll (fun char : Char => char.isAlphanum ∨ char ∈ ['.', '_', '~', '-'])
    value.toList.tail
  inferInstanceAs (Decidable (_ ∧ _ ∧ _))

/-- An opaque reference; a value that does not match the pattern cannot be built. -/
structure OpaqueToken where
  value : String
  matched : TokenPattern value
  deriving DecidableEq

/-- The admission envelope of one request, reduced to what the registry reads. -/
structure RequestEnvelope where
  host : OpaqueToken
  principal : OpaqueToken
  idempotencyKey : String
  lane : OpaqueToken
  session : OpaqueToken
  workspace : Option OpaqueToken
  parentOperation : Option OpaqueToken
  runtimeGeneration : Nat
  workspaceGeneration : Option Nat
  expectedWorkspaceRevision : Option Nat
  deadlineUnixMs : Nat
  inputDigest : Digest
  deriving DecidableEq

/-- A certain or indeterminate failure as it is stored and returned. -/
structure FailureEnvelope where
  category : String
  code : String
  message : String
  retryable : Bool
  certainty : OutcomeCertainty
  operation : Option String
  details : List (String × String)
  deriving DecidableEq

/-- The exact model route a job is bound to. -/
structure ModelRouteBinding where
  profileId : String
  catalogDigest : Digest
  profileDigest : Digest
  providerDriver : String
  provider : String
  model : String
  reasoningEffort : Option String
  maxOutputTokens : Nat
  fallbackPolicy : String
  cachePolicy : String
  deriving DecidableEq

/-- A broker request; only model requests carry a route, and the body is the rest of its bytes. -/
structure CallerWorkRequest where
  method : BrokerMethod
  contractId : String
  routeBinding : Option ModelRouteBinding
  body : String
  deriving DecidableEq

/-- The route a model call really took. -/
structure EffectiveModelRoute where
  providerDriver : String
  provider : String
  model : String
  reasoningEffort : Option String := none
  deriving DecidableEq

/-- Who counted the tokens of a model call. -/
inductive AccountingSource where
  | reference
  | providerReported
  | estimated
  deriving DecidableEq

/-- The token counts of one model call. -/
structure ModelUsageRecord where
  accountingSource : AccountingSource
  inputTokens : Nat
  outputTokens : Nat
  cacheReadTokens : Option Nat := none
  cacheWriteTokens : Option Nat := none
  reasoningTokens : Option Nat := none
  totalTokens : Nat
  retryOrdinal : Nat := 0
  wasted : Bool := false
  deriving DecidableEq

/-- What the provider attests about the route of one model call. -/
structure ModelRouteReceipt where
  requested : ModelRouteBinding
  effective : EffectiveModelRoute
  finishReason : String
  providerResponseId : Option String := none
  fallbackChain : List EffectiveModelRoute := []
  lookupSupported : Bool := false
  receiptDigest : Digest
  deriving DecidableEq

/-- The typed answer of one model call. -/
structure ModelResponse where
  outputText : String
  routeReceipt : ModelRouteReceipt
  usage : ModelUsageRecord
  deriving DecidableEq

/-- The family an observation belongs to. -/
inductive ObservationKind where
  | model
  | subagent
  | evidence
  | effect
  deriving DecidableEq

/-- The outcomes an observation may report. -/
inductive ObservationOutcome where
  | succeeded
  | accepted
  | proposed
  | rejected
  | failedCertain
  | outcomeUnknown
  | cancelledCertain
  deriving DecidableEq

/-- The outcome as it is written on the wire. -/
def ObservationOutcome.wire : ObservationOutcome → String
  | succeeded => "succeeded"
  | accepted => "accepted"
  | proposed => "proposed"
  | rejected => "rejected"
  | failedCertain => "failed_certain"
  | outcomeUnknown => "outcome_unknown"
  | cancelledCertain => "cancelled_certain"

/-- What a claimant observed of one physical send; the model fields are set by model outcomes. -/
structure CallerWorkObservation where
  kind : ObservationKind
  outcome : ObservationOutcome
  outputText : Option String
  outputDigest : Option Digest
  routeReceiptDigest : Option Digest
  usageReceiptDigest : Option Digest
  hostReceiptDigest : Digest
  deriving DecidableEq

/-- An observation of a model call that succeeded. -/
def CallerWorkObservation.ModelSucceeded (observation : CallerWorkObservation) : Prop :=
  observation.kind = .model ∧ observation.outcome = .succeeded

instance (observation : CallerWorkObservation) : Decidable observation.ModelSucceeded :=
  inferInstanceAs (Decidable (_ ∧ _))

/-- The payload of a candidate receipt, without the digest that seals it. -/
structure CandidatePayload where
  ticketId : String
  ticketDigest : Digest
  physicalAttemptId : String
  sentRequestDigest : Digest
  sentAtUnixMs : Nat
  providerOrChildRequestId : Option String
  observation : CallerWorkObservation
  callbackPrincipalId : String
  callbackSessionId : String
  callbackAdapterId : String
  callbackAdapterGeneration : Nat
  observedAtUnixMs : Nat
  signatureDigest : Digest
  deriving DecidableEq

/-- A candidate receipt: its payload and the digest that seals it. -/
structure CandidateReceipt extends CandidatePayload where
  receiptDigest : Digest
  deriving DecidableEq

/-- The claimant a ticket projection shows. -/
structure Claimant where
  principalId : String
  sessionId : String
  adapterId : String
  adapterGeneration : Nat
  claimId : String
  claimFence : Digest
  claimExpiresAtUnixMs : Nat
  deriving DecidableEq

/-- The physical attempt a ticket projection shows. -/
structure PhysicalAttempt where
  physicalAttemptId : String
  providerOrChildIdempotencyKey : String
  lookupSupported : Bool
  cancelSupported : Bool
  sendStartedAtUnixMs : Option Nat
  sentRequestDigest : Option Digest
  sentAtUnixMs : Option Nat
  providerOrChildRequestId : Option String
  deriving DecidableEq

/-- The public document of one caller-work ticket. -/
structure CallerWorkTicket where
  operation : String
  suspensionRevision : Nat
  ticketId : String
  revision : Nat
  owner : LogicalOwner
  request : CallerWorkRequest
  requestDigest : Digest
  ticketDigest : Digest
  state : TicketState
  claimant : Option Claimant
  physicalAttempt : Option PhysicalAttempt
  settledReceiptDigest : Option Digest
  settledAtUnixMs : Option Nat
  deadlineUnixMs : Nat
  deriving DecidableEq

/-- What one planner step asks the runtime to do. -/
inductive RlmDirective where
  | executeCell (code : String) (expectedResultHint : Option String)
  | finalize (output : String) (artifactStageIds : List String)
  | abstain (reason : String)
  deriving DecidableEq

/-- Whether the directive asks for a cell to be executed. -/
def RlmDirective.isExecuteCell : RlmDirective → Bool
  | executeCell .. => true
  | _ => false

/-- A handle on one generation and revision of a workspace. -/
structure ProgrammableWorkspaceHandle where
  workspace : String
  generation : Nat
  revision : Nat
  backendCapabilityDigest : Digest
  deriving DecidableEq

/-- The manifest of one completed workspace checkpoint. -/
structure WorkspaceCheckpointManifest where
  contentDigest : Digest
  creationOperation : String
  sourceHandle : ProgrammableWorkspaceHandle
  environmentDigest : Digest
  exclusionCount : Nat
  exclusionsDigest : Digest
  artifactsDigest : Digest
  deriving DecidableEq

/-- The admitted specification of a workbench job, reduced to what the coordinator reads. -/
structure RlmWorkbenchJobSpec where
  executionMode : ExecutionMode
  routeBinding : ModelRouteBinding
  maxCorrections : Nat
  maxModelCalls : Nat
  maxCells : Nat
  totalWallTimeMs : Nat
  seedCheckpoint : Option Digest
  objective : String
  deriving DecidableEq

/-- A reference to one attempt of an operation. -/
structure OperationAttemptRef where
  operation : String
  attemptNo : Nat
  attemptId : String
  deriving DecidableEq

/-- The fence a claim hands to its owner. -/
structure AttemptFence where
  attempt : OperationAttemptRef
  dispatcherGeneration : Nat
  leaseEpoch : Nat
  ownerDigest : Digest
  deriving DecidableEq

end Aar
