import Aar.Rlm.Engine

/-! The recovery plan of an RLM operation: whether its persisted steps and calls let a successor go
on. -/

namespace Aar.Rlm

open Guarded Broker

/-- The canonical bytes of a job's spec. -/
def RlmJobSpec.json (spec : RlmJobSpec) : String :=
  "\x7b\"max_steps\":" ++ toString spec.maxSteps ++ ",\"query\":" ++ jsonString spec.query ++
    ",\"schema_version\":\"aar.rlm.v1\",\"strategy\":" ++ jsonString spec.strategy.wire ++ "\x7d"

/-- The version of the package, which recovery environments bind. -/
def packageVersion : String := "0.6.1a0"

/-- `rlm_strategy_digest`: the contract version and the name of a job's strategy. -/
def rlmStrategyDigest (H : Hashing) (spec : RlmJobSpec) : Digest :=
  H.text (canonicalJson [("contract_version", "aar.rlm-strategy.v1"),
    ("strategy", spec.strategy.wire)])

/-- `rlm_recovery_environment_digest`: what a recovery must find as it was at admission. -/
def rlmRecoveryEnvironmentDigest (H : Hashing) (spec : RlmJobSpec) (capabilityDigest : Digest)
    (policy : RecoveryPolicy) : Digest :=
  H.text (canonicalJson [("capability_digest", capabilityDigest),
    ("package_version", packageVersion), ("policy_digest", H.recoveryPolicy policy),
    ("rlm_schema_version", "aar.rlm.v1"), ("strategy_digest", rlmStrategyDigest H spec)])

/-- The digests of the documents that only a boundary binds. -/
structure BoundaryDigests where
  step (step : RlmStep) : Digest
  steps (steps : List RlmStep) : Digest
  traces (traces : List BrokerCallTrace) : Digest
  usage (usage : BrokerUsage) : Digest

/-- The boundary after which a successor goes on, without the digest that seals it. -/
structure RlmStepBoundary where
  operation : String
  priorAttempt : OperationAttemptRef
  runtimeGeneration : Nat
  dispatcherGeneration : Nat
  leaseEpoch : Nat
  policyDigest : Digest
  inputDigest : Digest
  strategy : RlmStrategyName
  strategyDigest : Digest
  capabilityDigest : Digest
  environmentDigest : Digest
  deadlineUnixMs : Nat
  committedStepCount : Nat
  lastStepIndex : Option Nat
  lastStepDigest : Option Digest
  stepsDigest : Digest
  brokerTraceDigest : Digest
  usageDigest : Digest
  createdAtUnixMs : Nat
  deriving DecidableEq

/-- One decision over frozen observations. -/
structure RlmRecoveryPlan where
  decision : RecoveryDecision
  reasonCode : String
  boundary : Option RlmStepBoundary
  deriving DecidableEq

/-- What a recovery has observed of an operation. -/
structure RecoveryObservation where
  operation : String
  inputDigest : Digest
  envelope : GrantedEnvelope
  spec : RlmJobSpec
  priorAttempt : OperationAttemptRef
  priorRuntimeGeneration : Nat
  priorDispatcherGeneration : Nat
  priorLeaseEpoch : Nat
  policyOperation : String
  policyBinding : RecoveryPolicyBinding
  currentCapabilityDigest : Digest
  steps : List RlmStep
  traces : List BrokerCallTrace
  usage : BrokerUsage
  cancellationRequested : Bool
  unresolvedCalls : Bool
  nowUnixMs : Nat
  deriving DecidableEq

/-- Why a plan starts no successor: a decision, or an exception of the planner. -/
inductive Block where
  | blocked (decision : RecoveryDecision) (reasonCode : String)
  | raised (error : RlmError)
  deriving DecidableEq

namespace RecoveryObservation

variable (H : Hashing) (D : BoundaryDigests) (table : RlmStrategyName → RlmStrategy)
  (o : RecoveryObservation)

/-- Stop unless a condition holds. -/
def demand (condition : Prop) [Decidable condition] (decision : RecoveryDecision)
    (reasonCode : String) : Except Block Unit :=
  require condition (.blocked decision reasonCode)

/-- The environment that the recovery finds. -/
def environmentDigest : Digest :=
  rlmRecoveryEnvironmentDigest H o.spec o.currentCapabilityDigest o.policyBinding.policy

/-- The checks of identity, policy, digests and authority. -/
def checkAuthority : Except Block Unit := do
  let policy := o.policyBinding.policy
  demand (o.policyOperation = o.operation ∧ o.priorAttempt.operation = o.operation) .quarantine
    "recovery_identity_mismatch"
  demand (policy.policyId = "rlm.step-boundary.v1" ∧ policy.policyVersion = 1) .quarantine
    "unknown_recovery_policy"
  demand (policy.operationKind = .rlmExecute) .quarantine "recovery_operation_kind_mismatch"
  demand (.startSuccessor ∈ policy.allowedDecisions) .needsUser "successor_not_allowed"
  demand (o.inputDigest = o.envelope.inputDigest) .quarantine "recovery_input_digest_mismatch"
  demand (H.text o.spec.json = o.inputDigest) .quarantine "recovery_payload_digest_mismatch"
  demand (o.envelope.capabilityDigest = o.currentCapabilityDigest) .needsUser
    "recovery_capability_digest_mismatch"
  demand (o.environmentDigest H = o.policyBinding.environmentDigest) .needsUser
    "recovery_environment_mismatch"
  demand (¬ o.cancellationRequested) .needsUser "cancellation_requested"
  demand (o.nowUnixMs < o.envelope.deadlineUnixMs) .needsUser "deadline_expired"
  demand (¬ o.unresolvedCalls) .reconcileEffect "broker_call_unresolved"
  demand (Broker.Within o.envelope.budget o.usage) .quarantine "cumulative_usage_exceeds_budget"

/-- `_trace_grant_is_authorized`: some grant of the envelope gives the call of an action. -/
def Authorized (trace : BrokerCallTrace) (action : RlmAction) : Prop :=
  ∃ grant ∈ o.envelope.grants, grant.grantId = trace.grantId ∧ Grants o.envelope action.kind grant

instance (trace : BrokerCallTrace) (action : RlmAction) : Decidable (o.Authorized trace action) :=
  inferInstanceAs (Decidable (∃ grant ∈ o.envelope.grants, _))

/-- `_request_digest`: the digest of the request of an action, which may be too long to build. -/
def requestDigest (action : RlmAction) : Except Block Digest :=
  match brokerRequest action with
  | .ok request => .ok (H.text request)
  | .error error => .error (.raised error)

/-- The call of an action is shown by a trace; the grant of a step is checked before the request is
built. -/
def checkCall (action : RlmAction) (trace : BrokerCallTrace) (granted : Prop) [Decidable granted]
    (reasonCode : String) : Except Block Unit := do
  demand (trace.parentOperation = o.operation ∧ trace.method = action.kind.method ∧ granted ∧
    o.Authorized trace action) .quarantine reasonCode
  let digest ← requestDigest H action
  demand (trace.requestDigest = digest ∧ trace.state = .succeeded) .quarantine reasonCode

/-- The check of one step against its strategy and its call. -/
def checkStep (referenced : List Nat) (index : Nat) (step : RlmStep) : Except Block (List Nat) := do
  let action ← orRaise (nextRlmAction table o.spec (o.steps.take index))
    (.blocked .quarantine "rlm_strategy_or_step_digest_mismatch")
  demand (step.action = action.kind ∧ step.requestDigest = H.text action.json) .quarantine
    "rlm_strategy_or_step_digest_mismatch"
  let trace ← orRaise (o.traces.find? fun trace => trace.sequence = step.brokerCallSequence)
    (.blocked .quarantine "rlm_step_broker_trace_missing")
  demand (trace.sequence ∉ referenced) .quarantine "rlm_step_broker_trace_reused"
  checkCall H o action trace (trace.grantId = step.grantId) "rlm_step_broker_receipt_mismatch"
  demand (trace.responseDigest = some (H.text step.receipt.json)) .quarantine
    "rlm_step_broker_receipt_mismatch"
  return trace.sequence :: referenced

/-- The checks of all steps, with the calls that they refer to. -/
def checkSteps : Except Block (List Nat) := do
  demand (o.steps.map (·.index) = List.range o.steps.length) .quarantine
    "rlm_step_sequence_mismatch"
  demand (o.traces.map (·.sequence) = List.range' 1 o.traces.length) .quarantine
    "broker_trace_sequence_mismatch"
  (o.steps.zipIdx).foldlM (fun referenced entry => checkStep H table o referenced entry.2 entry.1) []

/-- The check of the calls that no step refers to: at most one, of the next action. -/
def checkExtra (next : Option RlmAction) : List BrokerCallTrace → Except Block Unit
  | [] => .ok ()
  | [trace] => do
    let action ← orRaise next (.blocked .quarantine "uncommitted_broker_receipt_mismatch")
    checkCall H o action trace True "uncommitted_broker_receipt_mismatch"
    demand trace.responseDigest.isSome .quarantine "uncommitted_broker_receipt_mismatch"
  | _ => .error (.blocked .quarantine "multiple_uncommitted_broker_receipts")

/-- `_next_action_has_no_budget`: a model request finds a counter that is used up. -/
def Spent (next : Option RlmAction) : Prop :=
  (next.map (·.kind) = some .modelRequest) ∧
    (o.envelope.budget.modelRequests ≤ o.usage.modelRequests ∨
      o.envelope.budget.inputTokens ≤ o.usage.inputTokens ∨
      o.envelope.budget.outputTokens ≤ o.usage.outputTokens)

instance (next : Option RlmAction) : Decidable (o.Spent next) :=
  inferInstanceAs (Decidable (_ ∧ _))

/-- The boundary that a successor goes on from. -/
def boundary : RlmStepBoundary where
  operation := o.operation
  priorAttempt := o.priorAttempt
  runtimeGeneration := o.priorRuntimeGeneration
  dispatcherGeneration := o.priorDispatcherGeneration
  leaseEpoch := o.priorLeaseEpoch
  policyDigest := o.policyBinding.policyDigest
  inputDigest := o.inputDigest
  strategy := o.spec.strategy
  strategyDigest := rlmStrategyDigest H o.spec
  capabilityDigest := o.currentCapabilityDigest
  environmentDigest := o.environmentDigest H
  deadlineUnixMs := o.envelope.deadlineUnixMs
  committedStepCount := o.steps.length
  lastStepIndex := if o.steps = [] then none else some (o.steps.length - 1)
  lastStepDigest := o.steps.getLast?.map D.step
  stepsDigest := D.steps o.steps
  brokerTraceDigest := D.traces o.traces
  usageDigest := D.usage o.usage
  createdAtUnixMs := o.nowUnixMs

/-- All checks of the planner, in their order. -/
def check : Except Block Unit := do
  checkAuthority H o
  let referenced ← checkSteps H table o
  let next := nextRlmAction table o.spec o.steps
  let extra := o.traces.filter fun trace => trace.sequence ∉ referenced
  checkExtra H o next extra
  demand (next.isSome → o.steps.length < o.spec.maxSteps) .needsUser "rlm_step_bound_exhausted"
  demand (extra = [] → ¬ o.Spent next) .needsUser "cumulative_budget_exhausted"

/-- `plan_rlm_step_successor`: one successor, when the persisted boundary is certain. -/
def plan : Except RlmError RlmRecoveryPlan :=
  match check H table o with
  | .ok () =>
    .ok { decision := .startSuccessor, reasonCode := "rlm_certain_step_boundary"
          boundary := some (o.boundary H D) }
  | .error (.blocked decision reasonCode) => .ok { decision, reasonCode, boundary := none }
  | .error (.raised error) => .error error

end RecoveryObservation

end Aar.Rlm
