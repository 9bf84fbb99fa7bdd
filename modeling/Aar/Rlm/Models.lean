import Aar.Broker.RoutedCall
import Aar.Lib.Sorting

/-! The documents of bounded RLM jobs, the strategies that drive them, and what a job may ask for. -/

namespace Aar.Rlm

open Guarded Broker Sorting

/-- What an RLM step does. -/
inductive RlmActionKind where
  | evidenceQuery
  | modelRequest
  deriving DecidableEq

/-- The kind as it is written in documents; the broker method and its capability have this name. -/
def RlmActionKind.wire : RlmActionKind → String
  | evidenceQuery => "evidence.query"
  | modelRequest => "model.request"

/-- The broker method of a kind. -/
def RlmActionKind.method : RlmActionKind → BrokerMethodName
  | evidenceQuery => .evidenceQuery
  | modelRequest => .modelRequest

/-- What a strategy asks for next. -/
structure RlmAction where
  kind : RlmActionKind
  text : String
  deriving DecidableEq

/-- The canonical bytes of an action. -/
def RlmAction.json (action : RlmAction) : String :=
  canonicalJson [("kind", action.kind.wire), ("schema_version", "aar.rlm.v1"),
    ("text", action.text)]

/-- The strategies of the package. -/
inductive RlmStrategyName where
  | baseline
  | evidenceSynthesis
  deriving DecidableEq

/-- The name as it is written in documents. -/
def RlmStrategyName.wire : RlmStrategyName → String
  | baseline => "baseline"
  | evidenceSynthesis => "evidence_synthesis"

/-- How many steps a strategy needs. -/
def RlmStrategyName.minimum : RlmStrategyName → Nat
  | baseline => 1
  | evidenceSynthesis => 2

/-- A job: what is asked, under which strategy, in at most how many steps. -/
structure RlmJobSpec where
  query : String
  strategy : RlmStrategyName
  maxSteps : Nat
  bounded : Bounded 65536 query
  limited : 1 ≤ maxSteps ∧ maxSteps ≤ 32
  fits : strategy.minimum ≤ maxSteps
  deriving DecidableEq

/-- A recorded step. Its receipt is kept as the typed bytes that the broker stores. -/
structure RlmStep where
  index : Nat
  action : RlmActionKind
  requestDigest : Digest
  brokerCallSequence : Nat
  grantId : String
  receipt : BrokerResponse
  deriving DecidableEq

/-- A strategy: what it asks for after some steps, and what it answers after its last one. -/
structure RlmStrategy where
  nextAction (spec : RlmJobSpec) (steps : List RlmStep) : Option RlmAction
  answer (steps : List RlmStep) : Option String

/-- `BaselineStrategy`: one model request with the query. -/
def baselineStrategy (value : BrokerResponse → String) : RlmStrategy where
  nextAction spec steps :=
    if steps = [] then some { kind := .modelRequest, text := spec.query } else none
  answer steps := steps.getLast?.map fun step => value step.receipt

/-- `EvidenceSynthesisStrategy`: a query for evidence, and a model request with what was found. -/
def evidenceSynthesisStrategy (value : BrokerResponse → String) : RlmStrategy where
  nextAction spec
    | [] => some { kind := .evidenceQuery, text := spec.query }
    | [step] =>
      let evidence := if value step.receipt = "" then "(no matching evidence)"
        else value step.receipt
      some { kind := .modelRequest
             text := "Question: " ++ spec.query ++ "\nEvidence:\n" ++ evidence }
    | _ => none
  answer steps := steps.getLast?.map fun step => value step.receipt

/-- `_STRATEGIES`: the strategy of each name, for what receipts have as their value. -/
def strategies (value : BrokerResponse → String) : RlmStrategyName → RlmStrategy
  | .baseline => baselineStrategy value
  | .evidenceSynthesis => evidenceSynthesisStrategy value

/-- `next_rlm_action`: what the strategy of a job asks for after some steps. -/
def nextRlmAction (table : RlmStrategyName → RlmStrategy) (spec : RlmJobSpec)
    (steps : List RlmStep) : Option RlmAction :=
  (table spec.strategy).nextAction spec steps

/-- What the journal shows of one call. -/
structure BrokerCallTrace where
  sequence : Nat
  parentOperation : String
  method : BrokerMethodName
  grantId : String
  idempotencyKey : String
  requestDigest : Digest
  state : BrokerCallState
  responseDigest : Option Digest
  responseModel : String
  usageDelta : BrokerUsage
  failureCode : Option String
  reconciliationAction : Option BrokerReconciliationAction
  authorityDigest : Option Digest
  reconciliation : Option BrokerCallReconciliation
  compensation : Option String
  deriving DecidableEq

/-- What a finished job has done: its answer, its steps, and all calls of its operation. -/
structure RlmResult where
  operation : String
  strategy : RlmStrategyName
  answer : String
  steps : List RlmStep
  usage : BrokerUsage
  brokerTrace : List BrokerCallTrace
  deriving DecidableEq

/-- The errors of the engine and its store. -/
inductive RlmError where
  | unknownOperation (operation : String)
  | conflict (message : String)
  | cancelled (message : String)
  | timedOut (message : String)
  | exhausted (message : String)
  | grantDenied (message : String)
  | noSteps
  | broker (error : BrokerError)
  | provider (code : String)
  deriving DecidableEq

/-- A grant of a request. -/
structure Grant where
  grantId : String
  capability : String
  issuedTo : OpaqueToken
  expiresAtUnixMs : Nat
  deriving DecidableEq

/-- A request envelope with the authority that the broker reads from it. -/
structure GrantedEnvelope extends RequestEnvelope where
  grants : List Grant
  budget : Budget
  capabilityDigest : Digest
  deriving DecidableEq

/-- What an operation runs under: its envelope, and the route of its model calls if they have one. -/
structure RlmScope where
  operation : String
  envelope : GrantedEnvelope
  route : Option ModelRouteBinding
  deriving DecidableEq

section Requests

variable (H : Hashing) (scope : RlmScope)

/-- The typed request of an action, as its canonical bytes; a text that is too long is refused. -/
def brokerRequest (action : RlmAction) : Except RlmError String :=
  match action.kind with
  | .evidenceQuery => do
    require (Bounded 8192 action.text) (.broker (.validation "EvidenceQuery"))
    return canonicalJson [("schema_version", "aar.broker.v1"), ("text", action.text)]
  | .modelRequest => do
    require (Bounded 65536 action.text) (.broker (.validation "ModelRequest"))
    return (ModelRequest.mk action.text).json

/-- A grant gives its holder a capability for the whole request. -/
def Grants (envelope : GrantedEnvelope) (kind : RlmActionKind) (grant : Grant) : Prop :=
  grant.capability = kind.wire ∧ grant.issuedTo = envelope.principal ∧
    envelope.deadlineUnixMs ≤ grant.expiresAtUnixMs

instance (envelope : GrantedEnvelope) (kind : RlmActionKind) (grant : Grant) :
    Decidable (Grants envelope kind grant) :=
  inferInstanceAs (Decidable (_ ∧ _ ∧ _))

/-- `_grant`: the first grant of a method. -/
def grantFor (kind : RlmActionKind) : Except RlmError Grant :=
  orRaise (scope.envelope.grants.find? fun grant => Grants scope.envelope kind grant)
    (.grantDenied ("valid " ++ kind.wire ++ " grant is absent for " ++ kind.wire))

/-- The idempotency key of a step's call. -/
def callKey (kind : RlmActionKind) (index : Nat) : String :=
  let digest := H.text (canonicalJson [("method", kind.wire), ("operation", scope.operation),
    ("request", scope.envelope.idempotencyKey), ("step", "rlm-step-" ++ toString index)])
  let start := "sha256:".toList
  let text := digest.toList
  "broker-" ++
    String.ofList ((if start.isPrefixOf text then text.drop start.length else text).take 32)

/-- A query charges no model request. -/
theorem query_charges : BrokerMethodName.evidenceQuery = .modelRequest →
    ({} : BrokerUsage).modelRequests = 1 := fun never => by cases never

/-- What is not checked compensates nothing. -/
theorem unchecked_compensates {method : BrokerMethodName} {usage : BrokerUsage} :
    false → method = .effectPropose ∧ usage = {} := fun never => by cases never

/-- A query compensates nothing. -/
theorem query_compensates :
    false → BrokerMethodName.evidenceQuery = .effectPropose ∧ ({} : BrokerUsage) = {} :=
  unchecked_compensates

/-- What is not metered meters nothing. -/
theorem unmetered_meters {method : BrokerMethodName} : false → method = .modelRequest :=
  fun never => by cases never

/-- What the call of a step asks the journal for. -/
def invocation (action : RlmAction) (index : Nat) (request : String) (grant : Grant) :
    Invocation :=
  match action.kind with
  | .evidenceQuery =>
    { method := .evidenceQuery
      grantId := grant.grantId
      idempotencyKey := callKey H scope action.kind index
      requestJson := request
      responseModel := "BrokerReceipt"
      usage := {}
      expectedControlRevision := none
      requireNotCancelled := false
      checked := false
      metered := false
      charges := query_charges
      compensates := query_compensates
      meters := unmetered_meters }
  | .modelRequest =>
    match scope.route with
    | some binding =>
      routedInvocation grant.grantId (callKey H scope action.kind index) ⟨action.text⟩ binding
    | none =>
      { method := .modelRequest
        grantId := grant.grantId
        idempotencyKey := callKey H scope action.kind index
        requestJson := request
        responseModel := "BrokerReceipt"
        usage := { modelRequests := 1, inputTokens := tokenUnits action.text, outputTokens := 1 }
        expectedControlRevision := none
        requireNotCancelled := false
        checked := false
        metered := false
        charges := fun _ => rfl
        compensates := unchecked_compensates
        meters := unmetered_meters }

/-- `_execute_action` up to the journal: the request is built, and the deadline and grant are
checked. -/
def prepare (now : Nat) (action : RlmAction) (index : Nat) : Except RlmError Invocation := do
  let request ← brokerRequest action
  require (now < scope.envelope.deadlineUnixMs)
    (.broker (.deadlineExpired "broker request deadline has expired"))
  let grant ← grantFor scope action.kind
  return invocation H scope action index request grant

end Requests

section Traces

variable (H : Hashing) (operation : String)

/-- A stored response has the digest it was stored with. -/
def Sealed (call : BrokerCall) : Prop :=
  call.responseJson.map (fun response => H.text response.json) = call.responseDigest ∧
    call.responseJson.isSome

instance (call : BrokerCall) : Decidable (Sealed H call) :=
  inferInstanceAs (Decidable (_ ∧ _))

/-- `traces`: what one row shows; a success whose digest is not its response's shows as failed. -/
def traceOf (call : BrokerCall) : BrokerCallTrace :=
  let broken : Bool := call.state = .succeeded ∧ ¬ Sealed H call
  { sequence := call.sequence
    parentOperation := operation
    method := call.method
    grantId := call.grantId
    idempotencyKey := call.idempotencyKey
    requestDigest := call.requestDigest
    state := if broken then .failed else call.state
    responseDigest := call.responseDigest
    responseModel := call.responseModel
    usageDelta := call.usage
    failureCode := if broken then some "BrokerReceiptDigestMismatch" else call.failureCode
    reconciliationAction := call.reconciliationAction
    authorityDigest := call.authorityDigest
    reconciliation := call.reconciliation
    compensation := call.compensation }

/-- `traces`: what all calls of an operation show, by their sequence. -/
def traces (calls : List BrokerCall) : List BrokerCallTrace :=
  (sortedBy BrokerCall.sequence calls).map (traceOf H operation)

/-- `has_unresolved_calls`: some call has no success. -/
def hasUnresolvedCalls (calls : List BrokerCall) : Bool :=
  calls.any fun call => call.state ≠ .succeeded

end Traces

end Aar.Rlm
