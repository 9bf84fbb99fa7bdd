import Aar.Broker.Journal
import Aar.Broker.ModelJournal
import Aar.Schema.Texts

/-! A routed model call: the writes it makes in both journals, and what a pass makes of them. -/

namespace Aar.Broker

open Guarded Table

/-- The request of a model call. -/
structure ModelRequest where
  prompt : String
  deriving DecidableEq

/-- The canonical bytes of a model request. -/
def ModelRequest.json (request : ModelRequest) : String :=
  canonicalJson [("prompt", request.prompt), ("schema_version", "aar.broker.v1")]

/-- A receipt of a broker. -/
structure BrokerReceipt where
  kind : String
  handle : String
  digest : String
  value : String
  deriving DecidableEq

/-- A broker receipt as a typed response. -/
def BrokerReceipt.response (receipt : BrokerReceipt) : BrokerResponse where
  model := "BrokerReceipt"
  json := canonicalJson [("digest", receipt.digest), ("handle", receipt.handle),
    ("kind", receipt.kind), ("schema_version", "aar.broker.v1"), ("value", receipt.value)]

/-- The start of a digest without its prefix, as handles use it. -/
def shortDigest (digest : Digest) : String :=
  let start := "sha256:".toList
  let text := digest.toList
  String.ofList ((if start.isPrefixOf text then text.drop start.length else text).take 24)

/-- `_legacy_model_receipt`: the receipt of a model response. -/
def legacyModelReceipt (response : ModelResponse) : BrokerReceipt where
  kind := "model"
  handle :=
    match response.routeReceipt.providerResponseId with
    | none | some "" => "model-" ++ shortDigest response.routeReceipt.receiptDigest
    | some identity => identity
  digest := response.routeReceipt.receiptDigest
  value := response.outputText

/-- `_token_units`: how many words a text has, at least one. -/
def tokenUnits (text : String) : Nat :=
  let words := text.toList.splitOnP fun character => Blank character
  max 1 (words.filter (· ≠ [])).length

/-- What a routed model call asks the broker journal for. -/
def routedInvocation (grantId idempotencyKey : String) (request : ModelRequest)
    (binding : ModelRouteBinding) : Invocation where
  method := .modelRequest
  grantId
  idempotencyKey
  requestJson := request.json
  responseModel := "BrokerReceipt"
  usage :=
    { modelRequests := 1, inputTokens := tokenUnits request.prompt
      outputTokens := binding.maxOutputTokens }
  expectedControlRevision := none
  requireNotCancelled := false
  checked := false
  metered := true
  charges _ := rfl
  compensates := nofun
  meters _ := rfl

/-- `provider_usage`: what a model response used up. -/
def providerUsage (response : ModelResponse) : BrokerUsage where
  modelRequests := 1
  inputTokens := response.usage.inputTokens
  outputTokens := response.usage.outputTokens

/-- `enforce_route_maximum`: the response stays within its route. -/
def enforceRouteMaximum (binding : ModelRouteBinding) (response : ModelResponse) :
    Except BrokerError Unit :=
  require (response.usage.outputTokens ≤ binding.maxOutputTokens)
    (.budgetExceeded "provider output usage exceeded the bound model route maximum")

/-- Both journals of an operation's broker, and the provider requests that were made. -/
structure RoutedJournals where
  calls : List BrokerCall
  model : ModelTables
  sends : List CallId
  deriving DecidableEq

/-- Where a process stops between two writes of `model_request`. -/
inductive StopPoint where
  | receiptStored
  | resultCommitted
  | successStored
  deriving DecidableEq

/-- What becomes of `model_request`: it has no receipt, it is stopped with one, or it ends. -/
inductive RoutedRun where
  | unanswered (s : RoutedJournals)
  | stopped (call : AdmittedCall) (response : ModelResponse) (s : RoutedJournals)
  | ended (call : AdmittedCall) (response : ModelResponse) (s : RoutedJournals)
  deriving DecidableEq

/-- The journals that a run leaves. -/
def RoutedRun.journals : RoutedRun → RoutedJournals
  | unanswered s | stopped _ _ s | ended _ _ s => s

namespace RoutedJournals

variable (H : Hashing) (budget : Budget)

/-- What `invoke` stores for an exception of the model journal. -/
def raiseModel (call : AdmittedCall) (s : RoutedJournals) : ModelBrokerError → RoutedJournals
  | .callIndeterminate _ => s
  | .routeDrift _ =>
    { s with calls := BrokerJournal.recordQuarantined call.sequence "model_route_drift" s.calls }
  | .routeBindingStale _ =>
    { s with calls := BrokerJournal.recordFailed call.sequence "ModelRouteBindingStale" s.calls }
  | .routeNotFound _ =>
    { s with calls := BrokerJournal.recordFailed call.sequence "ModelRouteNotFound" s.calls }

/-- What both journals store for an exception of the provider. -/
def raiseProvider (call : AdmittedCall) (intent : ModelIntent)
    (failure : ModelTables.ProviderFailure) (code : String) (s : RoutedJournals) :
    RoutedJournals :=
  let s := { s with model := s.model.recordFailure intent.call failure code }
  match failure with
  | .outcomeUnknown => s
  | .routeDrift =>
    { s with calls := BrokerJournal.recordQuarantined call.sequence "model_route_drift" s.calls }
  | .providerFailure | .exception =>
    { s with calls := BrokerJournal.recordFailed call.sequence "ModelProviderFailure" s.calls }
  | .brokerError =>
    -- The row stays started when the provider itself calls its outcome indeterminate.
    if code = "ModelCallIndeterminate" then s
    else { s with calls := BrokerJournal.recordFailed call.sequence code s.calls }

/-- `StaticModelBrokerRegistry.request`: a response that attests another route is none. -/
def attested (binding : ModelRouteBinding) : ProviderAnswer → ProviderAnswer
  | .responded response =>
    if response.routeReceipt.requested = binding then .responded response
    else .failed .routeDrift "ModelRouteDrift"
  | answer => answer

/-- The limits of a routed call after its success is stored. -/
def routedLimits (call : AdmittedCall) (binding : ModelRouteBinding) (response : ModelResponse) :
    Except BrokerError Unit := do
  BrokerSystem.limits budget call (providerUsage response)
  enforceRouteMaximum binding response

/-- `model_request` from the response of the model journal to its end. -/
def concludeRouted (call : AdmittedCall) (binding : ModelRouteBinding) (response : ModelResponse)
    (stop : Option StopPoint) (s : RoutedJournals) : RoutedRun :=
  if stop = some .resultCommitted then .stopped call response s
  else
    let s := { s with
      calls := BrokerJournal.recordSucceeded H call.sequence (legacyModelReceipt response).response
        (providerUsage response) s.calls }
    if stop = some .successStored then .stopped call response s
    else
      match routedLimits budget call binding response with
      | .error error =>
        .ended call response { s with calls := BrokerJournal.demote call.sequence error s.calls }
      | .ok () => .ended call response s

/-- `ModelExecutionJournal.invoke` under an admitted call, and `model_request` after it. -/
def routedRequest (call : AdmittedCall) (intent : ModelIntent) (answer : ProviderAnswer)
    (stop : Option StopPoint) (s : RoutedJournals) : RoutedRun :=
  match s.model.admitIntent H intent with
  | .error error => .unanswered (s.raiseModel call error)
  | .ok (some response, _) => concludeRouted H budget call intent.binding response stop s
  | .ok (none, model) =>
    let s := { s with model, sends := intent.call :: s.sends }
    match attested intent.binding answer with
    | .failed failure code => .unanswered (s.raiseProvider call intent failure code)
    | .responded response =>
      match s.model.storeReceipt H intent.call response with
      | .error error => .unanswered (s.raiseModel call error)
      | .ok model =>
        let s := { s with model }
        if stop = some .receiptStored then .stopped call response s
        else
          match s.model.commitResult intent.call with
          | .error error => .unanswered (s.raiseModel call error)
          | .ok model =>
            concludeRouted H budget call intent.binding response stop { s with model }

/-- `BoundBrokerFacade.model_request` with a routed registry, given what the provider answers and
where the process stops. -/
def modelRequest (operation grantId idempotencyKey : String) (request : ModelRequest)
    (answer : ProviderAnswer) (stop : Option StopPoint) (s : RoutedJournals) : RoutedRun :=
  match s.model.binding operation with
  | .error _ => .unanswered s
  | .ok binding =>
    let invocation := routedInvocation grantId idempotencyKey request binding
    match BrokerJournal.admitCall H budget invocation (.ok ()) ⟨0, false⟩ s.calls with
    | .error _ | .ok (.replayed _, _) => .unanswered s
    | .ok (.started sequence currentUsage, calls) =>
      routedRequest H budget { invocation, sequence, currentUsage }
        { call := ⟨operation, idempotencyKey⟩, requestJson := request.json, binding } answer stop
        { s with calls }

/-- What `ModelExecutionJournal.reconcile` comes to for the caller. -/
inductive ReconciledModel where
  | found (response : ModelResponse)
  | unresolved (reasonCode : String) (pending : Bool)
  | raised
  deriving DecidableEq

/-- What the pass makes of an exception of the model journal. -/
def ReconciledModel.ofError : ModelBrokerError → ReconciledModel
  | .callIndeterminate _ => .unresolved "model_receipt_lookup_pending" true
  | .routeDrift _ => .unresolved "model_route_drift" false
  | .routeBindingStale _ | .routeNotFound _ => .unresolved "broker_provider_conflict" false

/-- What the pass makes of an exception of the receipt lookup. -/
def ReconciledModel.ofLookup : ModelTables.LookupFailure → ReconciledModel
  | .unavailable => .unresolved "model_receipt_lookup_unavailable" false
  | .failed => .unresolved "model_receipt_lookup_failed" false
  | .drift | .invalid => .unresolved "model_route_drift" false

/-- What a transaction of the reconciliation returned, with the tables it left. -/
def ReconciledModel.ofTransaction (tables : ModelTables) :
    Except ModelBrokerError (ModelResponse × ModelTables) → ReconciledModel × ModelTables
  | .error error => (.ofError error, tables)
  | .ok (response, tables) => (.found response, tables)

/-- `ModelExecutionJournal.reconcile`, given what a receipt lookup would answer. -/
def reconcileModel (intent : ModelIntent) (lookup : LookupAnswer) (tables : ModelTables) :
    ReconciledModel × ModelTables :=
  match tables.reconcileRead H intent with
  | .error error => (.ofError error, tables)
  | .ok (.replay response) => (.found response, tables)
  | .ok (.recover response) =>
    ReconciledModel.ofTransaction tables (tables.recoverReceipt H intent response)
  | .ok .lookup =>
    match lookup with
    | .found response =>
      ReconciledModel.ofTransaction tables (tables.commitLookup H intent response)
    | .absent => (.unresolved "model_receipt_lookup_pending" true, tables)
    | .failed failure code => (.ofLookup failure, tables.quarantine intent.call failure code)
    | .raised => (.raised, tables)

/-- What a pass meets when it comes to one call: its authority, and what others answer. A
compensation is set when one is asked for and its own invocation succeeded. -/
structure PassInput where
  cancelled : Bool
  expired : Bool
  grantId : Option String
  lookup : LookupAnswer
  other : Option BrokerJournal.Finding
  compensation : Option String
  authorityDigest : Digest
  now : Nat

/-- The compensation a pass records about a call: only a send under live authority has one. -/
def PassInput.proposed (input : PassInput) (method : BrokerMethodName) : Option String :=
  if input.cancelled ∨ input.expired ∨ method ∉ [.artifactPut, .modelRequest, .subagentSubmit] then
    none
  else input.compensation

/-- What a pass finds out about a call whose authority it has checked; none when it raises. -/
def findingOf (operation : String) (row : BrokerCall) (requestJson : String) (input : PassInput)
    (s : RoutedJournals) : Option BrokerJournal.Finding × ModelTables :=
  if row.method = .modelRequest then
    match s.model.binding operation with
    | .error _ =>
      (some (.unresolved "broker_provider_conflict" false (input.proposed row.method)), s.model)
    | .ok binding =>
      let intent : ModelIntent := { call := ⟨operation, row.idempotencyKey⟩, requestJson, binding }
      match reconcileModel H intent input.lookup s.model with
      | (.found response, model) =>
        (some (.routed (legacyModelReceipt response).response (providerUsage response)
          binding.maxOutputTokens (input.proposed row.method)), model)
      | (.unresolved reasonCode pending, model) =>
        (some (.unresolved reasonCode pending (input.proposed row.method)), model)
      | (.raised, model) => (none, model)
  else (input.other, s.model)

/-- `reconcile_unresolved` on one call it has read as started, up to its decision. -/
def rowFinding (operation : String) (row : BrokerCall) (input : PassInput) (s : RoutedJournals) :
    Option BrokerJournal.Finding × ModelTables :=
  let unresolved (reasonCode : String) (pending : Bool) :
      Option BrokerJournal.Finding × ModelTables :=
    (some (.unresolved reasonCode pending (input.proposed row.method)), s.model)
  if input.cancelled then unresolved "broker_reconcile_cancelled" false
  else if input.expired then unresolved "broker_reconcile_deadline_expired" false
  else
    match row.requestJson with
    | none => unresolved "broker_request_bytes_unavailable" false
    | some requestJson =>
      -- The pass raises when the stored bytes do not have the stored digest.
      if H.text requestJson ≠ row.requestDigest then (none, s.model)
      else if row.method = .effectPropose then
        unresolved "effect_proposal_receipt_unavailable" true
      else
        match input.grantId with
        | none => unresolved "broker_reconcile_authority_denied" false
        | some grantId =>
          if grantId ≠ row.grantId then unresolved "broker_reconcile_grant_drift" false
          else findingOf H operation row requestJson input s

/-- `reconcile_unresolved` on one call it has read as started. -/
def reconcileRow (operation : String) (row : BrokerCall) (input : PassInput) (s : RoutedJournals) :
    RoutedJournals :=
  let (finding, model) := rowFinding H operation row input s
  let applied := do
    let finding ← finding
    let decision ← BrokerJournal.decide budget s.calls row.method finding
    (BrokerJournal.apply H row input.authorityDigest input.now s.calls decision).toOption
  { s with model, calls := applied.getD s.calls }

/-- `reconcile_unresolved` as far as one call goes: only a started call is looked at. -/
def reconcileCall (operation : String) (sequence : Nat) (input : PassInput) (s : RoutedJournals) :
    RoutedJournals :=
  match BrokerJournal.callAt s.calls sequence with
  | some row =>
    if row.state = .started then s.reconcileRow H budget operation row input else s
  | none => s

end RoutedJournals

end Aar.Broker
