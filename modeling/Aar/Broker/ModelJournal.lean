import Aar.Lib.Cells
import Aar.Lib.Run
import Aar.Schema.Hashing

/-! The model execution journal: one row for each call, and the invocations that are in flight. -/

namespace Aar.Broker

open Guarded Table

/-- The idempotency identity of one broker call. -/
structure CallId where
  operation : String
  idempotencyKey : String
  deriving DecidableEq

/-- The errors of the model execution journal. -/
inductive ModelBrokerError where
  | routeNotFound (message : String)
  | routeBindingStale (message : String)
  | routeDrift (message : String)
  | callIndeterminate (message : String)
  deriving DecidableEq

/-- The states of one model execution. -/
inductive ExecutionState where
  | providerSendStarted
  | providerCallIndeterminate
  | providerFailedCertain
  | providerTerminalReceipt
  | resultCommitted
  | routeDriftQuarantined
  | receiptLookupUnavailableQuarantined
  | receiptLookupFailedQuarantined
  | receiptInvalidQuarantined
  deriving DecidableEq

/-- The state as it is stored. -/
def ExecutionState.text : ExecutionState → String
  | providerSendStarted => "provider_send_started"
  | providerCallIndeterminate => "provider_call_indeterminate"
  | providerFailedCertain => "provider_failed_certain"
  | providerTerminalReceipt => "provider_terminal_receipt"
  | resultCommitted => "result_committed"
  | routeDriftQuarantined => "route_drift_quarantined"
  | receiptLookupUnavailableQuarantined => "receipt_lookup_unavailable_quarantined"
  | receiptLookupFailedQuarantined => "receipt_lookup_failed_quarantined"
  | receiptInvalidQuarantined => "receipt_invalid_quarantined"

/-- A row of `model_executions`; a request and a response are stored as their canonical bytes. -/
structure ModelExecution where
  call : CallId
  requestDigest : Digest
  requestJson : String
  binding : ModelRouteBinding
  state : ExecutionState
  responseDigest : Option Digest
  response : Option ModelResponse
  usage : Option ModelUsageRecord
  failureCode : Option String
  deriving DecidableEq

/-- A row of `model_route_bindings`. -/
structure RouteBindingRow where
  operation : String
  binding : ModelRouteBinding
  deriving DecidableEq

/-- The tables of the journal. -/
structure ModelTables where
  bindings : List RouteBindingRow
  executions : List ModelExecution
  deriving DecidableEq

/-- The columns of a caller-work ticket that the journal reads. -/
structure TicketAuthority where
  state : TicketState
  operationId : String
  physicalAttemptId : Option String
  externalIdempotencyKey : Option String
  requestDigest : Digest
  requestJson : String
  deriving DecidableEq

/-- The bytes one call binds its idempotency identity to. -/
structure ModelIntent where
  call : CallId
  requestJson : String
  binding : ModelRouteBinding
  deriving DecidableEq

namespace ModelTables

variable (H : Hashing)

/-- The stored execution of a call. -/
def execution (tables : ModelTables) (call : CallId) : Option ModelExecution :=
  cell ModelExecution.call tables.executions call

/-- `binding`: the route an operation is bound to. -/
def binding (operation : String) (tables : ModelTables) :
    Except ModelBrokerError ModelRouteBinding :=
  orRaise ((cell RouteBindingRow.operation tables.bindings operation).map (·.binding))
    (.routeNotFound s!"operation has no bound model route: {operation}")

/-- `bind_operation_in_transaction`: bind a route once, or repeat the one that is bound. -/
def bindOperation (operation : String) (route : ModelRouteBinding) (tables : ModelTables) :
    Except ModelBrokerError ModelTables :=
  match cell RouteBindingRow.operation tables.bindings operation with
  | some existing => do
    require (existing.binding = route)
      (.routeBindingStale "operation already binds different model route bytes")
    return tables
  | none => .ok { tables with bindings := tables.bindings ++ [{ operation, binding := route }] }

/-- The stored row binds the same request and route bytes as a call. -/
def Binds (intent : ModelIntent) (row : ModelExecution) : Prop :=
  row.requestDigest = H.text intent.requestJson ∧ row.requestJson = intent.requestJson ∧
    row.binding = intent.binding

instance (intent : ModelIntent) (row : ModelExecution) : Decidable (Binds H intent row) :=
  inferInstanceAs (Decidable (_ ∧ _))

/-- `_validated_response_row`: the stored response, checked against its digest and its route. -/
def validatedResponse (row : ModelExecution) (expected : ModelRouteBinding) :
    Except ModelBrokerError ModelResponse := do
  let response ← orRaise row.response
    (.callIndeterminate "model result state has no response bytes")
  require (row.responseDigest = some (H.response response))
    (.routeDrift "stored model response digest mismatch")
  require (row.binding = expected)
    (.routeDrift "stored model execution binding differs from operation authority")
  require (response.routeReceipt.requested = expected)
    (.routeDrift "stored model response binds a different route authority")
  let usage ← orRaise row.usage (.routeDrift "stored model response has no usage projection")
  require (usage = response.usage)
    (.routeDrift "stored model usage projection differs from response evidence")
  return response

/-- The row that `invoke` inserts before it calls the provider. -/
def intentRow (intent : ModelIntent) : ModelExecution where
  call := intent.call
  requestDigest := H.text intent.requestJson
  requestJson := intent.requestJson
  binding := intent.binding
  state := .providerSendStarted
  responseDigest := none
  response := none
  usage := none
  failureCode := none

/-- The row with a terminal response of its provider. -/
def withResponse (state : ExecutionState) (response : ModelResponse) (row : ModelExecution) :
    ModelExecution :=
  { row with
    state
    responseDigest := some (H.response response)
    response := some response
    usage := some response.usage
    failureCode := none }

/-- The admission transaction of `invoke`: repeat a committed result, or store the intent. -/
def admitIntent (intent : ModelIntent) (tables : ModelTables) :
    Except ModelBrokerError (Option ModelResponse × ModelTables) :=
  match tables.execution intent.call with
  | some row => do
    require (Binds H intent row)
      (.routeBindingStale "model idempotency identity binds different request or route bytes")
    require (row.state = .resultCommitted ∧ row.response ≠ none)
      (.callIndeterminate "model call has no authoritative terminal response")
    let response ← validatedResponse H row intent.binding
    return (some response, tables)
  | none => .ok (none, { tables with executions := tables.executions ++ [intentRow H intent] })

/-- The exceptions of the provider call that `invoke` tells apart. -/
inductive ProviderFailure where
  | routeDrift
  | outcomeUnknown
  | providerFailure
  | brokerError
  | exception
  deriving DecidableEq

/-- The state `invoke` stores for an exception of the provider call. -/
def ProviderFailure.state : ProviderFailure → ExecutionState
  | routeDrift => .routeDriftQuarantined
  | outcomeUnknown => .providerCallIndeterminate
  | providerFailure | brokerError | exception => .providerFailedCertain

/-- The failure updates of `invoke`. They name the row only, whatever state it has reached. -/
def recordFailure (call : CallId) (failure : ProviderFailure) (code : String)
    (tables : ModelTables) : ModelTables :=
  { tables with
    executions := patchCell ModelExecution.call tables.executions call (fun _ => True)
      fun row => { row with state := failure.state, failureCode := some code } }

/-- `invoke`: store the terminal receipt of a call that is still started. -/
def storeReceipt (call : CallId) (response : ModelResponse) (tables : ModelTables) :
    Except ModelBrokerError ModelTables := do
  let executions ← updateCell ModelExecution.call tables.executions call
    (·.state = .providerSendStarted) (withResponse H .providerTerminalReceipt response)
    (.callIndeterminate "model execution changed before terminal receipt commit")
  return { tables with executions }

/-- `invoke`: make a stored terminal receipt visible as the result. -/
def commitResult (call : CallId) (tables : ModelTables) : Except ModelBrokerError ModelTables := do
  let executions ← updateCell ModelExecution.call tables.executions call
    (·.state = .providerTerminalReceipt) (fun row => { row with state := .resultCommitted })
    (.callIndeterminate "model execution changed before result commit")
  return { tables with executions }

/-- What `reconcile` goes on with after it read the row. -/
inductive ReconcileRead where
  | replay (response : ModelResponse)
  | recover (response : ModelResponse)
  | lookup
  deriving DecidableEq

/-- The first read of `reconcile`, outside every transaction. -/
def reconcileRead (intent : ModelIntent) (tables : ModelTables) :
    Except ModelBrokerError ReconcileRead := do
  let row ← orRaise (tables.execution intent.call)
    (.callIndeterminate "model execution intent is unavailable")
  require (Binds H intent row)
    (.routeBindingStale "model reconciliation identity binds different request or route bytes")
  match row.state with
  | .resultCommitted => return .replay (← validatedResponse H row intent.binding)
  | .providerTerminalReceipt => return .recover (← validatedResponse H row intent.binding)
  | .providerSendStarted | .providerCallIndeterminate => return .lookup
  | state =>
    throw (.callIndeterminate s!"model execution is not lookup-reconcilable: {state.text}")

/-- The committed response of a row that another party moved first. -/
def committedResponse (intent : ModelIntent) (message : String) (tables : ModelTables) :
    Except ModelBrokerError ModelResponse := do
  let current ← orRaise (tables.execution intent.call) (.callIndeterminate message)
  require (current.state = .resultCommitted) (.callIndeterminate message)
  validatedResponse H current intent.binding

/-- `reconcile`: commit a terminal receipt that was found stored. -/
def recoverReceipt (intent : ModelIntent) (response : ModelResponse) (tables : ModelTables) :
    Except ModelBrokerError (ModelResponse × ModelTables) :=
  match commitResult intent.call tables with
  | .ok tables' => .ok (response, tables')
  | .error _ => do
    let current ← committedResponse H intent
      "model receipt changed during local result recovery" tables
    return (current, tables)

/-- The exceptions of a receipt lookup that `reconcile` quarantines. -/
inductive LookupFailure where
  | unavailable
  | failed
  | drift
  | invalid
  deriving DecidableEq

/-- The state `reconcile` stores for an exception of the receipt lookup. -/
def LookupFailure.state : LookupFailure → ExecutionState
  | unavailable => .receiptLookupUnavailableQuarantined
  | failed => .receiptLookupFailedQuarantined
  | drift => .routeDriftQuarantined
  | invalid => .receiptInvalidQuarantined

/-- `_quarantine`: every row is quarantined whose result is not committed. -/
def quarantine (call : CallId) (failure : LookupFailure) (code : String) (tables : ModelTables) :
    ModelTables :=
  { tables with
    executions := patchCell ModelExecution.call tables.executions call
      (·.state ≠ .resultCommitted)
      fun row => { row with state := failure.state, failureCode := some code } }

/-- `reconcile`: commit the response a lookup found, or repeat the equal one that is committed. -/
def commitLookup (intent : ModelIntent) (response : ModelResponse) (tables : ModelTables) :
    Except ModelBrokerError (ModelResponse × ModelTables) :=
  let committed : Except ModelBrokerError (List ModelExecution) :=
    updateCell ModelExecution.call tables.executions intent.call
      (fun row => row.state = .providerSendStarted ∨ row.state = .providerCallIndeterminate)
      (withResponse H .resultCommitted response)
      (.callIndeterminate "model execution changed during result commit")
  match committed with
  | .ok executions => .ok (response, { tables with executions })
  | .error _ => do
    let existing ← committedResponse H intent "model execution changed during result commit" tables
    require (existing = response)
      (.routeDrift "recovered model response conflicts with committed result")
    return (existing, tables)

/-- The ticket states in which a caller may still record model evidence. -/
def callerStates : List TicketState :=
  [.sendStarted, .cancelRequested, .outcomeUnknown, .settledSuccess]

/-- `record_caller_result_in_transaction`: commit typed caller evidence once. -/
def recordCallerResult (ticket : Option TicketAuthority) (intent : ModelIntent)
    (physicalAttemptId : String) (requestDigest : Digest) (response : ModelResponse)
    (tables : ModelTables) : Except ModelBrokerError (ModelResponse × ModelTables) := do
  require (H.text intent.requestJson = requestDigest)
    (.routeBindingStale "caller model request digest does not match bytes")
  require (response.routeReceipt.requested = intent.binding)
    (.routeDrift "caller model response does not attest the exact bound route")
  require (ticket.any fun ticket => ticket.state ∈ callerStates ∧
      ticket.operationId = intent.call.operation ∧
      ticket.physicalAttemptId = some physicalAttemptId ∧
      ticket.externalIdempotencyKey = some intent.call.idempotencyKey ∧
      ticket.requestDigest = requestDigest ∧ ticket.requestJson = intent.requestJson)
    (.routeBindingStale "caller model ticket authority is stale")
  let tables ← bindOperation intent.call.operation intent.binding tables
  let result := withResponse H .resultCommitted response (intentRow H intent)
  match tables.execution intent.call with
  | some row => do
    require (row = result)
      (.routeBindingStale "caller model idempotency identity binds different evidence")
    let stored ← validatedResponse H row intent.binding
    return (stored, tables)
  | none => return (response, { tables with executions := tables.executions ++ [result] })

end ModelTables

/-- One invocation between two of its transactions. -/
inductive ModelFlight where
  | admitted (intent : ModelIntent)
  | requesting (intent : ModelIntent)
  | received (intent : ModelIntent) (response : ModelResponse)
  | recovering (intent : ModelIntent) (response : ModelResponse)
  | lookingUp (intent : ModelIntent)
  deriving DecidableEq

/-- What the provider call of `invoke` ends with. -/
inductive ProviderAnswer where
  | responded (response : ModelResponse)
  | failed (failure : ModelTables.ProviderFailure) (code : String)
  deriving DecidableEq

/-- What the receipt lookup of `reconcile` ends with. -/
inductive LookupAnswer where
  | found (response : ModelResponse)
  | absent
  | failed (failure : ModelTables.LookupFailure) (code : String)
  | raised
  deriving DecidableEq

/-- The journal, the invocations in flight, and what has been sent and returned so far. -/
structure ModelSystem where
  tables : ModelTables
  flights : List ModelFlight
  sends : List CallId
  returned : List (CallId × ModelResponse)
  deriving DecidableEq

/-- One transaction, provider answer or process stop. -/
inductive ModelEvent where
  | bind (operation : String) (route : ModelRouteBinding)
  | invoke (call : CallId) (requestJson : String)
  | send (intent : ModelIntent)
  | answer (intent : ModelIntent) (answer : ProviderAnswer)
  | commit (intent : ModelIntent) (response : ModelResponse)
  | reconcile (call : CallId) (requestJson : String)
  | recover (intent : ModelIntent) (response : ModelResponse)
  | lookup (intent : ModelIntent) (answer : LookupAnswer)
  | recordCaller (ticket : Option TicketAuthority) (intent : ModelIntent)
      (physicalAttemptId : String) (requestDigest : Digest) (response : ModelResponse)
  | stop (flight : ModelFlight)
  deriving DecidableEq

namespace ModelSystem

variable (H : Hashing)

/-- A journal without rows and invocations. -/
def empty : ModelSystem := ⟨⟨[], []⟩, [], [], []⟩

/-- The system after one invocation has left its place. -/
def leave (flight : ModelFlight) (s : ModelSystem) : ModelSystem :=
  { s with flights := s.flights.erase flight }

/-- The system after one invocation has gone on to another place. -/
def enter (flight : ModelFlight) (s : ModelSystem) : ModelSystem :=
  { s with flights := flight :: s.flights }

/-- The system after a response has been returned for a call. -/
def return_ (call : CallId) (response : ModelResponse) (s : ModelSystem) : ModelSystem :=
  { s with returned := (call, response) :: s.returned }

/-- The system with other tables. -/
def store (tables : ModelTables) (s : ModelSystem) : ModelSystem := { s with tables }

/-- `invoke` up to its first commit: a result that is repeated, or an intent that is stored. -/
def invoke (call : CallId) (requestJson : String) (s : ModelSystem) : ModelSystem :=
  match s.tables.binding call.operation with
  | .error _ => s
  | .ok binding =>
    let intent : ModelIntent := { call, requestJson, binding }
    match s.tables.admitIntent H intent with
    | .error _ => s
    | .ok (some response, _) => s.return_ call response
    | .ok (none, tables) => (s.store tables).enter (.admitted intent)

/-- `invoke` from the answer of the provider to the transaction that stores it. -/
def answer (intent : ModelIntent) (s : ModelSystem) : ProviderAnswer → ModelSystem
  | .failed failure code => s.store (s.tables.recordFailure intent.call failure code)
  | .responded response =>
    match s.tables.storeReceipt H intent.call response with
    | .error _ => s
    | .ok tables => (s.store tables).enter (.received intent response)

/-- `invoke` from its stored receipt to the result it returns. -/
def commit (intent : ModelIntent) (response : ModelResponse) (s : ModelSystem) : ModelSystem :=
  match s.tables.commitResult intent.call with
  | .error _ => s
  | .ok tables => (s.store tables).return_ intent.call response

/-- `reconcile` up to its first read. -/
def reconcile (call : CallId) (requestJson : String) (s : ModelSystem) : ModelSystem :=
  match s.tables.binding call.operation with
  | .error _ => s
  | .ok binding =>
    let intent : ModelIntent := { call, requestJson, binding }
    match s.tables.reconcileRead H intent with
    | .error _ => s
    | .ok (.replay response) => s.return_ call response
    | .ok (.recover response) => s.enter (.recovering intent response)
    | .ok .lookup => s.enter (.lookingUp intent)

/-- Commit what a transaction returned, or go on without it. -/
def conclude (call : CallId) (s : ModelSystem) :
    Except ModelBrokerError (ModelResponse × ModelTables) → ModelSystem
  | .error _ => s
  | .ok (response, tables) => (s.store tables).return_ call response

/-- `reconcile` from the answer of the lookup to the transaction that stores it. -/
def lookup (intent : ModelIntent) (s : ModelSystem) : LookupAnswer → ModelSystem
  | .found response => s.conclude intent.call (s.tables.commitLookup H intent response)
  | .absent | .raised => s
  | .failed failure code => s.store (s.tables.quarantine intent.call failure code)

/-- Let an invocation act from its place, if one is there. -/
def from_ (flight : ModelFlight) (act : ModelSystem → ModelSystem) (s : ModelSystem) :
    ModelSystem :=
  if flight ∈ s.flights then act (s.leave flight) else s

/-- The system after one event. -/
def step : ModelEvent → ModelSystem → ModelSystem
  | .bind operation route, s =>
    match s.tables.bindOperation operation route with
    | .error _ => s
    | .ok tables => s.store tables
  | .invoke call requestJson, s => s.invoke H call requestJson
  | .send intent, s => s.from_ (.admitted intent) fun s =>
      { s.enter (.requesting intent) with sends := intent.call :: s.sends }
  | .answer intent answer, s => s.from_ (.requesting intent) fun s => s.answer H intent answer
  | .commit intent response, s => s.from_ (.received intent response) (·.commit intent response)
  | .reconcile call requestJson, s => s.reconcile H call requestJson
  | .recover intent response, s => s.from_ (.recovering intent response) fun s =>
      s.conclude intent.call (s.tables.recoverReceipt H intent response)
  | .lookup intent answer, s => s.from_ (.lookingUp intent) fun s => s.lookup H intent answer
  | .recordCaller ticket intent physicalAttemptId requestDigest response, s =>
    s.conclude intent.call
      (s.tables.recordCallerResult H ticket intent physicalAttemptId requestDigest response)
  | .stop flight, s => s.leave flight

end ModelSystem

end Aar.Broker
