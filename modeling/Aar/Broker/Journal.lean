import Aar.Lib.Cells
import Aar.Lib.Run
import Aar.Schema.Hashing

/-! The broker call journal of one operation: admission, completion and reconciliation of calls. -/

namespace Aar.Broker

open Guarded Table

/-- The methods of the broker facade. -/
inductive BrokerMethodName where
  | artifactPut
  | artifactRead
  | effectPropose
  | evidenceQuery
  | modelRequest
  | subagentResult
  | subagentSubmit
  deriving DecidableEq

/-- The errors of the broker facade and of the checks it makes. -/
inductive BrokerError where
  | budgetExceeded (message : String)
  | deadlineExpired (message : String)
  | callConflict (message : String)
  | callIndeterminate (message : String)
  | callQuarantined (reasonCode : String)
  | validation (message : String)
  | unknownCall (message : String)
  deriving DecidableEq

/-- The name of the exception, as failure codes store it. -/
def BrokerError.typeName : BrokerError → String
  | budgetExceeded _ => "BrokerBudgetExceeded"
  | deadlineExpired _ => "BrokerDeadlineExpired"
  | callConflict _ => "BrokerCallConflict"
  | callIndeterminate _ => "BrokerCallIndeterminate"
  | callQuarantined _ => "BrokerCallQuarantined"
  | validation _ => "ValidationError"
  | unknownCall _ => "KeyError"

/-- What broker calls use up. -/
structure BrokerUsage where
  modelRequests : Nat := 0
  inputTokens : Nat := 0
  outputTokens : Nat := 0
  childOperations : Nat := 0
  artifactBytes : Nat := 0
  deriving DecidableEq

/-- The budget of a request envelope. -/
structure Budget where
  wallTimeMs : Nat
  modelRequests : Nat := 0
  inputTokens : Nat := 0
  outputTokens : Nat := 0
  childOperations : Nat := 0
  artifactBytes : Nat := 0
  deriving DecidableEq

/-- The largest value of a counter. -/
def counterLimit : Nat := 9223372036854775807

/-- The counters a budget bounds, under their names. -/
def counters : List (String × (BrokerUsage → Nat) × (Budget → Nat)) :=
  [("model_requests", (·.modelRequests), (·.modelRequests)),
    ("input_tokens", (·.inputTokens), (·.inputTokens)),
    ("output_tokens", (·.outputTokens), (·.outputTokens)),
    ("child_operations", (·.childOperations), (·.childOperations)),
    ("artifact_bytes", (·.artifactBytes), (·.artifactBytes))]

/-- The sum of two usages, before it is validated. -/
def BrokerUsage.add (first second : BrokerUsage) : BrokerUsage where
  modelRequests := first.modelRequests + second.modelRequests
  inputTokens := first.inputTokens + second.inputTokens
  outputTokens := first.outputTokens + second.outputTokens
  childOperations := first.childOperations + second.childOperations
  artifactBytes := first.artifactBytes + second.artifactBytes

/-- Every counter fits its type. -/
def BrokerUsage.Valid (usage : BrokerUsage) : Prop :=
  ∀ counter ∈ counters, counter.2.1 usage ≤ counterLimit

instance (usage : BrokerUsage) : Decidable usage.Valid :=
  inferInstanceAs (Decidable (∀ counter ∈ counters, _))

/-- `plus`: the sum of two usages, raising when a counter does not fit its type. -/
def BrokerUsage.plus (first second : BrokerUsage) : Except BrokerError BrokerUsage := do
  require (first.add second).Valid
    (.validation "Input should be less than or equal to 9223372036854775807")
  return first.add second

/-- The usage stays within the budget. -/
def Within (budget : Budget) (usage : BrokerUsage) : Prop :=
  ∀ counter ∈ counters, counter.2.1 usage ≤ counter.2.2 budget

instance (budget : Budget) (usage : BrokerUsage) : Decidable (Within budget usage) :=
  inferInstanceAs (Decidable (∀ counter ∈ counters, _))

/-- The names of the counters that exceed the budget, sorted. -/
def exceeded (budget : Budget) (usage : BrokerUsage) : List String :=
  ((counters.filter fun counter => counter.2.2 budget < counter.2.1 usage).map (·.1)).mergeSort

/-- `_assert_budget`: raise when a counter exceeds the budget. -/
def assertBudget (budget : Budget) (usage : BrokerUsage) : Except BrokerError Unit :=
  require (Within budget usage)
    (.budgetExceeded ("broker budget exceeded: " ++ ", ".intercalate (exceeded budget usage)))

/-- The states of one broker call. -/
inductive BrokerCallState where
  | started
  | rejectedBeforeSend
  | succeeded
  | failed
  deriving DecidableEq

/-- What a reconciliation did about a call. -/
inductive BrokerReconciliationAction where
  | receiptRecovered
  | safeReplay
  | pending
  | quarantine
  | compensationProposed
  deriving DecidableEq

/-- A typed response: the name of its model and its canonical bytes. -/
structure BrokerResponse where
  model : String
  json : String
  deriving DecidableEq

/-- What a reconciliation says about one call. -/
structure BrokerCallReconciliation where
  sequence : Nat
  method : BrokerMethodName
  action : BrokerReconciliationAction
  reasonCode : String
  requestDigest : Digest
  authorityDigest : Digest
  responseDigest : Option Digest
  compensationReceipt : Option String
  deriving DecidableEq

/-- A row of `broker_calls` of one operation; response bytes know the model they were written from. -/
structure BrokerCall where
  sequence : Nat
  method : BrokerMethodName
  grantId : String
  idempotencyKey : String
  requestDigest : Digest
  requestJson : Option String
  state : BrokerCallState
  responseDigest : Option Digest
  responseModel : String
  responseJson : Option BrokerResponse
  usage : BrokerUsage
  failureCode : Option String
  reconciliationAction : Option BrokerReconciliationAction
  authorityDigest : Option Digest
  reconciliation : Option BrokerCallReconciliation
  compensation : Option String
  reconciledAtUnixMs : Option Nat
  controlRevision : Option Nat
  deriving DecidableEq

/-- What one call of `invoke` asks for. `checked` and `metered` say whether an admission check and
the usage of a response are given: the facade checks compensations and meters model calls. -/
structure Invocation where
  method : BrokerMethodName
  grantId : String
  idempotencyKey : String
  requestJson : String
  responseModel : String
  usage : BrokerUsage
  expectedControlRevision : Option Nat
  requireNotCancelled : Bool
  checked : Bool
  metered : Bool
  charges : method = .modelRequest → usage.modelRequests = 1
  compensates : checked → method = .effectPropose ∧ usage = {}
  meters : metered → method = .modelRequest
  deriving DecidableEq

/-- The columns of `operation_controls` that an admission reads. -/
structure OperationControl where
  controlRevision : Nat
  cancellationRequested : Bool
  deriving DecidableEq

/-- What an admission ends with: a repeated response, or a call that may be made. -/
inductive Admitted where
  | replayed (response : BrokerResponse)
  | started (sequence : Nat) (currentUsage : BrokerUsage)
  deriving DecidableEq

namespace BrokerJournal

variable (H : Hashing)

/-- The call under a sequence number. -/
def callAt (calls : List BrokerCall) (sequence : Nat) : Option BrokerCall :=
  cell BrokerCall.sequence calls sequence

/-- `usage`: the usage of every call that is not started. -/
def usage (calls : List BrokerCall) : Except BrokerError BrokerUsage :=
  calls.foldlM
    (fun total call => if call.state = .started then .ok total else total.plus call.usage) {}

/-- The checks of the operation's control row in an admission. -/
def checkControl (invocation : Invocation) (control : OperationControl) :
    Except BrokerError Unit := do
  require (∀ expected ∈ invocation.expectedControlRevision, control.controlRevision = expected)
    (.callConflict "operation control revision changed before broker admission")
  require (¬ (invocation.requireNotCancelled ∧ control.cancellationRequested))
    (.callConflict "operation cancellation prevents broker admission")

/-- The row that an admission inserts. -/
def startedCall (invocation : Invocation) (sequence : Nat) : BrokerCall where
  sequence
  method := invocation.method
  grantId := invocation.grantId
  idempotencyKey := invocation.idempotencyKey
  requestDigest := H.text invocation.requestJson
  requestJson := some invocation.requestJson
  state := .started
  responseDigest := none
  responseModel := invocation.responseModel
  responseJson := none
  usage := invocation.usage
  failureCode := none
  reconciliationAction := none
  authorityDigest := none
  reconciliation := none
  compensation := none
  reconciledAtUnixMs := none
  controlRevision := invocation.expectedControlRevision

/-- A rejected call that is admitted again. -/
def reopened (invocation : Invocation) (call : BrokerCall) : BrokerCall :=
  { call with
    state := .started
    grantId := invocation.grantId
    usage := invocation.usage
    failureCode := none
    controlRevision := invocation.expectedControlRevision }

/-- What the row of the same key leaves to do: repeat its response, open it again, or insert. -/
def existingCall (invocation : Invocation) (calls : List BrokerCall) :
    Except BrokerError (Option BrokerResponse × Option Nat) :=
  match fetchOne calls fun call => call.idempotencyKey = invocation.idempotencyKey with
  | none => .ok (none, none)
  | some existing => do
    require (existing.requestDigest = H.text invocation.requestJson)
      (.callConflict "broker idempotency key already binds different request bytes")
    match existing.state, existing.responseJson with
    | .succeeded, some response => do
      -- Bytes of another response model do not validate.
      require (response.model = invocation.responseModel) (.validation invocation.responseModel)
      require (existing.responseDigest = some (H.text response.json))
        (.callConflict "broker success receipt digest does not match stored response bytes")
      return (some response, none)
    | .rejectedBeforeSend, none => return (none, some existing.sequence)
    | _, _ => throw (.callIndeterminate "broker call has no authoritative terminal receipt")

/-- The admission transaction of `invoke`. -/
def admitCall (budget : Budget) (invocation : Invocation) (authority : Except BrokerError Unit)
    (control : OperationControl) (calls : List BrokerCall) :
    Except BrokerError (Admitted × List BrokerCall) := do
  runWhen invocation.checked authority
  checkControl invocation control
  match ← existingCall H invocation calls with
  | (some response, _) => return (.replayed response, calls)
  | (none, rejected) => do
    let currentUsage ← usage calls
    let total ← currentUsage.plus invocation.usage
    assertBudget budget total
    match rejected with
    | some sequence => do
      let calls ← updateCell BrokerCall.sequence calls sequence (·.state = .rejectedBeforeSend)
        (reopened invocation) (.callConflict "broker rejection changed during safe replay")
      return (.started sequence currentUsage, calls)
    | none =>
      let sequence := maxOf calls (·.sequence) + 1
      return (.started sequence currentUsage, calls ++ [startedCall H invocation sequence])

/-- A call that was rejected before it was sent. -/
def rejected (error : BrokerError) (call : BrokerCall) : BrokerCall :=
  { call with
    state := .rejectedBeforeSend
    failureCode := some error.typeName
    usage := {} }

/-- `invoke`: an admission check that fails before the call rejects a started call. -/
def rejectBeforeSend (sequence : Nat) (error : BrokerError) (calls : List BrokerCall) :
    List BrokerCall :=
  patchCell BrokerCall.sequence calls sequence (·.state = .started) (rejected error)

/-- A call that failed; `action` is set when its provider call was quarantined. -/
def failed (code : String) (action : Option BrokerReconciliationAction) (call : BrokerCall) :
    BrokerCall :=
  { call with
    state := .failed
    failureCode := some code
    usage := {}
    reconciliationAction := action.or call.reconciliationAction }

/-- `invoke`: the provider call was quarantined. The row is named only, whatever its state. -/
def recordQuarantined (sequence : Nat) (reasonCode : String) (calls : List BrokerCall) :
    List BrokerCall :=
  patchCell BrokerCall.sequence calls sequence (fun _ => True)
    (failed reasonCode (some .quarantine))

/-- `invoke`: the provider call raised. The row is named only, whatever its state. -/
def recordFailed (sequence : Nat) (code : String) (calls : List BrokerCall) : List BrokerCall :=
  patchCell BrokerCall.sequence calls sequence (fun _ => True) (failed code none)

/-- A call that succeeded with the response of its provider. -/
def succeeded (response : BrokerResponse) (actualUsage : BrokerUsage) (call : BrokerCall) :
    BrokerCall :=
  { call with
    state := .succeeded
    responseDigest := some (H.text response.json)
    responseJson := some response
    usage := actualUsage }

/-- `invoke`: the provider call returned a response. The row is named only, whatever its state. -/
def recordSucceeded (sequence : Nat) (response : BrokerResponse) (actualUsage : BrokerUsage)
    (calls : List BrokerCall) : List BrokerCall :=
  patchCell BrokerCall.sequence calls sequence (fun _ => True) (succeeded H response actualUsage)

/-- A success that was failed again; its response and usage stay. -/
def demoted (error : BrokerError) (call : BrokerCall) : BrokerCall :=
  { call with
    state := .failed
    failureCode := some error.typeName }

/-- `invoke`: a success that exceeds a limit is failed again. -/
def demote (sequence : Nat) (error : BrokerError) (calls : List BrokerCall) : List BrokerCall :=
  patchCell BrokerCall.sequence calls sequence (·.state = .succeeded) (demoted error)

/-- `started_calls`: the calls that are still started, in their order. -/
def startedCalls (calls : List BrokerCall) : List BrokerCall :=
  calls.filter fun call => call.state = .started

/-- What a reconciliation pass has decided about one started call. -/
inductive Decision where
  | resolve (response : BrokerResponse) (committedUsage : Option BrokerUsage)
      (action : BrokerReconciliationAction) (reasonCode : String)
  | unresolved (action : BrokerReconciliationAction) (reasonCode : String)
      (compensation : Option String) (committedUsage : Option BrokerUsage)
  deriving DecidableEq

/-- A call that a reconciliation succeeded with the response it found. -/
def resolved (reconciliation : BrokerCallReconciliation) (response : BrokerResponse)
    (committedUsage : Option BrokerUsage) (now : Nat) (call : BrokerCall) : BrokerCall :=
  { call with
    state := .succeeded
    responseDigest := some (H.text response.json)
    responseJson := some response
    usage := committedUsage.getD call.usage
    failureCode := none
    reconciliationAction := some reconciliation.action
    authorityDigest := some reconciliation.authorityDigest
    reconciliation := some reconciliation
    compensation := none
    reconciledAtUnixMs := some now }

/-- `resolve_started_call`: a started call succeeds with the response that was found. -/
def resolveStartedCall (row : BrokerCall) (response : BrokerResponse)
    (committedUsage : Option BrokerUsage) (action : BrokerReconciliationAction)
    (reasonCode : String) (authorityDigest : Digest) (now : Nat) (calls : List BrokerCall) :
    Except BrokerError (List BrokerCall) := do
  let reconciliation : BrokerCallReconciliation :=
    { sequence := row.sequence, method := row.method, action, reasonCode
      requestDigest := row.requestDigest, authorityDigest
      responseDigest := some (H.text response.json), compensationReceipt := none }
  let stored ← orRaise (callAt calls row.sequence) (.unknownCall (toString row.sequence))
  require (stored.requestDigest = row.requestDigest)
    (.callConflict "broker request digest changed during reconciliation")
  require (stored.responseModel = response.model)
    (.callConflict "broker response model changed during reconciliation")
  if stored.state = .succeeded then
    require (stored.responseJson.map (·.json) = some response.json ∧
        stored.responseDigest = some (H.text response.json) ∧
        ∀ usage ∈ committedUsage, stored.usage = usage)
      (.callConflict "terminal broker receipt conflicts with reconciled response")
    return calls
  else do
    require (stored.state = .started) (.callConflict "broker call is no longer reconcilable")
    updateCell BrokerCall.sequence calls row.sequence (·.state = .started)
      (resolved H reconciliation response committedUsage now)
      (.callConflict "broker call changed during reconciliation")

/-- A call that a reconciliation left pending or failed. -/
def unresolved (reconciliation : BrokerCallReconciliation) (committedUsage : Option BrokerUsage)
    (now : Nat) (call : BrokerCall) : BrokerCall :=
  let targetState : BrokerCallState :=
    if reconciliation.action = .pending then .started else .failed
  { call with
    state := targetState
    failureCode := some reconciliation.reasonCode
    reconciliationAction := some reconciliation.action
    authorityDigest := some reconciliation.authorityDigest
    reconciliation := some reconciliation
    compensation := reconciliation.compensationReceipt
    usage := if targetState = .started then call.usage else committedUsage.getD {}
    reconciledAtUnixMs := some now }

/-- `record_unresolved_reconciliation`: a started call stays pending, or fails for good. -/
def recordUnresolvedReconciliation (row : BrokerCall) (action : BrokerReconciliationAction)
    (reasonCode : String) (compensation : Option String) (committedUsage : Option BrokerUsage)
    (authorityDigest : Digest) (now : Nat) (calls : List BrokerCall) :
    Except BrokerError (List BrokerCall) := do
  let reconciliation : BrokerCallReconciliation :=
    { sequence := row.sequence, method := row.method, action, reasonCode
      requestDigest := row.requestDigest, authorityDigest, responseDigest := none
      compensationReceipt := compensation }
  let stored ← orRaise (callAt calls row.sequence) (.unknownCall (toString row.sequence))
  require (stored.requestDigest = row.requestDigest)
    (.callConflict "broker request digest changed during reconciliation")
  if stored.state ≠ .started then
    require (stored.reconciliation = some reconciliation)
      (.callConflict "broker call is no longer reconcilable")
    return calls
  else
    updateCell BrokerCall.sequence calls row.sequence (·.state = .started)
      (unresolved reconciliation committedUsage now)
      (.callConflict "broker call changed during reconciliation")

/-- What a pass finds out about one started call; a compensation is set when it was proposed. -/
inductive Finding where
  | unresolved (reasonCode : String) (pending : Bool) (compensation : Option String)
  | recovered (response : BrokerResponse)
  | routed (response : BrokerResponse) (committedUsage : BrokerUsage) (maxOutputTokens : Nat)
      (compensation : Option String)
  deriving DecidableEq

/-- The action `unresolved` records. -/
def unresolvedAction (pending : Bool) (compensation : Option String) :
    BrokerReconciliationAction :=
  if compensation.isSome then .compensationProposed
  else if pending then .pending else .quarantine

/-- How a pass recovers the calls of a method from their own broker, and the reason it gives. -/
def recovery : BrokerMethodName → Option (BrokerReconciliationAction × String)
  | .artifactPut => some (.receiptRecovered, "artifact_receipt_recovered")
  | .artifactRead | .evidenceQuery | .subagentResult =>
    some (.safeReplay, "broker_safe_read_replayed")
  | .subagentSubmit => some (.receiptRecovered, "subagent_handle_recovered")
  | .effectPropose | .modelRequest => none

/-- The limits on a recovered model response, and what `reconcile_unresolved` decides by them. -/
def decideRouted (budget : Budget) (calls : List BrokerCall) (response : BrokerResponse)
    (committedUsage : BrokerUsage) (maxOutputTokens : Nat) (compensation : Option String) :
    Decision :=
  let limits : Except BrokerError Unit := do
    let used ← usage calls
    let total ← used.plus committedUsage
    assertBudget budget total
  match limits with
  | .error (.budgetExceeded _) =>
    .unresolved .quarantine "model_host_budget_exceeded" none (some committedUsage)
  | .error _ =>
    .unresolved (unresolvedAction false compensation) "broker_provider_conflict" compensation none
  | .ok () =>
    if maxOutputTokens < committedUsage.outputTokens then
      .unresolved .quarantine "model_route_usage_exceeded" none (some committedUsage)
    else .resolve response (some committedUsage) .receiptRecovered "model_receipt_recovered"

/-- What `reconcile_unresolved` decides about a call of a method, if it can find this at all. -/
def decide (budget : Budget) (calls : List BrokerCall) (method : BrokerMethodName) :
    Finding → Option Decision
  | .unresolved reasonCode pending compensation =>
    some (.unresolved (unresolvedAction pending compensation) reasonCode compensation none)
  | .recovered response =>
    (recovery method).map fun way => .resolve response none way.1 way.2
  | .routed response committedUsage maxOutputTokens compensation =>
    if method = .modelRequest then
      some (decideRouted budget calls response committedUsage maxOutputTokens compensation)
    else none

/-- The transaction that carries a decision out. -/
def apply (row : BrokerCall) (authorityDigest : Digest) (now : Nat) (calls : List BrokerCall) :
    Decision → Except BrokerError (List BrokerCall)
  | .resolve response committedUsage action reasonCode =>
    resolveStartedCall H row response committedUsage action reasonCode authorityDigest now calls
  | .unresolved action reasonCode compensation committedUsage =>
    recordUnresolvedReconciliation row action reasonCode compensation committedUsage authorityDigest
      now calls

end BrokerJournal

/-- A call that was admitted: what it asks for, its sequence, and the usage it was admitted under. -/
structure AdmittedCall where
  invocation : Invocation
  sequence : Nat
  currentUsage : BrokerUsage
  deriving DecidableEq

/-- What the provider call of `invoke` ends with. -/
inductive CallAnswer where
  | responded (response : BrokerResponse) (committedUsage : BrokerUsage)
  | indeterminate
  | quarantined (reasonCode : String)
  | raised (code : String)
  deriving DecidableEq

/-- An invocation or a reconciliation pass between two of its transactions. -/
inductive BrokerFlight where
  | admitted (call : AdmittedCall)
  | calling (call : AdmittedCall)
  | settling (call : AdmittedCall) (response : BrokerResponse) (actualUsage : BrokerUsage)
  | passing (rows : List BrokerCall)
  | deciding (row : BrokerCall) (decision : BrokerJournal.Decision) (rows : List BrokerCall)
  deriving DecidableEq

/-- The journal of one operation, what is in flight on it, which keys have entered the provider,
what has been returned, and which successes went over the budget. -/
structure BrokerSystem where
  calls : List BrokerCall
  flights : List BrokerFlight
  entered : List String
  returned : List (String × BrokerResponse)
  exceeded : List String
  deriving DecidableEq

/-- One transaction, provider answer, read of a pass, or process stop. -/
inductive BrokerEvent where
  | admitCall (invocation : Invocation) (authority : Except BrokerError Unit)
      (control : OperationControl)
  | recheck (call : AdmittedCall) (authority : Except BrokerError Unit)
  | answer (call : AdmittedCall) (answer : CallAnswer)
  | settle (call : AdmittedCall) (response : BrokerResponse) (actualUsage : BrokerUsage)
      (postCheck : Except BrokerError Unit)
  | startPass
  | decide (row : BrokerCall) (rows : List BrokerCall) (finding : BrokerJournal.Finding)
  | apply (row : BrokerCall) (decision : BrokerJournal.Decision) (rows : List BrokerCall)
      (authorityDigest : Digest) (now : Nat)
  | stop (flight : BrokerFlight)

namespace BrokerSystem

variable (H : Hashing) (budget : Budget)

/-- A journal without calls and flights. -/
def empty : BrokerSystem := ⟨[], [], [], [], []⟩

/-- The system after one flight has left its place. -/
def leave (flight : BrokerFlight) (s : BrokerSystem) : BrokerSystem :=
  { s with flights := s.flights.erase flight }

/-- The system after one flight has gone on to another place. -/
def enter (flight : BrokerFlight) (s : BrokerSystem) : BrokerSystem :=
  { s with flights := flight :: s.flights }

/-- The system with other rows. -/
def store (calls : List BrokerCall) (s : BrokerSystem) : BrokerSystem := { s with calls }

/-- The system after a response has been returned under a key. -/
def return_ (key : String) (response : BrokerResponse) (s : BrokerSystem) : BrokerSystem :=
  { s with returned := (key, response) :: s.returned }

/-- Let a flight act from its place, if it is there. -/
def from_ (flight : BrokerFlight) (act : BrokerSystem → BrokerSystem) (s : BrokerSystem) :
    BrokerSystem :=
  if flight ∈ s.flights then act (s.leave flight) else s

/-- `invoke` up to its admission. -/
def admitCall (invocation : Invocation) (authority : Except BrokerError Unit)
    (control : OperationControl) (s : BrokerSystem) : BrokerSystem :=
  match BrokerJournal.admitCall H budget invocation authority control s.calls with
  | .error _ => s
  | .ok (.replayed response, _) => s.return_ invocation.idempotencyKey response
  | .ok (.started sequence currentUsage, calls) =>
    (s.store calls).enter (.admitted { invocation, sequence, currentUsage })

/-- `invoke` goes on to the provider. -/
def send (call : AdmittedCall) (s : BrokerSystem) : BrokerSystem :=
  { s.enter (.calling call) with entered := call.invocation.idempotencyKey :: s.entered }

/-- `invoke` from its admission to the provider: the second admission check, if there is one. -/
def recheck (call : AdmittedCall) (s : BrokerSystem) : Except BrokerError Unit → BrokerSystem
  | .error error =>
    if call.invocation.checked then
      s.store (BrokerJournal.rejectBeforeSend call.sequence error s.calls)
    else s.send call
  | .ok () => s.send call

/-- The limits of `invoke` after a success: the budget under the usage read at admission. -/
def limits (call : AdmittedCall) (actualUsage : BrokerUsage) : Except BrokerError Unit := do
  let total ← call.currentUsage.plus actualUsage
  assertBudget budget total

/-- What a success uses up: what was admitted, or what its response reports. -/
def actualUsage (call : AdmittedCall) (committedUsage : BrokerUsage) : BrokerUsage :=
  if call.invocation.metered then committedUsage else call.invocation.usage

/-- `invoke` from a response of the provider to the transaction that stores it. -/
def succeed (call : AdmittedCall) (response : BrokerResponse) (usage : BrokerUsage)
    (s : BrokerSystem) : BrokerSystem :=
  let stored := s.store (BrokerJournal.recordSucceeded H call.sequence response usage s.calls)
  { stored.enter (.settling call response usage) with
    exceeded := match limits budget call usage with
      | .error _ => call.invocation.idempotencyKey :: s.exceeded
      | .ok () => s.exceeded }

/-- `invoke` from the answer of the provider to the transaction that stores it. -/
def answer (call : AdmittedCall) (s : BrokerSystem) : CallAnswer → BrokerSystem
  | .indeterminate => s
  | .quarantined reasonCode =>
    s.store (BrokerJournal.recordQuarantined call.sequence reasonCode s.calls)
  | .raised code => s.store (BrokerJournal.recordFailed call.sequence code s.calls)
  | .responded response committedUsage =>
    if response.model = call.invocation.responseModel then
      s.succeed H budget call response (actualUsage call committedUsage)
    else s.store (BrokerJournal.recordFailed call.sequence "TypeError" s.calls)

/-- `invoke` from its stored success to its end: return, or fail the call again and raise. -/
def settle (call : AdmittedCall) (response : BrokerResponse) (actualUsage : BrokerUsage)
    (postCheck : Except BrokerError Unit) (s : BrokerSystem) : BrokerSystem :=
  match (do limits budget call actualUsage; postCheck) with
  | .error error => s.store (BrokerJournal.demote call.sequence error s.calls)
  | .ok () => s.return_ call.invocation.idempotencyKey response

/-- `reconcile_unresolved` from a decision to the transaction that carries it out. -/
def apply (row : BrokerCall) (decision : BrokerJournal.Decision) (rows : List BrokerCall)
    (authorityDigest : Digest) (now : Nat) (s : BrokerSystem) : BrokerSystem :=
  match BrokerJournal.apply H row authorityDigest now s.calls decision with
  | .error _ => s
  | .ok calls => (s.store calls).enter (.passing rows)

/-- The system after one event. -/
def step : BrokerEvent → BrokerSystem → BrokerSystem
  | .admitCall invocation authority control, s => s.admitCall H budget invocation authority control
  | .recheck call authority, s => s.from_ (.admitted call) (·.recheck call authority)
  | .answer call answer, s => s.from_ (.calling call) fun s => s.answer H budget call answer
  | .settle call response actualUsage postCheck, s =>
    s.from_ (.settling call response actualUsage) fun s =>
      s.settle budget call response actualUsage postCheck
  | .startPass, s => s.enter (.passing (BrokerJournal.startedCalls s.calls))
  | .decide row rows finding, s => s.from_ (.passing (row :: rows)) fun s =>
      match BrokerJournal.decide budget s.calls row.method finding with
      | none => s
      | some decision => s.enter (.deciding row decision rows)
  | .apply row decision rows authorityDigest now, s =>
    s.from_ (.deciding row decision rows) fun s => s.apply H row decision rows authorityDigest now
  | .stop flight, s => s.leave flight

end BrokerSystem

end Aar.Broker
