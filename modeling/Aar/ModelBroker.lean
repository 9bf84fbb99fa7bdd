import Aar.CallerWork.Ticket

/-! The model-call journal: one route for each operation and one result for each call key. -/

namespace Aar.ModelBroker

open Guarded Table CallerWork

/-- The states in which a ticket still accepts typed model evidence. -/
def evidenceStates : List TicketState :=
  [.sendStarted, .cancelRequested, .outcomeUnknown, .settledSuccess]

/-- The stored ticket repeats the identity a journal call was made for. -/
def JournalAuthority (row stored : TicketRow) : Prop :=
  stored.state ∈ evidenceStates ∧ stored.physicalAttemptId = row.physicalAttemptId ∧
    stored.externalIdempotencyKey = row.externalIdempotencyKey ∧
    stored.requestDigest = row.requestDigest ∧ stored.request = row.request

instance (row stored : TicketRow) : Decidable (JournalAuthority row stored) :=
  inferInstanceAs (Decidable (_ ∧ _))

/-- `bind_operation_in_transaction`: bind one model route, or repeat the one that is bound. -/
def bindOperation (binding : ModelRouteBinding) (s : Scope) : Except Err Scope := do
  require (∀ stored ∈ s.routeBinding, stored = binding)
    (.callerWorkConflict "operation already binds different model route bytes")
  return { s with routeBinding := some binding }

/-- The journalled model call under an idempotency key. -/
def journalled (key : String) (s : Scope) : Option ModelExecutionRow :=
  fetchOne s.modelExecutions (·.idempotencyKey = key)

/-- `record_caller_result_in_transaction`: commit typed caller evidence once. -/
def recordCallerResult (H : Hashing) (row : TicketRow) (binding : ModelRouteBinding)
    (response : ModelResponse) (s : Scope) : Except Err Scope := do
  require (H.request row.request = row.requestDigest)
    (.callerWorkConflict "caller model request digest does not match bytes")
  require (response.routeReceipt.requested = binding)
    (.callerWorkConflict "caller model response does not attest the exact bound route")
  let stored ← ticketRow row.ticketId s
  require (JournalAuthority row stored)
    (.callerWorkConflict "caller model ticket authority is stale")
  let key ← orRaise row.externalIdempotencyKey
    (.callerWorkConflict "caller model ticket authority is stale")
  let s ← bindOperation binding s
  let execution : ModelExecutionRow :=
    { idempotencyKey := key, requestDigest := row.requestDigest, request := row.request, binding
      responseDigest := H.response response, response, usage := response.usage }
  match journalled key s with
  | some existing => do
    require (existing = execution)
      (.callerWorkConflict "caller model idempotency identity binds different evidence")
    return s
  | none => return { s with modelExecutions := s.modelExecutions ++ [execution] }

/-- `require_caller_result_in_transaction`: the journalled response behind a settlement. -/
def requireCallerResult (row : TicketRow) (binding : ModelRouteBinding) (s : Scope) :
    Except Err ModelResponse := do
  let stored ← ticketRow row.ticketId s
  require (JournalAuthority row stored)
    (.callerWorkConflict "caller model ticket authority is stale")
  let key ← orRaise row.externalIdempotencyKey
    (.callerWorkConflict "caller model ticket authority is stale")
  let execution ← orRaise (journalled key s)
    (.callerWorkConflict "caller model result journal is absent")
  require (execution.requestDigest = row.requestDigest ∧ execution.request = row.request ∧
      execution.binding = binding)
    (.callerWorkConflict "caller model result journal lineage is stale")
  return execution.response

end Aar.ModelBroker
