import Aar.ModelBroker
import Aar.Registry.Fence
import Aar.Schema.Transaction

/-! Acceptance, restarts, the unfenced outer transitions, and the requests that queue or cancel. -/

namespace Aar.Registry

open Guarded Table

section Restart

/-- A restart rebinds one accepted operation to the new generation. -/
def reboundAccepted (now : Nat) (s : Scope) : Scope :=
  let revision := s.row.recordRevision + 1
  let s := { s with row := { s.row with
    runtimeGeneration := s.generation, recordRevision := revision } }
  insertEvent s .accepted .certain revision now "runtime_restart_rebound_accepted" none
    [("note", .text "runtime_restart_rebound_accepted")]

/-- The row is one attempt's unreleased lease. -/
def HeldBy (attemptNo : Nat) (row : LeaseRow) : Prop :=
  row.attemptNo = attemptNo ∧ row.releasedAtUnixMs = none

instance (attemptNo : Nat) : DecidablePred (HeldBy attemptNo) :=
  fun _ => inferInstanceAs (Decidable (_ ∧ _))

/-- Close one attempt as indeterminate and release every lease it still holds. -/
def abandonAttempt (attemptNo : Nat) (reason : String) (now : Nat) (s : Scope) : Scope :=
  { s with
    attempts := updateWhere s.attempts (·.attemptNo = attemptNo) fun row => { row with
      state := .outer .indeterminate, certainty := .indeterminate
      recoveryReason := some reason, endedAtUnixMs := some now }
    leases := updateWhere s.leases (HeldBy attemptNo) fun row => { row with
      releasedAtUnixMs := some now } }

/-- The latest attempt that is still running. -/
def latestRunning (s : Scope) : Option AttemptRow :=
  fetchMax s.attempts (·.state = runningAttempt) (·.attemptNo)

/-- A restart fences one running operation; the dispatch row is left for recovery to decide. -/
def fenceRunning (now : Nat) (s : Scope) : Scope :=
  let revision := s.row.recordRevision + 1
  let attempt := latestRunning s
  let s := { s with row := { s.row with
    state := .indeterminate, certainty := .indeterminate, recordRevision := revision
    reconciliationRequired := true } }
  let s := match attempt with
    | some row => abandonAttempt row.attemptNo "runtime_restart" now s
    | none => s
  insertEvent s .indeterminate .indeterminate revision now "runtime_restart"
    (attempt.map AttemptRow.attemptNo)
    [("attempt_no", (attempt.elim .null fun row => .int row.attemptNo)),
      ("runtime_generation", .int s.generation)]

/-- `start_runtime`: a new generation rebinds accepted work and fences running operations. -/
def startRuntime (clock : Clock) (db : Db) : Db :=
  let db := { db with generation := db.generation + 1 }
  let rebound := db.sweep (·.row.state = .accepted) (reboundAccepted (clock 0)) db.operations
  rebound.sweep (·.row.state = .running) (fenceRunning (clock 0)) db.operations

end Restart

section Acceptance

/-- The rows of an operation that has just been accepted. -/
def acceptedRecord (row : OperationRow) : OpRecord :=
  { row, attempts := [], leases := [], control := none, dispatch := none, events := []
    checkpoints := [], policy := none, decisions := [], rlmBoundaries := []
    workspaceBoundaries := [], selections := [], job := none, cells := [], suspensions := []
    tickets := [], candidates := [], commands := [], outbox := [], authority := none
    transfers := [], stages := [], cellManifests := [], finalization := none
    routeBinding := none, modelExecutions := [], brokerCalls := [] }

/-- The row an accepted envelope is stored as. -/
def acceptedRow (envelope : RequestEnvelope) (payloadJson : String) (now : Nat) : OperationRow :=
  { hostValue := envelope.host.value, principalValue := envelope.principal.value
    idempotencyKey := envelope.idempotencyKey, inputDigest := envelope.inputDigest
    state := .accepted, certainty := .certain, runtimeGeneration := envelope.runtimeGeneration
    recordRevision := 0, reconciliationRequired := false, request := envelope, payloadJson
    resultJson := none, failure := none, createdAtUnixMs := now }

/-- The stored operation under the same scoped idempotency key. -/
def acceptedBefore (envelope : RequestEnvelope) (db : Db) : Option (String × OpRecord) :=
  db.operations.find? fun entry =>
    decide (entry.2.row.hostValue = envelope.host.value ∧
      entry.2.row.principalValue = envelope.principal.value ∧
      entry.2.row.idempotencyKey = envelope.idempotencyKey)

/-- The authority scope a replayed acceptance must repeat. -/
def replayScope (envelope : RequestEnvelope) :
    OpaqueToken × OpaqueToken × Option OpaqueToken × Option Nat × Option Nat ×
      Option OpaqueToken :=
  (envelope.session, envelope.lane, envelope.workspace, envelope.workspaceGeneration,
    envelope.expectedWorkspaceRevision, envelope.parentOperation)

/-- What an operation identifier is derived from: the NUL-joined scoped idempotency key. -/
def operationMaterial (envelope : RequestEnvelope) : String :=
  envelope.host.value ++ "\x00" ++ envelope.principal.value ++ "\x00" ++ envelope.idempotencyKey

/-- `_operation_id`: the identifier of the operation an envelope asks for. -/
def operationId (H : Hashing) (envelope : RequestEnvelope) : String :=
  H.operationId (operationMaterial envelope)

/-- An admission callback: it may raise, and may bind the operation's model route. -/
structure Admission where
  callback : Scope → Except Err Scope
  binds : ∀ s r, callback s = .ok r → r = s ∨ ∃ binding, ModelBroker.bindOperation binding s = .ok r

/-- Run the admission callback of an acceptance, when it has one. -/
def runAdmission (admission : Option (Scope → Except Err Scope)) (operation : String) (db : Db) :
    Except Err Db :=
  match admission with
  | some callback => db.update operation (.keyError operation) callback
  | none => .ok db

/-- Appending an operation under an unused name keeps the names distinct. -/
theorem append_keys {operations : List (String × OpRecord)} {operation : String}
    (record : OpRecord) (distinct : (operations.map Prod.fst).Nodup)
    (fresh : operation ∉ operations.map Prod.fst) :
    ((operations ++ [(operation, record)]).map Prod.fst).Nodup := by
  rw [List.map_append, List.nodup_append]
  refine ⟨distinct, by simp, fun name member other same => ?_⟩
  rw [List.map_singleton, List.mem_singleton] at same
  exact fun equal => fresh (by rwa [equal, same] at member)

/-- Append a new operation, raising when its name is taken. -/
def insertOperation (operation : String) (record : OpRecord) (db : Db) : Except Err Db :=
  if fresh : operation ∉ db.operations.map Prod.fst then
    .ok { db with
      operations := db.operations ++ [(operation, record)]
      primaryKey := append_keys record db.primaryKey fresh }
  else .error (.integrityError "UNIQUE constraint failed: operations.operation_id")

/-- `accept`: persist one intent under its scoped idempotency key, or replay the stored one. -/
def accept (H : Hashing) (clock : Clock) (envelope : RequestEnvelope) (payloadJson : String)
    (admission : Option (Scope → Except Err Scope)) (db : Db) :
    Except Err (Db × String × Bool) :=
  let operation := operationId H envelope
  match acceptedBefore envelope db with
  | some (existing, stored) => do
    require (stored.row.inputDigest = envelope.inputDigest)
      (.idempotencyConflict "idempotency key already binds a different input digest")
    require (stored.row.payloadJson = payloadJson)
      (.idempotencyConflict "idempotency key already binds different payload bytes")
    require (replayScope stored.row.request = replayScope envelope)
      (.idempotencyConflict "idempotency key already binds a different authority scope")
    let db ← runAdmission admission operation db
    return (db, existing, false)
  | none => do
    let db ← insertOperation operation
      (acceptedRecord (acceptedRow envelope payloadJson (clock 0))) db
    let db ← db.update operation (.keyError operation) fun s =>
      return insertEvent s .accepted .certain 0 (clock 0) "intent_persisted" none
        [("note", .text "intent_persisted")]
    let db ← runAdmission admission operation db
    return (db, operation, true)

/-- `bind_recovery_policy`: bind exact policy bytes before durable dispatch begins. -/
def bindRecoveryPolicy (H : Hashing) (clock : Clock) (operationKind : DispatchKind)
    (policy : RecoveryPolicy) (environmentDigest : Digest) (s : Scope) : Except Err Scope := do
  require (policy.operationKind = operationKind)
    (.registryError "recovery policy operation kind does not match admission kind")
  let binding : RecoveryPolicyBinding :=
    { operationKind, policy, policyDigest := H.recoveryPolicy policy, environmentDigest }
  match s.policy with
  | some existing => do
    require (existing = binding)
      (.idempotencyConflict "operation already binds different recovery policy bytes")
    return s
  | none => do
    require (s.row.state = .accepted ∧ s.dispatch = none ∧ s.attempts = [])
      (.invalidTransition "recovery policy must be bound before durable dispatch")
    return insertEvent { s with policy := some binding } .accepted .certain s.row.recordRevision
      (clock 0) "recovery_policy_bound" none
      [("operation_kind", .text operationKind.wire), ("policy_id", .text policy.policyId),
        ("policy_version", .int policy.policyVersion),
        ("policy_digest", .text binding.policyDigest),
        ("environment_digest", .text environmentDigest)]

end Acceptance

section Transitions

/-- One unfenced outer transition: the states it leaves, the state it enters, and what it stores. -/
structure Transition where
  expectedStates : List OperationState
  state : OperationState
  certainty : OutcomeCertainty
  reconciliationRequired : Bool
  note : String
  resultJson : Option String
  failure : Option FailureEnvelope
  allowGenerationChange : Bool

/-- `_transition`: move the outer operation, whatever its attempts and leases look like. -/
def transition (change : Transition) (runtimeGeneration : Nat) (clock : Clock) (s : Scope) :
    Except Err Scope := do
  let current := s.row.state.wire
  let target := change.state.wire
  require (s.row.state ∈ change.expectedStates)
    (.invalidTransition s!"cannot transition {current} to {target}")
  let stored := s.row.runtimeGeneration
  require (change.allowGenerationChange ∨ runtimeGeneration = stored)
    (.staleRuntimeGeneration
      s!"operation belongs to runtime generation {stored}, not {runtimeGeneration}")
  require (runtimeGeneration = s.generation)
    (.staleRuntimeGeneration "runtime generation is no longer current")
  let revision := s.row.recordRevision + 1
  let row := { s.row with
    state := change.state, certainty := change.certainty, runtimeGeneration
    recordRevision := revision, reconciliationRequired := change.reconciliationRequired
    resultJson := change.resultJson.or s.row.resultJson
    failure := change.failure.or s.row.failure }
  return insertEvent { s with row } change.state change.certainty revision (clock 0) change.note
    none [("note", .text change.note)]

/-- `begin`: start an accepted operation without an attempt. -/
def begin (runtimeGeneration : Nat) : Clock → Scope → Except Err Scope :=
  transition
    { expectedStates := [.accepted], state := .running, certainty := .certain
      reconciliationRequired := false, note := "execution_started", resultJson := none
      failure := none, allowGenerationChange := false } runtimeGeneration

/-- `succeed`: end a running or, when reconciled, an indeterminate operation with a result. -/
def succeed (resultJson : String) (runtimeGeneration : Nat) (reconciled : Bool) :
    Clock → Scope → Except Err Scope :=
  transition
    { expectedStates := if reconciled then [.indeterminate] else [.running]
      state := .succeeded, certainty := .certain, reconciliationRequired := false
      note := if reconciled then "reconciled_success" else "execution_succeeded"
      resultJson := some resultJson, failure := none, allowGenerationChange := reconciled }
    runtimeGeneration

/-- `fail`: end an open or, when reconciled, an indeterminate operation with a failure. -/
def fail (failure : FailureEnvelope) (runtimeGeneration : Nat) (reconciled : Bool)
    (resultJson : Option String) : Clock → Scope → Except Err Scope :=
  transition
    { expectedStates := if reconciled then [.indeterminate] else [.accepted, .running]
      state := .failed, certainty := .certain, reconciliationRequired := false
      note := if reconciled then "reconciled_failure" else "execution_failed"
      resultJson, failure := some failure, allowGenerationChange := reconciled }
    runtimeGeneration

/-- `cancel`: end an open operation as cancelled. -/
def cancel (runtimeGeneration : Nat) (resultJson : Option String) :
    Clock → Scope → Except Err Scope :=
  transition
    { expectedStates := [.accepted, .running], state := .cancelled, certainty := .certain
      reconciliationRequired := false, note := "cancelled", resultJson, failure := none
      allowGenerationChange := false } runtimeGeneration

/-- `time_out`: end an open operation as timed out. -/
def timeOut (runtimeGeneration : Nat) (resultJson : Option String) :
    Clock → Scope → Except Err Scope :=
  transition
    { expectedStates := [.accepted, .running], state := .timedOut, certainty := .certain
      reconciliationRequired := false, note := "deadline_expired", resultJson, failure := none
      allowGenerationChange := false } runtimeGeneration

/-- `mark_indeterminate`: give up knowing how a running operation ends. -/
def markIndeterminate (runtimeGeneration : Nat) (note : String) :
    Clock → Scope → Except Err Scope :=
  transition
    { expectedStates := [.running], state := .indeterminate, certainty := .indeterminate
      reconciliationRequired := true, note, resultJson := none, failure := none
      allowGenerationChange := false } runtimeGeneration

end Transitions

section Requests

/-- `request_dispatch`: enqueue an accepted operation without claiming it. -/
def requestDispatch (kind : DispatchKind) (clock : Clock) (s : Scope) : Except Err Scope := do
  require (∀ existing ∈ s.dispatch, existing.kind = kind)
    (.idempotencyConflict "operation is already bound to another dispatch kind")
  let current := s.row.state.wire
  if s.row.state ≠ .accepted then do
    require s.dispatch.isSome (.invalidTransition s!"cannot dispatch {current} operation")
    return s
  else
    match s.dispatch with
    | some existing =>
      if existing.state = .queued then return s
      else
        let dispatch := { existing with
          state := .queued, queuedAtUnixMs := some (clock 0), runningAtUnixMs := none
          finishedAtUnixMs := none }
        return insertEvent { s with dispatch := some dispatch } s.row.state s.row.certainty
          s.row.recordRevision (clock 0) "dispatch_requested" none [("kind", .text kind.wire)]
    | none =>
      let dispatch : DispatchRow :=
        { kind, state := .queued, queuedAtUnixMs := some (clock 0), runningAtUnixMs := none
          finishedAtUnixMs := none, currentAttemptNo := none }
      return insertEvent { s with dispatch := some dispatch } s.row.state s.row.certainty
        s.row.recordRevision (clock 0) "dispatch_requested" none [("kind", .text kind.wire)]

/-- `request_cancel`: persist the intent to cancel without touching the operation's state. -/
def requestCancel (requestedByDigest : Digest) (reasonCode : String) (clock : Clock) (s : Scope) :
    Except Err Scope := do
  require (reasonCode ≠ "") (.valueError "reason_code must not be empty")
  if s.control.any ControlRow.cancellationRequested then return s
  else
    let revision := s.control.elim 1 fun control => control.controlRevision + 1
    let control : ControlRow :=
      { controlRevision := revision, cancellationRequested := true
        requestedAtUnixMs := some (clock 0), requestedByDigest := some requestedByDigest
        reasonCode := some reasonCode }
    return insertEvent { s with control := some control } s.row.state s.row.certainty
      s.row.recordRevision (clock 0) "cancel_requested" none
      [("control_revision", .int revision), ("reason_code", .text reasonCode),
        ("requested_by_digest", .text requestedByDigest)]

end Requests

end Aar.Registry
