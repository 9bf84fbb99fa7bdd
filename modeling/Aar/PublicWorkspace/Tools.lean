import Aar.Lib.Stateful
import Aar.PublicWorkspace.Payload
import Aar.System

/-! The public workspace tools of one tenant, with stops of its process between durable writes. -/

namespace Aar.PublicWorkspace

open Guarded Table Stateful

section Settings

/-- The quotas of `PublicServerSettings`, within the bounds that its checks allow. -/
structure PublicServerSettings where
  maxWorkspacesPerTenant : Nat
  maxKeysPerWorkspace : Nat
  maxValueBytes : Nat
  maxWorkspaceBytes : Nat
  workspaces : 1 ≤ maxWorkspacesPerTenant ∧ maxWorkspacesPerTenant ≤ 10000
  keys : 1 ≤ maxKeysPerWorkspace ∧ maxKeysPerWorkspace ≤ 10000
  value : 1 ≤ maxValueBytes ∧ maxValueBytes ≤ 1048576
  workspace : maxValueBytes ≤ maxWorkspaceBytes ∧ maxWorkspaceBytes ≤ 4194304

/-- Whose runtime it is: the host, the principal, and the session of one tenant. -/
structure TenantRuntime where
  host : OpaqueToken
  principal : OpaqueToken
  session : OpaqueToken

/-- The digest of a specification, how results are written, and how keys of requests are scoped. -/
structure Documents where
  digest : WorkspaceExecuteSpec → Digest
  result : WorkspaceExecutionResult → String
  idempotencyKey : String → String
  invalid : String

/-- The arguments of `aar_workspace_update`. -/
structure UpdateArguments where
  workspaceId : OpaqueToken
  expectedGeneration : Nat
  expectedRevision : Nat
  action : Action
  key : Utf8.Text
  idempotencyKey : String
  value : JsonScalar
  maxWallTimeMs : Nat

/-- The specification that the arguments spell. -/
def UpdateArguments.spec (arguments : UpdateArguments) : WorkspaceExecuteSpec where
  workspace := arguments.workspaceId
  expectedGeneration := arguments.expectedGeneration
  expectedRevision := arguments.expectedRevision
  action := arguments.action
  key := arguments.key
  value := arguments.value

end Settings

section Failures

/-- The category and the code of an error, and whether the request may be retried. -/
def ToolError.classify : ToolError → String × String × Bool
  | .quotaExceeded _ => ("budget", "PUBLIC_QUOTA_EXCEEDED", false)
  | .workspaceBindingDenied _ | .workspaceSessionMismatch =>
    ("authority", "AUTHORITY_DENIED", false)
  | .budgetDenied _ => ("budget", "BUDGET_DENIED", false)
  | .deadlineExpired => ("deadline", "DEADLINE_EXPIRED", true)
  | .registry (.idempotencyConflict _) | .registry (.invalidTransition _) =>
    ("conflict", "OPERATION_CONFLICT", false)
  | .registry (.staleRuntimeGeneration _) | .staleWorkspaceGeneration _ _
  | .workspaceRevisionConflict _ _ => ("stale", "STALE_RUNTIME_STATE", false)
  | .registry (.keyError _) => ("validation", "REFERENCE_NOT_FOUND", false)
  | .workspaceNotFound _ | .workspaceError _ | .invalidWorkspaceMutation | .incrementTarget
  | .integerDigits | .unicodeEncode _ | .validation _ | .registry (.valueError _) =>
    ("validation", "INVALID_ARGUMENT", false)
  | .assertion | .registry _ => ("internal", "INTERNAL_ERROR", false)

/-- `_public_failure`. -/
def publicFailure (error : ToolError) (operation : Option String) : FailureEnvelope :=
  let (category, code, retryable) := error.classify
  { category, code, retryable, operation, certainty := .certain, details := []
    message := if code = "INTERNAL_ERROR" then "internal MCP adapter error" else error.text }

/-- How `run_execute` reports an error of the workspace; it lets the others through. -/
def executionFailure (error : ToolError) (operation : String) : Option FailureEnvelope :=
  match error with
  | .staleWorkspaceGeneration _ _ =>
    some { category := "stale", code := "STALE_WORKSPACE_GENERATION", message := error.text
           retryable := false, certainty := .certain, operation := some operation, details := [] }
  | .workspaceRevisionConflict _ _ =>
    some { category := "stale", code := "WORKSPACE_REVISION_CONFLICT", message := error.text
           retryable := false, certainty := .certain, operation := some operation, details := [] }
  | .invalidWorkspaceMutation | .workspaceNotFound _ =>
    some { category := "validation", code := "INVALID_WORKSPACE_MUTATION", message := error.text
           retryable := false, certainty := .certain, operation := some operation, details := [] }
  | _ => none

end Failures

section Validation

variable (settings : PublicServerSettings)

/-- The value that an update puts in, and the state that it leads to. -/
def candidateUpdate (spec : WorkspaceExecuteSpec) (state : Values) :
    Except ToolError (JsonScalar × Values) :=
  match spec.action with
  | .set => .ok (spec.value, state.set spec.key spec.value)
  | .delete => .ok (.none, state.pop spec.key)
  | .increment =>
    match (state.get spec.key).getD (.int 0) with
    | .int current =>
      match spec.value with
      | .int amount =>
        .ok (.int (current + amount), state.set spec.key (.int (current + amount)))
      | .none | .bool _ | .str _ => .error .assertion
    | .none | .bool _ | .str _ => .error .incrementTarget

/-- The check of the value: `None` stands for no value, and for the value null. -/
def checkCandidate : JsonScalar → Except ToolError Unit
  | .none => .ok ()
  | candidate => do
    let bytes ← canonicalBytes candidate.value
    require (bytes.length ≤ settings.maxValueBytes)
      (.quotaExceeded "workspace value exceeds the configured byte limit")

/-- `_validate_public_update`, with the state that it computes. -/
def validatePublicUpdate (spec : WorkspaceExecuteSpec) (store : WorkspaceStore) :
    Except ToolError Values := do
  let values ← store.inspect spec.workspace spec.expectedGeneration spec.expectedRevision
  let (candidate, state) ← candidateUpdate spec values
  checkCandidate settings candidate
  require (state.length ≤ settings.maxKeysPerWorkspace)
    (.quotaExceeded "workspace key count exceeds the configured limit")
  let bytes ← canonicalBytes state.value
  require (bytes.length ≤ settings.maxWorkspaceBytes)
    (.quotaExceeded "workspace state exceeds the configured byte limit")
  return state

end Validation

section Processes

/-- What one tenant has: its registry, its workspaces, and the generation of its process, if any. -/
structure TenantState where
  db : Db
  store : WorkspaceStore
  generation : Option Nat

/-- A call under way, and how many durable writes its process will still make. -/
structure Process where
  state : TenantState
  writes : Nat

/-- Why a call does not go on: its process stops, or it raises. -/
inductive Halt where
  | stopped
  | raised (error : ToolError) (operation : Option String)

/-- What a tool does. -/
abbrev Tool := EStateM Halt Process

/-- A check of a tool. -/
def check {α : Type} (operation : Option String) (result : Except ToolError α) : Tool α :=
  match result with
  | .ok value => pure value
  | .error error => throw (.raised error operation)

/-- One durable write, unless the process stops before it. -/
def durable {α : Type} (operation : Option String)
    (write : TenantState → Except ToolError (TenantState × α)) : Tool α := do
  let process ← get
  demand (process.writes ≠ 0) .stopped
  let (state, value) ← check operation (write process.state)
  set { process with state, writes := process.writes - 1 }
  return value

end Processes

section Opening

variable (settings : PublicServerSettings) (tenant : TenantRuntime)

/-- The generation and the revision of a workspace. -/
def currentHandle (store : WorkspaceStore) (workspace : OpaqueToken) :
    Except ToolError (Nat × Nat) := do
  let row ← store.workspaceRow workspace
  return (row.generation, row.revision)

/-- `aar_workspace_open`. -/
def aarWorkspaceOpen (workspace : OpaqueToken) : Tool (Nat × Nat) := do
  let process ← get
  match fetchOne process.state.store.workspaces fun row => row.workspace = workspace with
  | some row => check none do
    require (row.session = tenant.session) .workspaceSessionMismatch
    return (row.generation, row.revision)
  | none => do
    check none (require (process.state.store.workspaces.length < settings.maxWorkspacesPerTenant)
      (.quotaExceeded "tenant workspace count reached the configured limit"))
    durable none fun state => do
      let store ← state.store.create workspace tenant.session
      let handle ← currentHandle store workspace
      return ({ state with store }, handle)

end Opening

section Updates

variable (H : Hashing) (documents : Documents) (settings : PublicServerSettings)
  (tenant : TenantRuntime) (generation : Nat) (clock : Clock)

/-- `_public_envelope`. -/
def publicEnvelope (arguments : UpdateArguments) : RequestEnvelope where
  host := tenant.host
  principal := tenant.principal
  idempotencyKey := documents.idempotencyKey arguments.idempotencyKey
  lane := ⟨"execute", by decide⟩
  session := tenant.session
  workspace := some arguments.workspaceId
  parentOperation := none
  runtimeGeneration := generation
  workspaceGeneration := some arguments.expectedGeneration
  expectedWorkspaceRevision := some arguments.expectedRevision
  deadlineUnixMs := clock 0 + arguments.maxWallTimeMs
  inputDigest := documents.digest arguments.spec

/-- The specification of an update, with what its digest raises. -/
def executeSpec (arguments : UpdateArguments) : Except ToolError WorkspaceExecuteSpec := do
  require (1 ≤ arguments.maxWallTimeMs ∧ arguments.maxWallTimeMs ≤ 60000)
    (.validation documents.invalid)
  require arguments.spec.Valid (.validation documents.invalid)
  let _ ← canonicalBytes arguments.value.value
  return arguments.spec

/-- How the host reports that a request is not bound to its workspace. -/
def bindingDenied : Except ToolError Unit → Except ToolError Unit
  | .error (.workspaceNotFound workspace) => .error (.workspaceBindingDenied workspace.value)
  | .error .workspaceSessionMismatch =>
    .error (.workspaceBindingDenied "workspace is bound to another session")
  | result => result

/-- `_validate_request`, for an envelope that the tool has made of the host's own values. -/
def validateRequest (arguments : UpdateArguments) (store : WorkspaceStore) :
    Except ToolError Unit := do
  let deadline := clock 0 + arguments.maxWallTimeMs
  require (clock 1 < deadline) .deadlineExpired
  require (deadline - clock 2 ≤ arguments.maxWallTimeMs)
    (.budgetDenied "wall-time budget does not cover the request deadline")
  require (arguments.maxWallTimeMs ≤ 60000)
    (.budgetDenied "wall-time budget exceeds the reference-host capability limit")
  bindingDenied (store.assertSession arguments.workspaceId tenant.session)

/-- The clock of one durable write. -/
def readingOf (index : Nat) : Clock := fun _ => clock index

/-- `accept` of the registry. -/
def acceptIntent (envelope : RequestEnvelope) (payload : String) (state : TenantState) :
    Except ToolError (TenantState × String) :=
  match Registry.accept H (readingOf clock 3) envelope payload none state.db with
  | .ok (db, operation, _) => .ok ({ state with db }, operation)
  | .error error => .error (.registry error)

/-- One transition of the registry. -/
def transit (operation : String) (call : RegistryCall) (index : Nat) (state : TenantState) :
    Except ToolError (TenantState × Unit) :=
  match (Call.on operation (.registry call)).run H (readingOf clock index) state.db with
  | .ok db => .ok ({ state with db }, ())
  | .error error => .error (.registry error)

/-- `get` of the registry. -/
def readRecord (operation : String) : Tool OpRecord := do
  let process ← get
  check (some operation)
    (orRaise (process.state.db.lookup operation) (.registry (.keyError operation)))

/-- `submit_execute`: the intent is durable, or it was before. -/
def submitExecute (arguments : UpdateArguments) : Tool (String × OpRecord) := do
  let process ← get
  check none (validateRequest tenant clock arguments process.state.store)
  let operation ← durable none (acceptIntent H clock
    (publicEnvelope documents tenant generation clock arguments)
    (payloadJson arguments.spec))
  let record ← readRecord operation
  return (operation, record)

/-- The mutation of the workspace, or the failure that the host reports. -/
def executeWorkspace (operation : String) (spec : WorkspaceExecuteSpec) :
    Tool (Except FailureEnvelope WorkspaceExecutionResult) := do
  let process ← get
  match process.state.store.execute operation spec documents.invalid with
  | .ok _ => durable (some operation) fun state => do
    let (store, result) ← state.store.execute operation spec documents.invalid
    return ({ state with store }, .ok result)
  | .error error =>
    match executionFailure error operation with
    | some failure => return .error failure
    | none => throw (.raised error (some operation))

/-- The end of an operation, by what became of its execution. -/
def outcomeCall : Except FailureEnvelope WorkspaceExecutionResult → RegistryCall
  | .ok result => .succeed (documents.result result) generation false
  | .error failure => .fail failure generation false none

/-- `run_execute`, of a record that is still accepted when its deadline has not passed. -/
def executeAccepted (operation : String) (record : OpRecord) : Tool OpRecord := do
  durable (some operation) (transit H clock operation (.begin generation) 6)
  let spec ← check (some operation)
    (orRaise (readPayload record.row.payloadJson) (.validation documents.invalid))
  let outcome ← executeWorkspace documents operation spec
  durable (some operation)
    (transit H clock operation (outcomeCall documents generation outcome) 7)
  readRecord operation

/-- `run_execute`. -/
def runExecute (operation : String) : Tool OpRecord := do
  let record ← readRecord operation
  if record.row.state ≠ .accepted then return record
  else if record.row.request.deadlineUnixMs ≤ clock 5 then do
    durable (some operation) (transit H clock operation (.timeOut generation none) 6)
    readRecord operation
  else executeAccepted H documents generation clock operation record

/-- `PublicOperationResult`. -/
structure PublicOperationResult where
  operationId : String
  state : OperationState
  certainty : OutcomeCertainty
  recordRevision : Nat
  reconciliationRequired : Bool
  result : Option String
  failure : Option FailureEnvelope
  deriving DecidableEq

/-- `_public_operation_result`. -/
def publicOperationResult (operation : String) (record : OpRecord) :
    Tool PublicOperationResult := do
  check (some operation) (require (record.row.request.principal = tenant.principal ∧
    record.row.request.session = tenant.session)
      (.workspaceBindingDenied "operation belongs to a different authenticated tenant"))
  return { operationId := operation, state := record.row.state, certainty := record.row.certainty
           recordRevision := record.row.recordRevision
           reconciliationRequired := record.row.reconciliationRequired
           result := record.row.resultJson, failure := record.row.failure }

/-- The quota check of an accepted update: a refusal ends the operation, and a pass runs it. -/
def checkAndRun (arguments : UpdateArguments) (operation : String) : Tool OpRecord := do
  let process ← get
  match validatePublicUpdate settings arguments.spec process.state.store with
  | .ok _ => runExecute H documents generation clock operation
  | .error error => do
    durable (some operation) (transit H clock operation
      (.fail (publicFailure error (some operation)) generation false none) 4)
    readRecord operation

/-- What becomes of a submitted update: only an accepted one is checked. -/
def runSubmitted (arguments : UpdateArguments) (operation : String) (record : OpRecord) :
    Tool OpRecord :=
  if record.row.state = .accepted then
    checkAndRun H documents settings generation clock arguments operation
  else runExecute H documents generation clock operation

/-- `aar_workspace_update`. -/
def aarWorkspaceUpdate (arguments : UpdateArguments) : Tool PublicOperationResult := do
  let _ ← check none (executeSpec documents arguments)
  let (operation, record) ← submitExecute H documents tenant generation clock arguments
  let record ← runSubmitted H documents settings generation clock arguments operation record
  publicOperationResult tenant operation record

end Updates

section Runs

/-- What becomes of a call. -/
inductive Answer (α : Type) where
  | down
  | stopped
  | returned (value : α)
  | failed (failure : FailureEnvelope)

/-- A call of a tool in a process that makes no more than so many durable writes. -/
def serve {α : Type} (tool : Nat → Tool α) (writes : Nat) (state : TenantState) :
    Answer α × TenantState :=
  match state.generation with
  | none => (.down, state)
  | some generation =>
    match tool generation ⟨state, writes⟩ with
    | .ok value process => (.returned value, process.state)
    | .error .stopped process => (.stopped, { process.state with generation := none })
    | .error (.raised error operation) process =>
      (.failed (publicFailure error operation), process.state)

/-- What a tenant is asked: calls with the writes that its process still makes, and restarts. -/
inductive Input where
  | workspaceOpen (workspace : OpaqueToken) (writes : Nat)
  | workspaceUpdate (arguments : UpdateArguments) (clock : Clock) (writes : Nat)
  | restart (clock : Clock)

variable (H : Hashing) (documents : Documents) (settings : PublicServerSettings)
  (tenant : TenantRuntime)

/-- A call of `aar_workspace_update`. -/
def callUpdate (arguments : UpdateArguments) (clock : Clock) (writes : Nat)
    (state : TenantState) : Answer PublicOperationResult × TenantState :=
  serve (fun generation =>
    aarWorkspaceUpdate H documents settings tenant generation clock arguments) writes state

/-- A new process serves the tenant. -/
def restart (clock : Clock) (state : TenantState) : TenantState :=
  let db := Registry.startRuntime clock state.db
  { state with db, generation := some db.generation }

/-- One input. -/
def step : Input → TenantState → TenantState
  | .workspaceOpen workspace writes, state =>
    (serve (fun _ => aarWorkspaceOpen settings tenant workspace) writes state).2
  | .workspaceUpdate arguments clock writes, state =>
    (callUpdate H documents settings tenant arguments clock writes state).2
  | .restart clock, state => restart clock state

/-- A tenant before its first process. -/
def fresh : TenantState where
  db := .empty
  store := { workspaces := [], receipts := [] }
  generation := none

end Runs

end Aar.PublicWorkspace
