import Aar.Schema.Documents
import Aar.Workspace.Portable
import Mathlib.Logic.Function.Basic

/-! The supervisor of one isolated IPython worker per workspace generation. -/

namespace Aar.Workspace

open Guarded

section Values

/-- What a workspace operation raises. -/
inductive WorkspaceError where
  | workspaceNotFound (workspace : String)
  | workspaceSessionMismatch (message : String)
  | staleWorkspaceGeneration (message : String)
  | workspaceRevisionConflict (message : String)
  | workspaceOperationConflict (message : String)
  | workspaceClosed (message : String)
  | workspaceWorkerLost (message : String)
  | workspaceWorkerProtocolError (message : String)
  | workerTimeout (message : String)
  | workspaceBrokerSuspended
  | validationError (message : String)
  | runtimeError (message : String)
  deriving DecidableEq

/-- How a program ended. -/
inductive WorkspaceExecutionStatus where
  | succeeded | failed | interrupted | timedOut
  deriving DecidableEq

/-- The result of one program, reduced to its identity and its outcome. -/
structure WorkspaceProgramResult where
  operation : String
  workspace : String
  backend : Digest
  generation : Nat
  revisionBefore : Nat
  revisionAfter : Nat
  status : WorkspaceExecutionStatus
  workspaceLost : Bool := false
  deriving DecidableEq

/-- A checkpoint of one workspace revision with the values it holds. -/
structure CheckpointManifest where
  sourceHandle : ProgrammableWorkspaceHandle
  creationOperation : String
  traceId : String
  values : List WorkspaceCheckpointValue
  exclusions : List WorkspaceCheckpointExclusion
  deriving DecidableEq

/-- A request to restore a checkpoint into a workspace, as the request model accepts it. -/
structure WorkspaceRestoreSpec where
  workspace : String
  session : String
  expectedHandle : Option ProgrammableWorkspaceHandle := none
  recoverLostGeneration : Bool := false
  targets : ∀ handle ∈ expectedHandle, handle.workspace = workspace
  exact : recoverLostGeneration = true → expectedHandle.isSome

/-- What a snapshot says of one variable. -/
structure WorkspaceVariableSummary where
  name : PyString
  typeName : String
  portable : Bool
  deriving DecidableEq

/-- Whether a workspace can be used. -/
inductive WorkspaceHealthStatus where
  | ready | busy | closed | lost
  deriving DecidableEq

end Values

section State

/-- The durable identity of a worker: absent without a manager, else live until finished. -/
inductive ManagedWorker where
  | absent | active | finished
  deriving DecidableEq

/-- An execution that holds its worker's lock. -/
structure Hold where
  operation : String
  handle : ProgrammableWorkspaceHandle
  resumes : Bool := false
  deriving DecidableEq

/-- `_WorkerState`: one worker process as its supervisor sees it. -/
structure WorkerState where
  session : String
  generation : Nat
  exited : Bool := false
  space : Namespace := []
  managed : ManagedWorker := .absent
  revision : Nat := 0
  closed : Bool := false
  lost : Bool := false
  lostReason : Option String := none
  runningOperation : Option String := none
  suspendedOperation : Option String := none
  cancelRequested : Bool := false
  holder : Option Hold := none

/-- What stays fixed while a backend runs. -/
structure Config where
  descriptor : Digest
  hasManager : Bool
  interpreter : Interpreter

/-- The workers of a backend and the results it retains. -/
structure Backend where
  states : String → Option WorkerState
  receipts : String → Option WorkspaceProgramResult

/-- A backend that has not started a worker. -/
def Backend.empty : Backend where
  states := fun _ => none
  receipts := fun _ => none

/-- Bind a workspace to a worker. -/
def Backend.put (b : Backend) (workspace : String) (state : WorkerState) : Backend :=
  { b with states := Function.update b.states workspace (some state) }

/-- Retain the result of an operation. -/
def Backend.retain (b : Backend) (result : WorkspaceProgramResult) : Backend :=
  { b with receipts := Function.update b.receipts result.operation (some result) }

/-- What one call returns or raises. -/
inductive Reply where
  | raised (error : WorkspaceError)
  | handle (handle : ProgrammableWorkspaceHandle)
  | started
  | result (result : WorkspaceProgramResult)
  | replayed (result : WorkspaceProgramResult)
  | sent
  | snapshot (generation revision : Nat) (summaries : List WorkspaceVariableSummary)
  | interrupted (accepted : Bool)
  | manifest (manifest : CheckpointManifest)
  | health (status : WorkspaceHealthStatus) (generation revision : Nat)
      (runningOperation : Option String)
  | closed (handle : ProgrammableWorkspaceHandle) (reason : String)
  | exited
  deriving DecidableEq

end State

section Workers

variable (config : Config)

/-- `_handle`: the handle on a worker as it is now. -/
def handleOf (workspace : String) (state : WorkerState) : ProgrammableWorkspaceHandle where
  workspace := workspace
  generation := state.generation
  revision := state.revision
  backendCapabilityDigest := config.descriptor

/-- `_check_handle`: the handle is of this backend and names the worker as it is now. -/
def checkHandle (state : WorkerState) (handle : ProgrammableWorkspaceHandle) :
    Except WorkspaceError Unit := do
  require (handle.backendCapabilityDigest = config.descriptor) (.workspaceRevisionConflict
    "workspace backend capability identity does not match this backend")
  require (state.generation = handle.generation) (.staleWorkspaceGeneration
    ("workspace generation is " ++ toString state.generation ++ ", not " ++
      toString handle.generation))
  require (state.revision = handle.revision) (.workspaceRevisionConflict
    ("workspace revision is " ++ toString state.revision ++ ", not " ++
      toString handle.revision))

/-- `_assert_available`: the worker is neither closed nor lost nor exited. -/
def assertAvailable (state : WorkerState) : Except WorkspaceError Unit := do
  require (state.closed = false) (.workspaceClosed "workspace is closed")
  require (¬ (state.lost ∨ state.exited))
    (.workspaceWorkerLost (state.lostReason.getD "workspace worker is lost"))

/-- `_managed_finish`: the durable identity of a worker ends once. -/
def finishManaged (state : WorkerState) : WorkerState :=
  if state.managed = .active then { state with managed := .finished } else state

/-- `_mark_lost`: terminate the worker and record why it was lost. -/
def markLost (reason : String) (state : WorkerState) : WorkerState :=
  finishManaged { state with exited := true, lost := true, lostReason := some reason }

/-- `_managed_heartbeat`: a managed worker whose process is gone is recorded as lost. -/
def managedHeartbeat (state : WorkerState) : Except WorkspaceError Unit × WorkerState :=
  -- The manager finds the process identity gone, finishes the binding and reports it as lost.
  if state.managed = .active ∧ state.exited then
    (.error (.workspaceWorkerLost "durable worker identity is no longer live"),
      { state with
        managed := .finished, lost := true
        lostReason := some "durable worker identity is no longer live" })
  else (.ok (), state)

/-- `_register_managed`: record a worker, unless its predecessor is still recorded as live. -/
def registerManaged (predecessor : ManagedWorker) (state : WorkerState) :
    Except WorkspaceError WorkerState :=
  if config.hasManager then do
    require (predecessor ≠ .active) (.runtimeError
      ("an active or unresolved worker still owns this workspace; " ++
        "successor registration is blocked"))
    return { state with managed := .active }
  else return state

/-- `_state`, with what is done to the worker found there. -/
def Backend.use (b : Backend) (workspace : String) (act : WorkerState → Reply × WorkerState) :
    Reply × Backend :=
  match b.states workspace with
  | none => (.raised (.workspaceNotFound workspace), b)
  | some state => ((act state).1, b.put workspace (act state).2)

/-- The same under the worker's lock, which a running execution holds. -/
def Backend.useLocked (b : Backend) (workspace : String)
    (act : WorkerState → Reply × WorkerState) : Option (Reply × Backend) :=
  match b.states workspace with
  | none => some (.raised (.workspaceNotFound workspace), b)
  | some state =>
    if state.holder = none then some ((act state).1, b.put workspace (act state).2) else none

/-- Act on a worker only when its checks pass. -/
def whenChecked (check : Except WorkspaceError Unit) (state : WorkerState)
    (act : Reply × WorkerState) : Reply × WorkerState :=
  match check with
  | .error error => (.raised error, state)
  | .ok () => act

end Workers

section Calls

variable (config : Config)

/-- `create`: start the first worker of a workspace, or return the handle on the one it has. -/
def create (workspace session : String) (started : Except WorkspaceError Unit) (b : Backend) :
    Reply × Backend :=
  match b.states workspace with
  | none =>
    match started.bind fun _ =>
        registerManaged config .absent { session := session, generation := 1 } with
    | .error error => (.raised error, b)
    | .ok state => (.handle (handleOf config workspace state), b.put workspace state)
  | some state =>
    if state.session ≠ session then
      (.raised (.workspaceSessionMismatch "workspace is bound to another session"), b)
    else if state.closed ∨ state.lost then
      (.raised (.workspaceWorkerLost
        ("workspace worker is unavailable; restore a checkpoint into a new generation")), b)
    else (.handle (handleOf config workspace state), b)

/-- `attach`: return a handle that is still current. -/
def attach (handle : ProgrammableWorkspaceHandle) (session : String) (state : WorkerState) :
    Reply × WorkerState :=
  let check := do
    require (state.session = session)
      (.workspaceSessionMismatch "workspace is bound to another session")
    checkHandle config state handle
    assertAvailable state
  whenChecked check state (.handle handle, state)

/-- The checks of an execution before it takes the worker. -/
def executable (handle : ProgrammableWorkspaceHandle) (state : WorkerState) :
    Except WorkspaceError Unit := do
  checkHandle config state handle
  assertAvailable state
  require (state.runningOperation = none ∧ state.suspendedOperation = none)
    (.workspaceOperationConflict "another operation is already running")

/-- `execute`, until the request is sent: take the worker, which may exit before its heartbeat. -/
def executeStart (operation : String) (handle : ProgrammableWorkspaceHandle) (exits : Bool)
    (state : WorkerState) : Reply × WorkerState :=
  let taken := { state with
    runningOperation := some operation, cancelRequested := false
    exited := state.exited || exits }
  whenChecked (executable config handle state) state <|
    match managedHeartbeat taken with
    | (.error error, state) => (.raised error, state)
    | (.ok (), state) =>
      (.started, { state with holder := some { operation := operation, handle := handle } })

/-- How the worker answered a program. -/
inductive ExecuteAnswer where
  | response (status : WorkspaceExecutionStatus) (space : Namespace)
  | suspended (space : Namespace)
  | timedOut (message : String)
  | lost (message : String)
  | malformed (message : String)

/-- The result of a program that ran on a handle. -/
def resultOf (hold : Hold) (status : WorkspaceExecutionStatus) (lost : Bool) :
    WorkspaceProgramResult where
  operation := hold.operation
  workspace := hold.handle.workspace
  backend := config.descriptor
  generation := hold.handle.generation
  revisionBefore := hold.handle.revision
  revisionAfter := hold.handle.revision + 1
  status := status
  workspaceLost := lost

/-- The status of a program whose worker was lost. -/
def lostStatus (answer : ExecuteAnswer) (state : WorkerState) : WorkspaceExecutionStatus :=
  if state.cancelRequested then .interrupted
  else
    match answer with
    | .timedOut _ => .timedOut
    | _ => .failed

/-- `execute`, once the worker answered, failed to answer or suspended. -/
def executeFinish (hold : Hold) (answer : ExecuteAnswer) (state : WorkerState) :
    Reply × WorkerState :=
  let released := { state with runningOperation := none, holder := none }
  match answer with
  | .response status space =>
    let finished := resultOf config hold status false
    let answered := { released with space := space }
    match if answered.lost then (.ok (), answered) else managedHeartbeat answered with
    | (.error error, state) => (.raised error, state)
    | (.ok (), state) => (.result finished, { state with revision := finished.revisionAfter })
  | .suspended space =>
    (.raised .workspaceBrokerSuspended,
      { released with suspendedOperation := some hold.operation, space := space })
  | .timedOut message | .lost message | .malformed message =>
    let finished := resultOf config hold (lostStatus answer state) true
    (.result finished,
      { markLost message released with revision := finished.revisionAfter })

/-- `send_rebind_prepare`: write a frame to the worker that an operation suspended. -/
def sendRebindPrepare (operation : String) (handle : ProgrammableWorkspaceHandle)
    (written : Except WorkspaceError Unit) (state : WorkerState) : Reply × WorkerState :=
  let check := do
    checkHandle config state handle
    assertAvailable state
    require (state.suspendedOperation = some operation ∧ state.runningOperation = none)
      (.workspaceOperationConflict "operation does not own a suspended worker stack")
    written
  whenChecked check state (.sent, state)

/-- `resume_rebind_commit`, until the frames are sent: take the suspended worker. -/
def resumeStart (operation : String) (handle : ProgrammableWorkspaceHandle)
    (state : WorkerState) : Reply × WorkerState :=
  let check := do
    checkHandle config state handle
    assertAvailable state
    require (state.suspendedOperation = some operation ∧ state.runningOperation = none)
      (.workspaceOperationConflict "operation does not own a suspended worker stack")
  whenChecked check state (.started, { state with
    runningOperation := some operation
    holder := some { operation := operation, handle := handle, resumes := true } })

/-- How the worker answered the resumption of a suspended program. -/
inductive ResumeAnswer where
  | response (status : WorkspaceExecutionStatus) (space : Namespace)
  | lost (error : WorkspaceError) (message : String)
  | unreadable (message : String)

/-- `resume_rebind_commit`, once the worker answered or failed to answer. -/
def resumeFinish (hold : Hold) (answer : ResumeAnswer) (state : WorkerState) :
    Reply × WorkerState :=
  let released := { state with runningOperation := none, holder := none }
  match answer with
  | .response status space =>
    let finished := resultOf config hold status false
    match managedHeartbeat { released with suspendedOperation := none, space := space } with
    | (.error error, state) => (.raised error, state)
    | (.ok (), state) => (.result finished, { state with revision := finished.revisionAfter })
  -- The loss is recorded, but the revision and the suspended operation stay as they were.
  | .lost error message => (.raised error, markLost message released)
  | .unreadable message => (.raised (.validationError message), released)

/-- `inspect`: what the worker says of its variables. -/
def inspect (handle : ProgrammableWorkspaceHandle) (answered : Except WorkspaceError Unit)
    (state : WorkerState) : Reply × WorkerState :=
  let check := do
    checkHandle config state handle
    assertAvailable state
    answered
    require (∀ entry ∈ userVariables (config.interpreter.IsUserName ·) state.space,
        ¬ CannotEncode 12 4096 entry.2)
      (.workspaceWorkerProtocolError "worker rejected command")
  let summary (entry : PyString × PyValue) : WorkspaceVariableSummary :=
    { name := entry.1, typeName := String.ofList (entry.2.typeName.toList.take 128),
      portable := (portableValue 12 4096 entry.2).isOk }
  whenChecked check state (.snapshot state.generation state.revision
    ((userVariables (config.interpreter.IsUserName ·) state.space).map summary), state)

/-- `interrupt`: terminate the worker of an operation that runs or is suspended. -/
def interrupt (handle : ProgrammableWorkspaceHandle) (operation : String)
    (state : WorkerState) : Reply × WorkerState :=
  whenChecked (checkHandle config state handle) state <|
    if some operation ∉ [state.runningOperation, state.suspendedOperation] ∨ state.exited then
      (.interrupted false, state)
    else (.interrupted true, { state with cancelRequested := true, exited := true })

/-- What the supervisor reads of a worker's answer to a checkpoint request. -/
def readCheckpoint (policy : WorkspaceCheckpointPolicy) (state : WorkerState) :
    Except WorkspaceError CheckpointScan :=
  match checkpoint config.interpreter policy state.space with
  | .error _ => .error (.workspaceWorkerProtocolError "worker rejected command")
  | .ok scan => do
    -- The worker ends when its answer names a variable that UTF-8 cannot encode.
    require ((∀ item ∈ scan.values, Encodable item.name) ∧
      ∀ item ∈ scan.exclusions, Encodable item.name)
      (.workspaceWorkerLost "worker output failed")
    require scan.Accepted (.validationError "checkpoint names must match the manifest pattern")
    return scan

/-- `checkpoint`: a manifest of the values the worker can carry. -/
def checkpointWorker (operation : String) (handle : ProgrammableWorkspaceHandle)
    (policy : WorkspaceCheckpointPolicy) (traceId : String)
    (answered : Except WorkspaceError Unit) (state : WorkerState) : Reply × WorkerState :=
  let check := do
    checkHandle config state handle
    assertAvailable state
    answered
  whenChecked check state <|
    match readCheckpoint config policy state with
    | .error error => (.raised error, state)
    | .ok scan => (.manifest {
        sourceHandle := handleOf config handle.workspace state
        creationOperation := operation, traceId := traceId
        values := scan.values, exclusions := scan.exclusions }, state)

/-- `health`: how the worker is, recording the loss of a process that has exited. -/
def health (handle : ProgrammableWorkspaceHandle) (state : WorkerState) : Reply × WorkerState :=
  let seen :=
    if state.exited ∧ state.closed = false then
      finishManaged { state with lost := true, lostReason := some "worker exited" }
    else state
  let status :=
    if seen.lost then .lost
    else if seen.closed then .closed
    else if seen.runningOperation ≠ none ∨ seen.suspendedOperation ≠ none then .busy
    else .ready
  whenChecked (checkHandle config state handle) state
    (.health status seen.generation seen.revision seen.runningOperation, seen)

/-- `close`: terminate the worker for good. -/
def close (handle : ProgrammableWorkspaceHandle) (reason : String)
    (answered : Except WorkspaceError Unit) (state : WorkerState) : Reply × WorkerState :=
  let check := do
    checkHandle config state handle
    require (state.runningOperation = none ∧ state.suspendedOperation = none)
      (.workspaceOperationConflict "cannot close while an operation is running")
    -- Only a worker that is still alive is asked to close, and its answer may be refused.
    if state.exited then return else answered
  whenChecked check state (.closed (handleOf config handle.workspace state) reason,
    finishManaged { state with exited := true, closed := true })

end Calls

section Restore

variable (config : Config)

/-- How the workers answered while a checkpoint was restored. -/
structure RestoreAnswers where
  spawned : Except WorkspaceError Unit := .ok ()
  restored : Except WorkspaceError Unit := .ok ()
  verified : Except WorkspaceError Unit := .ok ()

/-- `restored_state`: a new worker that holds the values of the checkpoint. -/
def restoredState (manifest : CheckpointManifest) (spec : WorkspaceRestoreSpec)
    (answers : RestoreAnswers) (generation : Nat) : Except WorkspaceError WorkerState := do
  answers.spawned
  answers.restored
  return {
    session := spec.session, generation := generation
    space := restore config.interpreter manifest.values [] }

/-- What a restore does to a workspace that has a worker. -/
inductive RestorePlan where
  | verify | retry | successor
  deriving DecidableEq

/-- The checks of a restore that names the handle it expects. -/
def expectedPredecessor (spec : WorkspaceRestoreSpec) (expected : ProgrammableWorkspaceHandle)
    (current : WorkerState) : Except WorkspaceError Unit :=
  if spec.recoverLostGeneration ∧ current.lost then do
    require (expected.backendCapabilityDigest = config.descriptor) (.workspaceRevisionConflict
      "workspace backend capability identity does not match this backend")
    require (current.generation = expected.generation) (.staleWorkspaceGeneration
      "lost workspace generation does not match the recovery predecessor")
    require (current.revision = expected.revision + 1) (.workspaceRevisionConflict
      "lost workspace revision does not follow the recovery predecessor")
  else checkHandle config current expected

/-- `restore`, checks: the workspace is where the request expects it to be. -/
def restorePlan (spec : WorkspaceRestoreSpec) (current : WorkerState) :
    Except WorkspaceError RestorePlan := do
  require (current.session = spec.session)
    (.workspaceSessionMismatch "workspace is bound to another session")
  let expected ← orRaise spec.expectedHandle (.staleWorkspaceGeneration
    "restoring an existing workspace requires an expected handle")
  if spec.recoverLostGeneration ∧ current.generation = expected.generation + 1 then do
    require (¬ (current.closed ∨ current.revision ≠ 0))
      (.workspaceOperationConflict "existing recovery generation cannot be reused")
    require (current.runningOperation = none) (.workspaceOperationConflict
      "cannot reconcile restore while an operation is running")
    return if ¬ current.exited ∧ ¬ current.lost then .verify else .retry
  else do
    expectedPredecessor config spec expected current
    require (current.runningOperation = none) (.workspaceOperationConflict
      "cannot restore while an operation is running")
    return .successor

/-- The live worker of a recovery generation still holds exactly the checkpoint. -/
def verifyRestored (manifest : CheckpointManifest) (answers : RestoreAnswers)
    (current : WorkerState) : Except WorkspaceError Unit := do
  answers.verified
  let scan ← readCheckpoint config verificationPolicy current
  require (scan.values = manifest.values ∧ scan.exclusions = []) (.workspaceOperationConflict
    "existing recovery generation does not match checkpoint")

/-- `install_replacement`: end the current worker, record the new one and bind it. -/
def installReplacement (workspace : String) (current : WorkerState)
    (state : Except WorkspaceError WorkerState) (b : Backend) : Reply × Backend :=
  match state with
  | .error error => (.raised error, b)
  | .ok state =>
    let ended := finishManaged { current with exited := true, closed := true }
    match registerManaged config ended.managed state with
    | .error error => (.raised error, b.put workspace ended)
    | .ok state => (.handle (handleOf config workspace state), b.put workspace state)

/-- `restore`: bring the values of a checkpoint back in a worker of their own. -/
def restoreWorkspace (manifest : CheckpointManifest) (spec : WorkspaceRestoreSpec)
    (answers : RestoreAnswers) (b : Backend) : Option (Reply × Backend) :=
  match b.states spec.workspace with
  | none =>
    if spec.expectedHandle.isSome ∧ ¬ spec.recoverLostGeneration then
      some (.raised (.workspaceNotFound spec.workspace), b)
    else
      let generation := (spec.expectedHandle.map (·.generation + 1)).getD 1
      match (restoredState config manifest spec answers generation).bind
          (registerManaged config .absent) with
      | .error error => some (.raised error, b)
      | .ok state =>
        some (.handle (handleOf config spec.workspace state), b.put spec.workspace state)
  | some current =>
    if current.holder ≠ none then none
    else
      match restorePlan config spec current with
      | .error error => some (.raised error, b)
      | .ok .verify =>
        match verifyRestored config manifest answers current with
        | .error error => some (.raised error, b)
        | .ok () => some (.handle (handleOf config spec.workspace current), b)
      | .ok .retry =>
        some (installReplacement config spec.workspace current
          (restoredState config manifest spec answers current.generation) b)
      | .ok .successor =>
        some (installReplacement config spec.workspace current
          (restoredState config manifest spec answers (current.generation + 1)) b)

end Restore

section Steps

variable (config : Config)

/-- One step of a backend: a call, the end of an execution, or the exit of a worker. -/
inductive Call where
  | create (workspace session : String) (started : Except WorkspaceError Unit)
  | attach (handle : ProgrammableWorkspaceHandle) (session : String)
  | executeStart (operation : String) (handle : ProgrammableWorkspaceHandle) (exits : Bool)
  | executeFinish (workspace : String) (answer : ExecuteAnswer)
  | sendRebindPrepare (operation : String) (handle : ProgrammableWorkspaceHandle)
      (written : Except WorkspaceError Unit)
  | resumeStart (operation : String) (handle : ProgrammableWorkspaceHandle)
  | resumeFinish (workspace : String) (answer : ResumeAnswer)
  | inspect (handle : ProgrammableWorkspaceHandle) (answered : Except WorkspaceError Unit)
  | interrupt (handle : ProgrammableWorkspaceHandle) (operation : String)
  | checkpoint (operation : String) (handle : ProgrammableWorkspaceHandle)
      (policy : WorkspaceCheckpointPolicy) (traceId : String)
      (answered : Except WorkspaceError Unit)
  | restore (manifest : CheckpointManifest) (spec : WorkspaceRestoreSpec)
      (answers : RestoreAnswers)
  | health (handle : ProgrammableWorkspaceHandle)
  | close (handle : ProgrammableWorkspaceHandle) (reason : String)
      (answered : Except WorkspaceError Unit)
  | exits (workspace : String)

/-- `execute`, first: an operation that has a result gets that result again. -/
def replayOrExecute (operation : String) (handle : ProgrammableWorkspaceHandle) (exits : Bool)
    (b : Backend) : Option (Reply × Backend) :=
  match b.receipts operation with
  | some prior =>
    if prior.workspace = handle.workspace ∧ prior.generation = handle.generation ∧
        prior.revisionBefore = handle.revision then
      some (.replayed prior, b)
    else some (.raised (.workspaceOperationConflict
      "operation already belongs to another workspace generation or revision"), b)
  | none => b.useLocked handle.workspace (executeStart config operation handle exits)

/-- Retain the result that an execution returned. -/
def Backend.retainReply (b : Backend) : Reply → Backend
  | .result result => b.retain result
  | _ => b

/-- The end of an execution, which releases the lock and retains a result. -/
def Backend.finish (b : Backend) (workspace : String) (resumes : Bool)
    (act : Hold → WorkerState → Reply × WorkerState) : Option (Reply × Backend) := do
  let state ← b.states workspace
  let hold ← state.holder
  guard (hold.resumes = resumes)
  let done := act hold state
  return (done.1, (b.put workspace done.2).retainReply done.1)

/-- What one step answers and leaves, when it does not have to wait for a lock. -/
def perform (call : Call) (b : Backend) : Option (Reply × Backend) :=
  match call with
  | .create workspace session started => some (create config workspace session started b)
  | .attach handle session => some (b.use handle.workspace (attach config handle session))
  | .executeStart operation handle exits => replayOrExecute config operation handle exits b
  | .executeFinish workspace answer =>
    b.finish workspace false fun hold => executeFinish config hold answer
  | .sendRebindPrepare operation handle written =>
    b.useLocked handle.workspace (sendRebindPrepare config operation handle written)
  | .resumeStart operation handle =>
    b.useLocked handle.workspace (resumeStart config operation handle)
  | .resumeFinish workspace answer =>
    b.finish workspace true fun hold => resumeFinish config hold answer
  | .inspect handle answered => b.useLocked handle.workspace (inspect config handle answered)
  | .interrupt handle operation =>
    some (b.use handle.workspace (interrupt config handle operation))
  | .checkpoint operation handle policy traceId answered =>
    b.useLocked handle.workspace
      (checkpointWorker config operation handle policy traceId answered)
  | .restore manifest spec answers => restoreWorkspace config manifest spec answers b
  | .health handle => some (b.use handle.workspace (health config handle))
  | .close handle reason answered =>
    b.useLocked handle.workspace (close config handle reason answered)
  | .exits workspace =>
    some (b.use workspace fun state => (.exited, { state with exited := true }))

end Steps

end Aar.Workspace
