import Aar.Lib.Interaction
import Aar.Workspace.Events

/-! The plain backend: programs run in the process of the backend, on one dictionary each. -/

namespace Aar.Workspace.Plain

open Guarded Interactions

section Programs

/-- The two outputs of a program. -/
inductive OutputStream where
  | stdout | stderr
  deriving DecidableEq

/-- The kind of event that an output adds. -/
def OutputStream.kind : OutputStream → WorkspaceEventKind
  | .stdout => .stdout
  | .stderr => .stderr

/-- What a program hands over as the content of an artifact. -/
inductive ArtifactContent where
  | text (content : PyString)
  | bytes
  | unconvertible

/-- What a program does that its backend notices. -/
inductive Ask where
  | compute (change : Variables → Variables)
  | write (stream : OutputStream) (text : PyString)
  | flush (stream : OutputStream)
  | display (value mediaType : PyValue)
  | progress (message : Option PyString) (completed total : PyValue)
  | artifact (name : Option PyString) (content : ArtifactContent) (reference : Option String)

/-- What a program sees of it: its namespace, and the exception it may have to handle. -/
structure Answer where
  space : Variables
  raised : Option HelperError

/-- What the trace function raises in the frame it is called for. -/
inductive Alarm where
  | executionInterrupted | executionTimedOut
  deriving DecidableEq

/-- An exception that ends a program, as far as it can be described. -/
structure RaisedException where
  typeName : String
  message : Option PyString
  traceback : Option PyString
  alarm : Option Alarm := none

/-- The way a program ends. -/
inductive ProgramOutcome where
  | completed
  | value (value : PyValue)
  | alarmed (alarm : Alarm)
  | raised (exception : RaisedException)

/-- A program, whatever it computes: it ends, or does something noticed and goes on. -/
abbrev Program := Interaction Ask Answer ProgramOutcome

/-- What an execution has at hand while its program runs. -/
structure Run where
  space : Variables
  collector : EventCollector
  stdout : PyString := []
  stderr : PyString := []

/-- The text that an output still buffers. -/
def Run.buffer (run : Run) : OutputStream → PyString
  | .stdout => run.stdout
  | .stderr => run.stderr

/-- Replace what an output buffers. -/
def Run.setBuffer (run : Run) (text : PyString) : OutputStream → Run
  | .stdout => { run with stdout := text }
  | .stderr => { run with stderr := text }

/-- `_StreamWriter.write`: every finished line goes to the collector, and the rest is kept. -/
def writeLines (stream : OutputStream) :
    PyString → PyString → EventCollector → Except HelperError Unit × PyString × EventCollector
  | line, [], collector => (.ok (), line, collector)
  | line, code :: rest, collector =>
    if code = 0x0a then
      match collector.stream stream.kind (line ++ [code]) with
      | (.ok (), collector) => writeLines stream [] rest collector
      | (.error error, collector) => (.error error, rest, collector)
    else writeLines stream (line ++ [code]) rest collector

/-- `_StreamWriter.flush`: a line that was not finished goes to the collector too. -/
def Run.flush (run : Run) (stream : OutputStream) : Except HelperError Unit × Run :=
  match run.collector.stream stream.kind (run.buffer stream) with
  | (.ok (), collector) => (.ok (), { run with collector := collector }.setBuffer [] stream)
  | (.error error, collector) => (.error error, { run with collector := collector })

mutual

/-- The document of a value, when it has one. -/
def toJson : PyValue → Option JsonValue
  | .none => some .null
  | .bool value => some (.bool value)
  | .int value => some (.int value)
  | .str value => some (.str value)
  | .list items => (itemsToJson items).map .array
  | .dict entries => (entriesToJson entries).map .object
  | .mixedKeys | .cyclic _ | .float | .object _ => none

/-- The documents of a list's items. -/
def itemsToJson : List PyValue → Option (List JsonValue)
  | [] => some []
  | item :: rest => do
    let first ← toJson item
    let others ← itemsToJson rest
    return first :: others

/-- The documents of a dictionary's entries. -/
def entriesToJson : List (PyString × PyValue) → Option (List (PyString × JsonValue))
  | [] => some []
  | (key, item) :: rest => do
    let first ← toJson item
    let others ← entriesToJson rest
    return (key, first) :: others

end

/-- An argument of `aar_progress`, which is left out of the event when it is `None`. -/
def optionalEntry (name : String) : PyValue → Option (List (String × JsonValue))
  | .none => some []
  | value => (toJson value).map fun document => [(name, document)]

/-- Add data to the events of a run. -/
def Run.structured (run : Run) (kind : WorkspaceEventKind) (data : Option JsonValue) :
    Except HelperError Unit × Run :=
  let added := run.collector.structured kind data
  (added.1, { run with collector := added.2 })

/-- `display`: show a portable value. -/
def Run.display (run : Run) (value mediaType : PyValue) : Except HelperError Unit × Run :=
  match portableValue 12 4096 value with
  | .error (.portableValueError reason) => (.error (.portableValueError reason), run)
  | .error _ => (.error .unicodeEncodeError, run)
  | .ok portable => run.structured .display ((toJson mediaType).map fun mediaType =>
      jsonObject [("media_type", mediaType), ("value", portable)])

/-- `progress`: report how far the program is. -/
def Run.progress (run : Run) (message : Option PyString) (completed total : PyValue) :
    Except HelperError Unit × Run :=
  match message with
  | none => (.error .textError, run)
  | some message =>
    let data := do
      let completed ← optionalEntry "completed" completed
      let total ← optionalEntry "total" total
      return jsonObject (completed ++ [("message", .str message)] ++ total)
    run.structured .progress data

/-- `artifact`: hand content to the sink, and say so. -/
def Run.artifact (hasSink : Bool) (run : Run) (name : Option PyString)
    (content : ArtifactContent) (reference : Option String) : Except HelperError Unit × Run :=
  let payload : Except HelperError Unit := do
    require (hasSink = true) .workspaceArtifactUnavailable
    match content with
    | .text content => require (Encodable content) .unicodeEncodeError
    | .bytes => return
    | .unconvertible => .error .typeError
  match payload, reference with
  | .error error, _ => (.error error, run)
  | .ok (), none => (.error .artifactSinkError, run)
  | .ok (), some reference =>
    match run.collector.append (some { kind := .artifact, artifact := some reference }) with
    | (.error error, collector) => (.error error, { run with collector := collector })
    | (.ok (), collector) =>
      match name with
      | none => (.error .textError, { run with collector := collector })
      | some name => { run with collector := collector }.structured .progress
          (some (jsonObject [("artifact_name", .str name)]))

/-- What becomes of a run when its program does something. -/
def Run.perform (hasSink : Bool) (run : Run) : Ask → Except HelperError Unit × Run
  | .compute change => (.ok (), { run with space := change run.space })
  | .write stream text =>
    let written := writeLines stream [] (run.buffer stream ++ text) run.collector
    (written.1, { run with collector := written.2.2 }.setBuffer written.2.1 stream)
  | .flush stream => run.flush stream
  | .display value mediaType => run.display value mediaType
  | .progress message completed total => run.progress message completed total
  | .artifact name content reference => run.artifact hasSink name content reference

/-- The answer to a program, and the run it continues in. -/
def respond (hasSink : Bool) (run : Run) (question : Ask) : Answer × Run :=
  let performed := run.perform hasSink question
  let raised :=
    match performed.1 with
    | .ok () => none
    | .error error => some error
  ({ space := performed.2.space, raised := raised }, performed.2)

end Programs

section Execution

/-- What leaves an execution after its program ran, when no result does. -/
inductive Escape where
  | alarm (alarm : Alarm)
  | exceptionText
  | helper (error : HelperError)
  | unicodeEncodeError
  | invalidResult
  deriving DecidableEq

/-- The data of the event for a program that its trace function stopped. -/
def alarmData : Alarm → JsonValue
  | .executionInterrupted => jsonObject
      [("message", jsonText "host cancellation requested"),
        ("type", jsonText "WorkspaceInterrupted")]
  | .executionTimedOut => jsonObject
      [("message", jsonText "workspace wall-time limit expired"),
        ("type", jsonText "WorkspaceTimedOut")]

/-- The data of the event for an exception, its texts cut to their lengths. -/
def exceptionData (typeName : String) (message traceback : PyString) : JsonValue :=
  jsonObject [("message", .str (message.take 2048)),
    ("traceback", .str (traceback.drop (traceback.length - 8192))), ("type", jsonText typeName)]

/-- What a helper raises outside the program. -/
def escaping {α : Type} : Except HelperError α → Except Escape α
  | .ok answer => .ok answer
  | .error error => .error (.helper error)

/-- The `except` clauses: an exception of the program becomes an event. -/
def ProgramOutcome.report (outcome : ProgramOutcome) (run : Run) : Except Escape Unit × Run :=
  match outcome with
  | .completed | .value _ => (.ok (), run)
  | .alarmed alarm =>
    let added := run.structured .exception (some (alarmData alarm))
    (escaping added.1, added.2)
  | .raised { typeName, message := some message, traceback := some traceback, alarm := none } =>
    let added := run.structured .exception (some (exceptionData typeName message traceback))
    (escaping added.1, added.2)
  -- The trace function still watches the handler, and the texts are the exception's own to make.
  | .raised { alarm := some alarm, .. } => (.error (.alarm alarm), run)
  | .raised _ => (.error .exceptionText, run)

/-- Bind each of these names as it was bound before. -/
def rebind (previous : PyString → Option PyValue) (names : List PyString) (space : Variables) :
    Variables :=
  names.foldl (fun space name =>
    match previous name with
    | none => space.pop name
    | some value => space.set name value) space

/-- The `finally` clause: flush both outputs, then restore the reserved names. -/
def Run.cleanup (previous : PyString → Option PyValue) (run : Run) : Except Escape Unit × Run :=
  match run.flush .stdout with
  | (.error error, run) => (.error (.helper error), run)
  | (.ok (), run) =>
    match run.flush .stderr with
    | (.error error, run) => (.error (.helper error), run)
    | (.ok (), run) => (.ok (), { run with space := rebind previous reservedNames run.space })

/-- The status of a program that ended so. -/
def ProgramOutcome.status : ProgramOutcome → WorkspaceExecutionStatus
  | .completed | .value _ => .succeeded
  | .alarmed .executionInterrupted => .interrupted
  | .alarmed .executionTimedOut => .timedOut
  | .raised _ => .failed

/-- The portable result of a program, or why its value is left out. -/
def ProgramOutcome.present : ProgramOutcome → Except Escape (Option JsonValue × Option String)
  | .value .none | .completed | .alarmed _ | .raised _ => .ok (none, none)
  | .value last =>
    match portableValue 12 4096 last with
    | .ok portable =>
      if canonicalLength portable ≤ 65536 then .ok (some portable, none)
      else .ok (none, some "portable result exceeds 65536 bytes")
    | .error (.portableValueError reason) => .ok (none, some reason)
    -- Only the errors of the conversion itself are caught.
    | .error _ => .error .unicodeEncodeError

/-- The limits of the events of one program, within the ranges the request model accepts. -/
structure WorkspaceProgramSpec where
  maxOutputChars : Nat := 16384
  maxEvents : Nat := 64
  maxOutputChars_range : 1 ≤ maxOutputChars ∧ maxOutputChars ≤ 262144 := by decide
  maxEvents_range : 1 ≤ maxEvents ∧ maxEvents ≤ 512 := by decide

/-- The largest revision that the models can count to. -/
def maxRevision : Nat := 9223372036854775807

/-- The result of one program, as its model accepts it. -/
structure ProgramResult where
  operation : String
  workspace : String
  backend : Digest
  generation : Nat
  revisionBefore : Nat
  revisionAfter : Nat
  status : WorkspaceExecutionStatus
  workspaceLost : Bool := false
  result : Option JsonValue
  resultExcludedReason : Option String
  events : List WorkspaceEvent
  advances : revisionAfter = revisionBefore + 1
  counted : revisionAfter ≤ maxRevision
  small : ∀ value ∈ result, canonicalLength value ≤ 65536
  single : result = none ∨ resultExcludedReason = none
  sequenced : events.map WorkspaceEvent.sequence = List.range' 1 events.length

/-- `_WorkspaceState`: one workspace and the namespace of its programs. -/
structure WorkspaceState where
  session : String
  generation : Nat
  revision : Nat := 0
  space : Variables := .empty
  closed : Bool := false

/-- What stays fixed while a backend runs. -/
structure PlainConfig where
  descriptor : Digest
  hasSink : Bool := false

variable (config : PlainConfig)

/-- The result of a program that ran on a workspace, if its model accepts it. -/
def issueResult (operation : String) (handle : ProgrammableWorkspaceHandle)
    (state : WorkspaceState) (status : WorkspaceExecutionStatus)
    (presented : Option JsonValue × Option String) (events : List WorkspaceEvent) :
    Except Escape ProgramResult :=
  if valid : state.revision + 1 ≤ maxRevision ∧
      (∀ value ∈ presented.1, canonicalLength value ≤ 65536) ∧
      (presented.1 = none ∨ presented.2 = none) ∧
      events.map WorkspaceEvent.sequence = List.range' 1 events.length then
    .ok {
      operation := operation
      workspace := handle.workspace
      backend := config.descriptor
      generation := state.generation
      revisionBefore := state.revision
      revisionAfter := state.revision + 1
      status := status
      result := presented.1
      resultExcludedReason := presented.2
      events := events
      advances := rfl
      counted := valid.1
      small := valid.2.1
      single := valid.2.2.1
      sequenced := valid.2.2.2 }
  else .error .invalidResult

/-- The functions that a program finds in its namespace. -/
def bindHelpers (space : Variables) : Variables :=
  reservedNames.foldl (fun space name => space.set name (.object "function")) space

/-- What a program finds when it starts. -/
def startedRun (spec : WorkspaceProgramSpec) (space : Variables) : Run where
  space := bindHelpers space
  collector := (EventCollector.structured
    { maxEvents := spec.maxEvents, remainingOutputChars := spec.maxOutputChars } .progress
      (some (jsonObject [("phase", jsonText "started")]))).2

/-- `_execute_with_last_expression`: run a program, and bind its value when it has one. -/
def executeProgram (spec : WorkspaceProgramSpec) (program : Program) (space : Variables) :
    ProgramOutcome × Run :=
  match program.run (respond config.hasSink) (startedRun spec space) with
  | (.value value, run) =>
    (.value value, { run with space := run.space.set (pyString "_") value })
  | (outcome, run) => (outcome, run)

/-- `_execute_locked`: run a program and make its result, leaving some namespace in any case. -/
def executeLocked (operation : String) (handle : ProgrammableWorkspaceHandle)
    (spec : WorkspaceProgramSpec) (program : Program) (state : WorkspaceState) :
    Except Escape ProgramResult × Variables :=
  let ended := executeProgram config spec program state.space
  let reported := ended.1.report ended.2
  let cleaned := reported.2.cleanup state.space.find
  let concluded : Except Escape ProgramResult := do
    -- What the last clause raises replaces what the clauses before it raised.
    cleaned.1
    reported.1
    let presented ← ended.1.present
    let events ← escaping (cleaned.2.collector.finish ended.1.status)
    issueResult config operation handle state ended.1.status presented events
  (concluded, cleaned.2.space)

end Execution

section Calls

variable (config : PlainConfig)

/-- The workspaces of a backend, the operations that run, and the results it retains. -/
structure PlainBackend where
  states : String → Option WorkspaceState
  running : List (String × String)
  receipts : String → Option ProgramResult

/-- A backend that has not created a workspace. -/
def PlainBackend.empty : PlainBackend where
  states := fun _ => none
  running := []
  receipts := fun _ => none

/-- Bind a workspace to a state. -/
def PlainBackend.put (b : PlainBackend) (workspace : String) (state : WorkspaceState) :
    PlainBackend :=
  { b with states := Function.update b.states workspace (some state) }

/-- What a call raises. -/
inductive Failure where
  | workspace (error : WorkspaceError)
  | rejected (error : PortabilityError)
  | escaped (escape : Escape)
  deriving DecidableEq

/-- `_handle`: the handle on a workspace as it is now. -/
def handleOf (workspace : String) (state : WorkspaceState) : ProgrammableWorkspaceHandle where
  workspace := workspace
  generation := state.generation
  revision := state.revision
  backendCapabilityDigest := config.descriptor

/-- `_check_handle`: the handle is of this backend and names the workspace as it is now. -/
def checkHandle (state : WorkspaceState) (handle : ProgrammableWorkspaceHandle) :
    Except WorkspaceError Unit := do
  require (handle.backendCapabilityDigest = config.descriptor) (.workspaceRevisionConflict
    "workspace backend capability identity does not match this backend")
  require (state.generation = handle.generation) (.staleWorkspaceGeneration
    ("workspace generation is " ++ toString state.generation ++ ", not " ++
      toString handle.generation))
  require (state.revision = handle.revision) (.workspaceRevisionConflict
    ("workspace revision is " ++ toString state.revision ++ ", not " ++
      toString handle.revision))

/-- The checks of an execution on its workspace. -/
def executable (state : WorkspaceState) (handle : ProgrammableWorkspaceHandle) :
    Except WorkspaceError Unit := do
  checkHandle config state handle
  require (state.closed = false) (.workspaceClosed "workspace is closed")

/-- What an execution answers and leaves, and whether its program ran. -/
structure Execution where
  answer : Except Failure ProgramResult
  backend : PlainBackend
  ran : Bool := false

/-- `execute`, once the operation is known to be new: run the program on its workspace. -/
def executeOn (operation : String) (handle : ProgrammableWorkspaceHandle)
    (spec : WorkspaceProgramSpec) (program : Program) (state : WorkspaceState)
    (b : PlainBackend) : Execution :=
  match executeLocked config operation handle spec program state with
  | (.ok result, space) => {
      answer := .ok result
      backend := { b.put handle.workspace
          { state with revision := result.revisionAfter, space := space } with
        receipts := Function.update b.receipts operation (some result) }
      ran := true }
  | (.error escape, space) => {
      answer := .error (.escaped escape)
      backend := b.put handle.workspace { state with space := space }
      ran := true }

/-- `execute`: the result an operation has, or the result of running its program now. -/
def execute (operation : String) (handle : ProgrammableWorkspaceHandle)
    (spec : WorkspaceProgramSpec) (program : Program) (b : PlainBackend) : Execution :=
  match b.receipts operation with
  | some prior =>
    if prior.workspace = handle.workspace ∧ prior.generation = handle.generation ∧
        prior.revisionBefore = handle.revision then
      { answer := .ok prior, backend := b }
    else {
      answer := .error (.workspace (.workspaceOperationConflict
        "operation already belongs to another workspace generation or revision"))
      backend := b }
  | none =>
    if operation ∈ b.running.map Prod.fst then {
      answer := .error (.workspace (.workspaceOperationConflict "operation is already running"))
      backend := b }
    else
      match b.states handle.workspace with
      | none => {
          -- The workspace is looked up outside the clause that forgets the operation.
          answer := .error (.workspace (.workspaceNotFound handle.workspace))
          backend := { b with running := b.running ++ [(operation, handle.workspace)] } }
      | some state =>
        match executable config state handle with
        | .error error => { answer := .error (.workspace error), backend := b }
        | .ok () => executeOn config operation handle spec program state b

/-- `create`: make a workspace, or return the handle on the one that is there. -/
def create (workspace session : String) (b : PlainBackend) :
    Except Failure ProgrammableWorkspaceHandle × PlainBackend :=
  match b.states workspace with
  | none =>
    let state : WorkspaceState := { session := session, generation := 1 }
    (.ok (handleOf config workspace state), b.put workspace state)
  | some state =>
    if state.session ≠ session then
      (.error (.workspace (.workspaceSessionMismatch "workspace is bound to another session")), b)
    else if state.closed then
      (.error (.workspace (.workspaceClosed
        "workspace is closed; restore a checkpoint into a new generation")), b)
    else (.ok (handleOf config workspace state), b)

/-- The checks of a restore into a workspace that exists: whether its generation is reused. -/
def restorePlan (spec : WorkspaceRestoreSpec) (current : WorkspaceState) (same : Bool) :
    Except WorkspaceError Bool := do
  require (current.session = spec.session)
    (.workspaceSessionMismatch "workspace is bound to another session")
  let expected ← orRaise spec.expectedHandle (.staleWorkspaceGeneration
    "restoring an existing workspace requires an expected handle")
  if spec.recoverLostGeneration ∧ current.generation = expected.generation + 1 then do
    -- Whether the two namespaces compare equal is up to the values in them.
    require (¬ (current.closed ∨ current.revision ≠ 0 ∨ same = false))
      (.workspaceOperationConflict "existing recovery generation does not match checkpoint")
    return true
  else do
    checkHandle config current expected
    return false

/-- `restore`: a new generation of a workspace, with the values of a manifest. -/
def restoreWorkspace (manifest : CheckpointScan) (spec : WorkspaceRestoreSpec) (same : Bool)
    (b : PlainBackend) : Except Failure ProgrammableWorkspaceHandle × PlainBackend :=
  match restore manifest with
  | .error error => (.error (.rejected error), b)
  | .ok space =>
    if spec.workspace ∈ b.running.map Prod.snd then
      (.error (.workspace
        (.workspaceOperationConflict "cannot restore while an operation is running")), b)
    else
      match b.states spec.workspace with
      | none =>
        if spec.expectedHandle.isSome ∧ ¬ spec.recoverLostGeneration then
          (.error (.workspace (.workspaceNotFound spec.workspace)), b)
        else
          let state : WorkspaceState := {
            session := spec.session
            generation := (spec.expectedHandle.map (·.generation + 1)).getD 1
            space := space }
          (.ok (handleOf config spec.workspace state), b.put spec.workspace state)
      | some current =>
        match restorePlan config spec current same with
        | .error error => (.error (.workspace error), b)
        | .ok true => (.ok (handleOf config spec.workspace current), b)
        | .ok false =>
          let state : WorkspaceState := {
            session := spec.session, generation := current.generation + 1, space := space }
          (.ok (handleOf config spec.workspace state), b.put spec.workspace state)

/-- `retire_lost_receipt`: forget the result of an operation whose workspace was lost. -/
def retireLostReceipt (operation : String) (handle : ProgrammableWorkspaceHandle)
    (b : PlainBackend) : Except Failure Unit × PlainBackend :=
  match b.receipts operation with
  | none => (.ok (), b)
  | some result =>
    if result.workspace ≠ handle.workspace ∨ result.generation ≠ handle.generation ∨
        result.revisionBefore ≠ handle.revision then
      (.error (.workspace (.workspaceOperationConflict
        "lost receipt does not match the predecessor workspace boundary")), b)
    else if result.workspaceLost = false then
      (.error (.workspace
        (.workspaceOperationConflict "only a lost workspace receipt may be retired")), b)
    else (.ok (), { b with receipts := Function.update b.receipts operation none })

/-- `close`: no program runs on the workspace again. -/
def close (handle : ProgrammableWorkspaceHandle) (b : PlainBackend) :
    Except Failure ProgrammableWorkspaceHandle × PlainBackend :=
  match b.states handle.workspace with
  | none => (.error (.workspace (.workspaceNotFound handle.workspace)), b)
  | some state =>
    match checkHandle config state handle with
    | .error error => (.error (.workspace error), b)
    | .ok () =>
      if handle.workspace ∈ b.running.map Prod.snd then
        (.error (.workspace
          (.workspaceOperationConflict "cannot close while an operation is running")), b)
      else (.ok (handleOf config handle.workspace state),
        b.put handle.workspace { state with closed := true })

/-- `shutdown`: close every workspace. -/
def shutdown (b : PlainBackend) : PlainBackend :=
  { b with states := fun workspace => (b.states workspace).map fun state =>
      { state with closed := true } }

/-- A call that may change a backend. -/
inductive PlainCall where
  | create (workspace session : String)
  | execute (operation : String) (handle : ProgrammableWorkspaceHandle)
      (spec : WorkspaceProgramSpec) (program : Program)
  | restore (manifest : CheckpointScan) (spec : WorkspaceRestoreSpec) (same : Bool)
  | retireLostReceipt (operation : String) (handle : ProgrammableWorkspaceHandle)
  | close (handle : ProgrammableWorkspaceHandle)
  | shutdown

/-- What a call leaves. -/
def PlainCall.perform (call : PlainCall) (b : PlainBackend) : PlainBackend :=
  match call with
  | .create workspace session => (Plain.create config workspace session b).2
  | .execute operation handle spec program =>
    (Plain.execute config operation handle spec program b).backend
  | .restore manifest spec same => (restoreWorkspace config manifest spec same b).2
  | .retireLostReceipt operation handle => (Plain.retireLostReceipt operation handle b).2
  | .close handle => (Plain.close config handle b).2
  | .shutdown => Plain.shutdown b

end Calls

end Aar.Workspace.Plain
