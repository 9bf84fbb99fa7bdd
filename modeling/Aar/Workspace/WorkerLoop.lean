import Aar.Workspace.PlainBackend

/-! The loop of an IPython worker: one line in, one line out. -/

namespace Aar.Workspace.Worker

open Guarded Interactions

section Wire

/-- A document as `json.dumps` finds it, with what it may fail on or write beyond JSON. -/
inductive WireValue where
  | null
  | bool (value : Bool)
  | int (value : Int)
  | float (finite : Bool)
  | str (value : PyString)
  | unserializable
  | array (items : List WireValue)
  | object (entries : List (PyString × WireValue))

mutual

/-- A document can be written as UTF-8, and when asked for strictly, it is JSON. -/
def WireValue.writes (strict : Bool) : WireValue → Bool
  | .null | .bool _ | .int _ => true
  -- `NaN` and the infinities are written, but they are not JSON.
  | .float finite => finite || !strict
  | .str value => Encodable value
  | .unserializable => false
  | .array items => itemsWrite strict items
  | .object entries => entriesWrite strict entries

/-- The items of an array can be written. -/
def WireValue.itemsWrite (strict : Bool) : List WireValue → Bool
  | [] => true
  | item :: rest => item.writes strict && itemsWrite strict rest

/-- The entries of an object can be written. -/
def WireValue.entriesWrite (strict : Bool) : List (PyString × WireValue) → Bool
  | [] => true
  | (key, item) :: rest =>
    decide (Encodable key) && item.writes strict && entriesWrite strict rest

end

mutual

/-- A JSON value as a document. -/
def toWire : JsonValue → WireValue
  | .null => .null
  | .bool value => .bool value
  | .int value => .int value
  | .str value => .str value
  | .array items => .array (itemsToWire items)
  | .object entries => .object (entriesToWire entries)

/-- The items of an array as documents. -/
def itemsToWire : List JsonValue → List WireValue
  | [] => []
  | item :: rest => toWire item :: itemsToWire rest

/-- The entries of an object as documents. -/
def entriesToWire : List (PyString × JsonValue) → List (PyString × WireValue)
  | [] => []
  | (key, item) :: rest => (key, toWire item) :: entriesToWire rest

end

/-- A document with text keys. -/
def wireObject (entries : List (String × WireValue)) : WireValue :=
  .object (entries.map fun entry => (pyString entry.1, entry.2))

/-- A text as a document. -/
def wireText (text : String) : WireValue :=
  .str (pyString text)

/-- What `_read_response` accepts: a line of JSON that holds an object. -/
def Accepted (line : WireValue) : Prop :=
  line.writes true = true ∧ ∃ entries, line = .object entries

end Wire

section Events

/-- One event of a program, as its response will list it. -/
inductive WorkerEvent where
  | data (kind : WorkspaceEventKind) (data : List (String × WireValue))
      (truncated : Option Bool := none)
  | text (kind : WorkspaceEventKind) (text : PyString) (truncated : Bool)
  | artifact (index : Nat)

/-- The word for a kind of event. -/
def kindText : WorkspaceEventKind → String
  | .stdout => "stdout"
  | .stderr => "stderr"
  | .display => "display"
  | .exception => "exception"
  | .progress => "progress"
  | .artifact => "artifact"

/-- An event as a document. -/
def WorkerEvent.toWire : WorkerEvent → WireValue
  | .data kind entries truncated => wireObject
      ([("kind", wireText (kindText kind)), ("data", wireObject entries)] ++
        (truncated.map fun flag => ("truncated", .bool flag)).toList)
  | .text kind shown truncated => wireObject
      [("kind", wireText (kindText kind)), ("text", .str shown), ("truncated", .bool truncated)]
  | .artifact index => wireObject
      [("kind", wireText "artifact"), ("artifact_index", .int index)]

/-- An artifact that a program handed over, without its content, which is written in ASCII. -/
structure WorkerArtifact where
  name : PyString
  mediaType : PyString

/-- An artifact as a document. -/
def WorkerArtifact.toWire (artifact : WorkerArtifact) : WireValue :=
  wireObject [("name", .str artifact.name), ("media_type", .str artifact.mediaType)]

/-- `_BoundedStream`: what is kept of an output. -/
structure BoundedStream where
  text : PyString := []
  truncated : Bool := false

/-- What a worker has at hand while its program runs. -/
structure WorkerRun where
  space : Variables
  maxEvents : Nat
  remaining : Nat
  events : List WorkerEvent := []
  dropped : Bool := false
  stdout : BoundedStream := {}
  stderr : BoundedStream := {}
  artifacts : List WorkerArtifact := []
  frames : List WireValue := []

/-- `add`: list an event, unless there is no place for it that it may take. -/
def WorkerRun.add (run : WorkerRun) (event : WorkerEvent) (force : Bool := false) : WorkerRun :=
  if run.maxEvents ≤ run.events.length + 1 then
    if force then { run with dropped := true, events := run.events.dropLast ++ [event] }
    else { run with dropped := true }
  else { run with events := run.events ++ [event] }

/-- `_BoundedStream.write`: keep what the limits of the execution and the event allow. -/
def BoundedStream.write (stream : BoundedStream) (remaining : Nat) (text : PyString) :
    BoundedStream × Nat :=
  let allowed := min (min text.length remaining) (8192 - stream.text.length)
  ({ text := stream.text ++ text.take allowed
     truncated := stream.truncated || decide (allowed < text.length) }, remaining - allowed)

end Events

section Programs

/-- How the supervisor answers a request of a program for the broker. -/
inductive BrokerReply where
  | prepare (next : BrokerReply)
  | response
  | resumed (acknowledgement : JsonValue)
  | failed

/-- What a program hands over as the content of an artifact. -/
inductive ArtifactContent where
  | text (content : PyString)
  | bytes (size : Nat)
  | unconvertible

/-- What a program does that its worker notices; arguments are as they are when written. -/
inductive Ask where
  | compute (change : Variables → Variables)
  | write (stream : Plain.OutputStream) (text : PyString)
  | progress (message : Option PyString) (completed total : WireValue)
  | display (value : PyValue) (mediaType : WireValue)
  | publish (data : Option (List (PyString × PyValue)))
  | artifact (name mediaType : Option PyString) (content : ArtifactContent)
  | broker (value : PyValue) (reply : BrokerReply)

/-- What a program sees of it: its namespace, and the exception it may have to handle. -/
structure Answer where
  space : Variables
  raised : Option HelperError

/-- An exception that reaches the loop, with the text it makes of itself, if it makes one. -/
structure RaisedException where
  typeName : String
  message : Option PyString

/-- An exception of a program, with the text it makes of itself or the exception it raises. -/
structure ProgramException where
  typeName : String
  message : Except RaisedException PyString

/-- The way a program ends: as `run_cell` reports it, or with an exception of `run_cell`. -/
inductive Outcome where
  | finished (value : PyValue)
  | failed (exception : ProgramException)
  | escaped (exception : ProgramException)

/-- A program, whatever it computes: it ends, or does something noticed and goes on. -/
abbrev Program := Interaction Ask Answer Outcome

/-- What a request to run a program allows it. -/
structure ExecuteRequest where
  maxEvents : Nat := 64
  maxOutputChars : Nat := 16384
  artifactEnabled : Bool := true
  brokerEnabled : Bool := true
  maxEvents_range : 1 ≤ maxEvents ∧ maxEvents ≤ 512 := by decide

variable (request : ExecuteRequest)

/-- The document that stands for a payload which is not shown. -/
def payloadExcluded (value : PyValue) : JsonValue :=
  jsonObject [("text/plain", jsonText ("<" ++ value.typeName ++ " display payload excluded>"))]

/-- `_bounded_display_data`: what is shown of a value. -/
def boundedDisplayData (value : PyValue) : Except HelperError JsonValue :=
  match portableValue 12 4096 value with
  | .ok portable =>
    if canonicalLength portable ≤ 8192 then .ok portable else .ok (payloadExcluded value)
  | .error (.portableValueError _) => .ok (payloadExcluded value)
  | .error _ => .error .unicodeEncodeError

/-- An argument of `aar_progress`, which is left out of the event when it is `None`. -/
def optionalEntry (name : String) : WireValue → List (String × WireValue)
  | .null => []
  | value => [(name, value)]

/-- `progress`: report how far the program is. -/
def WorkerRun.progress (run : WorkerRun) (message : Option PyString)
    (completed total : WireValue) : Except HelperError Unit × WorkerRun :=
  match message with
  | none => (.error .textError, run)
  | some message => (.ok (), run.add (.data .progress
      ([("message", .str message)] ++ optionalEntry "completed" completed ++
        optionalEntry "total" total)))

/-- `display`: show a value, or say that it cannot be shown. -/
def WorkerRun.display (run : WorkerRun) (value : PyValue) (mediaType : WireValue) : WorkerRun :=
  match boundedDisplayData value with
  | .ok portable =>
    run.add (.data .display [("media_type", mediaType), ("value", toWire portable)])
  | .error _ => run.add (.data .display
      [("media_type", wireText "text/plain"), ("value", wireText "<display payload excluded>")])

/-- `publish`: show what the interpreter displays. -/
def WorkerRun.publish (run : WorkerRun) (data : Option (List (PyString × PyValue))) :
    Except HelperError Unit × WorkerRun :=
  match data with
  | none => (.error .typeError, run)
  | some entries =>
    match boundedDisplayData (.dict entries) with
    | .ok portable => (.ok (), run.add (.data .display [("mime_bundle", toWire portable)]))
    | .error error => (.error error, run)

/-- The bytes of an artifact's content. -/
def contentSize : ArtifactContent → Except HelperError Nat
  | .text content => do
    require (Encodable content) .unicodeEncodeError
    return (content.map utf8Length).sum
  | .bytes size => .ok size
  | .unconvertible => .error .typeError

/-- The checks of an artifact before it is listed. -/
def artifactChecks (run : WorkerRun) (content : ArtifactContent) : Except HelperError Unit := do
  require (request.artifactEnabled = true) (.runtimeError "no host artifact sink is configured")
  let size ← contentSize content
  require (size ≤ 1048576) (.runtimeError "artifact payload exceeds 1048576 bytes")
  require (run.artifacts.length + 2 < run.maxEvents) (.runtimeError "artifact event limit exceeded")

/-- `artifact`: hand content over with the response. -/
def WorkerRun.artifact (run : WorkerRun) (name mediaType : Option PyString)
    (content : ArtifactContent) : Except HelperError Unit × WorkerRun :=
  match artifactChecks request run content, name, mediaType with
  | .error error, _, _ => (.error error, run)
  | .ok (), some name, some mediaType =>
    let listed : WorkerRun := { run with
      artifacts := run.artifacts ++ [{ name := name, mediaType := mediaType }] }
    (.ok (), listed.add (.artifact run.artifacts.length))
  | .ok (), _, _ => (.error .textError, run)

/-- The progress event of a broker call. -/
def phaseEvent (phase : String) : WorkerEvent :=
  .data .progress [("phase", wireText phase)]

/-- `broker` while it reads its reply: each prepare of the supervisor is an event. -/
def WorkerRun.answered (run : WorkerRun) (prepared : Bool) :
    BrokerReply → Except HelperError Unit × WorkerRun
  | .prepare next => (run.add (phaseEvent "rebind_prepared")).answered true next
  | .failed => (.error (.runtimeError "host broker failed"), run)
  | .response => (.ok (), run.add (phaseEvent "broker_resumed"))
  | .resumed acknowledgement =>
    if prepared = false then
      (.error (.runtimeError "host rebind commit has no prepared receipt"), run)
    else if acknowledgement.encodable = false then (.error .unicodeEncodeError, run)
    else
      let acknowledged : WorkerRun := { run with
        frames := run.frames ++ [wireObject [("rebind_ack", toWire acknowledgement)]] }
      (.ok (), acknowledged.add (phaseEvent "broker_resumed"))

/-- `broker`: write a request to the supervisor and read its reply. -/
def WorkerRun.broker (run : WorkerRun) (value : PyValue) (reply : BrokerReply) :
    Except HelperError Unit × WorkerRun :=
  if request.brokerEnabled = false then (.error (.runtimeError "no host broker is configured"), run)
  else
    match portableValue 12 4096 value with
    | .error (.portableValueError reason) => (.error (.portableValueError reason), run)
    | .error _ => (.error .unicodeEncodeError, run)
    | .ok payload =>
      if 65536 < canonicalLength payload then
        (.error (.runtimeError "broker request exceeds 65536 bytes"), run)
      else
        let asked : WorkerRun := { run with
          frames := run.frames ++ [wireObject [("broker_request", toWire payload)]] }
        asked.answered false reply

/-- `write` of one of the two outputs. -/
def WorkerRun.write (run : WorkerRun) (stream : Plain.OutputStream) (text : PyString) :
    WorkerRun :=
  match stream with
  | .stdout =>
    let written := run.stdout.write run.remaining text
    { run with stdout := written.1, remaining := written.2 }
  | .stderr =>
    let written := run.stderr.write run.remaining text
    { run with stderr := written.1, remaining := written.2 }

/-- What becomes of a run when its program does something. -/
def WorkerRun.perform (run : WorkerRun) : Ask → Except HelperError Unit × WorkerRun
  | .compute change => (.ok (), { run with space := change run.space })
  | .write stream text => (.ok (), run.write stream text)
  | .progress message completed total => run.progress message completed total
  | .display value mediaType => (.ok (), run.display value mediaType)
  | .publish data => run.publish data
  | .artifact name mediaType content => run.artifact request name mediaType content
  | .broker value reply => run.broker request value reply

/-- The answer to a program, and the run it continues in. -/
def respond (run : WorkerRun) (question : Ask) : Answer × WorkerRun :=
  let performed := run.perform request question
  let raised :=
    match performed.1 with
    | .ok () => none
    | .error error => some error
  ({ space := performed.2.space, raised := raised }, performed.2)

end Programs

section Responses

variable (interpreter : Interpreter) (request : ExecuteRequest)

/-- The names of the functions that a program finds in its namespace. -/
def helperNames : List PyString :=
  [pyString "aar_artifact", pyString "aar_broker", pyString "aar_display",
    pyString "aar_progress"]

/-- The events of the output that a program left, in the order of the two outputs. -/
def outputEvents (run : WorkerRun) : List WorkerEvent :=
  [(.stdout, run.stdout), (.stderr, run.stderr)].filterMap
    fun (kind, stream) =>
      if stream.text = [] then none else some (.text kind stream.text stream.truncated)

/-- List the output of a program. -/
def WorkerRun.addOutput (run : WorkerRun) : WorkerRun :=
  let added := (outputEvents run).foldl (fun run event => run.add event) run
  -- An output of which nothing was kept is passed over, also when it lost characters.
  let lost := [run.stdout, run.stderr].any fun stream => stream.text ≠ [] ∧ stream.truncated
  { added with dropped := added.dropped || lost }

/-- The entries of the event that ends an execution. -/
def finishEntries (status : String) (dropped : Bool) : List (String × WireValue) :=
  [("phase", wireText "finished"), ("status", wireText status)] ++
    if dropped then [("events_truncated", .bool true)] else []

/-- `data.update(finish)`. -/
def updateEntries (data finish : List (String × WireValue)) : List (String × WireValue) :=
  data.filter (fun entry => entry.1 ∉ finish.map Prod.fst) ++ finish

/-- The events of a response, with the one that ends the execution. -/
def finishEvents (run : WorkerRun) (status : String) :
    Except RaisedException (List WorkerEvent) :=
  let finish := finishEntries status run.dropped
  if run.events.length < run.maxEvents then
    .ok (run.events ++ [.data .progress finish (some run.dropped)])
  else
    -- Capacity one keeps the exception and merges the end of the execution into it.
    match run.events.getLast? with
    | some (.data kind data _) =>
      .ok (run.events.dropLast ++ [.data kind (updateEntries data finish) (some true)])
    | _ => .error { typeName := "KeyError", message := some (pyString "'data'") }

/-- The exception of a text without an encoding, without the character that it names. -/
def unicodeEncodeError : RaisedException where
  typeName := "UnicodeEncodeError"
  message := some (pyString "'utf-8' codec can't encode character: surrogates not allowed")

/-- The portable result of a program, or why its value is left out. -/
def presentResult (value : PyValue) :
    Except RaisedException (Option JsonValue × Option String) :=
  match value with
  | .none => .ok (none, none)
  | _ =>
    match portableValue 12 4096 value with
    | .ok portable =>
      if canonicalLength portable ≤ 65536 then .ok (some portable, none)
      else .ok (none, some "portable result exceeds 65536 bytes")
    | .error (.portableValueError reason) => .ok (none, some reason)
    | .error _ => .error unicodeEncodeError

/-- The response to a program that ran. -/
def executeResponse (run : WorkerRun) (status : String)
    (presented : Option JsonValue × Option String) (events : List WorkerEvent) : WireValue :=
  wireObject [("ok", .bool true), ("status", wireText status),
    ("result", (presented.1.map toWire).getD .null),
    ("result_excluded_reason", (presented.2.map wireText).getD .null),
    ("events", .array (events.map WorkerEvent.toWire)),
    ("artifacts", .array (run.artifacts.map WorkerArtifact.toWire))]

/-- `execute`, once the program ended: its response, or the exception that reaches the loop. -/
def concludeExecute (run : WorkerRun) (outcome : Outcome) : Except RaisedException WireValue :=
  let listed := run.addOutput
  match outcome with
  | .escaped { typeName, message } => .error { typeName := typeName, message := message.toOption }
  | .failed { message := .error second, .. } => .error second
  | .failed { typeName, message := .ok message } => do
    let reported := listed.add (.data .exception
      [("type", wireText typeName), ("message", .str (message.take 2048))]) true
    let events ← finishEvents reported "failed"
    return executeResponse run "failed" (none, none) events
  | .finished value => do
    let presented ← presentResult value
    let events ← finishEvents listed "succeeded"
    return executeResponse run "succeeded" presented events

/-- What a program finds when it starts. -/
def startedRun (space : Variables) : WorkerRun :=
  WorkerRun.add {
    space := helperNames.foldl (fun space name => space.set name (.object "function")) space
    maxEvents := request.maxEvents
    remaining := request.maxOutputChars } (phaseEvent "started")

/-- `run_cell`: the way a program ends, and the run it leaves. -/
def runCell (program : Program) (space : Variables) : Outcome × WorkerRun :=
  program.run (respond request) (startedRun request space)

/-- The namespace after a program, with the helpers' names bound as they were before. -/
def restoredSpace (space : Variables) (run : WorkerRun) : Variables :=
  Plain.rebind space.find helperNames run.space

/-- `_variable_summary`: what is said of one variable, without its preview. -/
def variableSummary (entry : PyString × PyValue) : Except RaisedException WireValue := do
  require (¬ CannotEncode 12 4096 entry.2) unicodeEncodeError
  require (ValidName entry.1 ∧ entry.2.typeName ≠ "")
    { typeName := "ValidationError", message := some (pyString "invalid variable summary") }
  return wireObject [("name", .str entry.1),
    ("type_name", wireText (String.ofList (entry.2.typeName.toList.take 128))),
    ("portable", .bool (portableValue 12 4096 entry.2).isOk)]

/-- `inspect`: what is said of the program's own variables. -/
def inspect (space : Variables) : Except RaisedException WireValue := do
  let summaries ←
    (userVariables (interpreter.IsUserName ·) space.entries).mapM variableSummary
  return wireObject [("ok", .bool true), ("variables", .array summaries)]

/-- `checkpoint`: the values that the worker can carry, and the variables it leaves out. -/
def checkpointResponse (policy : WorkspaceCheckpointPolicy) (space : Variables) :
    Except RaisedException WireValue :=
  match checkpoint interpreter policy space.entries with
  | .error _ => .error unicodeEncodeError
  | .ok scan => .ok (wireObject [("ok", .bool true),
      ("values", .array (scan.values.map fun item =>
        wireObject [("name", .str item.name), ("value", toWire item.value)])),
      ("exclusions", .array (scan.exclusions.map fun item =>
        wireObject [("name", .str item.name), ("type_name", wireText item.typeName),
          ("reason", wireText item.reason)]))])

/-- `restore`: forget the program's variables and bind the values. -/
def restoreVariables (values : List WorkspaceCheckpointValue) (space : Variables) : Variables :=
  values.foldl (fun space item => space.set item.name item.value.toPy)
    (space.keep fun name => ¬ interpreter.IsUserName name)

end Responses

section Loop

variable (interpreter : Interpreter)

/-- A well-formed command line. -/
inductive Command where
  | execute (request : ExecuteRequest) (program : Program)
  | inspect
  | checkpoint (policy : WorkspaceCheckpointPolicy)
  | restore (values : List WorkspaceCheckpointValue)

/-- A line that a worker wrote: a frame for the broker, or the response to a command. -/
inductive WrittenLine where
  | frame (line : WireValue)
  | response (line : WireValue)

/-- A worker process between two commands. -/
structure Process where
  space : Variables
  written : List WrittenLine := []
  ended : Bool := false

/-- `dispatch`: the response to a command, the frames written before it, and the namespace. -/
def dispatch (command : Command) (space : Variables) :
    Except RaisedException WireValue × List WireValue × Variables :=
  match command with
  | .execute request program =>
    let ran := runCell request program space
    (concludeExecute ran.2 ran.1, ran.2.frames, restoredSpace space ran.2)
  | .inspect => (Worker.inspect interpreter space, [], space)
  | .checkpoint policy => (checkpointResponse interpreter policy space, [], space)
  | .restore values =>
    (.ok (wireObject [("ok", .bool true)]), [], restoreVariables interpreter values space)

/-- The response of the loop: what was dispatched, or the exception as it describes itself. -/
def loopResponse : Except RaisedException WireValue → Option WireValue
  | .ok response => some response
  | .error { typeName, message } => message.map fun message =>
      wireObject [("ok", .bool false), ("error_type", wireText typeName),
        ("message", .str (message.take 2048))]

/-- `_write`: one more line, unless the document cannot be written, which ends the process. -/
def Process.write (process : Process) (response : Option WireValue) : Process :=
  match response with
  | none => { process with ended := true }
  | some line =>
    if line.writes false = true then
      { process with written := process.written ++ [.response line] }
    else { process with ended := true }

/-- One turn of the loop in `main`; a process that has ended reads no further line. -/
def turn (command : Command) (process : Process) : Process :=
  if process.ended then process
  else
    let done := dispatch interpreter command process.space
    Process.write { process with
        space := done.2.2
        written := process.written ++ done.2.1.map .frame }
      (loopResponse done.1)

/-- A worker that has reported itself ready. -/
def Process.ready (space : Variables) : Process where
  space := space

end Loop

end Aar.Workspace.Worker
