import Aar.Workspace.WorkerLoop
import Mathlib.Data.List.Sort

/-! What the IPython backend makes of the events that a worker lists in its response. -/

namespace Aar.Workspace.Worker

open Guarded

section Reading

mutual

/-- The JSON value that a document is read back as, unless it has a number that JSON lacks. -/
def WireValue.toJson : WireValue → Option JsonValue
  | .null => some .null
  | .bool value => some (.bool value)
  | .int value => some (.int value)
  | .str value => some (.str value)
  | .float _ | .unserializable => none
  | .array items => (itemsToJson items).map .array
  | .object entries => (entriesToJson entries).map fun entries =>
      .object (entries.insertionSort fun left right => left.1 ≤ right.1)

/-- The JSON values of an array's items. -/
def itemsToJson : List WireValue → Option (List JsonValue)
  | [] => some []
  | item :: rest => do
    let first ← item.toJson
    let others ← itemsToJson rest
    return first :: others

/-- The JSON values of an object's entries. -/
def entriesToJson : List (PyString × WireValue) → Option (List (PyString × JsonValue))
  | [] => some []
  | (key, item) :: rest => do
    let first ← item.toJson
    let others ← entriesToJson rest
    return (key, first) :: others

end

/-- An exception of the host, as far as an event can describe it. -/
structure HostError where
  typeName : String
  message : PyString

/-- What the host answers: the reference of a staged artifact, or what it raises, and what the
event model raises for an event that it refuses. -/
structure Host where
  artifact : Nat → Except HostError String
  refusal : WorkerEvent → HostError

/-- An event that the event model accepts. -/
def Host.issue (host : Host) (raw : WorkerEvent) (event : WorkspaceEvent) :
    Except HostError WorkspaceEvent :=
  if event.Valid then .ok event else .error (host.refusal raw)

/-- One listed event as an event of the result, in the place after those that were read. -/
def readEvent (host : Host) (count : Nat) (raw : WorkerEvent) : Except HostError WorkspaceEvent :=
  match raw with
  | .artifact index =>
    match host.artifact index with
    | .ok reference => host.issue raw
        { sequence := count + 1, kind := .artifact, artifact := some reference }
    | .error error => .error error
  | .text kind text truncated => host.issue raw
      { sequence := count + 1, kind := kind, text := some text, truncated := truncated }
  | .data kind entries truncated => host.issue raw
      { sequence := count + 1, kind := kind, data := (wireObject entries).toJson
        truncated := truncated.getD false }

/-- The events that were read before the host raised, with what it raised. -/
def readEvents (host : Host) :
    List WorkspaceEvent → List WorkerEvent → List WorkspaceEvent × Option HostError
  | events, [] => (events, none)
  | events, raw :: rest =>
    match readEvent host events.length raw with
    | .ok event => readEvents host (events ++ [event]) rest
    | .error error => (events, some error)

end Reading

section Building

/-- The data of the event for an exception of the host, which ends the events when it is alone. -/
def errorData (error : HostError) (alone : Bool) : JsonValue :=
  jsonObject ([("message", .str (error.message.take 2048))] ++
    (if alone then [("phase", jsonText "finished"), ("status", jsonText "failed")] else []) ++
    [("type", jsonText error.typeName)])

/-- The event for an exception of the host. -/
def errorEvent (count : Nat) (error : HostError) (alone : Bool) : WorkspaceEvent where
  sequence := count + 1
  kind := .exception
  data := some (errorData error alone)
  truncated := true

/-- The event that ends an execution whose artifacts the host did not take. -/
def failedEvent (count : Nat) : WorkspaceEvent where
  sequence := count + 1
  kind := .progress
  data := some (jsonObject (finishData .failed false))

/-- The status and the events of a result. -/
structure BuiltResult where
  status : WorkspaceExecutionStatus
  events : List WorkspaceEvent

/-- `_result_from_response`: the events as they were listed, or those before the first that the
host could not take, cut to leave places for its exception and the end of the execution. -/
def resultFromResponse (host : Host) (maxEvents : Nat) (status : WorkspaceExecutionStatus)
    (listed : List WorkerEvent) : Except HelperError BuiltResult :=
  match readEvents host [] listed with
  | (events, none) => .ok ⟨status, events⟩
  | (events, some error) => do
    let retained := events.take (maxEvents - 2)
    let exception := errorEvent retained.length error (maxEvents = 1)
    require exception.Valid .validationError
    if maxEvents = 1 then return ⟨.failed, retained ++ [exception]⟩
    let finished := failedEvent (retained.length + 1)
    require finished.Valid .validationError
    return ⟨.failed, retained ++ [exception, finished]⟩

end Building

section Listing

/-- The events that a response lists: those of the run, its output, and its exception. -/
def listedEvents (run : WorkerRun) (raised : Option (String × PyString)) :
    Except RaisedException (List WorkerEvent) :=
  match raised with
  | none => finishEvents run.addOutput "succeeded"
  | some (typeName, message) => finishEvents (run.addOutput.add (.data .exception
      [("type", wireText typeName), ("message", .str (message.take 2048))]) true) "failed"

/-- The status of a response. -/
def listedStatus (raised : Option (String × PyString)) : WorkspaceExecutionStatus :=
  match raised with
  | none => .succeeded
  | some _ => .failed

end Listing

end Aar.Workspace.Worker
