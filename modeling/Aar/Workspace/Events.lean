import Aar.Workspace.Backend
import Aar.Workspace.Plain

/-! What a running program shows of itself: output, displays, progress and artifacts. -/

namespace Aar.Workspace

open Guarded

section Events

/-- What an event reports. -/
inductive WorkspaceEventKind where
  | stdout | stderr | display | exception | progress | artifact
  deriving DecidableEq

/-- One event of an execution. -/
structure WorkspaceEvent where
  sequence : Nat := 0
  kind : WorkspaceEventKind
  text : Option PyString := none
  data : Option JsonValue := none
  artifact : Option String := none
  truncated : Bool := false
  deriving DecidableEq

/-- The data of an event is a document that its model accepts. -/
def EventData (data : JsonValue) : Prop :=
  data.encodable = true ∧ canonicalLength data ≤ 16384

instance : DecidablePred EventData :=
  fun _ => inferInstanceAs (Decidable (_ ∧ _))

/-- The payload of an event is what its kind requires. -/
def WorkspaceEvent.Matches (event : WorkspaceEvent) : Prop :=
  match event.kind with
  | .stdout | .stderr => event.text.isSome ∧ event.data = none ∧ event.artifact = none
  | .artifact => event.artifact.isSome ∧ event.text = none ∧ event.data = none
  | .display | .exception | .progress =>
    event.data.isSome ∧ event.text = none ∧ event.artifact = none

instance : DecidablePred WorkspaceEvent.Matches := fun event => by
  unfold WorkspaceEvent.Matches
  split <;> infer_instance

/-- The event model accepts an event: its text and its payload. -/
def WorkspaceEvent.Valid (event : WorkspaceEvent) : Prop :=
  (∀ text ∈ event.text, text.length ≤ 8192 ∧ Encodable text) ∧ event.Matches ∧
    ∀ data ∈ event.data, EventData data

instance : DecidablePred WorkspaceEvent.Valid :=
  fun _ => inferInstanceAs (Decidable (_ ∧ _ ∧ _))

/-- What a helper raises in the program that called it. -/
inductive HelperError where
  | portableValueError (reason : String)
  | unicodeEncodeError
  | validationError
  | typeError
  | workspaceArtifactUnavailable
  | artifactSinkError
  | textError
  | runtimeError (message : String)
  deriving DecidableEq

/-- `_EventCollector`: the events of one execution within its limits. -/
structure EventCollector where
  maxEvents : Nat
  remainingOutputChars : Nat
  events : List WorkspaceEvent := []
  droppedEvents : Bool := false

/-- The last place is kept for the event that ends the execution. -/
def EventCollector.Full (collector : EventCollector) : Prop :=
  collector.maxEvents ≤ collector.events.length + 1

instance : DecidablePred EventCollector.Full :=
  fun _ => inferInstanceAs (Decidable (_ ≤ _))

/-- Give up the place of the last event when no other is left. -/
def EventCollector.makeRoom (collector : EventCollector) : EventCollector :=
  if collector.Full then
    { collector with droppedEvents := true, events := collector.events.dropLast }
  else collector

/-- Put an event in the next place, if its model accepts it. -/
def EventCollector.push (collector : EventCollector) (draft : Option WorkspaceEvent) :
    Except HelperError Unit × EventCollector :=
  match draft with
  | none => (.error .validationError, collector)
  | some event =>
    if event.Valid then
      (.ok (), { collector with
        events := collector.events ++ [{ event with sequence := collector.events.length + 1 }] })
    else (.error .validationError, collector)

/-- `_append`: add an event, unless there is no place for it that it may take. -/
def EventCollector.append (collector : EventCollector) (draft : Option WorkspaceEvent)
    (force : Bool := false) : Except HelperError Unit × EventCollector :=
  if collector.Full ∧ force = false then (.ok (), { collector with droppedEvents := true })
  -- The event is validated only now, when there is a place for it.
  else collector.makeRoom.push draft

/-- What is shown of a text: no more characters than are left, and than one event can hold. -/
def EventCollector.shown (collector : EventCollector) (text : PyString) : PyString :=
  text.take (min collector.remainingOutputChars 8192)

/-- `stream`: add a text that was written to an output. -/
def EventCollector.stream (collector : EventCollector) (kind : WorkspaceEventKind)
    (text : PyString) : Except HelperError Unit × EventCollector :=
  if text = [] then (.ok (), collector)
  else
    let chunk := collector.shown text
    let counted := { collector with
      remainingOutputChars := collector.remainingOutputChars - chunk.length }
    if chunk ≠ [] then
      counted.append (some
        { kind := kind, text := some chunk, truncated := decide (chunk.length < text.length) })
    else (.ok (), { counted with droppedEvents := true })

/-- `structured`: add data, which for an exception takes the place of another event. -/
def EventCollector.structured (collector : EventCollector) (kind : WorkspaceEventKind)
    (data : Option JsonValue) : Except HelperError Unit × EventCollector :=
  collector.append (data.map fun data => { kind := kind, data := some data })
    (decide (kind = .exception))

/-- A JSON object with text keys. -/
def jsonObject (entries : List (String × JsonValue)) : JsonValue :=
  .object (entries.map fun entry => (pyString entry.1, entry.2))

/-- A JSON text. -/
def jsonText (text : String) : JsonValue :=
  .str (pyString text)

end Events

section Status

/-- The word for a status. -/
def WorkspaceExecutionStatus.text : WorkspaceExecutionStatus → String
  | .succeeded => "succeeded"
  | .failed => "failed"
  | .interrupted => "interrupted"
  | .timedOut => "timed_out"

/-- The data of the event that ends an execution. -/
def finishData (status : WorkspaceExecutionStatus) (dropped : Bool) : List (String × JsonValue) :=
  (if dropped then [("events_truncated", .bool true)] else []) ++
    [("phase", jsonText "finished"), ("status", jsonText status.text)]

/-- The entries of an object when those of another are put over them. -/
def mergeEntries (prior data : List (PyString × JsonValue)) : List (PyString × JsonValue) :=
  (prior.filter (fun entry => entry.1 ∉ data.map Prod.fst) ++ data).mergeSort
    fun left right => left.1 ≤ right.1

/-- `{**prior, **data}`, a document that is no object counting as an empty one. -/
def mergeData (prior : Option JsonValue) (data : List (String × JsonValue)) : JsonValue :=
  let entries := data.map fun entry => (pyString entry.1, entry.2)
  match prior with
  | some (.object kept) => .object (mergeEntries kept entries)
  | _ => .object entries

/-- `finish`: the collected events, with the one that ends the execution. -/
def EventCollector.finish (collector : EventCollector) (status : WorkspaceExecutionStatus) :
    Except HelperError (List WorkspaceEvent) :=
  let data := finishData status collector.droppedEvents
  if collector.events.length < collector.maxEvents then do
    let event : WorkspaceEvent :=
      { sequence := collector.events.length + 1, kind := .progress
        data := some (jsonObject data), truncated := collector.droppedEvents }
    require event.Valid .validationError
    return collector.events ++ [event]
  else if collector.maxEvents = 1 then
    -- Capacity one keeps the exception and merges the end of the execution into it.
    match collector.events with
    | [] => .ok []
    | event :: rest =>
      .ok ({ event with data := some (mergeData event.data data), truncated := true } :: rest)
  else .ok collector.events

end Status

end Aar.Workspace
