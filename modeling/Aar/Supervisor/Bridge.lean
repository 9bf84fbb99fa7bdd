import Aar.Lib.Run
import Mathlib.Data.Finset.Basic
import Mathlib.Data.List.AList

/-! The private bridge that carries one MCP session between standard streams and the supervisor. -/

namespace Aar.Supervisor

section Messages

/-- An identifier of a JSON-RPC request. -/
inductive JsonId where
  | number (value : Int)
  | text (value : String)
  deriving DecidableEq

/-- What a message is to the protocol: a request or a response under an identifier, or neither. -/
inductive Content where
  | request (id : JsonId)
  | notification
  | response (id : JsonId)
  deriving DecidableEq

/-- What `extract_mcp_binding` finds in the bytes of a message. -/
inductive ExtractedBinding where
  | found (authorityDigest : String) (deadlineUnixMs : Nat)
  | missing
  | refused (message : String)
  deriving DecidableEq

/-- The payload of a frame: one JSON-RPC message, with what its bytes say beside its identifier. -/
structure Message where
  content : Content
  body : String
  binding : ExtractedBinding
  deriving DecidableEq

/-- The member `id` of the document, which requests and responses have. -/
def Message.id (message : Message) : Option JsonId :=
  match message.content with
  | .request id => some id
  | .notification => none
  | .response id => some id

/-- The identifier of a message that is a request. -/
def Message.asks (message : Message) : Option JsonId :=
  match message.content with
  | .request id => some id
  | _ => none

/-- The identifier of the request that a message responds to. -/
def Message.answers (message : Message) : Option JsonId :=
  match message.content with
  | .response id => some id
  | _ => none

/-- The hexadecimal digests of the payload of a message and of the text of an identifier. -/
structure Hashes where
  payload : Message → String
  id : JsonId → String

/-- The first characters of a text. -/
def firstChars (count : Nat) (text : String) : String := String.ofList (text.toList.take count)

/-- The binding of a message that both sides derive, with the defaults of the one that asks. -/
def mcpBinding (payload : Message) (defaultAuthority : String) (defaultDeadline : Nat) :
    Except String (String × Nat) :=
  match payload.binding with
  | .found authorityDigest deadlineUnixMs => .ok (authorityDigest, deadlineUnixMs)
  | .missing => .ok (defaultAuthority, defaultDeadline)
  | .refused message => .error message

/-- The kinds of private frames that an attached session exchanges. -/
inductive MessageKind where
  | mcpRequest
  | mcpResponse
  deriving DecidableEq

/-- One private message with its metadata. -/
structure PrivateFrame where
  kind : MessageKind
  requestId : String
  traceId : String
  authorityDigest : String
  deadlineUnixMs : Nat
  payload : Message
  deriving DecidableEq

/-- The key of a message in the table of the supervisor. -/
inductive Key where
  | id (id : JsonId)
  | notification (digest : String)
  deriving DecidableEq

/-- What the supervisor remembers of the frame that carried a message. -/
structure Binding where
  authorityDigest : String
  deadlineUnixMs : Nat
  requestId : String
  traceId : String
  deriving DecidableEq

end Messages

section State

/-- How the bridge ended: nothing was pending any more, or it raised. -/
inductive Ending where
  | drained
  | failed
  deriving DecidableEq

/-- What the two ends of an attached session agree on. -/
structure Session where
  authorityDigest : String
  hashes : Hashes

/-- Both ends of a session, the frames between them, and the two peers they carry messages for.

The host behind the standard streams has requests it asked and responses it owes; the application
behind the supervisor has requests it serves, each with its frame, and requests it is asking. -/
structure Bridge where
  pending : Finset JsonId
  writing : Option Message
  stdinEnded : Bool
  ended : Option Ending
  toSupervisor : List PrivateFrame
  bindings : AList fun _ : Key => Binding
  rejected : Bool
  toClient : List PrivateFrame
  asked : List JsonId
  owed : List JsonId
  stdin : List Message
  stdout : List Message
  serving : List (JsonId × PrivateFrame)
  asking : List JsonId
  answered : List (PrivateFrame × PrivateFrame)

/-- A session that has been attached, before any message. -/
def attached : Bridge :=
  ⟨∅, none, false, none, [], ∅, false, [], [], [], [], [], [], [], []⟩

/-- The requests of the client whose response has not been written out. -/
def Bridge.unanswered (bridge : Bridge) : List JsonId :=
  bridge.asked ++ (bridge.writing.bind Message.answers).toList

/-- The identifiers of the requests that the application serves. -/
def Bridge.served (bridge : Bridge) : List JsonId := bridge.serving.map Prod.fst

end State

section Client

/-- The key of a message in the set of the client. -/
def clientKey (payload : Message) : Option JsonId := payload.id

/-- The request id of the frame that carries a message to the supervisor. -/
def requestId (hashes : Hashes) (payload : Message) : String :=
  match payload.id with
  | some id => "request-" ++ firstChars 24 (hashes.id id)
  | none => "notification-" ++ firstChars 24 (hashes.payload payload)

/-- The host asks under identifiers it is not asking under, and responds to what it was asked. -/
def Bridge.mayRead (bridge : Bridge) (message : Message) : Bool :=
  match message.content with
  | .request id => id ∉ bridge.asked
  | .notification => true
  | .response id => id ∈ bridge.owed

/-- The frame in which the client sends a message. -/
def requestFrame (session : Session) (message : Message) (authority : String) (deadline : Nat) :
    PrivateFrame where
  kind := .mcpRequest
  requestId := requestId session.hashes message
  traceId := "trace-" ++ firstChars 32 (session.hashes.payload message)
  authorityDigest := authority
  deadlineUnixMs := deadline
  payload := message

/-- One line of standard input, sent on to the supervisor. -/
def stdinToSupervisor (session : Session) (now : Nat) (message : Message) (bridge : Bridge) :
    Bridge :=
  match mcpBinding message session.authorityDigest (now + 60000) with
  | .error _ => { bridge with ended := some .failed }
  | .ok (authority, deadline) =>
    { bridge with
      pending := (clientKey message).elim bridge.pending fun key => insert key bridge.pending
      toSupervisor := bridge.toSupervisor ++ [requestFrame session message authority deadline]
      stdin := bridge.stdin ++ [message]
      asked := bridge.asked ++ message.asks.toList
      owed := message.answers.elim bridge.owed bridge.owed.erase }

/-- The next frame from the supervisor, written to standard output unless its time is over. -/
def supervisorToStdout (now : Nat) (frame : PrivateFrame) (rest : List PrivateFrame)
    (bridge : Bridge) : Bridge :=
  if frame.deadlineUnixMs < now ∨ frame.kind ≠ .mcpResponse then
    { bridge with toClient := rest, ended := some .failed }
  else
    { bridge with
      toClient := rest
      writing := some frame.payload
      stdout := bridge.stdout ++ [frame.payload]
      asked := frame.payload.answers.elim bridge.asked bridge.asked.erase
      owed := bridge.owed ++ frame.payload.asks.toList }

/-- The write has returned, and the key of the message is no longer pending. -/
def discard (message : Message) (bridge : Bridge) : Bridge :=
  { bridge with
    writing := none
    pending := (clientKey message).elim bridge.pending bridge.pending.erase }

end Client

section Server

/-- The key under which the supervisor files the frame of a message. -/
def supervisorKey (hashes : Hashes) (payload : Message) : Key :=
  match payload.id with
  | some id => .id id
  | none => .notification (hashes.payload payload)

/-- The binding that the reader files for a frame. -/
def PrivateFrame.filed (frame : PrivateFrame) : Binding :=
  ⟨frame.authorityDigest, frame.deadlineUnixMs, frame.requestId, frame.traceId⟩

/-- The next frame from the client, filed and handed to the application. -/
def socketReader (session : Session) (frame : PrivateFrame) (rest : List PrivateFrame)
    (bridge : Bridge) : Bridge :=
  match mcpBinding frame.payload session.authorityDigest frame.deadlineUnixMs with
  | .error _ => { bridge with toSupervisor := rest, rejected := true }
  | .ok (authority, deadline) =>
    if frame.kind ≠ .mcpRequest ∨ authority ≠ frame.authorityDigest ∨
        deadline ≠ frame.deadlineUnixMs then
      { bridge with toSupervisor := rest, rejected := true }
    else
      { bridge with
        toSupervisor := rest
        bindings := bridge.bindings.insert (supervisorKey session.hashes frame.payload)
          ⟨authority, deadline, frame.requestId, frame.traceId⟩
        serving := bridge.serving ++ (frame.payload.asks.map fun id => (id, frame)).toList
        asking := frame.payload.answers.elim bridge.asking bridge.asking.erase }

/-- The application asks under identifiers it is not asking under, and answers what it serves. -/
def Bridge.mayEmit (bridge : Bridge) (message : Message) : Bool :=
  match message.content with
  | .request id => id ∉ bridge.asking
  | .notification => true
  | .response id => id ∈ bridge.served

/-- What a frame carries when nothing is filed under the key of its message. -/
def defaultBinding (session : Session) (now : Nat) (message : Message) : Binding :=
  ⟨session.authorityDigest, now + 60000,
    "response-" ++ firstChars 24 (session.hashes.payload message),
    "trace-" ++ firstChars 32 (session.hashes.payload message)⟩

/-- The frame in which the supervisor sends a message of the application. -/
def responseFrame (message : Message) (binding : Binding) : PrivateFrame where
  kind := .mcpResponse
  requestId := binding.requestId
  traceId := binding.traceId
  authorityDigest := binding.authorityDigest
  deadlineUnixMs := binding.deadlineUnixMs
  payload := message

/-- One message of the application, sent under what is filed for its key. -/
def socketWriter (session : Session) (now : Nat) (message : Message) (bridge : Bridge) : Bridge :=
  let key := supervisorKey session.hashes message
  let binding := (bridge.bindings.lookup key).getD (defaultBinding session now message)
  let frame := responseFrame message binding
  let request := message.answers.bind fun id => bridge.serving.find? fun served => served.1 = id
  { bridge with
    bindings := bridge.bindings.erase key
    toClient := bridge.toClient ++ [frame]
    serving := message.answers.elim bridge.serving
      fun id => bridge.serving.eraseP fun served => served.1 = id
    asking := bridge.asking ++ message.asks.toList
    answered := bridge.answered ++ (request.map fun served => (served.2, frame)).toList }

end Server

section Steps

/-- What either end does next, with the message and the time its environment gives it. -/
inductive Input where
  | line (now : Nat) (message : Message)
  | endOfInput
  | receive
  | emit (now : Nat) (message : Message)
  | write (now : Nat)
  | discard
  | poll
  | timeLimit
  deriving DecidableEq

/-- One step of the client or of the supervisor; a step that cannot be taken changes nothing. -/
def step (session : Session) : Input → Bridge → Bridge
  | .line now message, bridge =>
    if bridge.ended = none ∧ bridge.stdinEnded = false ∧ bridge.mayRead message then
      stdinToSupervisor session now message bridge
    else bridge
  | .endOfInput, bridge =>
    if bridge.ended = none then { bridge with stdinEnded := true } else bridge
  | .receive, bridge =>
    match bridge.toSupervisor with
    | frame :: rest =>
      if bridge.rejected then bridge else socketReader session frame rest bridge
    | [] => bridge
  | .emit now message, bridge =>
    if bridge.rejected = false ∧ bridge.mayEmit message then
      socketWriter session now message bridge
    else bridge
  | .write now, bridge =>
    match bridge.toClient with
    | frame :: rest =>
      if bridge.ended = none ∧ bridge.writing = none then
        supervisorToStdout now frame rest bridge
      else bridge
    | [] => bridge
  | .discard, bridge =>
    match bridge.writing with
    | some message => if bridge.ended = none then discard message bridge else bridge
    | none => bridge
  | .poll, bridge =>
    -- The loop sleeps while anything is pending, and the bridge returns when nothing is.
    if bridge.ended = none ∧ bridge.stdinEnded ∧ bridge.pending = ∅ then
      { bridge with ended := some .drained }
    else bridge
  | .timeLimit, bridge =>
    if bridge.ended = none ∧ bridge.stdinEnded ∧ bridge.pending ≠ ∅ then
      { bridge with ended := some .failed }
    else bridge

end Steps

end Aar.Supervisor
