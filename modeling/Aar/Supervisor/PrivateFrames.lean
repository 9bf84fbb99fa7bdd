import Aar.Canonical
import Aar.Lib.Base64
import Aar.Lib.Chunked
import Mathlib.Data.Option.Basic

/-! Private frames, and the lines that carry them over a socket. -/

namespace Aar.Supervisor.Wire

open Guarded Utf8 StrictJson Chunked

section Fields

/-- `MAX_PRIVATE_PAYLOAD_BYTES`. -/
def maxPrivatePayloadBytes : Nat := 8 * 1024 * 1024

/-- `MAX_FRAME_LINE_BYTES`. -/
def maxFrameLineBytes : Nat := (maxPrivatePayloadBytes + 2) / 3 * 4 + 65536

/-- `MessageKind`. -/
inductive MessageKind where
  | attach
  | attached
  | grantIssue
  | grantIssued
  | grantRevoke
  | grantRevoked
  | mcpRequest
  | mcpResponse
  | error
  deriving DecidableEq

/-- The literal of a kind. -/
def MessageKind.literal : MessageKind → String
  | .attach => "attach"
  | .attached => "attached"
  | .grantIssue => "grant_issue"
  | .grantIssued => "grant_issued"
  | .grantRevoke => "grant_revoke"
  | .grantRevoked => "grant_revoked"
  | .mcpRequest => "mcp_request"
  | .mcpResponse => "mcp_response"
  | .error => "error"

/-- `SUPERVISOR_SCHEMA_VERSION`. -/
def supervisorSchemaVersion : Text := text "aar.supervisor.v1"

/-- `SUPERVISOR_PROTOCOL_VERSION`. -/
def supervisorProtocolVersion : Text := text "aar.supervisor.protocol.v1"

/-- A letter or a digit. -/
def Alphanumeric (point : Code) : Prop :=
  Digit point ∨ (0x41 ≤ point.val ∧ point.val ≤ 0x5a) ∨ (0x61 ≤ point.val ∧ point.val ≤ 0x7a)

instance : DecidablePred Alphanumeric := fun _ => inferInstanceAs (Decidable (_ ∨ _))

/-- A character of a token after its first one. -/
def TokenCharacter (point : Code) : Prop :=
  Alphanumeric point ∨ point.val ∈ [0x2e, 0x5f, 0x7e, 0x2d]

instance : DecidablePred TokenCharacter := fun _ => inferInstanceAs (Decidable (_ ∨ _))

/-- `OpaqueToken`: a letter or a digit, and up to 127 more characters. -/
def OpaqueToken : Text → Prop
  | [] => False
  | first :: rest =>
    Alphanumeric first ∧ rest.length ≤ 127 ∧ rest.all fun point => TokenCharacter point

/-- A hexadecimal digit in lower case. -/
def HexDigit (point : Code) : Prop := Digit point ∨ (0x61 ≤ point.val ∧ point.val ≤ 0x66)

instance : DecidablePred HexDigit := fun _ => inferInstanceAs (Decidable (_ ∨ _))

/-- `Digest`: a name of the algorithm and 64 hexadecimal digits. -/
def Digest (digest : Text) : Prop :=
  digest.take 7 = text "sha256:" ∧ (digest.drop 7).length = 64 ∧
    (digest.drop 7).all fun point => HexDigit point

/-- `PositiveCounter`. -/
def PositiveCounter (value : Int) : Prop := 1 ≤ value ∧ value ≤ 9223372036854775807

instance : ∀ token : Text, Decidable (OpaqueToken token)
  | [] => inferInstanceAs (Decidable False)
  | _ :: _ => inferInstanceAs (Decidable (_ ∧ _))

instance (digest : Text) : Decidable (Digest digest) := inferInstanceAs (Decidable (_ ∧ _))

instance (value : Int) : Decidable (PositiveCounter value) :=
  inferInstanceAs (Decidable (_ ∧ _))

/-- The fields of a private frame. -/
structure PrivateFrame where
  protocolVersion : Text
  kind : MessageKind
  requestId : Text
  traceId : Text
  runtimeGeneration : Int
  dispatcherGeneration : Int
  authorityDigest : Text
  payloadLength : Int
  payloadDigest : Text
  deadlineUnixMs : Int
  attachmentDigest : Text
  payloadBase64 : Text
  deriving DecidableEq

/-- Every field of a frame has the type that the model declares. -/
structure PrivateFrame.Fields (frame : PrivateFrame) : Prop where
  protocolVersion : frame.protocolVersion = supervisorProtocolVersion
  requestId : OpaqueToken frame.requestId
  traceId : OpaqueToken frame.traceId
  runtimeGeneration : PositiveCounter frame.runtimeGeneration
  dispatcherGeneration : PositiveCounter frame.dispatcherGeneration
  authorityDigest : Digest frame.authorityDigest
  payloadLength : 0 ≤ frame.payloadLength ∧ frame.payloadLength ≤ maxPrivatePayloadBytes
  payloadDigest : Digest frame.payloadDigest
  deadlineUnixMs : PositiveCounter frame.deadlineUnixMs
  attachmentDigest : Digest frame.attachmentDigest
  payloadBase64 : frame.payloadBase64.length ≤ (maxPrivatePayloadBytes + 2) / 3 * 4

instance (frame : PrivateFrame) : Decidable frame.Fields :=
  decidable_of_iff (frame.protocolVersion = supervisorProtocolVersion ∧
      OpaqueToken frame.requestId ∧ OpaqueToken frame.traceId ∧
      PositiveCounter frame.runtimeGeneration ∧ PositiveCounter frame.dispatcherGeneration ∧
      Digest frame.authorityDigest ∧
      (0 ≤ frame.payloadLength ∧ frame.payloadLength ≤ maxPrivatePayloadBytes) ∧
      Digest frame.payloadDigest ∧ PositiveCounter frame.deadlineUnixMs ∧
      Digest frame.attachmentDigest ∧
      frame.payloadBase64.length ≤ (maxPrivatePayloadBytes + 2) / 3 * 4)
    ⟨fun ⟨one, two, three, four, five, six, seven, eight, nine, ten, eleven⟩ =>
        ⟨one, two, three, four, five, six, seven, eight, nine, ten, eleven⟩,
      fun ⟨one, two, three, four, five, six, seven, eight, nine, ten, eleven⟩ =>
        ⟨one, two, three, four, five, six, seven, eight, nine, ten, eleven⟩⟩

/-- The fields of a frame under their names. -/
def PrivateFrame.entries (frame : PrivateFrame) : List (Text × Value) :=
  [(text "schema_version", .str supervisorSchemaVersion),
    (text "protocol_version", .str frame.protocolVersion),
    (text "kind", .str (text frame.kind.literal)),
    (text "request_id", .str frame.requestId),
    (text "trace_id", .str frame.traceId),
    (text "runtime_generation", .int frame.runtimeGeneration),
    (text "dispatcher_generation", .int frame.dispatcherGeneration),
    (text "authority_digest", .str frame.authorityDigest),
    (text "payload_length", .int frame.payloadLength),
    (text "payload_digest", .str frame.payloadDigest),
    (text "deadline_unix_ms", .int frame.deadlineUnixMs),
    (text "attachment_digest", .str frame.attachmentDigest),
    (text "payload_base64", .str frame.payloadBase64)]

/-- What a frame is as JSON: its model dump. -/
def PrivateFrame.dump (frame : PrivateFrame) : Value := .obj frame.entries

/-- `canonical_json_bytes` of a frame. -/
def PrivateFrame.canonicalBytes (frame : PrivateFrame) :
    Except Canonical.CanonicalError (List UInt8) :=
  Canonical.canonicalJsonBytes (.model (Canonical.ofJson frame.dump))

end Fields

section Payloads

/-- Why a frame is refused. -/
inductive FrameError where
  | payloadExceeds
  | attachmentsDiffer
  | attachmentMissing
  | base64Invalid
  | base64NotCanonical
  | lengthMismatch
  | digestMismatch
  | fields
  deriving DecidableEq

/-- The text that a frame is refused with; the model's own errors have texts of their own. -/
def FrameError.message : FrameError → Option String
  | .payloadExceeds => some "private frame payload exceeds 8388608 bytes"
  | .attachmentsDiffer => some "attachment_digest and attachment_credential_digest must match"
  | .attachmentMissing => some "attachment credential digest is required"
  | .base64Invalid => some "private frame payload base64 is invalid"
  | .base64NotCanonical => some "private frame payload base64 is not canonical"
  | .lengthMismatch => some "private frame payload length does not match decoded payload"
  | .digestMismatch => some "private frame payload digest does not match decoded payload"
  | .fields => none

/-- Whole groups of letters with padding behind them, which `b64decode` passes over. -/
def surplusPadding (encoded : Text) : Bool :=
  let letters := encoded.takeWhile fun point => (Base64.letterValue point).isSome
  letters ≠ [] && letters.length % 4 = 0 &&
    (encoded.drop letters.length).all fun point => point = Base64.padding

/-- `_decode_base64_payload`: the bytes that a canonical text stands for. -/
def decodeBase64Payload (encoded : Text) : Except FrameError (List UInt8) := do
  require (encoded.all fun point => point.val < 0x80) .base64Invalid
  let payload ← orRaise (Base64.decode encoded)
    (if surplusPadding encoded then .base64NotCanonical else .base64Invalid)
  require (Base64.encode payload = encoded) .base64NotCanonical
  return payload

/-- `_bytes_digest`: what SHA-256 makes of bytes, as a digest. -/
structure Sha256 where
  bytesDigest : List UInt8 → Text
  digest : ∀ payload, Digest (bytesDigest payload)

/-- `payload_is_exact_and_bounded`: the length and the digest of a frame are its payload's. -/
def payloadIsExactAndBounded (sha256 : Sha256) (frame : PrivateFrame) :
    Except FrameError Unit := do
  let payload ← decodeBase64Payload frame.payloadBase64
  require (payload.length ≤ maxPrivatePayloadBytes) .payloadExceeds
  require (frame.payloadLength = payload.length) .lengthMismatch
  require (frame.payloadDigest = sha256.bytesDigest payload) .digestMismatch

/-- A frame that was validated. -/
structure ValidFrame (sha256 : Sha256) where
  frame : PrivateFrame
  fields : frame.Fields
  exact : payloadIsExactAndBounded sha256 frame = .ok ()

/-- The model's validation: the fields have their types, and the payload is exact. -/
def validateFrame (sha256 : Sha256) (frame : PrivateFrame) :
    Except FrameError (ValidFrame sha256) :=
  if fields : frame.Fields then
    match exact : payloadIsExactAndBounded sha256 frame with
    | .ok () => .ok ⟨frame, fields, exact⟩
    | .error error => .error error
  else .error .fields

/-- `decoded_payload`. -/
def ValidFrame.decodedPayload {sha256 : Sha256} (valid : ValidFrame sha256) :
    Except FrameError (List UInt8) :=
  decodeBase64Payload valid.frame.payloadBase64

/-- `_resolve_attachment_digest`: the one digest that is given, or both when they are the same. -/
def resolveAttachmentDigest (attachmentDigest attachmentCredentialDigest : Option Text) :
    Except FrameError Text :=
  match attachmentDigest, attachmentCredentialDigest with
  | some digest, some credential =>
    if digest = credential then .ok digest else .error .attachmentsDiffer
  | some digest, none => if digest = [] then .error .attachmentMissing else .ok digest
  | none, some credential => .ok credential
  | none, none => .error .attachmentMissing

/-- The arguments of `PrivateFrame.issue`. -/
structure IssueArguments where
  kind : MessageKind
  requestId : Text
  traceId : Text
  runtimeGeneration : Int
  dispatcherGeneration : Int
  authorityDigest : Text
  deadlineUnixMs : Int
  attachmentDigest : Option Text
  attachmentCredentialDigest : Option Text
  payload : List UInt8
  protocolVersion : Text

/-- `PrivateFrame.issue`: the frame around a payload. -/
def issue (sha256 : Sha256) (arguments : IssueArguments) :
    Except FrameError (ValidFrame sha256) := do
  require (arguments.payload.length ≤ maxPrivatePayloadBytes) .payloadExceeds
  let attachmentDigest ← resolveAttachmentDigest arguments.attachmentDigest
    arguments.attachmentCredentialDigest
  validateFrame sha256
    { protocolVersion := arguments.protocolVersion
      kind := arguments.kind
      requestId := arguments.requestId
      traceId := arguments.traceId
      runtimeGeneration := arguments.runtimeGeneration
      dispatcherGeneration := arguments.dispatcherGeneration
      authorityDigest := arguments.authorityDigest
      payloadLength := arguments.payload.length
      payloadDigest := sha256.bytesDigest arguments.payload
      deadlineUnixMs := arguments.deadlineUnixMs
      attachmentDigest := attachmentDigest
      payloadBase64 := Base64.encode arguments.payload }

end Payloads

section Transport

/-- Which of the two peers reads or writes. -/
inductive Side where
  | supervisor
  | client

/-- What reading and writing lines raises. -/
inductive TransportError where
  | exceedsBound
  | endedMidFrame
  | endOfStream
  | containsNewline
  | encoding (error : Canonical.CanonicalError)
  | validation
  deriving DecidableEq

/-- The text of an error of either peer's own. -/
def TransportError.message (side : Side) : TransportError → Option String
  | .exceedsBound => match side with
    | .supervisor => some "private transport line exceeds disclosure bound"
    | .client => some "private response exceeds disclosure bound"
  | .endedMidFrame => match side with
    | .supervisor => some "private transport ended mid-frame"
    | .client => some "private response ended mid-frame"
  | .containsNewline => match side with
    | .supervisor => some "private transport payload contains a newline"
    | .client => some "private request contains a newline"
  | .endOfStream | .encoding _ | .validation => none

/-- The byte that ends a line. -/
def newline : UInt8 := 0x0a

/-- `_SocketLines`: the socket, and the bytes that were received and belong to no line yet. -/
structure SocketLines where
  buffer : List UInt8
  stream : Stream UInt8

/-- Everything that was written to a socket and is not read as a line yet. -/
def SocketLines.unread (lines : SocketLines) : List UInt8 :=
  lines.buffer ++ lines.stream.remaining

/-- `_SocketLines.receive`: the next line, of no more bytes than the bound. -/
def SocketLines.receive (maxBytes : Nat) (lines : SocketLines) :
    Except TransportError (List UInt8) × SocketLines :=
  match cut newline lines.buffer with
  | some (line, rest) =>
    (if line.length ≤ maxBytes then .ok line else .error .exceedsBound,
      { lines with buffer := rest })
  | none =>
    if maxBytes < lines.buffer.length then (.error .exceedsBound, lines)
    else
      let ended (stream : Stream UInt8) : Except TransportError (List UInt8) × SocketLines :=
        (if lines.buffer = [] then .error .endOfStream else .error .endedMidFrame,
          { lines with stream := stream })
      match _received : lines.stream.receive (min 65536 (maxBytes - lines.buffer.length + 1)) with
      | (none, stream) => ended stream
      | (some [], stream) => ended stream
      | (some (first :: rest), stream) =>
        receive maxBytes { buffer := lines.buffer ++ first :: rest, stream := stream }
termination_by lines.stream.remaining.length
decreasing_by
  rw [Stream.receive_split _received, List.length_append, List.length_cons]
  omega

/-- `_SocketLines.send`: what is written for a line. -/
def send (payload : List UInt8) : Except TransportError (List UInt8) := do
  require (newline ∉ payload) .containsNewline
  return payload ++ [newline]

/-- `_SocketLines.send_frame`: what is written for a frame. -/
def sendFrame (frame : PrivateFrame) : Except TransportError (List UInt8) :=
  match frame.canonicalBytes with
  | .ok payload => send payload
  | .error error => .error (.encoding error)

/-- What is written for one frame after the other. -/
def sendFrames : List PrivateFrame → Except TransportError (List UInt8)
  | [] => .ok []
  | frame :: rest => do
    let written ← sendFrame frame
    let others ← sendFrames rest
    return written ++ others

/-- The entry that a field takes: the one under the first of its names that is there. -/
def chosen (entries : List (Text × Value)) (names : List String) : Option (Text × Value) :=
  names.findSome? fun name => entries.find? fun entry => entry.1 = text name

/-- The names of each field. -/
def fieldNames : List (List String) :=
  [["schema_version"], ["protocol_version", "protocol"], ["kind", "message_kind"],
    ["request_id"], ["trace_id"], ["runtime_generation"], ["dispatcher_generation"],
    ["authority_digest"], ["payload_length"], ["payload_digest"], ["deadline_unix_ms"],
    ["attachment_digest", "attachment_credential_digest"],
    ["payload_base64", "payload_b64", "payload"]]

/-- The string that a value is. -/
def stringOf : Value → Option Text
  | .str content => some content
  | _ => none

/-- The integer that a value is. -/
def integerOf : Value → Option Int
  | .int number => some number
  | _ => none

/-- The kind that a text is the literal of. -/
def kindOf (content : Text) : Option MessageKind :=
  [MessageKind.attach, .attached, .grantIssue, .grantIssued, .grantRevoke, .grantRevoked,
    .mcpRequest, .mcpResponse, .error].find? fun kind => content = text kind.literal

/-- The string of a field. -/
def stringField (entries : List (Text × Value)) (names : List String) : Option Text := do
  let entry ← chosen entries names
  stringOf entry.2

/-- The integer of a field. -/
def integerField (entries : List (Text × Value)) (names : List String) : Option Int := do
  let entry ← chosen entries names
  integerOf entry.2

/-- The string of a field that has a default. -/
def stringOr (entries : List (Text × Value)) (names : List String) (default : Text) :
    Option Text :=
  match chosen entries names with
  | some entry => stringOf entry.2
  | none => some default

/-- The fields of a document, as the model declares them: each has its name or an alias, there is
no other entry, and strings and integers are not taken for each other. -/
def readFields : Value → Option PrivateFrame
  | .obj entries => do
    guard (entries.all fun entry =>
      fieldNames.any fun names => (chosen entries names).map Prod.fst = some entry.1)
    let schemaVersion ← stringOr entries ["schema_version"] supervisorSchemaVersion
    guard (schemaVersion = supervisorSchemaVersion)
    let protocolVersion ← stringOr entries ["protocol_version", "protocol"]
      supervisorProtocolVersion
    let literal ← stringField entries ["kind", "message_kind"]
    let kind ← kindOf literal
    let requestId ← stringField entries ["request_id"]
    let traceId ← stringField entries ["trace_id"]
    let runtimeGeneration ← integerField entries ["runtime_generation"]
    let dispatcherGeneration ← integerField entries ["dispatcher_generation"]
    let authorityDigest ← stringField entries ["authority_digest"]
    let payloadLength ← integerField entries ["payload_length"]
    let payloadDigest ← stringField entries ["payload_digest"]
    let deadlineUnixMs ← integerField entries ["deadline_unix_ms"]
    let attachmentDigest ← stringField entries
      ["attachment_digest", "attachment_credential_digest"]
    let payloadBase64 ← stringField entries ["payload_base64", "payload_b64", "payload"]
    return { protocolVersion, kind, requestId, traceId, runtimeGeneration, dispatcherGeneration,
             authorityDigest, payloadLength, payloadDigest, deadlineUnixMs, attachmentDigest,
             payloadBase64 }
  | _ => none

/-- How the bytes of a document are read as the fields of a frame. -/
structure Reading where
  fields : List UInt8 → Option PrivateFrame

/-- A strict JSON object of scalars is read as its fields; of other documents nothing is said. -/
def Reading.Documented (reading : Reading) : Prop :=
  ∀ line value, Canonical.parse 1 line = some value → reading.fields line = readFields value

/-- `model_validate_json`: the frame that a document is. -/
def validateJson (sha256 : Sha256) (reading : Reading) (line : List UInt8) :
    Except TransportError (ValidFrame sha256) :=
  match reading.fields line with
  | none => .error .validation
  | some frame =>
    match validateFrame sha256 frame with
    | .ok valid => .ok valid
    | .error _ => .error .validation

/-- `_SocketLines.receive_frame`: the next frame. -/
def SocketLines.receiveFrame (sha256 : Sha256) (reading : Reading) (lines : SocketLines) :
    Except TransportError (ValidFrame sha256) × SocketLines :=
  match lines.receive maxFrameLineBytes with
  | (.ok line, lines) => (validateJson sha256 reading line, lines)
  | (.error error, lines) => (.error error, lines)

/-- One line after the other, each with a bound of its own. -/
def SocketLines.receiveAll (lines : SocketLines) :
    List Nat → Except TransportError (List (List UInt8)) × SocketLines
  | [] => (.ok [], lines)
  | maxBytes :: bounds =>
    match lines.receive maxBytes with
    | (.error error, lines) => (.error error, lines)
    | (.ok line, lines) =>
      match lines.receiveAll bounds with
      | (.error error, lines) => (.error error, lines)
      | (.ok others, lines) => (.ok (line :: others), lines)

/-- So many frames, one after the other. -/
def SocketLines.receiveFrames (sha256 : Sha256) (reading : Reading) (lines : SocketLines) :
    Nat → Except TransportError (List (ValidFrame sha256)) × SocketLines
  | 0 => (.ok [], lines)
  | count + 1 =>
    match lines.receiveFrame sha256 reading with
    | (.error error, lines) => (.error error, lines)
    | (.ok frame, lines) =>
      match lines.receiveFrames sha256 reading count with
      | (.error error, lines) => (.error error, lines)
      | (.ok others, lines) => (.ok (frame :: others), lines)

end Transport

end Aar.Supervisor.Wire
