import Aar.Supervisor.PrivateFrames
import Aar.Lib.Dictionary
import Aar.Proofs.Canonical
import Mathlib.Algebra.Order.BigOperators.Group.List
import Mathlib.Algebra.Group.Action.Defs
import Mathlib.Algebra.Order.Ring.Nat

/-! Private frames survive the wire, however it cuts the bytes into chunks. -/

namespace Aar.Supervisor.Wire

open Guarded Utf8 StrictJson Chunked

section Lines

variable {maxBytes : Nat} {lines : SocketLines} {line rest : List UInt8}

theorem cut_buffer (found : cut newline lines.buffer = some (line, rest)) :
    cut newline lines.unread = some (line, rest ++ lines.stream.remaining) := by
  obtain ⟨apart, same⟩ := cut_eq_some.mp found
  refine cut_eq_some.mpr ⟨apart, ?_⟩
  rw [SocketLines.unread, same, List.append_assoc]
  rfl

/-- A buffer without the end of a line is the start of a line. -/
theorem buffer_length_le (absent : newline ∉ lines.buffer)
    (same : lines.unread = line ++ newline :: rest) : lines.buffer.length ≤ line.length := by
  by_contra long
  -- Otherwise the end of the line would stand in the buffer.
  have inside : lines.unread[line.length]? = some newline := by
    rw [same]
    simp
  rw [SocketLines.unread, List.getElem?_append_left (Nat.not_le.mp long)] at inside
  exact absent (List.mem_of_getElem? inside)

/-- What reading a line gives for what is unread: the line up to the first newline, if it is not
longer than the bound, and an error otherwise. -/
def Line (maxBytes : Nat) (unread : List UInt8)
    (result : Except TransportError (List UInt8) × SocketLines) : Prop :=
  match cut newline unread with
  | some (line, rest) =>
    if line.length ≤ maxBytes then result.1 = .ok line ∧ result.2.unread = rest
    else result.1 = .error .exceedsBound
  | none =>
    if unread = [] then result.1 = .error .endOfStream
    else result.1 = .error .endedMidFrame ∨ result.1 = .error .exceedsBound

/-- At the end of the stream only the buffer decides. -/
theorem line_ended {stream : Stream UInt8} (absent : cut newline lines.buffer = none)
    (empty : lines.stream.remaining = []) :
    Line maxBytes lines.unread
      (if lines.buffer = [] then .error .endOfStream else .error .endedMidFrame,
        { lines with stream := stream }) := by
  have same : lines.unread = lines.buffer := by rw [SocketLines.unread, empty, List.append_nil]
  rw [Line, same, absent]
  by_cases nothing : lines.buffer = []
  · simp [nothing]
  · simp [nothing]

/-- What is read depends on everything that is unread, and not on how it is cut into chunks. -/
theorem receive_line (maxBytes : Nat) (lines : SocketLines) :
    Line maxBytes lines.unread (lines.receive maxBytes) := by
  -- The induction follows the calls of the transport; every call moves bytes to the buffer.
  fun_induction SocketLines.receive maxBytes lines with
  | case1 lines line rest found =>
    rw [Line, cut_buffer found]
    by_cases short : line.length ≤ maxBytes
    · simp [short, SocketLines.unread]
    · simp [short]
  | case2 lines absent long =>
    -- The buffer alone is longer than the bound, so the line is.
    rw [Line]
    cases found : cut newline lines.unread with
    | none =>
      have nonempty : lines.unread ≠ [] := by
        intro empty
        rw [(List.append_eq_nil_iff.mp empty).1] at long
        exact absurd long (Nat.not_lt_zero _)
      simp [nonempty]
    | some parts =>
      obtain ⟨-, same⟩ := cut_eq_some.mp found
      have start := buffer_length_le (cut_eq_none.mp absent) same
      have exceeds : ¬ parts.1.length ≤ maxBytes := by omega
      simp only [exceeds, if_false]
  | case3 lines absent short ended stream received =>
    exact line_ended absent (Stream.receive_none received).1
  | case4 lines absent short ended stream received =>
    refine line_ended absent ?_
    by_contra some_left
    exact Stream.receive_nonempty received some_left rfl
  | case5 lines absent short first rest stream received ih =>
    have same : ({ buffer := lines.buffer ++ first :: rest, stream := stream } :
        SocketLines).unread = lines.unread := by
      rw [SocketLines.unread, SocketLines.unread, Stream.receive_split received,
        List.append_assoc]
    rw [same] at ih
    exact ih

end Lines

section Bytes

variable {frame : PrivateFrame} {bytes : List UInt8}

/-- A token is plain. -/
theorem plain_token {token : Text} (valid : OpaqueToken token) :
    Plain token ∧ token.length ≤ 128 := by
  have character {point : Code} (allowed : TokenCharacter point) :
      0x20 ≤ point.val ∧ point.val < 0x7f ∧ point.val ≠ 0x22 ∧ point.val ≠ 0x5c := by
    simp only [TokenCharacter, Alphanumeric, Digit, List.mem_cons, List.not_mem_nil, or_false]
      at allowed
    omega
  cases token with
  | nil => exact valid.elim
  | cons first rest =>
    obtain ⟨start, short, others⟩ := valid
    refine ⟨List.forall_mem_cons.mpr ⟨character (.inl start), fun point member => ?_⟩, ?_⟩
    · exact character (of_decide_eq_true (List.all_eq_true.mp others point member))
    · rw [List.length_cons]
      omega

/-- A digest is plain. -/
theorem plain_digest {digest : Text} (valid : Digest digest) :
    Plain digest ∧ digest.length = 71 := by
  obtain ⟨name, long, digits⟩ := valid
  have split : digest = text "sha256:" ++ digest.drop 7 := by
    rw [← name, List.take_append_drop]
  have first : Plain (text "sha256:") := by decide
  refine ⟨?_, ?_⟩
  · rw [split]
    refine List.forall_mem_append.mpr ⟨first, fun point member => ?_⟩
    have digit := of_decide_eq_true (List.all_eq_true.mp digits point member)
    unfold HexDigit Digit at digit
    omega
  · rw [split, List.length_append, long]
    rfl

theorem plain_kind (kind : MessageKind) :
    Plain (text kind.literal) ∧ (text kind.literal).length ≤ 13 := by
  cases kind <;> exact ⟨by decide, by decide⟩

theorem counter_size {value : Int} (low : 0 ≤ value) (high : value ≤ 9223372036854775807) :
    size (write (.int value)) ≤ 19 := by
  rw [size_int low]
  refine @decimal_length _ 18 ?_
  omega

theorem plain_base64 (payload : List UInt8) : Plain (Base64.encode payload) := by
  intro point member
  have letter := Base64.encode_plain payload point member
  omega

/-- The text of a payload is plain when the payload is exact. -/
theorem plain_payload {sha256 : Sha256} (exact : payloadIsExactAndBounded sha256 frame = .ok ()) :
    ∃ payload, decodeBase64Payload frame.payloadBase64 = .ok payload ∧
      frame.payloadBase64 = Base64.encode payload ∧ payload.length ≤ maxPrivatePayloadBytes ∧
      frame.payloadLength = payload.length ∧ frame.payloadDigest = sha256.bytesDigest payload := by
  simp only [payloadIsExactAndBounded, bind_ok, require_ok] at exact
  obtain ⟨payload, decoded, _, bounded, _, length, digest⟩ := exact
  have canonical := decoded
  simp only [decodeBase64Payload, bind_ok, require_ok, orRaise_ok, pure_ok] at canonical
  obtain ⟨_, _, found, _, _, same, rfl⟩ := canonical
  exact ⟨_, decoded, same.symm, bounded, length, digest⟩

/-- The names of the fields of a frame. -/
def frameKeys : List Text :=
  ["schema_version", "protocol_version", "kind", "request_id", "trace_id", "runtime_generation",
    "dispatcher_generation", "authority_digest", "payload_length", "payload_digest",
    "deadline_unix_ms", "attachment_digest", "payload_base64"].map text

theorem plain_key {entry : Text × Value} (member : entry ∈ frame.entries) :
    Plain entry.1 ∧ entry.1.length ≤ 21 := by
  have each : ∀ key ∈ frameKeys, Plain key ∧ key.length ≤ 21 := by
    simp only [frameKeys, List.map_cons, List.map_nil, List.forall_mem_cons]
    decide
  exact each entry.1 (List.mem_map_of_mem member)

theorem dump_distinct (frame : PrivateFrame) : frame.dump.Distinct := by
  have keys : frameKeys.Nodup := by decide
  refine ⟨keys, ?_⟩
  simp [PrivateFrame.entries, DistinctEntries, Value.Distinct]

/-- The fields of a frame but its payload. -/
def PrivateFrame.header (frame : PrivateFrame) : List (Text × Value) := frame.entries.dropLast

theorem entries_split (frame : PrivateFrame) : frame.entries =
    frame.header ++ [(text "payload_base64", .str frame.payloadBase64)] := rfl

/-- The values of a header are short plain strings and counters. -/
theorem header_value (fields : frame.Fields) : ∀ entry ∈ frame.header,
    (∃ content, entry.2 = .str content ∧ Plain content ∧ content.length ≤ 128) ∨
      ∃ number, entry.2 = .int number ∧ size (write (.int number)) ≤ 19 := by
  have token {content : Text} (valid : OpaqueToken content) :
      ∃ other, Value.str content = .str other ∧ Plain other ∧ other.length ≤ 128 :=
    ⟨content, rfl, plain_token valid⟩
  have digest {content : Text} (valid : Digest content) :
      ∃ other, Value.str content = .str other ∧ Plain other ∧ other.length ≤ 128 := by
    obtain ⟨plain, long⟩ := plain_digest valid
    exact ⟨content, rfl, plain, by omega⟩
  have counter {value : Int} (valid : PositiveCounter value) :
      ∃ number, Value.int value = .int number ∧ size (write (.int number)) ≤ 19 := by
    obtain ⟨low, high⟩ := valid
    exact ⟨value, rfl, counter_size (by omega) high⟩
  obtain ⟨plain, short⟩ := plain_kind frame.kind
  have length : size (write (.int frame.payloadLength)) ≤ 19 := by
    obtain ⟨low, high⟩ := fields.payloadLength
    refine counter_size low (high.trans ?_)
    decide
  have header : frame.header = [(text "schema_version", .str supervisorSchemaVersion),
      (text "protocol_version", .str frame.protocolVersion),
      (text "kind", .str (text frame.kind.literal)), (text "request_id", .str frame.requestId),
      (text "trace_id", .str frame.traceId),
      (text "runtime_generation", .int frame.runtimeGeneration),
      (text "dispatcher_generation", .int frame.dispatcherGeneration),
      (text "authority_digest", .str frame.authorityDigest),
      (text "payload_length", .int frame.payloadLength),
      (text "payload_digest", .str frame.payloadDigest),
      (text "deadline_unix_ms", .int frame.deadlineUnixMs),
      (text "attachment_digest", .str frame.attachmentDigest)] := rfl
  rw [header, fields.protocolVersion]
  simp only [List.forall_mem_cons]
  exact ⟨.inl ⟨_, rfl, by decide, by decide⟩, .inl ⟨_, rfl, by decide, by decide⟩,
    .inl ⟨_, rfl, plain, by omega⟩, .inl (token fields.requestId), .inl (token fields.traceId),
    .inr (counter fields.runtimeGeneration), .inr (counter fields.dispatcherGeneration),
    .inl (digest fields.authorityDigest), .inr ⟨_, rfl, length⟩,
    .inl (digest fields.payloadDigest), .inr (counter fields.deadlineUnixMs),
    .inl (digest fields.attachmentDigest), fun _ member => by cases member⟩

/-- The strings of a dump have no surrogates. -/
theorem dump_encodable (fields : frame.Fields) (payload : Plain frame.payloadBase64) :
    frame.dump.Encodable := by
  refine encodableEntries_iff.mpr fun entry member => ?_
  refine ⟨whole_plain (plain_key member).1, ?_⟩
  rw [entries_split] at member
  rcases List.mem_append.mp member with inside | last
  · rcases header_value fields entry inside with ⟨content, same, plain, -⟩ | ⟨number, same, -⟩
    · rw [same]
      exact whole_plain plain
    · rw [same]
      trivial
  · rw [List.mem_singleton.mp last]
    exact whole_plain payload

/-- A dump is short enough for a line, whatever payload it carries. -/
theorem dump_size (fields : frame.Fields) (payload : Plain frame.payloadBase64) :
    size (write frame.dump.sorted) ≤ maxFrameLineBytes := by
  -- Each entry of the header is at most 200 bytes, and the payload is within its own bound.
  have small : ∀ bytes ∈ frame.header.map
      (fun entry => size (writeKey entry.1) + size (write entry.2) + 1), bytes ≤ 200 := by
    intro bytes member
    obtain ⟨entry, inside, rfl⟩ := List.mem_map.mp member
    obtain ⟨plain, short⟩ := @plain_key frame entry (by
      rw [entries_split]
      exact List.mem_append_left _ inside)
    rw [size_key plain]
    rcases header_value fields entry inside with ⟨content, same, other, long⟩ | ⟨number, same, long⟩
    · rw [same, size_plain other]
      omega
    · rw [same]
      omega
  have header := List.sum_le_card_nsmul _ _ small
  rw [List.length_map, smul_eq_mul, show frame.header.length = 12 from rfl] at header
  have named : Plain (text "payload_base64") := by decide
  have key : size (writeKey (text "payload_base64")) = 17 := size_key named
  have sorted : frame.dump.sorted = .obj (sortEntries frame.entries) := rfl
  have total := @size_object frame.entries (by simp [PrivateFrame.entries])
  rw [entries_split, List.map_append, List.sum_append] at total
  have bound := fields.payloadBase64
  rw [sorted, entries_split, total]
  simp only [List.map_cons, List.map_nil, List.sum_cons, List.sum_nil, key, size_plain payload]
  unfold maxFrameLineBytes
  omega

/-- The canonical bytes of a frame are one line within the bound of lines. -/
theorem canonicalBytes_line (fields : frame.Fields) (payload : Plain frame.payloadBase64) :
    ∃ bytes, frame.canonicalBytes = .ok bytes ∧ newline ∉ bytes ∧
      bytes.length ≤ maxFrameLineBytes := by
  have whole : Whole (write frame.dump.sorted) := by
    rw [whole_write, Value.encodable_sorted]
    exact dump_encodable fields payload
  refine ⟨encodeAll (write frame.dump.sorted), ?_, ?_, dump_size fields payload⟩
  · exact Canonical.canonicalJsonBytes_ok.mpr ⟨frame.dump,
      Canonical.jsonValue_ofJson (dump_distinct frame), encode_eq_some.mpr ⟨whole, rfl⟩⟩
  · intro member
    have printable := encodeAll_printable (write_printable _) newline member
    exact absurd printable (by decide)

end Bytes

section Documents

variable {entries : List (Text × Value)} {name : String} {others : List String} {value : Value}

theorem chosen_first (keys : (entries.map Prod.fst).Nodup)
    (member : (text name, value) ∈ entries) :
    chosen entries (name :: others) = some (text name, value) := by
  have found := Dictionary.find_of_mem keys member
  rw [chosen, List.findSome?_cons, found]

theorem kindOf_literal (kind : MessageKind) : kindOf (text kind.literal) = some kind := by
  cases kind <;> decide

/-- Each entry of a frame stands under the first name of a field. -/
theorem entries_named (frame : PrivateFrame) : ∀ entry ∈ frame.entries,
    ∃ name others, name :: others ∈ fieldNames ∧ entry.1 = text name := by
  have each : ∀ key ∈ frameKeys, ∃ names ∈ fieldNames, names.head?.map text = some key := by
    simp only [frameKeys, List.map_cons, List.map_nil, List.forall_mem_cons]
    decide
  intro entry member
  obtain ⟨names, listed, first⟩ := each entry.1 (List.mem_map_of_mem member)
  cases names with
  | nil => cases first
  | cons name others => exact ⟨name, others, listed, (Option.some.inj first).symm⟩

theorem entries_shallow (frame : PrivateFrame) : ∀ entry ∈ frame.entries, entry.2.depth ≤ 0 := by
  simp [PrivateFrame.entries, Value.depth]

/-- A dump in any order of its keys is read as the frame that it is the dump of. -/
theorem readFields_entries {frame : PrivateFrame} (keys : (entries.map Prod.fst).Nodup)
    (same : ∀ entry, entry ∈ entries ↔ entry ∈ frame.entries) :
    readFields (.obj entries) = some frame := by
  have all : entries.all (fun entry =>
      fieldNames.any fun names => (chosen entries names).map Prod.fst = some entry.1) = true := by
    refine List.all_eq_true.mpr fun entry member => List.any_eq_true.mpr ?_
    obtain ⟨name, others, listed, named⟩ := entries_named frame entry ((same entry).mp member)
    have found := @chosen_first _ _ others entry.2 keys (by rw [← named]; exact member)
    refine ⟨_, listed, ?_⟩
    rw [found, named]
    simp
  have take (name : String) (others : List String) (value : Value)
      (member : (text name, value) ∈ frame.entries) :
      chosen entries (name :: others) = some (text name, value) :=
    chosen_first keys ((same _).mpr member)
  have one := take "schema_version" [] (.str supervisorSchemaVersion) (by
    simp [PrivateFrame.entries])
  have two := take "protocol_version" ["protocol"] (.str frame.protocolVersion) (by
    simp [PrivateFrame.entries])
  have three := take "kind" ["message_kind"] (.str (text frame.kind.literal)) (by
    simp [PrivateFrame.entries])
  have four := take "request_id" [] (.str frame.requestId) (by simp [PrivateFrame.entries])
  have five := take "trace_id" [] (.str frame.traceId) (by simp [PrivateFrame.entries])
  have six := take "runtime_generation" [] (.int frame.runtimeGeneration) (by
    simp [PrivateFrame.entries])
  have seven := take "dispatcher_generation" [] (.int frame.dispatcherGeneration) (by
    simp [PrivateFrame.entries])
  have eight := take "authority_digest" [] (.str frame.authorityDigest) (by
    simp [PrivateFrame.entries])
  have nine := take "payload_length" [] (.int frame.payloadLength) (by
    simp [PrivateFrame.entries])
  have ten := take "payload_digest" [] (.str frame.payloadDigest) (by
    simp [PrivateFrame.entries])
  have eleven := take "deadline_unix_ms" [] (.int frame.deadlineUnixMs) (by
    simp [PrivateFrame.entries])
  have twelve := take "attachment_digest" ["attachment_credential_digest"]
    (.str frame.attachmentDigest) (by simp [PrivateFrame.entries])
  have last := take "payload_base64" ["payload_b64", "payload"] (.str frame.payloadBase64) (by
    simp [PrivateFrame.entries])
  simp only [readFields, all, stringOr, stringField, integerField, one, two, three, four, five,
    six, seven, eight, nine, ten, eleven, twelve, last, stringOf, integerOf, kindOf_literal,
    guard_true, Option.bind_eq_bind, Option.bind_some, Option.pure_def]

end Documents

section Reading

variable {sha256 : Sha256} {reading : Reading} {lines : SocketLines} {maxBytes : Nat}
  {line rest : List UInt8}

/-- A line within the bound is read, and what follows it stays unread. -/
theorem receive_ok (apart : newline ∉ line) (same : lines.unread = line ++ newline :: rest)
    (short : line.length ≤ maxBytes) :
    ∃ after, lines.receive maxBytes = (.ok line, after) ∧ after.unread = rest := by
  have read := receive_line maxBytes lines
  rw [Line, cut_eq_some.mpr ⟨apart, same⟩] at read
  simp only [short, if_true] at read
  exact ⟨_, Prod.ext read.1 rfl, read.2⟩

theorem receive_exceeds (apart : newline ∉ line) (same : lines.unread = line ++ newline :: rest)
    (long : maxBytes < line.length) : (lines.receive maxBytes).1 = .error .exceedsBound := by
  have read := receive_line maxBytes lines
  rw [Line, cut_eq_some.mpr ⟨apart, same⟩] at read
  simpa only [Nat.not_le.mpr long, if_false] using read

theorem receive_inside (absent : newline ∉ lines.unread) (some_left : lines.unread ≠ []) :
    (lines.receive maxBytes).1 = .error .endedMidFrame ∨
      (lines.receive maxBytes).1 = .error .exceedsBound := by
  have read := receive_line maxBytes lines
  rw [Line, cut_eq_none.mpr absent] at read
  simpa only [some_left, if_false] using read

/-- Lines as they are written. -/
def written (lines : List (List UInt8)) : List UInt8 := lines.flatMap fun line => line ++ [newline]

theorem written_cons (line : List UInt8) (others : List (List UInt8)) (later : List UInt8) :
    written (line :: others) ++ later = line ++ newline :: (written others ++ later) := by
  simp [written]

/-- Lines are read as they were written, each of them within the bound that it is read with. -/
theorem receiveAll_written (first : List (Nat × List UInt8))
    (fit : ∀ pair ∈ first, newline ∉ pair.2 ∧ pair.2.length ≤ pair.1) (later : List UInt8)
    (lines : SocketLines) (unread : lines.unread = written (first.map Prod.snd) ++ later) :
    ∃ after, lines.receiveAll (first.map Prod.fst) = (.ok (first.map Prod.snd), after) ∧
      after.unread = later := by
  -- The induction is on the lines; each of them leaves the others unread.
  induction first generalizing lines with
  | nil => exact ⟨lines, rfl, unread⟩
  | cons pair others ih =>
    obtain ⟨bound, line⟩ := pair
    obtain ⟨⟨apart, short⟩, further⟩ := List.forall_mem_cons.mp fit
    rw [List.map_cons, written_cons] at unread
    obtain ⟨between, read, left⟩ := receive_ok apart unread short
    obtain ⟨after, readOthers, leftOthers⟩ := ih further between left
    refine ⟨after, ?_, leftOthers⟩
    simp only [List.map_cons, SocketLines.receiveAll, read, readOthers]

theorem validateFrame_valid (valid : ValidFrame sha256) :
    validateFrame sha256 valid.frame = .ok valid := by
  rw [validateFrame, dif_pos valid.fields]
  split
  · rfl
  · next error exact =>
    rw [valid.exact] at exact
    cases exact

theorem validateFrame_ok {frame : PrivateFrame} {valid : ValidFrame sha256}
    (validated : validateFrame sha256 frame = .ok valid) : valid.frame = frame := by
  unfold validateFrame at validated
  split at validated
  · split at validated
    · obtain rfl := Except.ok.inj validated
      rfl
    · cases validated
  · cases validated

/-- A valid frame is written as one line within the bound. -/
theorem sendFrame_ok (valid : ValidFrame sha256) :
    ∃ bytes, valid.frame.canonicalBytes = .ok bytes ∧
      sendFrame valid.frame = .ok (bytes ++ [newline]) ∧ newline ∉ bytes ∧
        bytes.length ≤ maxFrameLineBytes := by
  have plain : Plain valid.frame.payloadBase64 := by
    obtain ⟨payload, _, encoded, _⟩ := plain_payload valid.exact
    rw [encoded]
    exact plain_base64 payload
  obtain ⟨bytes, made, apart, short⟩ := canonicalBytes_line valid.fields plain
  refine ⟨bytes, made, ?_, apart, short⟩
  have sent : send bytes = .ok (bytes ++ [newline]) := by
    rw [send, bind_ok]
    exact ⟨(), require_ok.mpr apart, rfl⟩
  unfold sendFrame
  rw [made]
  exact sent

/-- The bytes of a valid frame are read as that frame. -/
theorem validateJson_canonical (documented : reading.Documented) (valid : ValidFrame sha256)
    {bytes : List UInt8} (made : valid.frame.canonicalBytes = .ok bytes) :
    validateJson sha256 reading bytes = .ok valid := by
  have distinct := dump_distinct valid.frame
  obtain ⟨value, normal, encoded⟩ := Canonical.canonicalJsonBytes_ok.mp made
  have same : valid.frame.dump = value := by
    have dumped := Canonical.jsonValue_ofJson distinct
    exact Except.ok.inj (dumped.symm.trans normal)
  subst same
  have sorted : valid.frame.dump.sorted = .obj (sortEntries valid.frame.entries) := rfl
  have shallow : valid.frame.dump.sorted.depth ≤ 1 := by
    rw [sorted]
    refine Nat.succ_le_succ (depthEntries_le fun entry member => ?_)
    exact entries_shallow valid.frame entry (mem_sortEntries.mp member)
  have parsed := Canonical.parse_canonical distinct encoded shallow
  have read : reading.fields bytes = some valid.frame := by
    rw [documented _ _ parsed, sorted]
    exact readFields_entries (sortEntries_keys.mpr distinct.1) fun _ => mem_sortEntries
  simp only [validateJson, read, validateFrame_valid]

/-- A payload is the line of a frame: its canonical bytes, within the bound, and read as it. -/
structure LineOf (sha256 : Sha256) (reading : Reading) (valid : ValidFrame sha256)
    (payload : List UInt8) : Prop where
  canonical : valid.frame.canonicalBytes = .ok payload
  read : validateJson sha256 reading payload = .ok valid
  apart : newline ∉ payload
  short : payload.length ≤ maxFrameLineBytes

/-- Frames are written as lines, and these lines are read as these frames. -/
theorem receiveFrames_sent (documented : reading.Documented) (frames : List (ValidFrame sha256)) :
    ∃ payloads, List.Forall₂ (LineOf sha256 reading) frames payloads ∧
      sendFrames (frames.map ValidFrame.frame) = .ok (written payloads) ∧
      ∀ (later : List UInt8) (lines : SocketLines), lines.unread = written payloads ++ later →
        ∃ after, lines.receiveFrames sha256 reading frames.length = (.ok frames, after) ∧
          after.unread = later := by
  -- The induction is on the frames, as they are written and as they are read.
  induction frames with
  | nil => exact ⟨[], .nil, rfl, fun later lines unread => ⟨lines, rfl, unread⟩⟩
  | cons valid others ih =>
    obtain ⟨payloads, lines, sent, received⟩ := ih
    obtain ⟨payload, made, one, apart, short⟩ := sendFrame_ok valid
    have read := validateJson_canonical documented valid made
    refine ⟨payload :: payloads, .cons ⟨made, read, apart, short⟩ lines, ?_, ?_⟩
    · rw [List.map_cons, sendFrames, bind_ok]
      refine ⟨_, one, bind_ok.mpr ⟨_, sent, ?_⟩⟩
      simp [written]
    · intro later lines unread
      rw [written_cons] at unread
      obtain ⟨between, first, left⟩ := receive_ok apart unread short
      obtain ⟨after, readOthers, leftOthers⟩ := received later between left
      refine ⟨after, ?_, leftOthers⟩
      simp only [List.length_cons, SocketLines.receiveFrames, SocketLines.receiveFrame, first,
        read, readOthers]

/-- A frame that was issued carries the payload that it was issued for. -/
theorem issue_payload {arguments : IssueArguments} {valid : ValidFrame sha256}
    (issued : issue sha256 arguments = .ok valid) :
    valid.decodedPayload = .ok arguments.payload := by
  simp only [issue, bind_ok, require_ok] at issued
  obtain ⟨_, _, attachment, _, validated⟩ := issued
  have same := congrArg PrivateFrame.payloadBase64 (validateFrame_ok validated)
  obtain ⟨payload, decoded, encoded, -⟩ := plain_payload valid.exact
  rw [ValidFrame.decodedPayload, decoded]
  exact congrArg _ (Base64.encode_injective (encoded.symm.trans same))

/-- A document is accepted only if the payload that its text encodes has its length and digest. -/
theorem validateJson_ok {valid : ValidFrame sha256}
    (accepted : validateJson sha256 reading line = .ok valid) :
    reading.fields line = some valid.frame := by
  unfold validateJson at accepted
  cases read : reading.fields line with
  | none =>
    rw [read] at accepted
    cases accepted
  | some frame =>
    simp only [read] at accepted
    cases validated : validateFrame sha256 frame with
    | error error =>
      rw [validated] at accepted
      cases accepted
    | ok other =>
      rw [validated] at accepted
      obtain rfl := Except.ok.inj accepted
      rw [validateFrame_ok validated]

/-- A document that is not accepted is refused as invalid. -/
theorem validateJson_error
    (refused : ∀ valid : ValidFrame sha256, reading.fields line = some valid.frame → False) :
    validateJson sha256 reading line = .error .validation := by
  cases result : validateJson sha256 reading line with
  | ok valid => exact (refused valid (validateJson_ok result)).elim
  | error error =>
    unfold validateJson at result
    split at result
    · exact result.symm
    · split at result
      · cases result
      · exact result.symm

end Reading

section Alterations

variable {sha256 : Sha256} {reading : Reading} {line : List UInt8}

/-- A document with another length is refused. -/
theorem altered_length (valid : ValidFrame sha256) {length : Int}
    (other : length ≠ valid.frame.payloadLength)
    (read : reading.fields line = some { valid.frame with payloadLength := length }) :
    validateJson sha256 reading line = .error .validation := by
  refine validateJson_error fun accepted same => other ?_
  obtain ⟨payload, decoded, _, _, long, _⟩ := plain_payload valid.exact
  obtain ⟨again, decodedAgain, _, _, longAgain, _⟩ := plain_payload accepted.exact
  have frame := Option.some.inj (read.symm.trans same)
  rw [← frame] at decodedAgain longAgain
  obtain rfl := Except.ok.inj (decoded.symm.trans decodedAgain)
  exact longAgain.trans long.symm

/-- A document with another digest is refused. -/
theorem altered_digest (valid : ValidFrame sha256) {digest : Text}
    (other : digest ≠ valid.frame.payloadDigest)
    (read : reading.fields line = some { valid.frame with payloadDigest := digest }) :
    validateJson sha256 reading line = .error .validation := by
  refine validateJson_error fun accepted same => other ?_
  obtain ⟨payload, decoded, _, _, _, hashed⟩ := plain_payload valid.exact
  obtain ⟨again, decodedAgain, _, _, _, hashedAgain⟩ := plain_payload accepted.exact
  have frame := Option.some.inj (read.symm.trans same)
  rw [← frame] at decodedAgain hashedAgain
  obtain rfl := Except.ok.inj (decoded.symm.trans decodedAgain)
  exact hashedAgain.trans hashed.symm

/-- A document with another text is refused, unless it is the text of another payload with the
same length and the same digest. -/
theorem altered_base64 (valid : ValidFrame sha256) {payload : List UInt8} {content : Text}
    (decoded : valid.decodedPayload = .ok payload) (other : content ≠ valid.frame.payloadBase64)
    (read : reading.fields line = some { valid.frame with payloadBase64 := content })
    (alone : ∀ another, content = Base64.encode another → another.length = payload.length →
      sha256.bytesDigest another = sha256.bytesDigest payload → another = payload) :
    validateJson sha256 reading line = .error .validation := by
  refine validateJson_error fun accepted same => other ?_
  obtain ⟨_, decodedFirst, encoded, _, long, hashed⟩ := plain_payload valid.exact
  obtain rfl := Except.ok.inj (decodedFirst.symm.trans decoded)
  obtain ⟨again, _, encodedAgain, _, longAgain, hashedAgain⟩ := plain_payload accepted.exact
  have frame := Option.some.inj (read.symm.trans same)
  rw [← frame] at encodedAgain longAgain hashedAgain
  have lengths : again.length = _ := Int.ofNat.inj (longAgain.symm.trans long)
  obtain rfl := alone again encodedAgain lengths (hashedAgain.symm.trans hashed)
  exact encodedAgain.trans encoded.symm

end Alterations

section Survival

/-- Frames that were issued are received as they were sent, with the payloads that they were
issued for, however the transport cuts the bytes and whatever lines were read before them with
bounds of their own. A line is accepted exactly up to its bound, a stream that ends inside a line
is an error, and a document whose length, digest or text was altered is refused. -/
theorem frames_survive {sha256 : Sha256} {reading : Reading} (documented : reading.Documented) :
    (∀ issued : List (IssueArguments × ValidFrame sha256),
      (∀ pair ∈ issued, issue sha256 pair.1 = .ok pair.2) →
        ∃ payloads, List.Forall₂ (LineOf sha256 reading) (issued.map Prod.snd) payloads ∧
          sendFrames (issued.map fun pair => pair.2.frame) = .ok (written payloads) ∧
          ∀ first : List (Nat × List UInt8),
            (∀ pair ∈ first, newline ∉ pair.2 ∧ pair.2.length ≤ pair.1) →
            ∀ (later : List UInt8) (lines : SocketLines),
              lines.unread = written (first.map Prod.snd) ++ (written payloads ++ later) →
              ∃ between after,
                lines.receiveAll (first.map Prod.fst) = (.ok (first.map Prod.snd), between) ∧
                between.receiveFrames sha256 reading issued.length =
                  (.ok (issued.map Prod.snd), after) ∧
                after.unread = later ∧
                ∀ pair ∈ issued, pair.2.decodedPayload = .ok pair.1.payload) ∧
    (∀ (maxBytes : Nat) (lines : SocketLines) (line rest : List UInt8), newline ∉ line →
      lines.unread = line ++ newline :: rest →
        (line.length ≤ maxBytes →
          ∃ after, lines.receive maxBytes = (.ok line, after) ∧ after.unread = rest) ∧
        (maxBytes < line.length → (lines.receive maxBytes).1 = .error .exceedsBound)) ∧
    (∀ (maxBytes : Nat) (lines : SocketLines), newline ∉ lines.unread → lines.unread ≠ [] →
      (lines.receive maxBytes).1 = .error .endedMidFrame ∨
        (lines.receive maxBytes).1 = .error .exceedsBound) ∧
    ∀ (valid : ValidFrame sha256) (payload : List UInt8) (line : List UInt8),
      valid.decodedPayload = .ok payload →
        (∀ length ≠ valid.frame.payloadLength,
          reading.fields line = some { valid.frame with payloadLength := length } →
            validateJson sha256 reading line = .error .validation) ∧
        (∀ digest ≠ valid.frame.payloadDigest,
          reading.fields line = some { valid.frame with payloadDigest := digest } →
            validateJson sha256 reading line = .error .validation) ∧
        ∀ content ≠ valid.frame.payloadBase64,
          reading.fields line = some { valid.frame with payloadBase64 := content } →
            (∀ another, content = Base64.encode another → another.length = payload.length →
              sha256.bytesDigest another = sha256.bytesDigest payload → another = payload) →
            validateJson sha256 reading line = .error .validation := by
  refine ⟨?_, ?_, ?_, ?_⟩
  · intro issued all
    obtain ⟨payloads, each, sent, received⟩ :=
      receiveFrames_sent documented (issued.map Prod.snd)
    rw [List.map_map] at sent
    refine ⟨payloads, each, sent, ?_⟩
    intro first fit later lines unread
    -- The first lines are read, and leave the frames unread.
    obtain ⟨between, read, left⟩ :=
      receiveAll_written first fit (written payloads ++ later) lines unread
    obtain ⟨after, frames, rest⟩ := received later between left
    rw [List.length_map] at frames
    exact ⟨between, after, read, frames, rest, fun pair member => issue_payload (all pair member)⟩
  · intro maxBytes lines line rest apart same
    exact ⟨receive_ok apart same, receive_exceeds apart same⟩
  · intro maxBytes lines absent some_left
    exact receive_inside absent some_left
  · intro valid payload line decoded
    refine ⟨?_, ?_, ?_⟩
    · exact fun length other read => altered_length valid other read
    · exact fun digest other read => altered_digest valid other read
    · exact fun content other read alone => altered_base64 valid decoded other read alone

/-- SHA-256 of no bytes, for all bytes. -/
def Sample.sha256 : Sha256 where
  bytesDigest _ :=
    text "sha256:e3b0c44298fc1c149afbf4c8996fb92427ae41e4649b934ca495991b7852b855"
  digest _ := by decide

/-- A reader that reads strict JSON and nothing else. -/
def Sample.reading : Reading := ⟨fun line => (Canonical.parse 1 line).bind readFields⟩

/-- The arguments of a frame with a payload. -/
def Sample.arguments (payload : List UInt8) : IssueArguments where
  kind := .mcpRequest
  requestId := text "request-1"
  traceId := text "trace-1"
  runtimeGeneration := 1
  dispatcherGeneration := 1
  authorityDigest := Sample.sha256.bytesDigest []
  deadlineUnixMs := 1
  attachmentDigest := some (Sample.sha256.bytesDigest [])
  attachmentCredentialDigest := none
  payload
  protocolVersion := supervisorProtocolVersion

/-- Two frames with payloads survive the wire behind a line that was read under a bound of its own. -/
theorem frames_survive_sample :
    ∃ first second wire, issue Sample.sha256 (Sample.arguments [97]) = .ok first ∧
      issue Sample.sha256 (Sample.arguments [98, 99]) = .ok second ∧
      sendFrames [first.frame, second.frame] = .ok wire ∧
      ∀ lines : SocketLines, lines.unread = [104, 105] ++ newline :: wire →
        ∃ between after, lines.receiveAll [2] = (.ok [[104, 105]], between) ∧
          between.receiveFrames Sample.sha256 Sample.reading 2 = (.ok [first, second], after) ∧
          after.unread = [] := by
  have documented : Sample.reading.Documented := by
    intro line value parsed
    show (Canonical.parse 1 line).bind readFields = readFields value
    rw [parsed]
    rfl
  have issues : ∀ payload ∈ [[97], [98, 99]],
      ∃ frame, issue Sample.sha256 (Sample.arguments payload) = .ok frame := by
    have issued : ∀ payload ∈ [[97], [98, 99]],
        (issue Sample.sha256 (Sample.arguments payload)).isOk = true := by
      decide +kernel
    intro payload member
    have returned := issued payload member
    cases made : issue Sample.sha256 (Sample.arguments payload) with
    | ok frame => exact ⟨frame, rfl⟩
    | error error =>
      rw [made] at returned
      cases returned
  obtain ⟨first, one⟩ := issues [97] (by simp)
  obtain ⟨second, two⟩ := issues [98, 99] (by simp)
  obtain ⟨payloads, -, sent, received⟩ := (frames_survive documented).1
    [(Sample.arguments [97], first), (Sample.arguments [98, 99], second)] (by simp [one, two])
  refine ⟨first, second, written payloads, one, two, sent, fun lines unread => ?_⟩
  obtain ⟨between, after, line, frames, rest, -⟩ :=
    received [(2, [104, 105])] (by decide) [] lines (by simp [unread, written])
  exact ⟨between, after, line, frames, rest⟩

end Survival

end Aar.Supervisor.Wire
