import Aar.System

/-! The reference driver of a host: a one-shot guard between the durable mark and the send. -/

namespace Aar.CallerDriver

open Guarded CallerWork

section Readiness

/-- What the driver raises. -/
inductive CallerDriverError where
  | contract (message : String)
  | binding (message : String)
  | markReceipt (message : String)
  | replayBlocked (message : String)
  | sendOutcomeUnknown (message : String)
  deriving DecidableEq

/-- `CallerDriverReadyEnvelope`: the readiness of one local relay; its version and its event are
constants. -/
structure CallerDriverReadyEnvelope where
  launchNonce : String
  adapterId : String
  adapterGeneration : Nat
  ticketId : String
  ticketDigest : Digest
  requestDigest : Digest
  physicalAttemptId : String
  baseUrl : String
  deriving DecidableEq

/-- The bytes of a text of ASCII characters. -/
def asciiBytes (text : String) : List UInt8 := text.toList.map fun character => character.toUInt8

/-- A JSON string that needs no escape. -/
def jsonString (text : String) : List UInt8 := 34 :: asciiBytes text ++ [34]

/-- A member of a JSON object. -/
def jsonMember (key : String) (value : List UInt8) : List UInt8 := jsonString key ++ 58 :: value

/-- `canonical_json_bytes` of an envelope: sorted keys, and values that need no escape. -/
def CallerDriverReadyEnvelope.canonicalJsonBytes (envelope : CallerDriverReadyEnvelope) :
    List UInt8 :=
  123 :: List.intercalate [44]
    [jsonMember "adapter_generation" (asciiBytes (toString envelope.adapterGeneration)),
      jsonMember "adapter_id" (jsonString envelope.adapterId),
      jsonMember "base_url" (jsonString envelope.baseUrl),
      jsonMember "event" (jsonString "ready"),
      jsonMember "launch_nonce" (jsonString envelope.launchNonce),
      jsonMember "physical_attempt_id" (jsonString envelope.physicalAttemptId),
      jsonMember "request_digest" (jsonString envelope.requestDigest),
      jsonMember "schema_version" (jsonString "aar.caller-driver-ready.v1"),
      jsonMember "ticket_digest" (jsonString envelope.ticketDigest),
      jsonMember "ticket_id" (jsonString envelope.ticketId)] ++ [125]

/-- The longest readiness frame that is read. -/
def maxReadyFrameBytes : Nat := 4096

/-- What reads an envelope from the body of a frame, if the body is one. -/
abbrev ModelValidateJson := List UInt8 → Option CallerDriverReadyEnvelope

/-- `parse_caller_driver_ready_line`: one exact canonical JSON line. -/
def parseCallerDriverReadyLine (modelValidateJson : ModelValidateJson) (readyLine : List UInt8) :
    Except CallerDriverError CallerDriverReadyEnvelope := do
  require (readyLine ≠ [] ∧ readyLine.length ≤ maxReadyFrameBytes)
    (.contract "ready envelope frame has an invalid byte length")
  require (readyLine.getLast? = some 10 ∧ readyLine.count 10 = 1)
    (.contract "ready envelope must be one newline-terminated frame")
  let body := readyLine.dropLast
  require (body ≠ [] ∧ 13 ∉ body) (.contract "ready envelope uses invalid line framing")
  let envelope ← orRaise (modelValidateJson body)
    (.contract "invalid caller-driver ready envelope")
  require (envelope.canonicalJsonBytes = body)
    (.contract "ready envelope must use canonical JSON bytes")
  return envelope

/-- A field of the envelope is not what the reserved ticket or the launch expects. -/
def unbound (fieldName : String) : CallerDriverError :=
  .binding s!"ready envelope {fieldName} does not match the reserved ticket"

/-- `_require_ready_binding`: the envelope binds the reserved ticket and the launch. -/
def requireReadyBinding (reserved : CallerWorkTicket) (ready : CallerDriverReadyEnvelope)
    (expectedLaunchNonce : String) : Except CallerDriverError Unit := do
  require (reserved.state = .sendReserved) (.binding "caller-work ticket must be send_reserved")
  let missing := CallerDriverError.binding "send_reserved ticket must carry claimant and attempt"
  let claimant ← orRaise reserved.claimant missing
  let physical ← orRaise reserved.physicalAttempt missing
  require (ready.launchNonce = expectedLaunchNonce) (unbound "launch_nonce")
  require (ready.adapterId = claimant.adapterId) (unbound "adapter_id")
  require (ready.adapterGeneration = claimant.adapterGeneration) (unbound "adapter_generation")
  require (ready.ticketId = reserved.ticketId) (unbound "ticket_id")
  require (ready.ticketDigest = reserved.ticketDigest) (unbound "ticket_digest")
  require (ready.requestDigest = reserved.requestDigest) (unbound "request_digest")
  require (ready.physicalAttemptId = physical.physicalAttemptId) (unbound "physical_attempt_id")

end Readiness

section Successor

/-- A bound field of the ticket was changed by the mark. -/
def changedField (fieldName : String) : CallerDriverError :=
  .markReceipt s!"mark-send result changed bound field {fieldName}"

/-- A bound field of the attempt was changed by the mark. -/
def changedAttemptField (fieldName : String) : CallerDriverError :=
  .markReceipt s!"mark-send result changed attempt field {fieldName}"

/-- `_caller_work_ticket`: the value is a caller-work ticket. -/
def callerWorkTicket (value : CallerWorkTicket) : Except CallerDriverError CallerWorkTicket := do
  require (Conforms value) (.markReceipt "mark-send result is not a caller-work ticket")
  return value

/-- `_require_send_started_successor`: the marked ticket is the reserved one, one revision on. -/
def requireSendStartedSuccessor (before after : CallerWorkTicket) :
    Except CallerDriverError Unit := do
  require (after.state = .sendStarted) (.markReceipt "mark-send result must be send_started")
  require (after.operation = before.operation) (changedField "operation")
  require (after.owner = before.owner) (changedField "owner")
  require (after.suspensionRevision = before.suspensionRevision)
    (changedField "suspension_revision")
  require (after.ticketId = before.ticketId) (changedField "ticket_id")
  require (after.ticketDigest = before.ticketDigest) (changedField "ticket_digest")
  require (after.request = before.request) (changedField "request")
  require (after.requestDigest = before.requestDigest) (changedField "request_digest")
  require (after.deadlineUnixMs = before.deadlineUnixMs) (changedField "deadline_unix_ms")
  require (after.claimant = before.claimant) (changedField "claimant")
  require (after.revision = before.revision + 1)
    (.markReceipt "mark-send result must advance exactly one revision")
  let lost := CallerDriverError.markReceipt "mark-send result must retain the physical attempt"
  let beforeAttempt ← orRaise before.physicalAttempt lost
  let afterAttempt ← orRaise after.physicalAttempt lost
  require (afterAttempt.physicalAttemptId = beforeAttempt.physicalAttemptId)
    (changedAttemptField "physical_attempt_id")
  require (afterAttempt.providerOrChildIdempotencyKey =
      beforeAttempt.providerOrChildIdempotencyKey)
    (changedAttemptField "provider_or_child_idempotency_key")
  require (afterAttempt.sentRequestDigest = some before.requestDigest)
    (.markReceipt "mark-send result must bind the request digest")
  require afterAttempt.sendStartedAtUnixMs.isSome
    (.markReceipt "mark-send result must record send-start time")
  require (afterAttempt.sentAtUnixMs = none ∧ afterAttempt.providerOrChildRequestId = none)
    (.markReceipt "mark-send result cannot claim a provider response")
  require (after.settledReceiptDigest = none ∧ after.settledAtUnixMs = none)
    (.markReceipt "mark-send result cannot be terminal")

end Successor

section Guard

/-- The phases of a guard. -/
inductive CallerDriverGuardPhase where
  | prepared | markInProgress | markUnconfirmed | sendStarted | sendObserved | outcomeUnknown
  deriving DecidableEq

/-- How a message names a phase. -/
def CallerDriverGuardPhase.wire : CallerDriverGuardPhase → String
  | .prepared => "prepared"
  | .markInProgress => "mark_in_progress"
  | .markUnconfirmed => "mark_unconfirmed"
  | .sendStarted => "send_started"
  | .sendObserved => "send_observed"
  | .outcomeUnknown => "outcome_unknown"

/-- `CallerDriverSendGuard`: one guard, in the process that prepared it. -/
structure CallerDriverSendGuard where
  process : Nat
  reservedTicket : CallerWorkTicket
  ready : CallerDriverReadyEnvelope
  phase : CallerDriverGuardPhase
  deriving DecidableEq

/-- `CallerDriverSendGuard.prepare`: validate the readiness of a relay for a reserved ticket. -/
def prepare (modelValidateJson : ModelValidateJson) (process : Nat)
    (reservedTicket : CallerWorkTicket) (readyLine : List UInt8) (expectedLaunchNonce : String) :
    Except CallerDriverError CallerDriverSendGuard := do
  require (Conforms reservedTicket) (.binding "reserved caller-work ticket is invalid")
  let ready ← parseCallerDriverReadyLine modelValidateJson readyLine
  requireReadyBinding reservedTicket ready expectedLaunchNonce
  return { process, reservedTicket, ready, phase := .prepared }

/-- The locked entry of `send_once`: only one call of a guard ever passes it. -/
def CallerDriverSendGuard.enter (guard : CallerDriverSendGuard) :
    Except CallerDriverError CallerDriverSendGuard := do
  let phase := guard.phase.wire
  require (guard.phase = .prepared)
    (.replayBlocked s!"caller-driver send guard cannot run from phase {phase}")
  return { guard with phase := .markInProgress }

/-- The check of what the mark callback returned. -/
def CallerDriverSendGuard.accepts (guard : CallerDriverSendGuard) (markedValue : CallerWorkTicket) :
    Except CallerDriverError CallerWorkTicket := do
  let marked ← callerWorkTicket markedValue
  requireSendStartedSuccessor guard.reservedTicket marked
  return marked

end Guard

section Hosts

/-- What a mark callback forwarded, and what the repository returned for it. -/
structure Mark where
  command : CallerWorkMarkSendStartedInput
  result : CommandResult
  deriving DecidableEq

/-- Where a call of `send_once` stands after it has passed the lock. -/
inductive SendStage where
  | marking | returned | started | sending | ended
  deriving DecidableEq

/-- A call of `send_once` that has passed the lock of its guard. -/
structure SendCall where
  guard : Nat
  mark : Option Mark
  stage : SendStage
  deriving DecidableEq

/-- An entry into `physical_send`. -/
structure PhysicalSend where
  guard : Nat
  ready : CallerDriverReadyEnvelope
  mark : Mark
  deriving DecidableEq

/-- The hosts around one runtime: the documents they were handed, their guards, the calls of
`send_once`, the processes that have stopped, and every physical send so far. -/
structure Hosts where
  db : Db
  documents : List CallerWorkTicket
  guards : List CallerDriverSendGuard
  calls : List SendCall
  stopped : List Nat
  sends : List PhysicalSend

/-- No host has done anything yet. -/
def Hosts.empty : Hosts :=
  { db := Db.empty, documents := [], guards := [], calls := [], stopped := [], sends := [] }

/-- A callback forwards the ticket it was given: its own identity, at the revision it shows. -/
def Forwards (reservedTicket : CallerWorkTicket)
    (command : CallerWorkMarkSendStartedInput) : Prop :=
  command.ticketId = reservedTicket.ticketId ∧ command.expectedRevision = reservedTicket.revision

instance (reservedTicket : CallerWorkTicket) (command : CallerWorkMarkSendStartedInput) :
    Decidable (Forwards reservedTicket command) :=
  inferInstanceAs (Decidable (_ ∧ _))

/-- One step of a host, or of anything else that uses the runtime. -/
inductive HostStep where
  | runtime (event : Event)
  | read (operation ticketId : String)
  | prepare (process document : Nat) (readyLine : List UInt8) (expectedLaunchNonce : String)
  | sendOnce (guard : Nat)
  | markSendStarted (call : Nat) (command : CallerWorkMarkSendStartedInput) (clock : Clock)
      (raises : Bool)
  | validate (call : Nat)
  | physicalSend (call : Nat)
  | observe (call : Nat) (raises : Bool)
  | stop (process : Nat)

/-- The guard of an index, unless its process has stopped. -/
def Hosts.guard? (hosts : Hosts) (index : Nat) : Option CallerDriverSendGuard :=
  hosts.guards[index]?.filter fun guard => decide (guard.process ∉ hosts.stopped)

/-- The call of an index at one stage, and its guard, unless its process has stopped. -/
def Hosts.running (hosts : Hosts) (index : Nat) (stage : SendStage) :
    Option (SendCall × CallerDriverSendGuard) := do
  let call ← hosts.calls[index]?.filter fun call => decide (call.stage = stage)
  let guard ← hosts.guard? call.guard
  return (call, guard)

/-- Move a guard to a phase, and a call to what it is next. -/
def Hosts.advance (hosts : Hosts) (index : Nat) (call : SendCall)
    (phase : CallerDriverGuardPhase) : Hosts :=
  { hosts with
    guards := hosts.guards.modify call.guard fun guard => { guard with phase }
    calls := hosts.calls.set index call }

/-- A host reads the document of a ticket. -/
def Hosts.read (operation ticketId : String) (hosts : Hosts) : Hosts :=
  match hosts.db.lookup operation with
  | none => hosts
  | some record =>
    match getTicket ticketId (hosts.db.scope operation record) with
    | .error _ => hosts
    | .ok ticket => { hosts with documents := hosts.documents ++ [ticket] }

/-- A process prepares a guard from a document it was handed. -/
def Hosts.prepare (modelValidateJson : ModelValidateJson) (process document : Nat)
    (readyLine : List UInt8) (expectedLaunchNonce : String) (hosts : Hosts) : Hosts :=
  match hosts.documents[document]? with
  | none => hosts
  | some ticket =>
    match CallerDriver.prepare modelValidateJson process ticket readyLine expectedLaunchNonce with
    | .error _ => hosts
    | .ok guard => { hosts with guards := hosts.guards ++ [guard] }

/-- A thread calls `send_once`: the first one of a guard goes on to its mark callback. -/
def Hosts.sendOnce (index : Nat) (hosts : Hosts) : Hosts :=
  match hosts.guard? index with
  | none => hosts
  | some guard =>
    match guard.enter with
    | .error _ => hosts
    | .ok entered =>
      { hosts with
        guards := hosts.guards.set index entered
        calls := hosts.calls ++ [{ guard := index, mark := none, stage := .marking }] }

/-- The mark callback forwards its command to the repository; it may still raise afterwards. -/
def Hosts.markSendStarted (H : Hashing) (index : Nat) (command : CallerWorkMarkSendStartedInput)
    (clock : Clock) (raises : Bool) (hosts : Hosts) : Hosts :=
  match hosts.running index .marking with
  | none => hosts
  | some (call, guard) =>
    let operation := guard.reservedTicket.operation
    if Forwards guard.reservedTicket command then
      match hosts.db.transact operation (.keyError command.ticketId)
          (CallerWork.markSendStarted H command clock) with
      | .error _ => hosts.advance index { call with stage := .ended } .markUnconfirmed
      | .ok (db, result) =>
        let hosts := { hosts with db }
        let mark : Option Mark := some { command, result }
        if raises then hosts.advance index { call with mark, stage := .ended } .markUnconfirmed
        else { hosts with calls := hosts.calls.set index { call with mark, stage := .returned } }
    else hosts

/-- The guard checks what its callback returned. -/
def Hosts.validate (index : Nat) (hosts : Hosts) : Hosts :=
  match hosts.running index .returned with
  | none => hosts
  | some (call, guard) =>
    match call.mark with
    | none => hosts
    | some mark =>
      match guard.accepts mark.result.ticket with
      | .error _ => hosts.advance index { call with stage := .ended } .markUnconfirmed
      | .ok _ => hosts.advance index { call with stage := .started } .sendStarted

/-- The guard enters the physical send. -/
def Hosts.physicalSend (index : Nat) (hosts : Hosts) : Hosts :=
  match hosts.running index .started with
  | none => hosts
  | some (call, guard) =>
    match call.mark with
    | none => hosts
    | some mark =>
      { hosts with
        calls := hosts.calls.set index { call with stage := .sending }
        sends := hosts.sends ++ [{ guard := call.guard, ready := guard.ready, mark }] }

/-- The physical send returns, or raises. -/
def Hosts.observe (index : Nat) (raises : Bool) (hosts : Hosts) : Hosts :=
  match hosts.running index .sending with
  | none => hosts
  | some (call, _) =>
    hosts.advance index { call with stage := .ended }
      (if raises then .outcomeUnknown else .sendObserved)

/-- What a step does; a step that raises leaves its exception to the host. -/
def HostStep.step (H : Hashing) (modelValidateJson : ModelValidateJson) :
    HostStep → Hosts → Hosts
  | runtime event, hosts => { hosts with db := event.step H hosts.db }
  | read operation ticketId, hosts => hosts.read operation ticketId
  | prepare process document readyLine expectedLaunchNonce, hosts =>
    hosts.prepare modelValidateJson process document readyLine expectedLaunchNonce
  | sendOnce guard, hosts => hosts.sendOnce guard
  | markSendStarted call command clock raises, hosts =>
    hosts.markSendStarted H call command clock raises
  | validate call, hosts => hosts.validate call
  | physicalSend call, hosts => hosts.physicalSend call
  | observe call raises, hosts => hosts.observe call raises
  -- A stopped process never takes another step, and what it held is lost with it.
  | stop process, hosts => { hosts with stopped := process :: hosts.stopped }

end Hosts

end Aar.CallerDriver
