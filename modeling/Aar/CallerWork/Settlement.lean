import Aar.ModelBroker

/-! Model evidence, candidate receipts, and the projection of a settled ticket to its job. -/

namespace Aar.CallerWork

open Guarded Table ModelBroker

section Journal

/-- The route a ticket's request is bound to. -/
def requestBinding (row : TicketRow) : Except Err ModelRouteBinding :=
  orRaise row.request.routeBinding (.keyError "route_binding")

/-- The response is the one an observation describes. -/
def ResponseMatches (H : Hashing) (response : ModelResponse)
    (observation : CallerWorkObservation) : Prop :=
  observation.outputText = some response.outputText ∧
    observation.outputDigest = some (H.text response.outputText) ∧
    observation.routeReceiptDigest = some response.routeReceipt.receiptDigest ∧
    observation.usageReceiptDigest = some (H.usage response.usage) ∧
    observation.hostReceiptDigest = H.response response

instance (H : Hashing) (response : ModelResponse) (observation : CallerWorkObservation) :
    Decidable (ResponseMatches H response observation) :=
  inferInstanceAs (Decidable (_ ∧ _))

/-- `_record_model_response`: store the response a claimant reports with its observation. -/
def recordModelResponse (H : Hashing) (row : TicketRow) (observation : CallerWorkObservation)
    (response : Option ModelResponse) (s : Scope) : Except Err Scope := do
  let response ← orRaise response (.valueError "model response is invalid")
  let binding ← requestBinding row
  require (ResponseMatches H response observation)
    (.callerWorkConflict "model response evidence does not match observation")
  recordCallerResult H row binding response s

/-- `_require_model_settlement_authority`: a model success settles only on journalled evidence. -/
def requireModelSettlementAuthority (H : Hashing) (row : TicketRow)
    (observation : CallerWorkObservation) (s : Scope) : Except Err Unit := do
  let binding ← requestBinding row
  let response ← requireCallerResult row binding s
  require (ResponseMatches H response observation)
    (.callerWorkConflict "model response evidence does not match observation")

end Journal

section Projection

/-- The suspension state a terminal ticket state projects to. -/
def suspensionState : TicketState → Option SuspensionState
  | .settledSuccess => some .settled
  | .settledFailure => some .settled
  | .cancelledBeforeSend => some .cancelled
  | .cancelledCertain => some .cancelled
  | .quarantined => some .parked
  | _ => none

/-- The settled states that continue the job through a successor. -/
def successorStates : List TicketState := [.settledSuccess, .settledFailure, .cancelledCertain]

/-- The row is the pending suspension of one revision. -/
def PendingAt (suspensionRevision : Nat) (row : SuspensionRow) : Prop :=
  row.suspensionRevision = suspensionRevision ∧ row.state = .pending

instance (suspensionRevision : Nat) : DecidablePred (PendingAt suspensionRevision) :=
  fun _ => inferInstanceAs (Decidable (_ ∧ _))

/-- The outbox digests of an operation. -/
def outboxDigests (record : OpRecord) : List Digest := record.outbox.map OutboxRow.outboxDigest

/-- Add the pending successor outbox row of one settlement. -/
def insertOutbox (H : Hashing) (suspensionRevision : Nat) (settlementDigest : Digest)
    (s : Scope) : Except Err Scope := do
  let outboxDigest := H.settlementOutbox s.operation suspensionRevision settlementDigest
  require (s.Fresh outboxDigests outboxDigest)
    (.integrityError "UNIQUE constraint failed: rlm_workbench_successor_outbox.outbox_digest")
  let outbox ← insertUnique s.outbox (·.suspensionRevision = suspensionRevision)
    { suspensionRevision, settlementDigest, outboxDigest, state := .pending
      rebindGeneration := 0, successorAttemptId := none, successorAttemptFence := none }
    (.integrityError "UNIQUE constraint failed: rlm_workbench_successor_outbox")
  return { s with outbox }

/-- The row is an uncancelled control at one revision. -/
def OpenControlAt (revision : Nat) (row : ControlRow) : Prop :=
  row.controlRevision = revision ∧ row.cancellationRequested = false

instance (revision : Nat) : DecidablePred (OpenControlAt revision) :=
  fun _ => inferInstanceAs (Decidable (_ ∧ _))

/-- The row is a job in one phase at one revision. -/
def JobAt (phase : JobPhase) (revision : Nat) (row : JobRow) : Prop :=
  row.phase = phase ∧ row.controlRevision = revision

instance (phase : JobPhase) (revision : Nat) : DecidablePred (JobAt phase revision) :=
  fun _ => inferInstanceAs (Decidable (_ ∧ _))

/-- Continue a waiting job with the successor of one settlement. -/
def projectSuccessor (H : Hashing) (row : TicketRow) (settlementDigest : Digest) (now : Nat)
    (s : Scope) : Except Err Scope := do
  let lost := Err.callerWorkConflict "caller settlement lost workbench control authority"
  let job ← orRaise s.job lost
  let control ← orRaise s.control lost
  -- A send already classified as reconcile-only cannot revive a job past its deadline.
  if row.state = .outcomeUnknown ∧ job.cumulativeDeadlineUnixMs ≤ now then return s
  else do
    let s ← insertOutbox H row.suspensionRevision settlementDigest s
    require (job.phase = .waitingExternal ∧ job.controlRevision = control.controlRevision ∧
      control.cancellationRequested = false) lost
    let next := job.controlRevision + 1
    let patchedJob ← patchOne s.job (JobAt .waitingExternal job.controlRevision)
      (fun stored => { stored with phase := .accepted, controlRevision := next })
      (Err.callerWorkConflict "caller settlement lost workbench phase authority")
    let patchedControl ← patchOne s.control (OpenControlAt job.controlRevision)
      (fun stored => { stored with controlRevision := next })
      (Err.callerWorkConflict "caller settlement lost operation control authority")
    return { s with job := patchedJob, control := patchedControl }

/-- `_project_terminal`: carry a terminal ticket to its suspension and, when due, to the job. -/
def projectTerminal (H : Hashing) (row : TicketRow) (state : TicketState)
    (settlementDigest : Option Digest) (projectedAtUnixMs : Nat) (s : Scope) :
    Except Err Scope := do
  let projected ← orRaise (suspensionState state)
    (.callerWorkConflict "ticket state is not terminal")
  let suspensions ← updateOne s.suspensions (PendingAt row.suspensionRevision)
    (fun stored => { stored with
      state := projected, settledAtUnixMs := some projectedAtUnixMs })
    (Err.callerWorkConflict "caller work suspension terminal projection lost authority")
  let s := { s with suspensions }
  if state ∉ successorStates then return s
  else do
    let digest ← orRaise settlementDigest
      (.callerWorkConflict "successor outbox requires a settlement digest")
    -- A closed outer operation keeps late evidence on the ticket but gains no continuation.
    if s.row.state ≠ .accepted then return s
    else projectSuccessor H row digest projectedAtUnixMs s

end Projection

section Candidates

/-- `_insert_candidate`: append one sealed receipt, or recognise the stored one. -/
def insertCandidate (H : Hashing) (receipt : CandidateReceipt) (sourceKind : ReceiptSource)
    (s : Scope) : Except Err (Scope × Bool) := do
  require (receipt.receiptDigest = H.candidate receipt.toCandidatePayload)
    (.callerWorkConflict "candidate receipt digest does not bind its canonical payload")
  if s.candidates.any fun row => row.ticketId = receipt.ticketId ∧
      row.physicalAttemptId = receipt.physicalAttemptId ∧
      row.receiptDigest = receipt.receiptDigest then
    return (s, false)
  else do
    require (∃ row ∈ s.tickets, row.ticketId = receipt.ticketId ∧
        row.physicalAttemptId = some receipt.physicalAttemptId)
      (.integrityError "FOREIGN KEY constraint failed")
    let row : CandidateRow :=
      { ticketId := receipt.ticketId, physicalAttemptId := receipt.physicalAttemptId
        receiptDigest := receipt.receiptDigest, receipt, sourceKind }
    return ({ s with candidates := s.candidates ++ [row] }, true)

/-- The receipts stored for the live physical attempt of a ticket. -/
def attemptReceipts (row : TicketRow) (s : Scope) : List CandidateReceipt :=
  (s.candidates.filter fun stored => decide (stored.ticketId = row.ticketId ∧
    some stored.physicalAttemptId = row.physicalAttemptId)).map CandidateRow.receipt

/-- The ticket state that an observed outcome settles to. -/
def settledState (outcome : ObservationOutcome) : TicketState :=
  if outcome.wire = "succeeded" then .settledSuccess
  else if outcome.wire = "cancelled" ∨ outcome.wire = "canceled" then .cancelledCertain
  else .settledFailure

/-- Move a ticket and its suspension to quarantine. -/
def quarantineTicket (H : Hashing) (row : TicketRow) (now : Nat) (s : Scope) :
    Except Err (Scope × CallerWorkTicket) := do
  let s ← updateTicket row.ticketId row.revision
    (fun stored => { stored with revision := stored.revision + 1, state := .quarantined }) s
  let s ← projectTerminal H row .quarantined none now s
  let ticket ← getTicket row.ticketId s
  return (s, ticket)

/-- `_apply_candidate_settlement`: settle on the only receipt, or quarantine on conflicting ones. -/
def applyCandidateSettlement (H : Hashing) (row : TicketRow) (selected : CandidateReceipt)
    (now : Nat) (s : Scope) : Except Err (Scope × CallerWorkTicket) := do
  let digests := (attemptReceipts row s).map fun receipt => H.candidate receipt.toCandidatePayload
  if 1 < digests.dedup.length then quarantineTicket H row now s
  else do
    runWhen selected.observation.ModelSucceeded
      (requireModelSettlementAuthority H row selected.observation s)
    let state := settledState selected.observation.outcome
    let s ← updateTicket row.ticketId row.revision (fun stored => { stored with
      revision := stored.revision + 1, state, sentAtUnixMs := some selected.sentAtUnixMs
      providerOrChildRequestId := selected.providerOrChildRequestId
      settledReceiptDigest := some selected.receiptDigest, settledAtUnixMs := some now }) s
    let s ← projectTerminal H row state (some selected.receiptDigest) now s
    let ticket ← getTicket row.ticketId s
    return (s, ticket)

end Candidates

end Aar.CallerWork
