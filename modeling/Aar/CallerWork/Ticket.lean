import Aar.Lib.Table
import Aar.Schema.Hashing

/-! The caller-work ticket table: its constraints, its public projection, and ticket creation. -/

namespace Aar

namespace TicketRow

/-- Every claim column is set. -/
def ClaimPresent (row : TicketRow) : Prop :=
  row.claimantPrincipalId.isSome ∧ row.claimantSessionId.isSome ∧ row.adapterId.isSome ∧
    row.adapterGeneration.isSome ∧ row.claimId.isSome ∧ row.claimFence.isSome ∧
    row.claimExpiresAtUnixMs.isSome ∧ row.physicalAttemptId.isSome ∧
    row.externalIdempotencyKey.isSome ∧ row.lookupSupported.isSome ∧ row.cancelSupported.isSome

/-- No claim column is set. -/
def ClaimAbsent (row : TicketRow) : Prop :=
  row.claimantPrincipalId = none ∧ row.claimantSessionId = none ∧ row.adapterId = none ∧
    row.adapterGeneration = none ∧ row.claimId = none ∧ row.claimFence = none ∧
    row.claimExpiresAtUnixMs = none ∧ row.physicalAttemptId = none ∧
    row.externalIdempotencyKey = none ∧ row.lookupSupported = none ∧ row.cancelSupported = none

/-- The send has certainly started. -/
def SendPresent (row : TicketRow) : Prop :=
  row.sendStartedAtUnixMs.isSome ∧ row.sentRequestDigest.isSome

/-- No send column is set. -/
def SendAbsent (row : TicketRow) : Prop :=
  row.sendStartedAtUnixMs = none ∧ row.sentRequestDigest = none ∧
    row.sentAtUnixMs = none ∧ row.providerOrChildRequestId = none

/-- Both settlement columns are set. -/
def SettlementPresent (row : TicketRow) : Prop :=
  row.settledReceiptDigest.isSome ∧ row.settledAtUnixMs.isSome

/-- No settlement column is set. -/
def SettlementAbsent (row : TicketRow) : Prop :=
  row.settledReceiptDigest = none ∧ row.settledAtUnixMs = none

instance (row : TicketRow) : Decidable row.ClaimPresent :=
  inferInstanceAs (Decidable (_ ∧ _))
instance (row : TicketRow) : Decidable row.ClaimAbsent :=
  inferInstanceAs (Decidable (_ ∧ _))
instance (row : TicketRow) : Decidable row.SendPresent :=
  inferInstanceAs (Decidable (_ ∧ _))
instance (row : TicketRow) : Decidable row.SendAbsent :=
  inferInstanceAs (Decidable (_ ∧ _))
instance (row : TicketRow) : Decidable row.SettlementPresent :=
  inferInstanceAs (Decidable (_ ∧ _))
instance (row : TicketRow) : Decidable row.SettlementAbsent :=
  inferInstanceAs (Decidable (_ ∧ _))

end TicketRow

/-- The states of a ticket whose request may have been sent. -/
def TicketState.mayHaveSent : List TicketState :=
  [.sendStarted, .outcomeUnknown, .settledSuccess, .settledFailure, .cancelRequested,
    .cancelledCertain, .quarantined]

/-- The states of a settled ticket. -/
def TicketState.settled : List TicketState :=
  [.settledSuccess, .settledFailure, .cancelledBeforeSend, .cancelledCertain]

/-- The constraints of the ticket table. -/
structure TicketRow.Checks (row : TicketRow) : Prop where
  claimed : row.state ∉ [TicketState.pending, .cancelledBeforeSend] → row.ClaimPresent
  sent : row.state ∈ TicketState.mayHaveSent → row.SendPresent
  pending : row.state = .pending → row.ClaimAbsent ∧ row.SendAbsent ∧ row.SettlementAbsent
  reserved : row.state = .sendReserved → row.ClaimPresent ∧ row.SendAbsent
  cancelled : row.state = .cancelledBeforeSend →
    row.SendAbsent ∧ row.SettlementPresent ∧ (row.ClaimAbsent ∨ row.ClaimPresent)
  unsettled : row.state ∉ TicketState.settled → row.SettlementAbsent
  succeeded : row.state = .settledSuccess → row.sentAtUnixMs.isSome
  settled : row.state ∈ TicketState.settled → row.SettlementPresent

instance (row : TicketRow) : Decidable row.Checks :=
  decidable_of_iff
    ((row.state ∉ [TicketState.pending, .cancelledBeforeSend] → row.ClaimPresent) ∧
      (row.state ∈ TicketState.mayHaveSent → row.SendPresent) ∧
      (row.state = .pending → row.ClaimAbsent ∧ row.SendAbsent ∧ row.SettlementAbsent) ∧
      (row.state = .sendReserved → row.ClaimPresent ∧ row.SendAbsent) ∧
      (row.state = .cancelledBeforeSend →
        row.SendAbsent ∧ row.SettlementPresent ∧ (row.ClaimAbsent ∨ row.ClaimPresent)) ∧
      (row.state ∉ TicketState.settled → row.SettlementAbsent) ∧
      (row.state = .settledSuccess → row.sentAtUnixMs.isSome) ∧
      (row.state ∈ TicketState.settled → row.SettlementPresent))
    ⟨fun ⟨a, b, c, d, e, f, g, h⟩ => ⟨a, b, c, d, e, f, g, h⟩,
      fun ⟨a, b, c, d, e, f, g, h⟩ => ⟨a, b, c, d, e, f, g, h⟩⟩

namespace CallerWork

open Guarded Table

section Projection

/-- The claimant a row shows; a claim with a missing column is not a valid document. -/
def claimantOf (row : TicketRow) : Except Err (Option Claimant) :=
  match row.claimantPrincipalId with
  | none => .ok none
  | some principalId =>
    orRaise (do
      let sessionId ← row.claimantSessionId
      let adapterId ← row.adapterId
      let adapterGeneration ← row.adapterGeneration
      let claimId ← row.claimId
      let claimFence ← row.claimFence
      let claimExpiresAtUnixMs ← row.claimExpiresAtUnixMs
      return some
        { principalId, sessionId, adapterId, adapterGeneration, claimId, claimFence
          claimExpiresAtUnixMs }) (.valueError "ticket claimant is invalid")

/-- The physical attempt a row shows; an attempt with a missing column is not a valid document. -/
def physicalAttemptOf (row : TicketRow) : Except Err (Option PhysicalAttempt) :=
  match row.physicalAttemptId with
  | none => .ok none
  | some physicalAttemptId =>
    orRaise (do
      let providerOrChildIdempotencyKey ← row.externalIdempotencyKey
      return some
        { physicalAttemptId, providerOrChildIdempotencyKey
          lookupSupported := row.lookupSupported.getD false
          cancelSupported := row.cancelSupported.getD false
          sendStartedAtUnixMs := row.sendStartedAtUnixMs
          sentRequestDigest := row.sentRequestDigest
          sentAtUnixMs := row.sentAtUnixMs
          providerOrChildRequestId := row.providerOrChildRequestId })
      (.valueError "ticket physical attempt is invalid")

/-- The physical attempt shows no trace of a send. -/
def PhysicalAttempt.Unsent (attempt : PhysicalAttempt) : Prop :=
  attempt.sendStartedAtUnixMs = none ∧ attempt.sentRequestDigest = none ∧
    attempt.sentAtUnixMs = none ∧ attempt.providerOrChildRequestId = none

instance (attempt : PhysicalAttempt) : Decidable (PhysicalAttempt.Unsent attempt) :=
  inferInstanceAs (Decidable (_ ∧ _))

/-- The document has no claim, or a claim whose attempt has certainly not been sent. -/
def UnsentDocument (ticket : CallerWorkTicket) : Prop :=
  ticket.claimant.isSome ∧ ticket.physicalAttempt.any fun attempt =>
    PhysicalAttempt.Unsent attempt

instance (ticket : CallerWorkTicket) : Decidable (UnsentDocument ticket) :=
  inferInstanceAs (Decidable (_ ∧ _))

/-- The state-dependent rules of the ticket schema. -/
def Conforms (ticket : CallerWorkTicket) : Prop :=
  (ticket.state = .pending → ticket.claimant = none ∧ ticket.physicalAttempt = none) ∧
    (ticket.state = .sendReserved → UnsentDocument ticket) ∧
    (ticket.state = .cancelledBeforeSend →
      (ticket.claimant = none ∧ ticket.physicalAttempt = none) ∨ UnsentDocument ticket) ∧
    (ticket.state ∈ TicketState.mayHaveSent →
      ticket.claimant.isSome ∧ ticket.physicalAttempt.any fun attempt =>
        attempt.sendStartedAtUnixMs.isSome ∧ attempt.sentRequestDigest.isSome) ∧
    (if ticket.state ∈ TicketState.settled then
      ticket.settledAtUnixMs.isSome ∧ ticket.settledReceiptDigest.isSome
    else ticket.settledAtUnixMs = none ∧ ticket.settledReceiptDigest = none)

instance (ticket : CallerWorkTicket) : Decidable (Conforms ticket) :=
  inferInstanceAs (Decidable (_ ∧ _))

/-- `_ticket_from_row`: the public document of a stored ticket. -/
def ticketFromRow (operation : String) (row : TicketRow) : Except Err CallerWorkTicket := do
  let claimant ← claimantOf row
  let physicalAttempt ← physicalAttemptOf row
  let ticket : CallerWorkTicket :=
    { operation, suspensionRevision := row.suspensionRevision, ticketId := row.ticketId
      revision := row.revision, owner := row.logicalOwner, request := row.request
      requestDigest := row.requestDigest, ticketDigest := row.ticketDigest, state := row.state
      claimant, physicalAttempt, settledReceiptDigest := row.settledReceiptDigest
      settledAtUnixMs := row.settledAtUnixMs, deadlineUnixMs := row.deadlineUnixMs }
  require (Conforms ticket) (.valueError "ticket document does not match its schema")
  return ticket

/-- `_row`: the stored ticket under an identifier. -/
def ticketRow (ticketId : String) (s : Scope) : Except Err TicketRow :=
  orRaise (fetchOne s.tickets (·.ticketId = ticketId)) (.keyError ticketId)

/-- `_get`: the public document under an identifier. -/
def getTicket (ticketId : String) (s : Scope) : Except Err CallerWorkTicket := do
  let row ← ticketRow ticketId s
  ticketFromRow s.operation row

end Projection

section Writing

/-- Rewrite the ticket at one revision, under the constraints of the table. -/
def updateTicket (ticketId : String) (revision : Nat) (change : TicketRow → TicketRow)
    (s : Scope) : Except Err Scope := do
  let tickets := updateWhere s.tickets
    (fun row => row.ticketId = ticketId ∧ row.revision = revision) change
  require (∀ row ∈ tickets, row.Checks)
    (.integrityError "CHECK constraint failed: caller_work_tickets")
  return { s with tickets }

/-- The row a new ticket document is stored as. -/
def rowOfDocument (ticket : CallerWorkTicket) : TicketRow :=
  { ticketId := ticket.ticketId, suspensionRevision := ticket.suspensionRevision
    revision := ticket.revision, ticketDigest := ticket.ticketDigest, request := ticket.request
    requestDigest := ticket.requestDigest, method := ticket.request.method
    contractId := ticket.request.contractId, logicalOwner := ticket.owner, state := ticket.state
    deadlineUnixMs := ticket.deadlineUnixMs, claimantPrincipalId := none
    claimantSessionId := none, adapterId := none, adapterGeneration := none, claimId := none
    claimFence := none, claimExpiresAtUnixMs := none, physicalAttemptId := none
    externalIdempotencyKey := none, lookupSupported := none, cancelSupported := none
    sendStartedAtUnixMs := none, sentRequestDigest := none, sentAtUnixMs := none
    providerOrChildRequestId := none, settledReceiptDigest := ticket.settledReceiptDigest
    settledAtUnixMs := ticket.settledAtUnixMs }

/-- The suspension a ticket row must reference. -/
def References (row : TicketRow) (suspension : SuspensionRow) : Prop :=
  suspension.suspensionRevision = row.suspensionRevision ∧ suspension.ticketId = row.ticketId ∧
    suspension.brokerMethod = row.method ∧ suspension.contractId = row.contractId ∧
    suspension.requestDigest = row.requestDigest ∧ suspension.logicalOwner = row.logicalOwner

instance (row : TicketRow) : DecidablePred (References row) :=
  fun _ => inferInstanceAs (Decidable (_ ∧ _))

/-- The ticket identifiers of an operation. -/
def ticketIds (record : OpRecord) : List String := record.tickets.map TicketRow.ticketId

/-- `create_ticket_in_transaction`: store a ticket for its suspension, or repeat the stored one. -/
def createTicket (ticket : CallerWorkTicket) (s : Scope) :
    Except Err (Scope × CallerWorkTicket) :=
  match fetchOne s.tickets (·.ticketId = ticket.ticketId) with
  | some existing => do
    let projected ← ticketFromRow s.operation existing
    require (projected = ticket)
      (.callerWorkConflict "ticket id already binds different ticket bytes")
    return (s, projected)
  | none => do
    require (s.Fresh ticketIds ticket.ticketId)
      (.callerWorkConflict "ticket id already binds different ticket bytes")
    let row := rowOfDocument ticket
    require row.Checks (.integrityError "CHECK constraint failed: caller_work_tickets")
    require (∃ suspension ∈ s.suspensions, References row suspension)
      (.integrityError "FOREIGN KEY constraint failed")
    require (∀ other ∈ s.tickets, other.suspensionRevision ≠ row.suspensionRevision)
      (.integrityError "UNIQUE constraint failed: caller_work_tickets.suspension_revision")
    let s := { s with tickets := s.tickets ++ [row] }
    let created ← getTicket ticket.ticketId s
    return (s, created)

end Writing

end CallerWork

end Aar
