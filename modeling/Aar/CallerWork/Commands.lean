import Aar.CallerWork.Settlement

/-! The commands a claimant, a reconciler and the coordinator send to the caller-work repository. -/

namespace Aar.CallerWork

open Guarded Table

/-- What a command returns: the ticket document, and whether it is a remembered result. -/
structure CommandResult where
  ticket : CallerWorkTicket
  replayed : Bool
  deriving DecidableEq

section Memory

/-- `_replay_command`: the remembered result of a command key, if there is one. -/
def replayCommand (H : Hashing) (row : TicketRow) (kind : CommandKind)
    (document : CommandDocument) (key : String) (s : Scope) :
    Except Err (Option CallerWorkTicket) :=
  match fetchOne s.commands (·.idempotencyKey = key) with
  | none => .ok none
  | some receipt => do
    require (receipt.ticketId = row.ticketId ∧ receipt.commandKind = kind ∧
        receipt.commandDigest = H.command kind document)
      (.callerWorkIdempotencyConflict
        "caller command key already binds different command bytes")
    require (receipt.resultTicket.ticketId = row.ticketId ∧
        receipt.resultTicket.operation = s.operation ∧
        receipt.resultTicket.revision = receipt.resultRevision ∧
        H.ticket receipt.resultTicket = receipt.resultDigest)
      (.callerWorkConflict "caller command replay authority is corrupt")
    return some receipt.resultTicket

/-- `_record_command`: remember the result of a command under its key. -/
def recordCommand (H : Hashing) (row : TicketRow) (kind : CommandKind)
    (document : CommandDocument) (key : String) (result : CallerWorkTicket) (s : Scope) :
    Except Err Scope := do
  let commands ← insertUnique s.commands (·.idempotencyKey = key)
    { ticketId := row.ticketId, commandKind := kind, idempotencyKey := key
      commandDigest := H.command kind document, resultRevision := result.revision
      resultTicket := result, resultDigest := H.ticket result }
    (Err.integrityError "UNIQUE constraint failed: caller_work_command_receipts")
  return { s with commands }

/-- Run a command once: a remembered key returns its result, a new one runs and is remembered. -/
def remembered (H : Hashing) (ticketId : String) (kind : CommandKind)
    (document : CommandDocument) (key : String)
    (body : TicketRow → Scope → Except Err (Scope × CallerWorkTicket)) (s : Scope) :
    Except Err (Scope × CommandResult) := do
  let row ← ticketRow ticketId s
  match ← replayCommand H row kind document key s with
  | some ticket => return (s, { ticket, replayed := true })
  | none => do
    let outcome ← body row s
    let s ← recordCommand H row kind document key outcome.2 outcome.1
    return (s, { ticket := outcome.2, replayed := false })

end Memory

section Guards

/-- `_require_revision`: the ticket is still at the expected revision. -/
def requireRevision (row : TicketRow) (expectedRevision : Nat) : Except Err Unit :=
  let revision := row.revision
  require (revision = expectedRevision)
    (.staleTicketRevision s!"ticket revision {revision} does not match {expectedRevision}")

/-- `_require_claim`: the command repeats the live claim. -/
def requireClaim (row : TicketRow) (proof : ClaimProof) : Except Err Unit := do
  require (proof.claimId = row.claimId) (.callerWorkConflict "claim id mismatch")
  require (proof.claimFence = row.claimFence) (.callerWorkConflict "claim fence mismatch")
  require (proof.physicalAttemptId = row.physicalAttemptId)
    (.callerWorkConflict "physical attempt mismatch")

/-- `_checked_row`: the ticket, its control rows and its suspension still match the command. -/
def checkedRow (command : TicketCommand) (s : Scope) : Except Err TicketRow := do
  let row ← ticketRow command.ticketId s
  requireRevision row command.expectedRevision
  require (command.ticketDigest = row.ticketDigest)
    (.callerWorkConflict "ticket digest mismatch")
  require (command.operation = s.operation)
    (.callerWorkConflict "operation identity mismatch")
  require (command.expectedSuspensionRevision = row.suspensionRevision)
    (.callerWorkConflict "suspension revision mismatch")
  require (command.expectedCumulativeDeadlineUnixMs = row.deadlineUnixMs)
    (.callerWorkConflict "cumulative deadline mismatch")
  let control ← orRaise s.control
    (.callerWorkConflict "caller work operation has no authoritative control row")
  require (command.expectedControlRevision = control.controlRevision)
    (.callerWorkConflict "control revision mismatch")
  require (control.cancellationRequested = false)
    (.callerWorkConflict "authoritative cancellation is already requested")
  let job ← orRaise s.job (.callerWorkConflict "caller work operation has no workbench job")
  require (command.expectedControlRevision = job.controlRevision)
    (.callerWorkConflict "workbench control revision mismatch")
  require (command.expectedCancellationRevision = job.cancellationRevision)
    (.callerWorkConflict "cancellation revision mismatch")
  require (job.cancellationRequested = false)
    (.callerWorkConflict "workbench cancellation mirror is already requested")
  require (command.expectedCumulativeDeadlineUnixMs = job.cumulativeDeadlineUnixMs)
    (.callerWorkConflict "workbench deadline mismatch")
  let suspension ← orRaise
    (fetchOne s.suspensions (·.suspensionRevision = row.suspensionRevision))
    (.callerWorkConflict "caller work suspension is absent")
  require (command.expectedControlRevision = suspension.controlRevision)
    (.callerWorkConflict "suspension control revision mismatch")
  require (suspension.state = .pending)
    (.callerWorkConflict "caller work suspension is no longer pending")
  return row

/-- `_require_internal_reconciler`: the reconciler is the ticket's current adapter. -/
def requireInternalReconciler (row : TicketRow) (reconcilerId : String)
    (reconcilerGeneration : Nat) : Except Err Unit := do
  require (some reconcilerId = row.adapterId)
    (.callerWorkConflict "reconciler identity is not the current ticket adapter")
  require (some reconcilerGeneration = row.adapterGeneration)
    (.callerWorkConflict "reconciler generation is not the current adapter generation")

/-- `_require_reconcile_fence`: the fence binds exactly this reconciliation. -/
def requireReconcileFence (H : Hashing) (fence : Digest) (document : ReconcileFenceDocument) :
    Except Err Unit :=
  require (fence = H.reconcileFence document)
    (.callerWorkConflict "reconciler fence does not bind current ticket authority")

/-- `_require_reconciler`: the reconciler acts for the current claimant under its exact fence. -/
def requireReconciler (H : Hashing) (row : TicketRow) (command : CallerWorkReconcileInput) :
    Except Err Unit := do
  require (some command.context.principalId = row.claimantPrincipalId ∧
      some command.context.sessionId = row.claimantSessionId)
    (.callerWorkConflict "reconciler context is not the current claimant authority")
  requireInternalReconciler row command.reconcilerId command.reconcilerGeneration
  requireReconcileFence H command.reconcileFence
    { ticketId := command.ticketId, expectedRevision := command.expectedRevision
      physicalAttemptId := command.physicalAttemptId
      candidateReceiptDigest := command.candidateReceiptDigest
      reconcilerId := command.reconcilerId
      reconcilerGeneration := command.reconcilerGeneration
      reconciliationAction := command.reconciliationAction }

/-- The states in which a ticket may have been sent but is not settled. -/
def unsettledSends : List TicketState := [.sendStarted, .cancelRequested, .outcomeUnknown]

end Guards

section Sending

/-- A row returned to the queue of unclaimed tickets. -/
def unclaimed (row : TicketRow) : TicketRow :=
  { row with
    revision := row.revision + 1, state := .pending, claimantPrincipalId := none
    claimantSessionId := none, adapterId := none, adapterGeneration := none, claimId := none
    claimFence := none, claimExpiresAtUnixMs := none, physicalAttemptId := none
    externalIdempotencyKey := none, lookupSupported := none, cancelSupported := none }

/-- The physical attempt identifiers of an operation. -/
def physicalAttemptIds (record : OpRecord) : List String :=
  record.tickets.filterMap TicketRow.physicalAttemptId

/-- `claim`: reserve a pending ticket for one adapter under a fresh physical attempt. -/
def claim (H : Hashing) (command : CallerWorkClaimInput) (claimId attemptId : String)
    (clock : Clock) : Scope → Except Err (Scope × CommandResult) :=
  remembered H command.ticketId .claim (.claim command) command.idempotencyKey fun _ s => do
    let row ← checkedRow command.toTicketCommand s
    require (row.state = .pending) (.invalidTicketTransition "cannot claim ticket")
    let now := clock 0
    require (now < row.deadlineUnixMs)
      (.invalidTicketTransition "cannot claim caller work at or beyond deadline")
    let claimFence := H.claimFence
      { ticketId := row.ticketId, revision := row.revision + 1, claimId
        physicalAttemptId := attemptId, adapterId := command.adapterId
        adapterGeneration := command.adapterGeneration }
    require (s.Fresh physicalAttemptIds attemptId)
      (.integrityError "UNIQUE constraint failed: caller_work_tickets.physical_attempt_id")
    let s ← updateTicket row.ticketId row.revision (fun stored => { stored with
      revision := stored.revision + 1, state := .sendReserved
      claimantPrincipalId := some command.context.principalId
      claimantSessionId := some command.context.sessionId
      adapterId := some command.adapterId
      adapterGeneration := some command.adapterGeneration
      claimId := some claimId, claimFence := some claimFence
      claimExpiresAtUnixMs := some (now + command.claimLeaseMs)
      physicalAttemptId := some attemptId
      externalIdempotencyKey := some (H.externalKey row.ticketDigest)
      lookupSupported := some false, cancelSupported := some false }) s
    let ticket ← getTicket row.ticketId s
    return (s, ticket)

/-- `reclaim_expired`: take an expired reservation back. -/
def reclaimExpired (ticketId : String) (expectedRevision : Nat) (expectedClaimId : String)
    (expectedClaimFence : Digest) (clock : Clock) (s : Scope) :
    Except Err (Scope × CommandResult) := do
  let row ← ticketRow ticketId s
  requireRevision row expectedRevision
  require (row.state = .sendReserved) (.invalidTicketTransition "cannot reclaim ticket")
  require (row.claimId = some expectedClaimId ∧ row.claimFence = some expectedClaimFence)
    (.callerWorkConflict "expired claim identity mismatch")
  let expires ← orRaise row.claimExpiresAtUnixMs (.valueError "claim has no expiry")
  require (expires ≤ clock 0) (.invalidTicketTransition "caller claim has not expired")
  let s ← updateTicket ticketId expectedRevision (fun stored => { unclaimed stored with
    sendStartedAtUnixMs := none, sentRequestDigest := none, sentAtUnixMs := none
    providerOrChildRequestId := none, settledReceiptDigest := none
    settledAtUnixMs := none }) s
  let ticket ← getTicket ticketId s
  return (s, { ticket, replayed := false })

/-- `mark_send_started`: record durably, before the send, that this attempt is about to send. -/
def markSendStarted (H : Hashing) (command : CallerWorkMarkSendStartedInput) (clock : Clock) :
    Scope → Except Err (Scope × CommandResult) :=
  remembered H command.ticketId .markSendStarted (.markSendStarted command)
      command.idempotencyKey fun _ s => do
    let row ← checkedRow command.toTicketCommand s
    require (row.state = .sendReserved) (.invalidTicketTransition "cannot mark send")
    requireClaim row command.proof
    let now := clock 0
    require (now < row.deadlineUnixMs)
      (.expiredCallerClaim "caller work deadline expired before send-start CAS")
    let expires ← orRaise row.claimExpiresAtUnixMs (.valueError "claim has no expiry")
    require (now < expires) (.expiredCallerClaim "caller claim expired before send-start CAS")
    require (command.expectedClaimExpiresAtUnixMs = expires)
      (.callerWorkConflict "claim expiry boundary mismatch")
    require (some command.providerOrChildIdempotencyKey = row.externalIdempotencyKey)
      (.callerWorkConflict "provider idempotency key mismatch")
    require (command.sentRequestDigest = row.requestDigest)
      (.callerWorkConflict "sent request digest mismatch")
    let s ← updateTicket row.ticketId row.revision (fun stored => { stored with
      revision := stored.revision + 1, state := .sendStarted
      lookupSupported := some command.lookupSupported
      cancelSupported := some command.cancelSupported, sendStartedAtUnixMs := some now
      sentRequestDigest := some command.sentRequestDigest }) s
    let ticket ← getTicket row.ticketId s
    return (s, ticket)

/-- `cancel_before_send`: settle a ticket that has certainly not been sent. -/
def cancelBeforeSend (H : Hashing) (command : CallerWorkCancelBeforeSendInput) :
    Scope → Except Err (Scope × CommandResult) :=
  remembered H command.ticketId .cancelBeforeSend (.cancelBeforeSend command)
      command.idempotencyKey fun _ s => do
    let row ← checkedRow command.toTicketCommand s
    require (row.state = command.expectedPreSendState ∧
        command.expectedPreSendState ∈ [TicketState.pending, .sendReserved])
      (.invalidTicketTransition "cannot cancel before send")
    runWhen (command.expectedPreSendState = .sendReserved) do
      requireClaim row command.proof
      require (command.expectedClaimExpiresAtUnixMs = row.claimExpiresAtUnixMs)
        (.callerWorkConflict "claim expiry boundary mismatch")
    let s ← updateTicket row.ticketId row.revision (fun stored => { stored with
      revision := stored.revision + 1, state := .cancelledBeforeSend
      settledReceiptDigest := some command.settledReceiptDigest
      settledAtUnixMs := some command.settledAtUnixMs }) s
    let s ← projectTerminal H row .cancelledBeforeSend (some command.settledReceiptDigest)
      command.settledAtUnixMs s
    let ticket ← getTicket row.ticketId s
    return (s, ticket)

/-- `request_cancel`: ask for the cancellation of a send that may have happened. -/
def requestTicketCancel (ticketId : String) (expectedRevision : Nat) (s : Scope) :
    Except Err (Scope × CommandResult) := do
  let row ← ticketRow ticketId s
  requireRevision row expectedRevision
  require (row.state ∈ [TicketState.sendStarted, .outcomeUnknown])
    (.invalidTicketTransition "cannot request cancellation")
  let s ← updateTicket ticketId expectedRevision (fun stored => { stored with
    revision := stored.revision + 1, state := .cancelRequested }) s
  let ticket ← getTicket ticketId s
  return (s, { ticket, replayed := false })

/-- `mark_outcome_unknown`: give up knowing the outcome of a started send. -/
def markOutcomeUnknown (ticketId : String) (expectedRevision : Nat) (s : Scope) :
    Except Err (Scope × CommandResult) := do
  let row ← ticketRow ticketId s
  requireRevision row expectedRevision
  if row.state = .outcomeUnknown then do
    let ticket ← ticketFromRow s.operation row
    return (s, { ticket, replayed := false })
  else do
    require (row.state = .sendStarted) (.invalidTicketTransition "cannot mark outcome unknown")
    let s ← updateTicket ticketId expectedRevision (fun stored => { stored with
      revision := stored.revision + 1, state := .outcomeUnknown }) s
    let ticket ← getTicket ticketId s
    return (s, { ticket, replayed := false })

end Sending

section Receipts

/-- `_candidate_from_commit`: the receipt a claimant's own commit stands for. -/
def candidateFromCommit (H : Hashing) (row : TicketRow) (command : CallerWorkCommitInput)
    (observedAtUnixMs : Nat) : Except Err CandidateReceipt := do
  let payload ← orRaise (do
    let physicalAttemptId ← row.physicalAttemptId
    let callbackPrincipalId ← row.claimantPrincipalId
    let callbackSessionId ← row.claimantSessionId
    let callbackAdapterId ← row.adapterId
    let callbackAdapterGeneration ← row.adapterGeneration
    return ({
      ticketId := row.ticketId, ticketDigest := row.ticketDigest, physicalAttemptId
      sentRequestDigest := command.sentRequestDigest, sentAtUnixMs := command.sentAtUnixMs
      providerOrChildRequestId := command.providerOrChildRequestId
      observation := command.observation, callbackPrincipalId, callbackSessionId
      callbackAdapterId, callbackAdapterGeneration, observedAtUnixMs
      signatureDigest := H.commitSignature row.ticketId physicalAttemptId
        command.providerOrChildRequestId command.observation } : CandidatePayload))
    (.valueError "candidate receipt is invalid")
  return { toCandidatePayload := payload, receiptDigest := H.candidate payload }

/-- `commit`: store what the claimant observed and settle the ticket on it. -/
def commit (H : Hashing) (command : CallerWorkCommitInput) (clock : Clock) (s : Scope) :
    Except Err (Scope × CommandResult) := do
  let row ← ticketRow command.ticketId s
  let s ← (if command.observation.ModelSucceeded then
    recordModelResponse H row command.observation command.modelResponse s else .ok s)
  remembered H command.ticketId .commit (.commit command) command.idempotencyKey (fun _ s => do
    let row ← checkedRow command.toTicketCommand s
    require (row.state ∈ unsettledSends) (.invalidTicketTransition "cannot commit caller work")
    requireClaim row command.proof
    require (some command.sentRequestDigest = row.sentRequestDigest)
      (.callerWorkConflict "committed request digest mismatch")
    let receipt ← candidateFromCommit H row command (clock 0)
    let inserted ← insertCandidate H receipt .claimantCallback s
    applyCandidateSettlement H row receipt (clock 1) inserted.1) s

/-- The stored receipt of a ticket's live physical attempt under one digest. -/
def storedReceipt (row : TicketRow) (receiptDigest : Option Digest) (s : Scope) :
    Option CandidateReceipt :=
  (fetchOne s.candidates fun stored => stored.ticketId = row.ticketId ∧
    some stored.physicalAttemptId = row.physicalAttemptId ∧
    some stored.receiptDigest = receiptDigest).map CandidateRow.receipt

/-- `reconcile`: look up, retry, settle or quarantine a ticket on the reconciler's authority. -/
def reconcile (H : Hashing) (command : CallerWorkReconcileInput) (clock : Clock) :
    Scope → Except Err (Scope × CommandResult) :=
  remembered H command.ticketId .reconcile (.reconcile command) command.idempotencyKey
      fun _ s => do
    let row ← checkedRow command.toTicketCommand s
    require (row.physicalAttemptId = some command.physicalAttemptId)
      (.callerWorkConflict "reconciliation physical attempt mismatch")
    requireReconciler H row command
    match command.reconciliationAction with
    | .retryIfCertainNoSend => do
      require (row.state = .sendReserved ∧ row.sendStartedAtUnixMs = none)
        (.invalidTicketTransition
          "retry_if_certain_no_send requires an unstarted send reservation")
      let s ← updateTicket row.ticketId row.revision unclaimed s
      let ticket ← getTicket row.ticketId s
      return (s, ticket)
    | .lookup => do
      require (row.state ∈ unsettledSends)
        (.invalidTicketTransition "lookup reconciliation requires a may-have-sent ticket")
      let ticket ← getTicket row.ticketId s
      return (s, ticket)
    | .settle => do
      require (row.state ∈ unsettledSends)
        (.invalidTicketTransition "cannot settle reconciliation")
      let receipt ← orRaise (storedReceipt row command.candidateReceiptDigest s)
        (.callerWorkConflict "candidate receipt is absent")
      applyCandidateSettlement H row receipt (clock 0) s
    | .quarantine => do
      require (row.state ∈ unsettledSends)
        (.invalidTicketTransition "cannot quarantine reconciliation")
      let _ ← orRaise (storedReceipt row command.candidateReceiptDigest s)
        (.callerWorkConflict "candidate receipt is absent")
      quarantineTicket H row (clock 0) s

/-- What appending a receipt returns: whether it was already stored. -/
structure CandidateAppendResult where
  receipt : CandidateReceipt
  replayed : Bool
  deriving DecidableEq

/-- The receipt names the live physical attempt of a ticket that has been marked as sending. -/
def requireReceiptBinding (row : TicketRow) (receipt : CandidateReceipt) : Except Err Unit := do
  require (receipt.ticketDigest = row.ticketDigest)
    (.callerWorkConflict "candidate ticket digest mismatch")
  require (some receipt.physicalAttemptId = row.physicalAttemptId)
    (.callerWorkConflict "candidate physical attempt mismatch")
  require row.sendStartedAtUnixMs.isSome
    (.callerWorkConflict "candidate receipt has no durable send-start mark")
  require (receipt.sentRequestDigest = row.requestDigest)
    (.callerWorkConflict "candidate request digest mismatch")

/-- `append_candidate_receipt`: store evidence about a started send. -/
def appendCandidateReceipt (H : Hashing) (receipt : CandidateReceipt)
    (sourceKind : ReceiptSource) (s : Scope) : Except Err (Scope × CandidateAppendResult) := do
  require (receipt.receiptDigest = H.candidate receipt.toCandidatePayload)
    (.callerWorkConflict "candidate receipt digest mismatch")
  let row ← ticketRow receipt.ticketId s
  requireReceiptBinding row receipt
  let inserted ← insertCandidate H receipt sourceKind s
  return (inserted.1, { receipt, replayed := !inserted.2 })

/-- `append_model_candidate_receipt`: seal typed model evidence together with its receipt. -/
def appendModelCandidateReceipt (H : Hashing) (receipt : CandidateReceipt)
    (modelResponse : ModelResponse) (sourceKind : ReceiptSource) (s : Scope) :
    Except Err (Scope × CandidateAppendResult) := do
  require (receipt.receiptDigest = H.candidate receipt.toCandidatePayload)
    (.callerWorkConflict "candidate receipt digest mismatch")
  require receipt.observation.ModelSucceeded
    (.callerWorkConflict "sealed model callback requires succeeded model evidence")
  let row ← ticketRow receipt.ticketId s
  requireReceiptBinding row receipt
  let s ← recordModelResponse H row receipt.observation (some modelResponse) s
  let inserted ← insertCandidate H receipt sourceKind s
  return (inserted.1, { receipt, replayed := !inserted.2 })

/-- `settle_candidate`: settle a ticket on one stored receipt, on internal authority. -/
def settleCandidate (H : Hashing) (command : SettleCandidateInput) (clock : Clock) :
    Scope → Except Err (Scope × CommandResult) :=
  remembered H command.ticketId .reconcile (.settleCandidate command) command.idempotencyKey
      fun row s => do
    requireRevision row command.expectedRevision
    require (row.state ∈ unsettledSends) (.invalidTicketTransition "cannot reconcile ticket")
    requireInternalReconciler row command.reconcilerId command.reconcilerGeneration
    let physicalAttemptId := row.physicalAttemptId.getD "None"
    requireReconcileFence H command.reconcileFence
      { ticketId := command.ticketId, expectedRevision := command.expectedRevision
        physicalAttemptId, candidateReceiptDigest := some command.candidateReceiptDigest
        reconcilerId := command.reconcilerId
        reconcilerGeneration := command.reconcilerGeneration, reconciliationAction := .settle }
    let receipt ← orRaise (storedReceipt row (some command.candidateReceiptDigest) s)
      (.callerWorkConflict "candidate receipt is not bound to current attempt")
    applyCandidateSettlement H row receipt (clock 0) s

end Receipts

end Aar.CallerWork
