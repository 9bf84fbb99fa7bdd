import Aar.Lib.Keyed
import Aar.Proofs.Tickets

/-! What caller work remembers: commands, receipts and model results, which only grow. -/

namespace Aar

open Guarded Table CallerWork ModelBroker

section Commands

/-- The kind under which a command is remembered. -/
def CommandDocument.kind : CommandDocument → CommandKind
  | claim _ => .claim
  | markSendStarted _ => .markSendStarted
  | cancelBeforeSend _ => .cancelBeforeSend
  | commit _ => .commit
  | reconcile _ => .reconcile
  | settleCandidate _ => .reconcile

/-- The idempotency key a command carries. -/
def CommandDocument.key : CommandDocument → String
  | claim command => command.idempotencyKey
  | markSendStarted command => command.idempotencyKey
  | cancelBeforeSend command => command.idempotencyKey
  | commit command => command.idempotencyKey
  | reconcile command => command.idempotencyKey
  | settleCandidate command => command.idempotencyKey

/-- The ticket a command names. -/
def CommandDocument.ticketId : CommandDocument → String
  | claim command => command.ticketId
  | markSendStarted command => command.ticketId
  | cancelBeforeSend command => command.ticketId
  | commit command => command.ticketId
  | reconcile command => command.ticketId
  | settleCandidate command => command.ticketId

/-- Submit a command, with the identifiers a claim would draw and the clock it would read. -/
def CommandDocument.submit (H : Hashing) (claimId attemptId : String) (clock : Clock) :
    CommandDocument → Scope → Except Err (Scope × CommandResult)
  | claim command => CallerWork.claim H command claimId attemptId clock
  | markSendStarted command => CallerWork.markSendStarted H command clock
  | cancelBeforeSend command => CallerWork.cancelBeforeSend H command
  | commit command => CallerWork.commit H command clock
  | reconcile command => CallerWork.reconcile H command clock
  | settleCandidate command => CallerWork.settleCandidate H command clock

/-- The model evidence a command journals before it is looked up. -/
def CommandDocument.evidence (H : Hashing) (row : TicketRow) (s : Scope) :
    CommandDocument → Except Err Scope
  | commit command =>
    if command.observation.ModelSucceeded then
      recordModelResponse H row command.observation command.modelResponse s
    else .ok s
  | _ => .ok s

/-- The transaction that a submitted command is. -/
def CommandDocument.call (claimId attemptId : String) : CommandDocument → TicketCall
  | claim command => .claim command claimId attemptId
  | markSendStarted command => .markSendStarted command
  | cancelBeforeSend command => .cancelBeforeSend command
  | commit command => .commit command
  | reconcile command => .reconcile command
  | settleCandidate command => .settleCandidate command

theorem CommandDocument.call_run {H : Hashing} {claimId attemptId : String} {clock : Clock}
    {document : CommandDocument} {s : Scope} :
    (document.call claimId attemptId).run H clock s =
      Prod.fst <$> document.submit H claimId attemptId clock s := by
  cases document <;> rfl

end Commands

end Aar

namespace Aar.CallerWork

open Guarded Table ModelBroker

section Journal

variable {H : Hashing} {s s' : Scope}

/-- The journal row of one model call. -/
def journalRow (H : Hashing) (row : TicketRow) (binding : ModelRouteBinding)
    (response : ModelResponse) (key : String) : ModelExecutionRow :=
  { idempotencyKey := key, requestDigest := row.requestDigest, request := row.request, binding
    responseDigest := H.response response, response, usage := response.usage }

/-- What must hold before the response of a model call may be journalled for a ticket. -/
structure Journals (H : Hashing) (row : TicketRow) (observation : CallerWorkObservation)
    (reported : Option ModelResponse) (binding : ModelRouteBinding) (response : ModelResponse)
    (key : String) : Prop where
  reported : reported = some response
  bound : row.request.routeBinding = some binding
  described : ResponseMatches H response observation
  sealed : H.request row.request = row.requestDigest
  attested : response.routeReceipt.requested = binding
  keyed : row.externalIdempotencyKey = some key

/-- A journalled response is the stored row of its call, or becomes it. -/
theorem recordModelResponse_ok {row : TicketRow} {observation : CallerWorkObservation}
    {reported : Option ModelResponse} :
    recordModelResponse H row observation reported s = .ok s' ↔
      ∃ binding response key, Journals H row observation reported binding response key ∧
        (∃ stored, ticketRow row.ticketId s = .ok stored ∧ JournalAuthority row stored) ∧
        (∀ stored ∈ s.routeBinding, stored = binding) ∧
        ((journalled key s = some (journalRow H row binding response key) ∧
            { s with routeBinding := some binding } = s') ∨
          (journalled key s = none ∧
            { s with
              routeBinding := some binding
              modelExecutions := s.modelExecutions ++
                [journalRow H row binding response key] } = s')) := by
  simp only [recordModelResponse, recordCallerResult, requestBinding, bind_ok, orRaise_ok,
    require_ok, bindOperation_ok]
  constructor
  · rintro ⟨response, reported, binding, bound, _, described, _, sealing, _, attested, stored,
      found, _, authority, key, keyed, _, ⟨same, rfl⟩, written⟩
    refine ⟨binding, response, key, ⟨reported, bound, described, sealing, attested, keyed⟩,
      ⟨stored, found, authority⟩, same, ?_⟩
    -- Binding the route leaves the journal alone, so the lookup reads the journal of `s`.
    have unbound : journalled key { s with routeBinding := some binding } = journalled key s := rfl
    cases journal : journalled key s with
    | some existing =>
      simp only [unbound, journal, bind_ok, require_ok, pure_ok] at written
      obtain ⟨_, rfl, rfl⟩ := written
      exact .inl ⟨rfl, rfl⟩
    | none =>
      simp only [unbound, journal, pure_ok] at written
      exact .inr ⟨rfl, written⟩
  · rintro ⟨binding, response, key, ⟨reported, bound, described, sealing, attested, keyed⟩,
      ⟨stored, found, authority⟩, same, journal⟩
    refine ⟨response, reported, binding, bound, (), described, (), sealing, (), attested, stored,
      found, (), authority, key, keyed, _, ⟨same, rfl⟩, ?_⟩
    have unbound : journalled key { s with routeBinding := some binding } = journalled key s := rfl
    rcases journal with ⟨there, rfl⟩ | ⟨absent, rfl⟩
    · simp only [unbound, there, bind_ok, require_ok, pure_ok]
      exact ⟨(), rfl, trivial⟩
    · simp only [unbound, absent, pure_ok]
      rfl

end Journal

section Answers

variable {H : Hashing} {s s' : Scope}

/-- What identifies a stored receipt. -/
def receiptKey (row : CandidateRow) : String × String × Digest :=
  (row.ticketId, row.physicalAttemptId, row.receiptDigest)

/-- A stored receipt repeats its own columns, under the digest that seals it. -/
structure Sealed (H : Hashing) (row : CandidateRow) : Prop where
  digest : row.receiptDigest = H.candidate row.receipt.toCandidatePayload
  receipt : row.receipt.receiptDigest = row.receiptDigest
  ticketId : row.receipt.ticketId = row.ticketId
  attempt : row.receipt.physicalAttemptId = row.physicalAttemptId

/-- The row a receipt is stored as. -/
def receiptRow (receipt : CandidateReceipt) (sourceKind : ReceiptSource) : CandidateRow :=
  { ticketId := receipt.ticketId, physicalAttemptId := receipt.physicalAttemptId
    receiptDigest := receipt.receiptDigest, receipt, sourceKind }

/-- A sealed receipt is recognised when it is stored, and appended when it is not. -/
theorem insertCandidate_ok {receipt : CandidateReceipt} {source : ReceiptSource}
    {result : Scope × Bool} :
    insertCandidate H receipt source s = .ok result ↔
      receipt.receiptDigest = H.candidate receipt.toCandidatePayload ∧
        (((∃ row ∈ s.candidates, receiptKey row = receiptKey (receiptRow receipt source)) ∧
            result = (s, false)) ∨
          ((∀ row ∈ s.candidates, receiptKey row ≠ receiptKey (receiptRow receipt source)) ∧
            (∃ row ∈ s.tickets, row.ticketId = receipt.ticketId ∧
              row.physicalAttemptId = some receipt.physicalAttemptId) ∧
            result = ({ s with
              candidates := s.candidates ++ [receiptRow receipt source] }, true))) := by
  simp only [insertCandidate, bind_ok, require_ok, ite_ok, pure_ok, List.any_eq_true,
    decide_eq_true_eq, receiptKey, receiptRow, Prod.mk.injEq, exists_const]
  refine and_congr_right fun _ => or_congr (and_congr_right fun _ => eq_comm) ?_
  simp only [not_exists, not_and, ne_eq]
  refine and_congr ?_ (and_congr_right fun _ => eq_comm)
  refine forall₂_congr fun row _ => ?_
  simp only [Prod.mk.injEq, not_and]

/-- A document shows the ticket it was read from. -/
theorem getTicket_ok {ticketId : String} {ticket : CallerWorkTicket}
    (read : getTicket ticketId s = .ok ticket) :
    ∃ row, ticketRow ticketId s = .ok row ∧ ticketFromRow s.operation row = .ok ticket ∧
      ticket.ticketId = ticketId ∧ ticket.operation = s.operation := by
  simp only [getTicket, bind_ok] at read
  obtain ⟨row, found, shown⟩ := read
  refine ⟨row, found, shown, ?_⟩
  have name := (fetch_self (ticketRow_ok.mp found)).1
  simp only [ticketFromRow, bind_ok, pure_ok] at shown
  obtain ⟨claimant, -, attempt, -, _, -, rfl⟩ := shown
  exact ⟨name, rfl⟩

theorem projectTerminal_memory {row : TicketRow} {state : TicketState} {digest : Option Digest}
    {now : Nat} (projected : projectTerminal H row state digest now s = .ok s') :
    SameMemory s s' := by
  obtain ⟨_, -, -, rfl | ⟨_, _, _, -, -, -, -, rfl⟩⟩ :=
    projectTerminal_cases projected <;> exact ⟨rfl, rfl, rfl, rfl, rfl⟩

/-- What the body of a command answers, and which rows it adds before it is remembered. -/
structure Answered (H : Hashing) (named : String) (s : Scope)
    (outcome : Scope × CallerWorkTicket) : Prop where
  ticketId : outcome.2.ticketId = named
  operation : outcome.2.operation = s.operation
  commands : outcome.1.commands = s.commands
  executions : outcome.1.modelExecutions = s.modelExecutions
  route : outcome.1.routeBinding = s.routeBinding
  candidates : Appended receiptKey s.candidates outcome.1.candidates
  sealed : ∀ row ∈ outcome.1.candidates, row ∈ s.candidates ∨ Sealed H row
  shown : getTicket named outcome.1 = .ok outcome.2

/-- A body that remembers nothing answers the ticket it reads. -/
theorem SameMemory.answered {ticketId named : String} {ticket : CallerWorkTicket}
    (same : SameMemory s s') (name : named = ticketId)
    (read : getTicket named s' = .ok ticket) : Answered H ticketId s (s', ticket) := by
  obtain ⟨-, -, -, shown, operation⟩ := getTicket_ok read
  refine ⟨shown.trans name, operation.trans same.operation, same.commands, same.executions,
    same.route, ?_, ?_, name ▸ read⟩
  · rw [same.candidates]
    exact .same
  · intro row member
    exact .inl (same.candidates ▸ member)

/-- A quarantine remembers nothing and answers its ticket. -/
theorem quarantineTicket_read {row : TicketRow} {now : Nat}
    {outcome : Scope × CallerWorkTicket} (ran : quarantineTicket H row now s = .ok outcome) :
    SameMemory s outcome.1 ∧ getTicket row.ticketId outcome.1 = .ok outcome.2 := by
  simp only [quarantineTicket, bind_ok, updateTicket_ok, pure_ok] at ran
  obtain ⟨_, ⟨-, rfl⟩, _, projected, _, read, rfl⟩ := ran
  obtain ⟨operation, commands, candidates, executions, route⟩ := projectTerminal_memory projected
  exact ⟨⟨operation, commands, candidates, executions, route⟩, read⟩

/-- A settlement remembers nothing and answers its ticket, settled or quarantined. -/
theorem applyCandidateSettlement_read {row : TicketRow} {selected : CandidateReceipt}
    {now : Nat} {outcome : Scope × CallerWorkTicket}
    (ran : applyCandidateSettlement H row selected now s = .ok outcome) :
    SameMemory s outcome.1 ∧ getTicket row.ticketId outcome.1 = .ok outcome.2 := by
  simp only [applyCandidateSettlement, ite_ok] at ran
  rcases ran with ⟨-, ran⟩ | ⟨-, ran⟩
  · exact quarantineTicket_read ran
  · simp only [bind_ok, updateTicket_ok, pure_ok] at ran
    obtain ⟨_, -, _, ⟨-, rfl⟩, _, projected, _, read, rfl⟩ := ran
    obtain ⟨operation, commands, candidates, executions, route⟩ := projectTerminal_memory projected
    exact ⟨⟨operation, commands, candidates, executions, route⟩, read⟩

end Answers

end Aar.CallerWork

namespace Aar

open Guarded Table CallerWork ModelBroker

section Bodies

variable {H : Hashing} {claimId attemptId : String} {clock : Clock}

/-- A command without evidence is remembered around its body at once. -/
theorem CommandDocument.submit_plain {document : CommandDocument}
    {body : TicketRow → Scope → Except Err (Scope × CallerWorkTicket)}
    (plain : ∀ row s, document.evidence H row s = .ok s)
    (same : ∀ s, document.submit H claimId attemptId clock s =
      remembered H document.ticketId document.kind document document.key body s) (s : Scope) :
    document.submit H claimId attemptId clock s = (do
      let row ← ticketRow document.ticketId s
      let s₁ ← document.evidence H row s
      remembered H document.ticketId document.kind document document.key body s₁) := by
  rw [same]
  -- The ticket is read again by `remembered`, which fails in the same way when it is missing.
  cases found : ticketRow document.ticketId s with
  | error raised => simp only [remembered, found, bind, Except.bind]
  | ok row => simp only [plain, bind, Except.bind]

theorem checkedRow_name {command : TicketCommand} {row : TicketRow} {s : Scope}
    (checked : checkedRow command s = .ok row) : row.ticketId = command.ticketId :=
  (fetch_self (ticketRow_ok.mp (checkedRow_ok checked))).1

/-- A command journals its evidence, and is then remembered around a body that answers. -/
theorem CommandDocument.submit_eq (document : CommandDocument) :
    ∃ body : TicketRow → Scope → Except Err (Scope × CallerWorkTicket),
      (∀ s row outcome, ticketRow document.ticketId s = .ok row → body row s = .ok outcome →
        Answered H document.ticketId s outcome) ∧
      ∀ s, document.submit H claimId attemptId clock s = (do
        let row ← ticketRow document.ticketId s
        let s₁ ← document.evidence H row s
        remembered H document.ticketId document.kind document document.key body s₁) := by
  -- The body of each command is the one its definition hands to `remembered`.
  cases document with
  | claim command =>
    refine ⟨_, ?_, submit_plain (fun _ _ => rfl) (fun _ => rfl)⟩
    intro s _ outcome _ ran
    simp only [bind_ok, require_ok, updateTicket_ok, pure_ok] at ran
    obtain ⟨row, checked, _, -, _, -, _, -, _, ⟨-, rfl⟩, _, read, rfl⟩ := ran
    exact SameMemory.answered ⟨rfl, rfl, rfl, rfl, rfl⟩ (checkedRow_name checked) read
  | markSendStarted command =>
    refine ⟨_, ?_, submit_plain (fun _ _ => rfl) (fun _ => rfl)⟩
    intro s _ outcome _ ran
    simp only [bind_ok, require_ok, orRaise_ok, updateTicket_ok, pure_ok] at ran
    obtain ⟨row, checked, _, -, _, -, _, -, _, -, _, -, _, -, _, -, _, -, _, ⟨-, rfl⟩, _, read,
      rfl⟩ := ran
    exact SameMemory.answered ⟨rfl, rfl, rfl, rfl, rfl⟩ (checkedRow_name checked) read
  | cancelBeforeSend command =>
    refine ⟨_, ?_, submit_plain (fun _ _ => rfl) (fun _ => rfl)⟩
    intro s _ outcome _ ran
    simp only [bind_ok, require_ok, updateTicket_ok, pure_ok] at ran
    obtain ⟨row, checked, _, -, _, -, _, ⟨-, rfl⟩, _, projected, _, read, rfl⟩ := ran
    obtain ⟨operation, commands, candidates, executions, route⟩ := projectTerminal_memory projected
    exact SameMemory.answered ⟨operation, commands, candidates, executions, route⟩
      (checkedRow_name checked) read
  | commit command =>
    refine ⟨_, ?_, fun s => rfl⟩
    intro s _ outcome _ ran
    simp only [bind_ok, require_ok] at ran
    obtain ⟨row, checked, _, -, _, -, _, -, receipt, built, inserted, stored, settled⟩ := ran
    obtain ⟨same, read⟩ := applyCandidateSettlement_read settled
    have name := checkedRow_name checked
    obtain ⟨digest, ⟨-, rfl⟩ | ⟨fresh, -, rfl⟩⟩ := insertCandidate_ok.mp stored
    · exact SameMemory.answered same name read
    · -- The settlement adds no receipt, so only the commit's own one is new.
      obtain ⟨-, -, -, shown, operation⟩ := getTicket_ok read
      refine ⟨shown.trans name, operation.trans same.operation, same.commands, same.executions,
        same.route, ?_, ?_, (name ▸ read : getTicket command.ticketId outcome.1 = _)⟩
      · rw [same.candidates]
        exact .added _ fresh
      · intro stored member
        rw [same.candidates] at member
        rcases List.mem_append.mp member with old | new
        · exact .inl old
        · rw [List.mem_singleton.mp new]
          exact .inr ⟨digest, rfl, rfl, rfl⟩
  | reconcile command =>
    refine ⟨_, ?_, submit_plain (fun _ _ => rfl) (fun _ => rfl)⟩
    intro s _ outcome _ ran
    simp only [bind_ok, require_ok] at ran
    obtain ⟨row, checked, _, -, _, -, ran⟩ := ran
    have name := checkedRow_name checked
    cases action : command.reconciliationAction with
    | retryIfCertainNoSend =>
      simp only [action, bind_ok, require_ok, updateTicket_ok, pure_ok] at ran
      obtain ⟨_, -, _, ⟨-, rfl⟩, _, read, rfl⟩ := ran
      exact SameMemory.answered ⟨rfl, rfl, rfl, rfl, rfl⟩ name read
    | lookup =>
      simp only [action, bind_ok, require_ok, pure_ok] at ran
      obtain ⟨_, -, _, read, rfl⟩ := ran
      exact SameMemory.answered ⟨rfl, rfl, rfl, rfl, rfl⟩ name read
    | settle =>
      simp only [action, bind_ok, require_ok, orRaise_ok] at ran
      obtain ⟨_, -, receipt, -, settled⟩ := ran
      obtain ⟨same, read⟩ := applyCandidateSettlement_read settled
      exact SameMemory.answered same name read
    | quarantine =>
      simp only [action, bind_ok, require_ok, orRaise_ok] at ran
      obtain ⟨_, -, receipt, -, settled⟩ := ran
      obtain ⟨same, read⟩ := quarantineTicket_read settled
      exact SameMemory.answered same name read
  | settleCandidate command =>
    refine ⟨_, ?_, submit_plain (fun _ _ => rfl) (fun _ => rfl)⟩
    intro s row outcome found ran
    simp only [bind_ok, require_ok, orRaise_ok] at ran
    obtain ⟨_, -, _, -, _, -, _, -, receipt, -, settled⟩ := ran
    obtain ⟨same, read⟩ := applyCandidateSettlement_read settled
    exact SameMemory.answered same (fetch_self (ticketRow_ok.mp found)).1 read

end Bodies

section Submission

variable {H : Hashing} {claimId attemptId : String} {clock : Clock} {s : Scope}

/-- The receipt a command leaves when it is remembered. -/
def CommandDocument.receipt (H : Hashing) (document : CommandDocument)
    (ticket : CallerWorkTicket) : CommandRow :=
  { ticketId := document.ticketId, commandKind := document.kind, idempotencyKey := document.key
    commandDigest := H.command document.kind document, resultRevision := ticket.revision
    resultTicket := ticket, resultDigest := H.ticket ticket }

/-- A submitted command journals its evidence, and then replays or answers and is remembered. -/
theorem CommandDocument.submit_ok {document : CommandDocument} {result : Scope × CommandResult}
    (ran : document.submit H claimId attemptId clock s = .ok result) :
    ∃ row s₁, ticketRow document.ticketId s = .ok row ∧ document.evidence H row s = .ok s₁ ∧
      ((result.1 = s₁ ∧ result.2.replayed = true ∧ ∃ stored,
          fetchOne s₁.commands (·.idempotencyKey = document.key) = some stored ∧
          stored.commandDigest = H.command document.kind document) ∨
        ∃ outcome, Answered H document.ticketId s₁ outcome ∧
          (∀ stored ∈ s₁.commands, stored.idempotencyKey ≠ document.key) ∧
          result = ({ outcome.1 with
              commands := s₁.commands ++ [document.receipt H outcome.2] },
            { ticket := outcome.2, replayed := false })) := by
  obtain ⟨body, answers, equation⟩ := document.submit_eq (H := H)
  rw [equation] at ran
  simp only [bind_ok] at ran
  obtain ⟨row, found, s₁, journalled, ran⟩ := ran
  refine ⟨row, s₁, found, journalled, ?_⟩
  simp only [remembered, bind_ok] at ran
  obtain ⟨stored, there, known, replays, ran⟩ := ran
  cases known with
  | some ticket =>
    simp only [pure_ok] at ran
    refine .inl ⟨by rw [← ran], by rw [← ran], ?_⟩
    -- Only a stored receipt for the same bytes is replayed.
    cases listed : fetchOne s₁.commands (·.idempotencyKey = document.key) with
    | none => simp [replayCommand, listed] at replays
    | some receipt =>
      simp only [replayCommand, listed, bind_ok, require_ok, pure_ok] at replays
      obtain ⟨_, ⟨-, -, digest⟩, -⟩ := replays
      exact ⟨receipt, rfl, digest⟩
  | none =>
    simp only [bind_ok, recordCommand, insertUnique_ok, pure_ok] at ran
    obtain ⟨outcome, executed, _, ⟨commands, ⟨fresh, rfl⟩, rfl⟩, rfl⟩ := ran
    have answered := answers s₁ stored outcome there executed
    have name := (fetch_self (ticketRow_ok.mp there)).1
    rw [answered.commands] at fresh
    refine .inr ⟨outcome, answered, fresh, ?_⟩
    simp only [CommandDocument.receipt, answered.commands, name]

/-- A remembered command whose evidence is journalled already is replayed, and changes nothing. -/
theorem CommandDocument.submit_replays {document : CommandDocument} {row : TicketRow}
    {ticket : CallerWorkTicket} (found : ticketRow document.ticketId s = .ok row)
    (journalled : document.evidence H row s = .ok s)
    (kept : fetchOne s.commands (·.idempotencyKey = document.key) =
      some (document.receipt H ticket))
    (named : ticket.ticketId = document.ticketId) (here : ticket.operation = s.operation) :
    document.submit H claimId attemptId clock s = .ok (s, ⟨ticket, true⟩) := by
  obtain ⟨body, -, equation⟩ := document.submit_eq (H := H)
  have name := (fetch_self (ticketRow_ok.mp found)).1
  have replay : replayCommand H row document.kind document document.key s = .ok (some ticket) := by
    simp only [replayCommand, kept, bind_ok, require_ok, pure_ok]
    exact ⟨(), ⟨name.symm, rfl, rfl⟩, (), ⟨named.trans name.symm, here, rfl, rfl⟩, rfl⟩
  rw [equation]
  simp only [bind_ok, remembered]
  exact ⟨row, found, s, journalled, row, found, some ticket, replay, rfl⟩

/-- Send a command to an operation: one transaction, which answers the command. -/
def CommandDocument.send (H : Hashing) (claimId attemptId : String) (clock : Clock)
    (document : CommandDocument) (operation : String) (db : Db) :
    Except Err (Db × CommandResult) :=
  db.transact operation (.keyError operation) (document.submit H claimId attemptId clock)

/-- A sent command is one call of the system. -/
theorem CommandDocument.send_step {document : CommandDocument} {operation : String} {db db' : Db}
    {result : CommandResult}
    (sent : document.send H claimId attemptId clock operation db = .ok (db', result)) :
    Event.step H ⟨.on operation (.ticket (document.call claimId attemptId)), clock⟩ db = db' := by
  obtain ⟨record, r, found, ran, rfl⟩ := Db.transact_ok.mp sent
  have stepped : (OpCall.ticket (document.call claimId attemptId)).run H clock
      (db.scope operation record) = .ok r := by
    simp only [OpCall.run, CommandDocument.call_run, ran, map_ok]
    exact ⟨_, rfl, rfl⟩
  exact (Event.step_on rfl found stepped).1

/-- A command sent to a reachable database leaves a reachable one. -/
theorem CommandDocument.send_reachable {document : CommandDocument} {operation : String}
    {db db' : Db} {result : CommandResult} (reached : db.Reachable H)
    (sent : document.send H claimId attemptId clock operation db = .ok (db', result)) :
    db'.Reachable H := by
  have stepped := document.send_step sent
  rw [← stepped]
  exact reached.run [⟨.on operation (.ticket (document.call claimId attemptId)), clock⟩]

end Submission

end Aar

namespace Aar

open Guarded Table CallerWork ModelBroker

section Growth

variable {H : Hashing} {clock : Clock} {s s' : Scope}

/-- What a transaction adds to the memory of an operation: at most one row to each table. -/
structure Grows (H : Hashing) (s s' : Scope) : Prop where
  commands : Appended CommandRow.idempotencyKey s.commands s'.commands
  executions : Appended ModelExecutionRow.idempotencyKey s.modelExecutions s'.modelExecutions
  candidates : Appended receiptKey s.candidates s'.candidates
  sealed : ∀ row ∈ s'.candidates, row ∈ s.candidates ∨ Sealed H row
  route : ∀ binding, s.routeBinding = some binding → s'.routeBinding = some binding

theorem CallerWork.SameMemory.grows (same : SameMemory s s') : Grows H s s' where
  commands := same.commands ▸ .same
  executions := same.executions ▸ .same
  candidates := same.candidates ▸ .same
  sealed _ member := .inl (same.candidates ▸ member)
  route _ bound := same.route.trans bound

/-- A journalled response binds the route and adds at most its own call to the journal. -/
theorem recordModelResponse_grows {row : TicketRow} {observation : CallerWorkObservation}
    {reported : Option ModelResponse}
    (recorded : recordModelResponse H row observation reported s = .ok s') :
    Grows H s s' ∧ ∃ routeBinding modelExecutions, s' = { s with routeBinding, modelExecutions } := by
  obtain ⟨binding, response, key, -, -, same, ⟨-, rfl⟩ | ⟨absent, rfl⟩⟩ :=
    recordModelResponse_ok.mp recorded
  · refine ⟨⟨.same, .same, .same, fun _ member => .inl member, fun stored bound => ?_⟩, _, _, rfl⟩
    rw [same stored bound]
  · -- Nothing is journalled under the key yet.
    refine ⟨⟨.same, .added _ (fetchOne_none.mp absent), .same, fun _ member => .inl member,
      fun stored bound => ?_⟩, _, _, rfl⟩
    rw [same stored bound]

/-- The evidence of a command is a bound route and at most one journalled call. -/
theorem CommandDocument.evidence_grows {document : CommandDocument} {row : TicketRow}
    (journalled : document.evidence H row s = .ok s') :
    Grows H s s' ∧ ∃ routeBinding modelExecutions, s' = { s with routeBinding, modelExecutions } := by
  have still : Except.ok s = (Except.ok s' : Except Err Scope) → Grows H s s' ∧
      ∃ routeBinding modelExecutions, s' = { s with routeBinding, modelExecutions } := by
    intro same
    cases same
    exact ⟨SameMemory.grows ⟨rfl, rfl, rfl, rfl, rfl⟩, _, _, rfl⟩
  cases document with
  | commit command =>
    simp only [CommandDocument.evidence, ite_ok] at journalled
    rcases journalled with ⟨-, recorded⟩ | ⟨-, same⟩
    · exact recordModelResponse_grows recorded
    · exact still same
  | claim | markSendStarted | cancelBeforeSend | reconcile | settleCandidate =>
    exact still journalled

/-- A submitted command adds its evidence, its receipt, and its own memory. -/
theorem CommandDocument.submit_grows {claimId attemptId : String} {document : CommandDocument}
    {result : Scope × CommandResult}
    (ran : document.submit H claimId attemptId clock s = .ok result) : Grows H s result.1 := by
  obtain ⟨row, s₁, -, journalled, finished⟩ := document.submit_ok ran
  obtain ⟨grows, _, _, rfl⟩ := document.evidence_grows journalled
  rcases finished with ⟨same, -, -⟩ | ⟨outcome, answered, fresh, rfl⟩
  · rw [same]
    exact grows
  · refine ⟨.added _ fresh, ?_, answered.candidates, answered.sealed, fun binding bound => ?_⟩
    · rw [answered.executions]
      exact grows.executions
    · exact answered.route.trans (grows.route binding bound)

/-- A stored receipt is one sealed row more, or was there already. -/
theorem insertCandidate_grows {receipt : CandidateReceipt} {source : ReceiptSource}
    {result : Scope × Bool} (inserted : insertCandidate H receipt source s = .ok result) :
    Appended receiptKey s.candidates result.1.candidates ∧
      (∀ row ∈ result.1.candidates, row ∈ s.candidates ∨ Sealed H row) ∧
      ∃ candidates, result.1 = { s with candidates } := by
  obtain ⟨digest, ⟨-, rfl⟩ | ⟨fresh, -, rfl⟩⟩ := insertCandidate_ok.mp inserted
  · exact ⟨.same, fun _ member => .inl member, _, rfl⟩
  · refine ⟨.added _ fresh, fun row member => ?_, _, rfl⟩
    rcases List.mem_append.mp member with old | new
    · exact .inl old
    · rw [List.mem_singleton.mp new]
      exact .inr ⟨digest, rfl, rfl, rfl⟩

/-- A ticket transaction adds at most one row to each table of the memory. -/
theorem TicketCall.grows {call : TicketCall} (ran : call.run H clock s = .ok s') :
    Grows H s s' := by
  have command : ∀ (document : CommandDocument) (claimId attemptId : String),
      call = document.call claimId attemptId → Grows H s s' := by
    rintro document claimId attemptId rfl
    rw [CommandDocument.call_run, map_ok] at ran
    obtain ⟨result, ran, rfl⟩ := ran
    exact document.submit_grows ran
  cases call with
  | claim input claimId attemptId => exact command (.claim input) claimId attemptId rfl
  | markSendStarted input => exact command (.markSendStarted input) "" "" rfl
  | cancelBeforeSend input => exact command (.cancelBeforeSend input) "" "" rfl
  | commit input => exact command (.commit input) "" "" rfl
  | reconcile input => exact command (.reconcile input) "" "" rfl
  | settleCandidate input => exact command (.settleCandidate input) "" "" rfl
  | create ticket =>
    simp only [TicketCall.run, map_ok] at ran
    obtain ⟨result, ran, rfl⟩ := ran
    rcases createTicket_cases ran with ⟨-, same⟩ | ⟨-, same⟩ <;> rw [same] <;>
      exact SameMemory.grows ⟨rfl, rfl, rfl, rfl, rfl⟩
  | reclaimExpired =>
    simp only [TicketCall.run, map_ok, CallerWork.reclaimExpired, bind_ok, updateTicket_ok,
      pure_ok] at ran
    obtain ⟨_, ⟨_, -, _, -, _, -, _, -, _, -, _, -, _, ⟨-, rfl⟩, _, -, rfl⟩, rfl⟩ := ran
    exact SameMemory.grows ⟨rfl, rfl, rfl, rfl, rfl⟩
  | requestCancel =>
    simp only [TicketCall.run, map_ok, CallerWork.requestTicketCancel, bind_ok, updateTicket_ok,
      pure_ok] at ran
    obtain ⟨_, ⟨_, -, _, -, _, -, _, ⟨-, rfl⟩, _, -, rfl⟩, rfl⟩ := ran
    exact SameMemory.grows ⟨rfl, rfl, rfl, rfl, rfl⟩
  | markOutcomeUnknown =>
    simp only [TicketCall.run, map_ok, CallerWork.markOutcomeUnknown, bind_ok, updateTicket_ok,
      ite_ok, pure_ok] at ran
    obtain ⟨_, ⟨_, -, _, -, ⟨-, _, -, rfl⟩ | ⟨-, _, -, _, ⟨-, rfl⟩, _, -, rfl⟩⟩, rfl⟩ := ran <;>
      exact SameMemory.grows ⟨rfl, rfl, rfl, rfl, rfl⟩
  | appendCandidateReceipt =>
    simp only [TicketCall.run, map_ok, CallerWork.appendCandidateReceipt, bind_ok, pure_ok] at ran
    obtain ⟨_, ⟨_, -, _, -, _, -, inserted, stored, rfl⟩, rfl⟩ := ran
    obtain ⟨candidates, sealing, _, same⟩ := insertCandidate_grows stored
    refine ⟨?_, ?_, candidates, sealing, ?_⟩ <;> simp only [same]
    · exact .same
    · exact .same
    · exact fun _ bound => bound
  | appendModelCandidateReceipt =>
    simp only [TicketCall.run, map_ok, CallerWork.appendModelCandidateReceipt, bind_ok,
      pure_ok] at ran
    obtain ⟨_, ⟨_, -, _, -, _, -, _, -, s₁, recorded, inserted, stored, rfl⟩, rfl⟩ := ran
    obtain ⟨grows, _, _, rfl⟩ := recordModelResponse_grows recorded
    obtain ⟨candidates, sealing, _, shape⟩ := insertCandidate_grows stored
    refine ⟨?_, ?_, candidates, sealing, ?_⟩ <;> simp only [shape]
    · exact .same
    · exact grows.executions
    · exact grows.route

end Growth

end Aar

namespace Aar

open Guarded Table CallerWork ModelBroker

section Steps

variable {H : Hashing} {clock : Clock} {s s' : Scope}

/-- Every local step adds at most one row to each table of the memory. -/
theorem LocalStep.grows {rules : Rules}
    (step : LocalStep H rules clock s s') : Grows H s s' := by
  cases step with
  | @call r call _ ran =>
    cases call with
    | registry call =>
      obtain ⟨-, commands, candidates, executions, route⟩ := (RegistryCall.beside ran).memory
      exact SameMemory.grows ⟨rfl, commands, candidates, executions, route⟩
    | ticket call =>
      obtain ⟨commands, executions, candidates, sealing, route⟩ := TicketCall.grows ran
      exact ⟨commands, executions, candidates, sealing, route⟩
    | workbench call =>
      obtain ⟨_, _, _, _, _, _, _, _, _, _, -, -, rfl⟩ := WorkbenchCall.effect ran
      exact SameMemory.grows ⟨rfl, rfl, rfl, rfl, rfl⟩
  | admitted binding ran =>
    -- An admission may bind the route only to what is bound already.
    obtain ⟨same, rfl⟩ := bindOperation_ok.mp ran
    refine ⟨.same, .same, .same, fun _ member => .inl member, fun stored bound => ?_⟩
    rw [same stored bound]
    rfl
  | visited _ _ ran _ =>
    rcases Registry.visitQueued_cases ran with ⟨-, -, same⟩ | ⟨-, rfl⟩ | ⟨claimed, claims, rfl⟩
    · rw [same]
      exact SameMemory.grows ⟨rfl, rfl, rfl, rfl, rfl⟩
    · exact SameMemory.grows ⟨rfl, rfl, rfl, rfl, rfl⟩
    · obtain ⟨-, -, _, prepared, _, _, -, prepares, rfl⟩ := Registry.claimQueued_ok claims
      cases prepares <;> exact SameMemory.grows ⟨rfl, rfl, rfl, rfl, rfl⟩
  | expired => exact SameMemory.grows ⟨rfl, rfl, rfl, rfl, rfl⟩
  | restarted =>
    unfold Aar.restarted
    dsimp only
    split
    · exact SameMemory.grows ⟨rfl, rfl, rfl, rfl, rfl⟩
    · split
      · simp only [Registry.fenceRunning, Registry.insertEvent]
        cases Registry.latestRunning _ <;> exact SameMemory.grows ⟨rfl, rfl, rfl, rfl, rfl⟩
      · exact SameMemory.grows ⟨rfl, rfl, rfl, rfl, rfl⟩
  | elsewhere record operation =>
    exact SameMemory.grows ⟨operation, congrArg OpRecord.commands record,
      congrArg OpRecord.candidates record, congrArg OpRecord.modelExecutions record,
      congrArg OpRecord.routeBinding record⟩

/-- The memory of an operation's caller work: every row has its own key, and receipts are sealed. -/
structure Memory (H : Hashing) (s : Scope) : Prop where
  commands : Keyed CommandRow.idempotencyKey s.commands
  executions : Keyed ModelExecutionRow.idempotencyKey s.modelExecutions
  candidates : Keyed receiptKey s.candidates
  sealed : ∀ row ∈ s.candidates, Sealed H row

theorem Memory.grow (memory : Memory H s) (grows : Grows H s s') : Memory H s' where
  commands := memory.commands.append grows.commands
  executions := memory.executions.append grows.executions
  candidates := memory.candidates.append grows.candidates
  sealed row member := (grows.sealed row member).elim (memory.sealed row) id

/-- A memory stays in order when a receipt is stored. -/
theorem Memory.insert {receipt : CandidateReceipt} {source : ReceiptSource}
    {result : Scope × Bool} (memory : Memory H s)
    (inserted : insertCandidate H receipt source s = .ok result) : Memory H result.1 := by
  obtain ⟨candidates, receipts, _, same⟩ := insertCandidate_grows inserted
  refine ⟨?_, ?_, memory.candidates.append candidates, fun row member => ?_⟩
  · rw [same]
    exact memory.commands
  · rw [same]
    exact memory.executions
  · exact (receipts row member).elim (memory.sealed row) id

/-- In every run the memory of every operation is in order. -/
theorem memory_invariant : Invariant H Unrestricted (Memory H) where
  new s new := by
    obtain ⟨_, _, _, -, record⟩ := new.rows
    have commands : s.commands = [] := congrArg OpRecord.commands record
    have executions : s.modelExecutions = [] := congrArg OpRecord.modelExecutions record
    have candidates : s.candidates = [] := congrArg OpRecord.candidates record
    refine ⟨?_, ?_, ?_, ?_⟩
    · rw [commands]
      exact .nil
    · rw [executions]
      exact .nil
    · rw [candidates]
      exact .nil
    · simp [candidates]
  step _ _ _ step memory := memory.grow step.grows

/-- Everything remembered in one state is remembered in another. -/
structure Remembers (s s' : Scope) : Prop where
  commands : ∀ row ∈ s.commands, row ∈ s'.commands
  executions : ∀ row ∈ s.modelExecutions, row ∈ s'.modelExecutions
  candidates : ∀ row ∈ s.candidates, row ∈ s'.candidates
  route : ∀ binding, s.routeBinding = some binding → s'.routeBinding = some binding

theorem Grows.remembers (grows : Grows H s s') : Remembers s s' where
  commands _ member := grows.commands.keeps member
  executions _ member := grows.executions.keeps member
  candidates _ member := grows.candidates.keeps member
  route := grows.route

/-- In every run nothing remembered is forgotten. -/
theorem remembers_progress {holds : Scope → Prop} :
    Progress H Unrestricted (fun _ => True) holds Remembers where
  refl _ := ⟨fun _ => id, fun _ => id, fun _ => id, fun _ => id⟩
  trans _ _ _ first second :=
    ⟨fun row member => second.commands row (first.commands row member),
      fun row member => second.executions row (first.executions row member),
      fun row member => second.candidates row (first.candidates row member),
      fun binding bound => second.route binding (first.route binding bound)⟩
  step _ _ _ _ step _ := step.grows.remembers

end Steps

end Aar
