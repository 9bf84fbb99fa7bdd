import Aar.CallerWork.Commands

/-! What a caller-work command has read and written when it succeeds. -/

namespace Aar.CallerWork

open Guarded Table ModelBroker

section Writes

variable {H : Hashing} {s s' : Scope}

/-- The tickets after the one under an identifier was rewritten at one revision. -/
abbrev revised (ticketId : String) (revision : Nat) (change : TicketRow → TicketRow)
    (tickets : List TicketRow) : List TicketRow :=
  updateWhere tickets (fun row => row.ticketId = ticketId ∧ row.revision = revision) change

/-- A ticket rewrite changes the tickets only, and leaves every ticket within its constraints. -/
theorem updateTicket_ok {ticketId : String} {revision : Nat} {change : TicketRow → TicketRow} :
    updateTicket ticketId revision change s = .ok s' ↔
      (∀ row ∈ revised ticketId revision change s.tickets, row.Checks) ∧
        { s with tickets := revised ticketId revision change s.tickets } = s' := by
  simp only [updateTicket, bind_ok, require_ok, pure_ok, exists_const, revised]

theorem ticketRow_ok {ticketId : String} {row : TicketRow} :
    ticketRow ticketId s = .ok row ↔
      fetchOne s.tickets (·.ticketId = ticketId) = some row := by
  simp only [ticketRow, orRaise_ok]

/-- A ticket document is stored already. -/
def StoredAs (s : Scope) (ticket : CallerWorkTicket) : Prop :=
  ∃ row, fetchOne s.tickets (·.ticketId = ticket.ticketId) = some row ∧
    ticketFromRow s.operation row = .ok ticket

/-- A ticket document is new, and its row is within the constraints of the table. -/
structure Creatable (s : Scope) (ticket : CallerWorkTicket) : Prop where
  checked : (rowOfDocument ticket).Checks
  fresh : s.Fresh ticketIds ticket.ticketId
  referenced : ∃ suspension ∈ s.suspensions, References (rowOfDocument ticket) suspension
  first : ∀ other ∈ s.tickets, other.suspensionRevision ≠ ticket.suspensionRevision

/-- A created ticket repeats a stored document, or is appended within its constraints. -/
theorem createTicket_cases {ticket : CallerWorkTicket} {result : Scope × CallerWorkTicket}
    (created : createTicket ticket s = .ok result) :
    (StoredAs s ticket ∧ result.1 = s) ∨
      (Creatable s ticket ∧ result.1 = { s with tickets := s.tickets ++ [rowOfDocument ticket] }) := by
  unfold createTicket at created
  cases found : fetchOne s.tickets (·.ticketId = ticket.ticketId) with
  | some existing =>
    simp only [found, bind_ok, require_ok, pure_ok] at created
    obtain ⟨projected, shown, _, rfl, rfl⟩ := created
    exact .inl ⟨⟨existing, found, shown⟩, rfl⟩
  | none =>
    simp only [found, bind_ok, require_ok, pure_ok] at created
    obtain ⟨_, fresh, _, checked, _, referenced, _, first, document, -, rfl⟩ := created
    exact .inr ⟨⟨checked, fresh, referenced, first⟩, rfl⟩

theorem bindOperation_ok {binding : ModelRouteBinding} :
    bindOperation binding s = .ok s' ↔
      (∀ stored ∈ s.routeBinding, stored = binding) ∧
        { s with routeBinding := some binding } = s' := by
  simp only [bindOperation, bind_ok, require_ok, pure_ok, exists_const]

/-- Journalling a caller's result changes the route and the journal only. -/
theorem recordModelResponse_effect {row : TicketRow} {observation : CallerWorkObservation}
    {response : Option ModelResponse}
    (recorded : recordModelResponse H row observation response s = .ok s') :
    ∃ routeBinding modelExecutions, s' = { s with routeBinding, modelExecutions } := by
  simp only [recordModelResponse, bind_ok, orRaise_ok, require_ok] at recorded
  obtain ⟨response, -, binding, -, _, -, recorded⟩ := recorded
  simp only [recordCallerResult, bind_ok, require_ok, orRaise_ok, bindOperation_ok] at recorded
  obtain ⟨_, -, _, -, stored, -, _, -, key, -, _, ⟨-, rfl⟩, written⟩ := recorded
  cases journal : journalled key { s with routeBinding := some binding } with
  | some existing =>
    simp only [journal, bind_ok, require_ok, pure_ok] at written
    obtain ⟨_, -, rfl⟩ := written
    exact ⟨_, _, rfl⟩
  | none =>
    simp only [journal, pure_ok] at written
    exact ⟨_, _, written.symm⟩

/-- An inserted receipt is appended to the candidates, or was already stored. -/
theorem insertCandidate_effect {receipt : CandidateReceipt} {source : ReceiptSource}
    {result : Scope × Bool} (inserted : insertCandidate H receipt source s = .ok result) :
    ∃ candidates, result.1 = { s with candidates } := by
  simp only [insertCandidate, bind_ok, require_ok, ite_ok, pure_ok] at inserted
  obtain ⟨_, -, ⟨-, rfl⟩ | ⟨-, _, -, rfl⟩⟩ := inserted
  · exact ⟨_, rfl⟩
  · exact ⟨_, rfl⟩

end Writes

section Projection

variable {H : Hashing} {s s' : Scope}

/-- The job and its control moved from an external wait back to acceptance, in step. -/
structure ReturnsFromWait (s : Scope) (job : JobRow) (control : ControlRow) : Prop where
  storedJob : s.job = some job
  storedControl : s.control = some control
  accepted : s.row.state = .accepted
  waiting : job.phase = .waitingExternal
  inStep : job.controlRevision = control.controlRevision
  uncancelled : control.cancellationRequested = false

/-- The pending outbox row of one settlement. -/
def settlementRow (H : Hashing) (operation : String) (suspensionRevision : Nat)
    (settlementDigest : Digest) : OutboxRow :=
  { suspensionRevision, settlementDigest
    outboxDigest := H.settlementOutbox operation suspensionRevision settlementDigest
    state := .pending, rebindGeneration := 0, successorAttemptId := none
    successorAttemptFence := none }

/-- A new outbox row is pending, and the first of its suspension. -/
theorem insertOutbox_ok {suspensionRevision : Nat} {settlementDigest : Digest}
    (inserted : insertOutbox H suspensionRevision settlementDigest s = .ok s') :
    (∀ row ∈ s.outbox, row.suspensionRevision ≠ suspensionRevision) ∧
      s' = { s with outbox := s.outbox ++
        [settlementRow H s.operation suspensionRevision settlementDigest] } := by
  simp only [insertOutbox, bind_ok, require_ok, insertUnique_ok, pure_ok] at inserted
  obtain ⟨_, -, _, ⟨first, rfl⟩, rfl⟩ := inserted
  exact ⟨first, rfl⟩

/-- A settlement leaves the job alone, or returns it from its wait with a new outbox row. -/
theorem projectSuccessor_cases {row : TicketRow} {digest : Digest} {now : Nat}
    (projected : projectSuccessor H row digest now s = .ok s') (accepted : s.row.state = .accepted) :
    s' = s ∨
      ∃ job control, ReturnsFromWait s job control ∧
        (∀ stored ∈ s.outbox, stored.suspensionRevision ≠ row.suspensionRevision) ∧
        s' = { s with
          outbox := s.outbox ++ [settlementRow H s.operation row.suspensionRevision digest]
          job := some { job with
            phase := .accepted, controlRevision := job.controlRevision + 1 }
          control := some { control with controlRevision := job.controlRevision + 1 } } := by
  simp only [projectSuccessor, bind_ok, orRaise_ok, ite_ok, pure_ok] at projected
  obtain ⟨job, storedJob, control, storedControl, ⟨-, rfl⟩ | ⟨-, written⟩⟩ := projected
  · exact .inl rfl
  · simp only [require_ok, patchOne_ok] at written
    obtain ⟨s₁, inserted, _, ⟨waiting, inStep, uncancelled⟩, _, ⟨job', here, -, rfl⟩, _,
      ⟨control', there, -, rfl⟩, rfl⟩ := written
    obtain ⟨first, rfl⟩ := insertOutbox_ok inserted
    cases storedJob.symm.trans here
    cases storedControl.symm.trans there
    exact .inr ⟨job, control, ⟨storedJob, storedControl, accepted, waiting, inStep, uncancelled⟩, first,
      rfl⟩

/-- The suspensions after the pending one of a ticket was closed. -/
abbrev projectedSuspensions (row : TicketRow) (projected : SuspensionState) (now : Nat)
    (suspensions : List SuspensionRow) : List SuspensionRow :=
  updateWhere suspensions (PendingAt row.suspensionRevision) fun stored =>
    { stored with state := projected, settledAtUnixMs := some now }

/-- A terminal ticket ends its suspension, and may return its job from the wait. -/
theorem projectTerminal_cases {row : TicketRow} {state : TicketState} {digest : Option Digest}
    {now : Nat} (ran : projectTerminal H row state digest now s = .ok s') :
    ∃ projected, suspensionState state = some projected ∧
      s.suspensions.countP (fun stored => PendingAt row.suspensionRevision stored) = 1 ∧
      let suspensions := projectedSuspensions row projected now s.suspensions
      s' = { s with suspensions } ∨
      ∃ job control settlement, ReturnsFromWait s job control ∧ digest = some settlement ∧
        state ∈ successorStates ∧
        (∀ stored ∈ s.outbox, stored.suspensionRevision ≠ row.suspensionRevision) ∧
        s' = { s with
          suspensions
          outbox := s.outbox ++ [settlementRow H s.operation row.suspensionRevision settlement]
          job := some { job with
            phase := .accepted, controlRevision := job.controlRevision + 1 }
          control := some { control with controlRevision := job.controlRevision + 1 } } := by
  simp only [projectTerminal, bind_ok, orRaise_ok, updateOne_ok, ite_ok, pure_ok, not_not] at ran
  obtain ⟨projected, due, _, ⟨one, rfl⟩, ⟨-, rfl⟩ | ⟨continues, settlement, rfl, rest⟩⟩ := ran
  · exact ⟨projected, due, one, .inl rfl⟩
  · rcases rest with ⟨-, rfl⟩ | ⟨accepted, moved⟩
    · exact ⟨projected, due, one, .inl rfl⟩
    · rcases projectSuccessor_cases moved accepted with rfl | ⟨job, control, waits, first, rfl⟩
      · exact ⟨projected, due, one, .inl rfl⟩
      · exact ⟨projected, due, one, .inr ⟨job, control, settlement,
          ⟨waits.storedJob, waits.storedControl, accepted, waits.waiting, waits.inStep,
            waits.uncancelled⟩, rfl, continues, first, rfl⟩⟩

end Projection

section Moves

/-- The columns that identify one physical send. -/
def SameSend (old new : TicketRow) : Prop :=
  new.sendStartedAtUnixMs = old.sendStartedAtUnixMs ∧
    new.physicalAttemptId = old.physicalAttemptId ∧
    new.externalIdempotencyKey = old.externalIdempotencyKey ∧ new.claimId = old.claimId ∧
    new.sentRequestDigest = old.sentRequestDigest

/-- One move of a ticket: how its state may change, and when its send stays the same. -/
inductive Moved (old new : TicketRow) : Prop where
  | claimed (pending : old.state = .pending) (reserved : new.state = .sendReserved)
  | rewound (reserved : old.state = .sendReserved) (pending : new.state = .pending)
  | marked (reserved : old.state = .sendReserved) (started : new.state = .sendStarted)
  | withdrawn (unsent : old.state ∈ [TicketState.pending, .sendReserved])
      (cancelled : new.state = .cancelledBeforeSend)
  | continued (sent : old.state ∈ unsettledSends) (next : new.state ∈ TicketState.mayHaveSent)
      (changed : new.state ≠ old.state) (send : SameSend old new)

/-- One move of a ticket keeps its identifier and its suspension, and takes the next revision. -/
structure TicketMove (old new : TicketRow) : Prop where
  ticketId : new.ticketId = old.ticketId
  suspensionRevision : new.suspensionRevision = old.suspensionRevision
  revision : new.revision = old.revision + 1
  moved : Moved old new

/-- The states in which a ticket may still move. -/
def openStates : List TicketState :=
  [.pending, .sendReserved, .sendStarted, .outcomeUnknown, .cancelRequested]

/-- What one transaction does to the ticket table: nothing, a new ticket, or one move. -/
inductive TableMove (tickets : List TicketRow) : List TicketRow → Prop where
  | unchanged : TableMove tickets tickets
  | created {row : TicketRow} (fresh : row.ticketId ∉ tickets.map TicketRow.ticketId)
      (checked : row.Checks) : TableMove tickets (tickets ++ [row])
  | moved {row : TicketRow} {change : TicketRow → TicketRow}
      (found : fetchOne tickets (·.ticketId = row.ticketId) = some row)
      (move : TicketMove row (change row))
      (checked : ∀ stored ∈ revised row.ticketId row.revision change tickets, stored.Checks) :
      TableMove tickets (revised row.ticketId row.revision change tickets)

/-- A ticket moves to a closed state, and its pending suspension ends with it. -/
structure Closing (tickets : List TicketRow) (suspensions : List SuspensionRow) (row : TicketRow)
    (change : TicketRow → TicketRow) (projected : SuspensionState) : Prop where
  found : fetchOne tickets (·.ticketId = row.ticketId) = some row
  move : TicketMove row (change row)
  checked : ∀ stored ∈ revised row.ticketId row.revision change tickets, stored.Checks
  due : suspensionState (change row).state = some projected
  pending : suspensions.countP (fun stored => PendingAt row.suspensionRevision stored) = 1

/-- What one ticket transaction does to the tickets of an operation and to their suspensions. -/
inductive LinkedMove (tickets : List TicketRow) (suspensions : List SuspensionRow) :
    List TicketRow → List SuspensionRow → Prop where
  | unchanged : LinkedMove tickets suspensions tickets suspensions
  | created {row : TicketRow} (fresh : row.ticketId ∉ tickets.map TicketRow.ticketId)
      (checked : row.Checks) (referenced : ∃ suspension ∈ suspensions, References row suspension)
      (first : ∀ other ∈ tickets, other.suspensionRevision ≠ row.suspensionRevision) :
      LinkedMove tickets suspensions (tickets ++ [row]) suspensions
  | moved {row : TicketRow} {change : TicketRow → TicketRow}
      (found : fetchOne tickets (·.ticketId = row.ticketId) = some row)
      (move : TicketMove row (change row))
      (checked : ∀ stored ∈ revised row.ticketId row.revision change tickets, stored.Checks)
      (remains : (change row).state ∈ openStates) :
      LinkedMove tickets suspensions (revised row.ticketId row.revision change tickets) suspensions
  | closed {row : TicketRow} {change : TicketRow → TicketRow} {projected : SuspensionState}
      {now : Nat} (closing : Closing tickets suspensions row change projected) :
      LinkedMove tickets suspensions (revised row.ticketId row.revision change tickets)
        (projectedSuspensions row projected now suspensions)

/-- What a ticket transaction writes: its ticket, evidence, and possibly the end of a wait. -/
inductive Written (H : Hashing) (s : Scope) : Scope → Prop where
  | aside {tickets suspensions candidates commands routeBinding modelExecutions}
      (table : LinkedMove s.tickets s.suspensions tickets suspensions) :
      Written H s { s with
        tickets, suspensions, candidates, commands, routeBinding, modelExecutions }
  | returned {candidates commands routeBinding modelExecutions job control} {row : TicketRow}
      {change : TicketRow → TicketRow} {projected : SuspensionState} {now : Nat}
      {settlement : Digest} (closing : Closing s.tickets s.suspensions row change projected)
      (continues : (change row).state ∈ successorStates) (waits : ReturnsFromWait s job control)
      (first : ∀ stored ∈ s.outbox, stored.suspensionRevision ≠ row.suspensionRevision) :
      Written H s { s with
        candidates, commands, routeBinding, modelExecutions
        tickets := revised row.ticketId row.revision change s.tickets
        suspensions := projectedSuspensions row projected now s.suspensions
        outbox := s.outbox ++ [settlementRow H s.operation row.suspensionRevision settlement]
        job := some { job with
          phase := .accepted, controlRevision := job.controlRevision + 1 }
        control := some { control with controlRevision := job.controlRevision + 1 } }

variable {H : Hashing} {s s' : Scope}

theorem fetch_self {ticketId : String} {row : TicketRow}
    (found : fetchOne s.tickets (·.ticketId = ticketId) = some row) :
    row.ticketId = ticketId ∧ fetchOne s.tickets (·.ticketId = row.ticketId) = some row := by
  obtain ⟨-, rfl⟩ := fetchOne_some found
  exact ⟨rfl, found⟩

/-- Projecting a closed ticket writes it, its suspension, and possibly the end of the wait. -/
theorem projected_written {row : TicketRow} {change : TicketRow → TicketRow}
    {digest : Option Digest} {now : Nat}
    (found : fetchOne s.tickets (·.ticketId = row.ticketId) = some row)
    (move : TicketMove row (change row))
    (checked : ∀ stored ∈ revised row.ticketId row.revision change s.tickets, stored.Checks)
    (ran : projectTerminal H row (change row).state digest now
      { s with tickets := revised row.ticketId row.revision change s.tickets } = .ok s') :
    Written H s s' := by
  obtain ⟨projected, due, pending, rest⟩ := projectTerminal_cases ran
  have closing : Closing s.tickets s.suspensions row change projected :=
    ⟨found, move, checked, due, pending⟩
  rcases rest with rfl | ⟨job, control, settlement, waits, -, continues, first, rfl⟩
  · exact .aside (.closed closing)
  · exact .returned closing continues ⟨waits.storedJob, waits.storedControl, waits.accepted,
      waits.waiting, waits.inStep, waits.uncancelled⟩ first

/-- A receipt stored before a write belongs to the write. -/
theorem Written.after_receipt {candidates : List CandidateRow}
    (written : Written H { s with candidates } s') : Written H s s' := by
  cases written with
  | aside table => exact .aside table
  | returned closing continues waits first =>
    exact .returned closing continues ⟨waits.storedJob, waits.storedControl, waits.accepted, waits.waiting,
      waits.inStep, waits.uncancelled⟩ first

/-- A journal entry stored before a write belongs to the write. -/
theorem Written.after_journal {routeBinding : Option ModelRouteBinding}
    {modelExecutions : List ModelExecutionRow}
    (written : Written H { s with routeBinding, modelExecutions } s') : Written H s s' := by
  cases written with
  | aside table => exact .aside table
  | returned closing continues waits first =>
    exact .returned closing continues ⟨waits.storedJob, waits.storedControl, waits.accepted, waits.waiting,
      waits.inStep, waits.uncancelled⟩ first

theorem Written.remember {commands : List CommandRow} (written : Written H s s') :
    Written H s { s' with commands } := by
  cases written with
  | aside table => exact .aside table
  | returned closing continues waits first => exact .returned closing continues waits first

theorem leaves_unsettled {state next : TicketState} (sent : state ∈ unsettledSends)
    (settled : next ∉ unsettledSends) : next ≠ state := by
  rintro rfl
  exact settled sent

/-- A quarantined ticket was sent and keeps its send. -/
theorem quarantineTicket_written {row : TicketRow} {now : Nat}
    {result : Scope × CallerWorkTicket} (found : ticketRow row.ticketId s = .ok row)
    (sent : row.state ∈ unsettledSends) (ran : quarantineTicket H row now s = .ok result) :
    Written H s result.1 := by
  simp only [quarantineTicket, bind_ok, updateTicket_ok, pure_ok] at ran
  obtain ⟨_, ⟨checked, rfl⟩, _, projected, _, -, rfl⟩ := ran
  have move : TicketMove row { row with revision := row.revision + 1, state := .quarantined } :=
    ⟨rfl, rfl, rfl, .continued sent (by simp [TicketState.mayHaveSent])
      (leaves_unsettled sent (by simp [unsettledSends])) ⟨rfl, rfl, rfl, rfl, rfl⟩⟩
  exact projected_written (ticketRow_ok.mp found) move checked projected

theorem settledState_mayHaveSent (outcome : ObservationOutcome) :
    settledState outcome ∈ TicketState.mayHaveSent := by
  cases outcome <;> decide

theorem settledState_settled (outcome : ObservationOutcome) :
    settledState outcome ∉ unsettledSends := by
  cases outcome <;> decide

/-- A settled ticket was sent and keeps its send. -/
theorem applyCandidateSettlement_written {row : TicketRow} {selected : CandidateReceipt}
    {now : Nat} {result : Scope × CallerWorkTicket} (found : ticketRow row.ticketId s = .ok row)
    (sent : row.state ∈ unsettledSends)
    (ran : applyCandidateSettlement H row selected now s = .ok result) :
    Written H s result.1 := by
  simp only [applyCandidateSettlement, ite_ok] at ran
  -- Conflicting receipts quarantine the ticket; otherwise the selected receipt settles it.
  rcases ran with ⟨-, ran⟩ | ⟨-, ran⟩
  · exact quarantineTicket_written found sent ran
  · simp only [bind_ok, updateTicket_ok, pure_ok] at ran
    obtain ⟨_, -, _, ⟨checked, rfl⟩, _, projected, _, -, rfl⟩ := ran
    refine projected_written (ticketRow_ok.mp found) ?_ checked projected
    exact ⟨rfl, rfl, rfl, .continued sent (settledState_mayHaveSent _)
      (leaves_unsettled sent (settledState_settled _)) ⟨rfl, rfl, rfl, rfl, rfl⟩⟩

end Moves

section Commands

variable {H : Hashing} {s : Scope}

/-- A remembered command replays its result and changes nothing, or runs its body once. -/
theorem remembered_cases {ticketId key : String} {kind : CommandKind}
    {document : CommandDocument}
    {body : TicketRow → Scope → Except Err (Scope × CallerWorkTicket)}
    {result : Scope × CommandResult}
    (ran : remembered H ticketId kind document key body s = .ok result) :
    (result.1 = s ∧ result.2.replayed = true) ∨
      ∃ row outcome commands, ticketRow ticketId s = .ok row ∧ body row s = .ok outcome ∧
        result = ({ outcome.1 with commands }, { ticket := outcome.2, replayed := false }) := by
  simp only [remembered, bind_ok] at ran
  obtain ⟨row, found, remembered, -, ran⟩ := ran
  cases remembered with
  | some ticket =>
    simp only [pure_ok] at ran
    exact .inl ⟨by rw [← ran], by rw [← ran]⟩
  | none =>
    simp only [bind_ok, recordCommand, insertUnique_ok, pure_ok] at ran
    obtain ⟨outcome, ran, _, ⟨commands, -, rfl⟩, rfl⟩ := ran
    exact .inr ⟨row, outcome, commands, found, ran, rfl⟩

/-- A remembered command writes what its body writes. -/
theorem remembered_written {ticketId key : String} {kind : CommandKind}
    {document : CommandDocument}
    {body : TicketRow → Scope → Except Err (Scope × CallerWorkTicket)}
    {result : Scope × CommandResult}
    (ran : remembered H ticketId kind document key body s = .ok result)
    (writes : ∀ row outcome, ticketRow ticketId s = .ok row → body row s = .ok outcome →
      Written H s outcome.1) : Written H s result.1 := by
  rcases remembered_cases ran with ⟨same, -⟩ | ⟨row, outcome, commands, found, executed, rfl⟩
  · rw [same]
    exact .aside .unchanged
  · exact (writes row outcome found executed).remember

theorem checkedRow_ok {command : TicketCommand} {row : TicketRow}
    (checked : checkedRow command s = .ok row) : ticketRow command.ticketId s = .ok row := by
  simp only [checkedRow, bind_ok, pure_ok] at checked
  obtain ⟨_, found, _, -, _, -, _, -, _, -, _, -, _, -, _, -, _, -, _, -, _, -, _, -, _, -, _, -, _,
    -, _, -, _, -, rfl⟩ := checked
  exact found

/-- A move of the ticket under an identifier writes that ticket only. -/
theorem updateTicket_written {ticketId : String} {row : TicketRow} {s' : Scope}
    {change : TicketRow → TicketRow} (found : ticketRow ticketId s = .ok row)
    (move : TicketMove row (change row)) (remains : (change row).state ∈ openStates)
    (updated : updateTicket row.ticketId row.revision change s = .ok s') : Written H s s' := by
  obtain ⟨checked, rfl⟩ := updateTicket_ok.mp updated
  exact .aside (.moved (fetch_self (ticketRow_ok.mp found)).2 move checked remains)

/-- A claim reserves a pending ticket. -/
theorem claim_written {command : CallerWorkClaimInput} {claimId attemptId : String}
    {clock : Clock} {result : Scope × CommandResult}
    (ran : claim H command claimId attemptId clock s = .ok result) : Written H s result.1 := by
  refine remembered_written ran fun _ outcome _ body => ?_
  simp only [bind_ok, require_ok, pure_ok] at body
  obtain ⟨row, checked, _, pending, _, -, _, -, s₁, updated, _, -, rfl⟩ := body
  exact updateTicket_written (checkedRow_ok checked) ⟨rfl, rfl, rfl, .claimed pending rfl⟩
    (by simp [openStates]) updated

/-- An expired reservation returns to the queue. -/
theorem reclaimExpired_written {ticketId claimId : String} {revision : Nat} {fence : Digest}
    {clock : Clock} {result : Scope × CommandResult}
    (ran : reclaimExpired ticketId revision claimId fence clock s = .ok result) :
    Written H s result.1 := by
  simp only [reclaimExpired, bind_ok, require_ok, requireRevision, orRaise_ok, pure_ok] at ran
  obtain ⟨row, found, _, rfl, _, reserved, _, -, _, -, _, -, s₁, updated, _, -, rfl⟩ := ran
  obtain ⟨rfl, -⟩ := fetch_self (ticketRow_ok.mp found)
  exact updateTicket_written found ⟨rfl, rfl, rfl, .rewound reserved rfl⟩
    (by simp [unclaimed, openStates]) updated

/-- A send-start mark that is not a replay moves a reserved ticket to a started send. -/
theorem markSendStarted_cases {command : CallerWorkMarkSendStartedInput} {clock : Clock}
    {result : Scope × CommandResult} (ran : markSendStarted H command clock s = .ok result) :
    (result.1 = s ∧ result.2.replayed = true) ∨
      ∃ row change, ticketRow command.ticketId s = .ok row ∧ row.state = .sendReserved ∧
        (change row).state = .sendStarted ∧ TicketMove row (change row) ∧
        (∀ stored ∈ revised row.ticketId row.revision change s.tickets, stored.Checks) ∧
        (∃ commands, result.1 = { s with
          tickets := revised row.ticketId row.revision change s.tickets, commands }) ∧
        result.2.replayed = false := by
  rcases remembered_cases ran with replay | ⟨_, outcome, commands, -, body, rfl⟩
  · exact .inl replay
  · simp only [bind_ok, require_ok, orRaise_ok, pure_ok, updateTicket_ok] at body
    obtain ⟨row, checked, _, reserved, _, -, _, -, _, -, _, -, _, -, _, -, _, -, _,
      ⟨constraints, rfl⟩, _, -, rfl⟩ := body
    exact .inr ⟨row, _, checkedRow_ok checked, reserved, rfl, ⟨rfl, rfl, rfl, .marked reserved rfl⟩,
      constraints, ⟨commands, rfl⟩, rfl⟩

/-- A send-start mark moves its ticket only. -/
theorem markSendStarted_written {command : CallerWorkMarkSendStartedInput} {clock : Clock}
    {result : Scope × CommandResult} (ran : markSendStarted H command clock s = .ok result) :
    Written H s result.1 := by
  rcases markSendStarted_cases ran with ⟨same, -⟩ |
    ⟨row, change, found, -, started, move, checked, ⟨commands, same⟩, -⟩
  · rw [same]
    exact .aside .unchanged
  · rw [same]
    exact .aside (.moved (fetch_self (ticketRow_ok.mp found)).2 move checked
      (by simp [started, openStates]))

/-- A ticket is cancelled before its send only from a state before its send. -/
theorem cancelBeforeSend_written {command : CallerWorkCancelBeforeSendInput}
    {result : Scope × CommandResult} (ran : cancelBeforeSend H command s = .ok result) :
    Written H s result.1 := by
  refine remembered_written ran fun _ outcome _ body => ?_
  simp only [bind_ok, require_ok, pure_ok, updateTicket_ok] at body
  obtain ⟨row, checked, _, ⟨state, unsent⟩, _, -, _, ⟨constraints, rfl⟩, _, projected, _, -, rfl⟩ :=
    body
  have found := (fetch_self (ticketRow_ok.mp (checkedRow_ok checked))).2
  have move : TicketMove row { row with
      revision := row.revision + 1, state := .cancelledBeforeSend
      settledReceiptDigest := some command.settledReceiptDigest
      settledAtUnixMs := some command.settledAtUnixMs } :=
    ⟨rfl, rfl, rfl, .withdrawn (state ▸ unsent) rfl⟩
  exact projected_written found move constraints projected

/-- A cancellation is requested of a send that may have happened. -/
theorem requestTicketCancel_written {ticketId : String} {revision : Nat}
    {result : Scope × CommandResult} (ran : requestTicketCancel ticketId revision s = .ok result) :
    Written H s result.1 := by
  simp only [requestTicketCancel, bind_ok, require_ok, requireRevision, pure_ok] at ran
  obtain ⟨row, found, _, rfl, _, sent, s₁, updated, _, -, rfl⟩ := ran
  obtain ⟨rfl, -⟩ := fetch_self (ticketRow_ok.mp found)
  have unsettled : row.state ∈ unsettledSends ∧ TicketState.cancelRequested ≠ row.state := by
    simp only [List.mem_cons, List.not_mem_nil, or_false] at sent
    rcases sent with state | state <;> simp [state, unsettledSends]
  have move : Moved row { row with revision := row.revision + 1, state := .cancelRequested } :=
    .continued unsettled.1 (by simp [TicketState.mayHaveSent]) unsettled.2 ⟨rfl, rfl, rfl, rfl, rfl⟩
  exact updateTicket_written found ⟨rfl, rfl, rfl, move⟩ (by simp [openStates]) updated

/-- The outcome of a started send becomes unknown once. -/
theorem markOutcomeUnknown_written {ticketId : String} {revision : Nat}
    {result : Scope × CommandResult} (ran : markOutcomeUnknown ticketId revision s = .ok result) :
    Written H s result.1 := by
  simp only [markOutcomeUnknown, bind_ok, require_ok, requireRevision, pure_ok, ite_ok] at ran
  obtain ⟨row, found, _, rfl, ⟨-, _, -, rfl⟩ | ⟨-, _, started, s₁, updated, _, -, rfl⟩⟩ := ran
  · exact .aside .unchanged
  · obtain ⟨rfl, -⟩ := fetch_self (ticketRow_ok.mp found)
    have move : Moved row { row with revision := row.revision + 1, state := .outcomeUnknown } :=
      .continued (by simp [started, unsettledSends]) (by simp [TicketState.mayHaveSent])
        (by simp [started]) ⟨rfl, rfl, rfl, rfl, rfl⟩
    exact updateTicket_written found ⟨rfl, rfl, rfl, move⟩ (by simp [openStates]) updated

end Commands

section Evidence

variable {H : Hashing} {s : Scope}

/-- A claimant's commit settles or quarantines a ticket that was sent. -/
theorem commit_written {command : CallerWorkCommitInput} {clock : Clock}
    {result : Scope × CommandResult} (ran : commit H command clock s = .ok result) :
    Written H s result.1 := by
  simp only [commit, bind_ok] at ran
  obtain ⟨_, -, s₁, journalled, ran⟩ := ran
  -- The journal is written before the command is looked up, so a replay keeps it.
  have evidence : ∃ routeBinding modelExecutions, s₁ = { s with routeBinding, modelExecutions } := by
    simp only [ite_ok] at journalled
    rcases journalled with ⟨-, recorded⟩ | ⟨-, same⟩
    · exact recordModelResponse_effect recorded
    · cases same
      exact ⟨_, _, rfl⟩
  obtain ⟨routeBinding, modelExecutions, rfl⟩ := evidence
  have written : Written H { s with routeBinding, modelExecutions } result.1 := by
    refine remembered_written ran fun _ outcome _ body => ?_
    simp only [bind_ok, require_ok] at body
    obtain ⟨row, checked, _, sent, _, -, _, -, receipt, -, inserted, stored, settled⟩ := body
    obtain ⟨candidates, same⟩ := insertCandidate_effect stored
    have found := ticketRow_ok.mp (checkedRow_ok checked)
    rw [same] at settled
    have current : ticketRow row.ticketId
        { s with routeBinding, modelExecutions, candidates } = .ok row :=
      ticketRow_ok.mpr (fetch_self found).2
    exact Written.after_receipt (s := { s with routeBinding, modelExecutions })
      (applyCandidateSettlement_written current sent settled)
  exact written.after_journal

/-- A reconciliation rewinds an unsent reservation, or settles or quarantines a send. -/
theorem reconcile_written {command : CallerWorkReconcileInput} {clock : Clock}
    {result : Scope × CommandResult} (ran : reconcile H command clock s = .ok result) :
    Written H s result.1 := by
  refine remembered_written ran fun _ outcome _ body => ?_
  simp only [bind_ok, require_ok] at body
  obtain ⟨row, checked, _, -, _, -, body⟩ := body
  have found := (fetch_self (ticketRow_ok.mp (checkedRow_ok checked))).2
  cases action : command.reconciliationAction with
  | retryIfCertainNoSend =>
    simp only [action, bind_ok, require_ok, pure_ok] at body
    obtain ⟨_, ⟨reserved, -⟩, s₁, updated, _, -, rfl⟩ := body
    exact updateTicket_written (checkedRow_ok checked) ⟨rfl, rfl, rfl, .rewound reserved rfl⟩
      (by simp [unclaimed, openStates]) updated
  | lookup =>
    simp only [action, bind_ok, require_ok, pure_ok] at body
    obtain ⟨_, -, _, -, rfl⟩ := body
    exact .aside .unchanged
  | settle =>
    simp only [action, bind_ok, require_ok, orRaise_ok] at body
    obtain ⟨_, sent, receipt, -, settled⟩ := body
    exact applyCandidateSettlement_written (ticketRow_ok.mpr found) sent settled
  | quarantine =>
    simp only [action, bind_ok, require_ok, orRaise_ok] at body
    obtain ⟨_, sent, receipt, -, settled⟩ := body
    exact quarantineTicket_written (ticketRow_ok.mpr found) sent settled

/-- An appended receipt leaves the tickets alone. -/
theorem appendCandidateReceipt_written {receipt : CandidateReceipt} {source : ReceiptSource}
    {result : Scope × CandidateAppendResult}
    (ran : appendCandidateReceipt H receipt source s = .ok result) : Written H s result.1 := by
  simp only [appendCandidateReceipt, bind_ok, pure_ok] at ran
  obtain ⟨_, -, row, -, _, -, inserted, stored, rfl⟩ := ran
  obtain ⟨candidates, same⟩ := insertCandidate_effect stored
  rw [same]
  exact .aside .unchanged

/-- Sealed model evidence leaves the tickets alone. -/
theorem appendModelCandidateReceipt_written {receipt : CandidateReceipt}
    {response : ModelResponse} {source : ReceiptSource} {result : Scope × CandidateAppendResult}
    (ran : appendModelCandidateReceipt H receipt response source s = .ok result) :
    Written H s result.1 := by
  simp only [appendModelCandidateReceipt, bind_ok, pure_ok] at ran
  obtain ⟨_, -, _, -, row, -, _, -, _, recorded, inserted, stored, rfl⟩ := ran
  obtain ⟨_, _, rfl⟩ := recordModelResponse_effect recorded
  obtain ⟨candidates, same⟩ := insertCandidate_effect stored
  rw [same]
  exact .aside .unchanged

/-- An internal settlement settles or quarantines a ticket that was sent. -/
theorem settleCandidate_written {command : SettleCandidateInput} {clock : Clock}
    {result : Scope × CommandResult} (ran : settleCandidate H command clock s = .ok result) :
    Written H s result.1 := by
  refine remembered_written ran fun row outcome found body => ?_
  simp only [bind_ok, require_ok, orRaise_ok] at body
  obtain ⟨_, -, _, sent, _, -, _, -, receipt, -, settled⟩ := body
  have found := (fetch_self (ticketRow_ok.mp found)).2
  exact applyCandidateSettlement_written (ticketRow_ok.mpr found) sent settled

/-- Creating a ticket appends it, or repeats the stored one. -/
theorem createTicket_written {ticket : CallerWorkTicket} {result : Scope × CallerWorkTicket}
    (ran : createTicket ticket s = .ok result) : Written H s result.1 := by
  rcases createTicket_cases ran with ⟨-, same⟩ | ⟨creatable, same⟩
  · rw [same]
    exact .aside .unchanged
  · rw [same]
    exact .aside (.created creatable.fresh.1 creatable.checked creatable.referenced creatable.first)

end Evidence

end Aar.CallerWork
