import Aar.Proofs.Attempts

/-! The mark of a send, executed or replayed: one stored receipt answers every mark of a ticket. -/

namespace Aar.CallerWork

open Guarded Table

section Marks

variable {H : Hashing} {s : Scope} {command : CallerWorkMarkSendStartedInput} {clock : Clock}
  {result : Scope × CommandResult}

/-- A ticket whose send a command has started. -/
def startedBy (command : CallerWorkMarkSendStartedInput) (now : Nat) (row : TicketRow) :
    TicketRow :=
  { row with
    revision := row.revision + 1, state := .sendStarted
    lookupSupported := some command.lookupSupported
    cancelSupported := some command.cancelSupported, sendStartedAtUnixMs := some now
    sentRequestDigest := some command.sentRequestDigest }

/-- What an executed mark found, and what it wrote and answered. -/
structure Executed (H : Hashing) (command : CallerWorkMarkSendStartedInput) (now : Nat)
    (s : Scope) (row : TicketRow) (result : Scope × CommandResult) : Prop where
  found : fetchOne s.tickets (·.ticketId = command.ticketId) = some row
  reserved : row.state = .sendReserved
  revision : command.expectedRevision = row.revision
  request : command.sentRequestDigest = row.requestDigest
  checked : ∀ stored ∈ revised row.ticketId row.revision (startedBy command now) s.tickets,
    stored.Checks
  tickets : result.1.tickets = revised row.ticketId row.revision (startedBy command now) s.tickets
  commands : result.1.commands = s.commands ++
    [(CommandDocument.markSendStarted command).receipt H result.2.ticket]
  shown : ∃ stored, fetchOne result.1.tickets (·.ticketId = row.ticketId) = some stored ∧
    ticketFromRow s.operation stored = .ok result.2.ticket

/-- What a replayed mark found: the receipt of an executed one under its key. -/
structure Replayed (H : Hashing) (command : CallerWorkMarkSendStartedInput) (s : Scope)
    (receipt : CommandRow) (result : Scope × CommandResult) : Prop where
  stored : receipt ∈ s.commands
  kind : receipt.commandKind = .markSendStarted
  ticketId : receipt.ticketId = command.ticketId
  key : receipt.idempotencyKey = command.idempotencyKey
  digest : receipt.commandDigest = H.command .markSendStarted (.markSendStarted command)
  answered : receipt.resultTicket = result.2.ticket
  named : result.2.ticket.ticketId = command.ticketId ∧ result.2.ticket.operation = s.operation
  same : result.1 = s

/-- A successful mark is executed on a reserved ticket, or replays a stored receipt. -/
theorem markSendStarted_ok (ran : markSendStarted H command clock s = .ok result) :
    (result.2.replayed = false ∧ ∃ row, Executed H command (clock 0) s row result) ∨
      (result.2.replayed = true ∧ ∃ receipt, Replayed H command s receipt result) := by
  simp only [markSendStarted, remembered, bind_ok] at ran
  obtain ⟨row, found, known, replays, ran⟩ := ran
  obtain ⟨name, -⟩ := fetch_self (ticketRow_ok.mp found)
  cases known with
  | some ticket =>
    -- Only a receipt under the same key, for the same ticket and bytes, is replayed.
    right
    simp only [pure_ok] at ran
    cases listed : fetchOne s.commands (·.idempotencyKey = command.idempotencyKey) with
    | none => simp [replayCommand, listed] at replays
    | some receipt =>
      obtain ⟨stored, key⟩ := fetchOne_some listed
      simp only [replayCommand, listed, bind_ok, require_ok, pure_ok, Option.some.injEq] at replays
      obtain ⟨_, ⟨ticketId, kind, digest⟩, _, ⟨named, operation, -⟩, rfl⟩ := replays
      subst ran
      exact ⟨rfl, receipt, stored, kind, ticketId.trans name, key, digest, rfl,
        ⟨named.trans name, operation⟩, rfl⟩
  | none =>
    left
    simp only [bind_ok, require_ok, orRaise_ok, updateTicket_ok, recordCommand, insertUnique_ok,
      pure_ok] at ran
    obtain ⟨outcome, ⟨target, checkedRow, _, reserved, _, -, _, -, _, -, _, -, _, -, _, -, _,
      request, _, ⟨checked, rfl⟩, ticket, read, rfl⟩, _, ⟨_, ⟨-, rfl⟩, rfl⟩, rfl⟩ := ran
    have there := checkedRow_ok checkedRow
    have revision : command.expectedRevision = target.revision := by
      simp only [Aar.CallerWork.checkedRow, requireRevision, bind_ok, require_ok] at checkedRow
      obtain ⟨row', found', _, revision, rest⟩ := checkedRow
      cases found'.symm.trans there
      exact revision.symm
    cases there.symm.trans found
    obtain ⟨stored, fetched, shown, -, -⟩ := getTicket_ok read
    exact ⟨rfl, row, ticketRow_ok.mp found, reserved, revision, request, checked, rfl,
      by simp only [CommandDocument.receipt, CommandDocument.ticketId, CommandDocument.kind,
        CommandDocument.key, name], stored, ticketRow_ok.mp fetched, shown⟩

/-- An executed mark stores its ticket with a started send. -/
theorem Executed.stored {now : Nat} {row : TicketRow} (kept : WellKept s.tickets)
    (executed : Executed H command now s row result) :
    fetchOne result.1.tickets (·.ticketId = command.ticketId) =
      some (startedBy command now row) := by
  obtain ⟨there, name⟩ := fetchOne_some executed.found
  have move : TableMove s.tickets result.1.tickets := by
    rw [executed.tickets]
    exact .moved (kept.fetch there) ⟨rfl, rfl, rfl, .marked executed.reserved rfl⟩ executed.checked
  have member : startedBy command now row ∈ result.1.tickets := by
    rw [executed.tickets]
    exact mem_updateWhere.mpr ⟨row, there, by simp⟩
  have fetched := (kept.move move).fetch member
  exact name ▸ fetched

/-- An executed mark answers the document of its ticket with a started send. -/
theorem Executed.answer {now : Nat} {row : TicketRow} (kept : WellKept s.tickets)
    (executed : Executed H command now s row result) :
    ticketFromRow s.operation (startedBy command now row) = .ok result.2.ticket := by
  obtain ⟨stored, fetched, shown⟩ := executed.shown
  rw [(fetchOne_some executed.found).2] at fetched
  cases fetched.symm.trans (executed.stored kept)
  exact shown

end Marks

section Documents

variable {operation : String} {row : TicketRow} {ticket : CallerWorkTicket}

/-- A document shows the attempt that its row holds. -/
theorem ticketFromRow_attempt (shown : ticketFromRow operation row = .ok ticket) :
    ticket.physicalAttempt.map PhysicalAttempt.physicalAttemptId = row.physicalAttemptId := by
  simp only [ticketFromRow, bind_ok, pure_ok] at shown
  obtain ⟨claimant, -, attempt, held, _, -, rfl⟩ := shown
  simp only [physicalAttemptOf] at held
  cases stored : row.physicalAttemptId with
  | none =>
    simp only [stored, Except.ok.injEq] at held
    simp [← held]
  | some attemptId =>
    simp only [stored, orRaise_ok, Option.bind_eq_bind, Option.bind_eq_some_iff, Option.pure_def,
      Option.some.injEq] at held
    obtain ⟨_, -, rfl⟩ := held
    rfl

/-- A document shows the name, the state and the revision of its row. -/
theorem ticketFromRow_named (shown : ticketFromRow operation row = .ok ticket) :
    ticket.operation = operation ∧ ticket.ticketId = row.ticketId ∧ ticket.state = row.state ∧
      ticket.revision = row.revision ∧ Conforms ticket := by
  simp only [ticketFromRow, bind_ok, require_ok, pure_ok] at shown
  obtain ⟨claimant, -, attempt, -, _, conforms, rfl⟩ := shown
  exact ⟨rfl, rfl, rfl, rfl, conforms⟩

end Documents

section Advances

variable {tickets tickets' : List TicketRow}

/-- Every ticket of the earlier table is as it was in the later one, or at a later revision. -/
def TicketsAdvance (tickets tickets' : List TicketRow) : Prop :=
  ∀ row ∈ tickets, ∃ row' ∈ tickets', row'.ticketId = row.ticketId ∧
    (row' = row ∨ row.revision < row'.revision)

/-- One move of the table advances its tickets. -/
theorem TableMove.advances (kept : WellKept tickets) (move : TableMove tickets tickets') :
    TicketsAdvance tickets tickets' := by
  intro row member
  cases move with
  | unchanged => exact ⟨row, member, rfl, .inl rfl⟩
  | created => exact ⟨row, List.mem_append_left _ member, rfl, .inl rfl⟩
  | @moved target change found moves _ =>
    by_cases matched : row.ticketId = target.ticketId ∧ row.revision = target.revision
    · obtain rfl := List.inj_on_of_nodup_map kept.distinct member (fetchOne_some found).1 matched.1
      refine ⟨change row, mem_updateWhere.mpr ⟨row, member, by simp⟩, moves.ticketId, .inr ?_⟩
      rw [moves.revision]
      exact Nat.lt_succ_self _
    · exact ⟨row, mem_updateWhere.mpr ⟨row, member, by simp [matched]⟩, rfl, .inl rfl⟩

/-- Tickets that advance twice have advanced. -/
theorem TicketsAdvance.trans {tickets'' : List TicketRow} (first : TicketsAdvance tickets tickets')
    (second : TicketsAdvance tickets' tickets'') : TicketsAdvance tickets tickets'' := by
  intro row member
  obtain ⟨mid, there, name, same | later⟩ := first row member
  · subst same
    exact second mid there
  · obtain ⟨last, here, name', same | later'⟩ := second mid there
    · subst same
      exact ⟨last, here, name, .inr later⟩
    · exact ⟨last, here, name'.trans name, .inr (later.trans later')⟩

end Advances

end Aar.CallerWork

namespace Aar

open Guarded Table CallerWork

section Receipts

variable {H : Hashing} {clock : Clock} {s s' : Scope}

/-- Every receipt of a mark belongs to a marked ticket, and a ticket has at most one of them. -/
structure MarkReceipts (s : Scope) : Prop where
  marked : ∀ receipt ∈ s.commands, receipt.commandKind = .markSendStarted →
    ∃ row ∈ s.tickets, row.ticketId = receipt.ticketId ∧ Marked row ∧
      receipt.resultTicket.physicalAttempt.map PhysicalAttempt.physicalAttemptId =
        row.physicalAttemptId
  single : ∀ first ∈ s.commands, ∀ second ∈ s.commands,
    first.commandKind = .markSendStarted → second.commandKind = .markSendStarted →
    first.ticketId = second.ticketId → first = second

/-- The receipts of marks stay in order while no mark is added and marked sends are kept. -/
theorem MarkReceipts.keep (receipts : MarkReceipts s) (sends : SendsKept s.tickets s'.tickets)
    (commands : ∀ receipt ∈ s'.commands, receipt ∈ s.commands ∨
      receipt.commandKind ≠ .markSendStarted) : MarkReceipts s' where
  marked receipt member kind := by
    have old := (commands receipt member).resolve_right fun other => other kind
    obtain ⟨row, there, name, marked, attempt⟩ := receipts.marked receipt old kind
    obtain ⟨row', here, name', started, held, -⟩ := sends row there marked
    refine ⟨row', here, name'.trans name, ?_, attempt.trans held.symm⟩
    rw [Marked, started]
    exact marked
  single first member second member' kind kind' :=
    receipts.single first ((commands first member).resolve_right fun other => other kind) second
      ((commands second member').resolve_right fun other => other kind') kind kind'

/-- An executed mark adds the only receipt of its ticket. -/
theorem MarkReceipts.mark {command : CallerWorkMarkSendStartedInput} {now : Nat}
    {row : TicketRow} {result : Scope × CommandResult} (kept : WellKept s.tickets)
    (receipts : MarkReceipts s) (executed : Executed H command now s row result)
    (sends : SendsKept s.tickets result.1.tickets) : MarkReceipts result.1 := by
  obtain ⟨there, name⟩ := fetchOne_some executed.found
  obtain ⟨member, named⟩ := fetchOne_some (executed.stored kept)
  -- A ticket with a receipt is marked, and this one was still reserved.
  have first : ∀ receipt ∈ s.commands, receipt.commandKind = .markSendStarted →
      receipt.ticketId ≠ command.ticketId := by
    intro receipt old kind same
    obtain ⟨other, member', name', marked, -⟩ := receipts.marked receipt old kind
    obtain rfl := List.inj_on_of_nodup_map kept.distinct member' there
      (name'.trans (same.trans name.symm))
    exact marked_sent (kept.checked other there) marked (by simp [unsentStates, executed.reserved])
  have old : ∀ receipt ∈ result.1.commands, receipt ∈ s.commands ∨
      receipt = (CommandDocument.markSendStarted command).receipt H result.2.ticket := by
    intro receipt listed
    rw [executed.commands] at listed
    simpa using listed
  constructor
  · intro receipt listed kind
    rcases old receipt listed with before | rfl
    · obtain ⟨stored, there', name', marked, attempt⟩ := receipts.marked receipt before kind
      obtain ⟨stored', here, name'', started, held, -⟩ := sends stored there' marked
      refine ⟨stored', here, name''.trans name', ?_, attempt.trans held.symm⟩
      rw [Marked, started]
      exact marked
    · exact ⟨_, member, named, rfl, ticketFromRow_attempt (executed.answer kept)⟩
  · intro one listed other listed' kind kind' same
    rcases old one listed with before | rfl
    · rcases old other listed' with before' | rfl
      · exact receipts.single one before other before' kind kind' same
      · exact absurd same (first one before kind)
    · rcases old other listed' with before' | rfl
      · exact absurd same.symm (first other before' kind')
      · rfl

/-- A ticket transaction that is no mark adds no receipt of one. -/
theorem TicketCall.no_mark {call : TicketCall} (ran : call.run H clock s = .ok s')
    (other : ∀ command, call ≠ .markSendStarted command) :
    ∀ receipt ∈ s'.commands, receipt ∈ s.commands ∨ receipt.commandKind ≠ .markSendStarted := by
  -- A remembered command adds at most its own receipt, which is of its own kind.
  have command : ∀ (document : CommandDocument) (claimId attemptId : String),
      document.kind ≠ .markSendStarted → call = document.call claimId attemptId →
      ∀ receipt ∈ s'.commands, receipt ∈ s.commands ∨ receipt.commandKind ≠ .markSendStarted := by
    rintro document claimId attemptId kind rfl receipt listed
    rw [CommandDocument.call_run, map_ok] at ran
    obtain ⟨result, ran, rfl⟩ := ran
    obtain ⟨row, s₁, -, journalled, finished⟩ := document.submit_ok ran
    obtain ⟨-, _, _, rfl⟩ := document.evidence_grows journalled
    rcases finished with ⟨same, -, -⟩ | ⟨outcome, -, -, rfl⟩
    · rw [same] at listed
      exact .inl listed
    · rcases List.mem_append.mp listed with old | new
      · exact .inl old
      · rw [List.mem_singleton.mp new]
        exact .inr kind
  have quiet : s'.commands = s.commands →
      ∀ receipt ∈ s'.commands, receipt ∈ s.commands ∨ receipt.commandKind ≠ .markSendStarted := by
    intro same receipt listed
    exact .inl (same ▸ listed)
  cases call with
  | claim input claimId attemptId => exact command (.claim input) claimId attemptId nofun rfl
  | markSendStarted input => exact absurd rfl (other input)
  | cancelBeforeSend input => exact command (.cancelBeforeSend input) "" "" nofun rfl
  | commit input => exact command (.commit input) "" "" nofun rfl
  | reconcile input => exact command (.reconcile input) "" "" nofun rfl
  | settleCandidate input => exact command (.settleCandidate input) "" "" nofun rfl
  | create ticket =>
    simp only [TicketCall.run, map_ok] at ran
    obtain ⟨result, ran, rfl⟩ := ran
    refine quiet ?_
    rcases createTicket_cases ran with ⟨-, same⟩ | ⟨-, same⟩ <;> rw [same]
  | reclaimExpired =>
    simp only [TicketCall.run, map_ok, CallerWork.reclaimExpired, bind_ok, updateTicket_ok,
      pure_ok] at ran
    obtain ⟨_, ⟨_, -, _, -, _, -, _, -, _, -, _, -, _, ⟨-, rfl⟩, _, -, rfl⟩, rfl⟩ := ran
    exact quiet rfl
  | requestCancel =>
    simp only [TicketCall.run, map_ok, CallerWork.requestTicketCancel, bind_ok, updateTicket_ok,
      pure_ok] at ran
    obtain ⟨_, ⟨_, -, _, -, _, -, _, ⟨-, rfl⟩, _, -, rfl⟩, rfl⟩ := ran
    exact quiet rfl
  | markOutcomeUnknown =>
    simp only [TicketCall.run, map_ok, CallerWork.markOutcomeUnknown, bind_ok, updateTicket_ok,
      ite_ok, pure_ok] at ran
    obtain ⟨_, ⟨_, -, _, -, ⟨-, _, -, rfl⟩ | ⟨-, _, -, _, ⟨-, rfl⟩, _, -, rfl⟩⟩, rfl⟩ := ran <;>
      exact quiet rfl
  | appendCandidateReceipt =>
    simp only [TicketCall.run, map_ok, CallerWork.appendCandidateReceipt, bind_ok, pure_ok] at ran
    obtain ⟨_, ⟨_, -, _, -, _, -, inserted, stored, rfl⟩, rfl⟩ := ran
    obtain ⟨_, same⟩ := insertCandidate_effect stored
    refine quiet ?_
    rw [same]
  | appendModelCandidateReceipt =>
    simp only [TicketCall.run, map_ok, CallerWork.appendModelCandidateReceipt, bind_ok,
      pure_ok] at ran
    obtain ⟨_, ⟨_, -, _, -, _, -, _, -, s₁, recorded, inserted, stored, rfl⟩, rfl⟩ := ran
    obtain ⟨_, _, rfl⟩ := recordModelResponse_effect recorded
    obtain ⟨_, same⟩ := insertCandidate_effect stored
    refine quiet ?_
    rw [same]

/-- The receipts of marks are in order after every local step. -/
theorem LocalStep.mark_receipts {rules : Rules} (step : LocalStep H rules clock s s')
    (kept : WellKept s.tickets) (receipts : MarkReceipts s) : MarkReceipts s' := by
  have sends := step.tickets.sends kept
  rcases step.call_or_untouched with ⟨call, r, -, ran, rfl⟩ | untouched
  · cases call with
    | registry call =>
      have same : r.commands = s.commands := (RegistryCall.beside ran).memory.commands
      exact receipts.keep sends fun receipt member => .inl (same ▸ member)
    | workbench call =>
      obtain ⟨_, _, _, _, _, _, _, _, _, _, -, -, rfl⟩ := WorkbenchCall.effect ran
      exact receipts.keep sends fun receipt member => .inl member
    | ticket call =>
      by_cases marks : ∃ command, call = .markSendStarted command
      · obtain ⟨command, rfl⟩ := marks
        simp only [OpCall.run, TicketCall.run, map_ok] at ran
        obtain ⟨result, ran, rfl⟩ := ran
        rcases markSendStarted_ok ran with ⟨-, row, executed⟩ | ⟨-, receipt, replayed⟩
        · have marked : MarkReceipts result.1 := receipts.mark kept executed sends
          exact ⟨marked.marked, marked.single⟩
        · exact receipts.keep sends fun receipt member => .inl (replayed.same ▸ member)
      · have added : ∀ receipt ∈ r.commands, receipt ∈ s.commands ∨
            receipt.commandKind ≠ .markSendStarted :=
          TicketCall.no_mark ran fun command same => marks ⟨command, same⟩
        exact receipts.keep sends added
  · refine receipts.keep sends fun receipt member => .inl ?_
    rwa [untouched.commands] at member

/-- In every run the receipts of marks are in order. -/
theorem markReceipts_invariant :
    Invariant H Unrestricted fun s => WellKept s.tickets ∧ MarkReceipts s where
  new s new := by
    refine ⟨wellKept_invariant.new s new, ?_⟩
    obtain ⟨_, _, _, -, record⟩ := new.rows
    have empty : s.commands = [] := congrArg OpRecord.commands record
    exact ⟨by simp [empty], by simp [empty]⟩
  step clock s s' step holding :=
    ⟨wellKept_invariant.step clock s s' step holding.1, step.mark_receipts holding.1 holding.2⟩

theorem advances_progress : Progress H Unrestricted (fun _ => True)
    (fun s => WellKept s.tickets) fun s s' => TicketsAdvance s.tickets s'.tickets where
  refl _ := fun row member => ⟨row, member, rfl, .inl rfl⟩
  trans _ _ _ first second := first.trans second
  step _ _ _ _ step kept := step.tickets.advances kept

end Receipts

end Aar
