import Aar.Proofs.Receipts

/-! A physical attempt is new when its ticket is claimed, and no two tickets ever share one. -/

namespace Aar.CallerWork

open Guarded Table

section Tables

variable {tickets tickets' : List TicketRow}

/-- A ticket holds an attempt. -/
def HoldsAttempt (tickets : List TicketRow) (ticketId attempt : String) : Prop :=
  ∃ row ∈ tickets, row.ticketId = ticketId ∧ row.physicalAttemptId = some attempt

/-- Every attempt that is held afterwards was held by the same ticket before. -/
def NoNewAttempt (tickets tickets' : List TicketRow) : Prop :=
  ∀ ticketId attempt, HoldsAttempt tickets' ticketId attempt →
    HoldsAttempt tickets ticketId attempt

theorem NoNewAttempt.refl (tickets : List TicketRow) : NoNewAttempt tickets tickets :=
  fun _ _ => id

/-- A rewrite that keeps or drops attempts brings no new one. -/
theorem NoNewAttempt.revised {ticketId : String} {revision : Nat}
    {change : TicketRow → TicketRow} (named : ∀ row, (change row).ticketId = row.ticketId)
    (kept : ∀ row, (change row).physicalAttemptId = row.physicalAttemptId ∨
      (change row).physicalAttemptId = none) :
    NoNewAttempt tickets (CallerWork.revised ticketId revision change tickets) := by
  rintro named' attempt ⟨row, member, rfl, held⟩
  obtain ⟨stored, there, rfl⟩ := mem_updateWhere.mp member
  refine ⟨stored, there, ?_⟩
  -- The rewritten ticket keeps its name, and holds its attempt only if it held it before.
  split at held
  · rename_i matched
    rw [if_pos matched]
    rcases kept stored with same | dropped
    · exact ⟨(named stored).symm, same.symm.trans held⟩
    · rw [dropped] at held
      cases held
  · rename_i missed
    rw [if_neg missed]
    exact ⟨rfl, held⟩

theorem NoNewAttempt.created (ticket : CallerWorkTicket) :
    NoNewAttempt tickets (tickets ++ [rowOfDocument ticket]) := by
  rintro ticketId attempt ⟨row, member, name, held⟩
  rcases List.mem_append.mp member with old | new
  · exact ⟨row, old, name, held⟩
  · rw [List.mem_singleton.mp new] at held
    cases held

end Tables

section Calls

variable {H : Hashing} {clock : Clock} {s s' : Scope}

/-- A quarantine keeps every attempt. -/
theorem quarantineTicket_attempts {row : TicketRow} {now : Nat}
    {outcome : Scope × CallerWorkTicket} (ran : quarantineTicket H row now s = .ok outcome) :
    NoNewAttempt s.tickets outcome.1.tickets := by
  obtain ⟨-, projected⟩ := quarantineTicket_cases ran
  obtain ⟨_, -, -, same | ⟨_, _, _, -, -, -, -, same⟩⟩ := projectTerminal_cases projected <;>
    rw [same] <;> exact .revised (fun _ => rfl) fun _ => .inl rfl

/-- A settlement keeps every attempt. -/
theorem applyCandidateSettlement_attempts {row : TicketRow} {selected : CandidateReceipt}
    {now : Nat} {outcome : Scope × CallerWorkTicket}
    (ran : applyCandidateSettlement H row selected now s = .ok outcome) :
    NoNewAttempt s.tickets outcome.1.tickets := by
  obtain ⟨-, projected⟩ := applyCandidateSettlement_cases ran
  have keeps : ∀ stored, ((if Contradictory H row s then quarantined else settledOn selected now)
      stored).ticketId = stored.ticketId ∧
      ((if Contradictory H row s then quarantined else settledOn selected now)
        stored).physicalAttemptId = stored.physicalAttemptId := by
    intro stored
    split <;> exact ⟨rfl, rfl⟩
  obtain ⟨_, -, -, same | ⟨_, _, _, -, -, -, -, same⟩⟩ := projectTerminal_cases projected <;>
    rw [same] <;>
      exact .revised (fun stored => (keeps stored).1) fun stored => .inl (keeps stored).2

/-- A remembered command brings no attempt that its body does not bring. -/
theorem remembered_attempts {ticketId key : String} {kind : CommandKind}
    {document : CommandDocument}
    {body : TicketRow → Scope → Except Err (Scope × CallerWorkTicket)}
    {result : Scope × CommandResult}
    (ran : remembered H ticketId kind document key body s = .ok result)
    (kept : ∀ row outcome, body row s = .ok outcome → NoNewAttempt s.tickets outcome.1.tickets) :
    NoNewAttempt s.tickets result.1.tickets := by
  rcases remembered_cases ran with ⟨same, -⟩ | ⟨row, outcome, _, -, body, rfl⟩
  · rw [same]
    exact .refl _
  · exact kept row outcome body

/-- A claim reserves its ticket for one attempt, which no ticket held before. -/
structure ClaimsAttempt (s s' : Scope) (ticketId attempt : String) : Prop where
  fresh : s.Fresh physicalAttemptIds attempt
  held : ∀ name other, HoldsAttempt s'.tickets name other →
    HoldsAttempt s.tickets name other ∨ (name = ticketId ∧ other = attempt)

/-- A claim brings its own attempt, if any. -/
theorem claim_attempts {command : CallerWorkClaimInput} {claimId attempt : String}
    {result : Scope × CommandResult}
    (ran : claim H command claimId attempt clock s = .ok result) :
    NoNewAttempt s.tickets result.1.tickets ∨
      ClaimsAttempt s result.1 command.ticketId attempt := by
  rcases remembered_cases ran with ⟨same, -⟩ | ⟨_, outcome, _, -, body, rfl⟩
  · rw [same]
    exact .inl (.refl _)
  · simp only [bind_ok, require_ok, updateTicket_ok, pure_ok] at body
    obtain ⟨row, checked, _, -, _, -, _, fresh, _, ⟨-, rfl⟩, _, -, rfl⟩ := body
    obtain ⟨name, -⟩ := fetch_self (ticketRow_ok.mp (checkedRow_ok checked))
    refine .inr ⟨fresh, ?_⟩
    rintro ticketId other ⟨stored, member, rfl, held⟩
    obtain ⟨before, there, rfl⟩ := mem_updateWhere.mp member
    -- Either this is the claimed ticket with its new attempt, or it is as it was.
    split at held
    · rename_i matched
      rw [if_pos matched]
      exact .inr ⟨matched.1.trans name, (Option.some.inj held).symm⟩
    · rename_i missed
      rw [if_neg missed]
      exact .inl ⟨before, there, rfl, held⟩

/-- A commit keeps every attempt. -/
theorem commit_attempts {command : CallerWorkCommitInput} {result : Scope × CommandResult}
    (ran : commit H command clock s = .ok result) :
    NoNewAttempt s.tickets result.1.tickets := by
  simp only [commit, bind_ok] at ran
  obtain ⟨_, -, s₁, journalled, ran⟩ := ran
  have same : s₁.tickets = s.tickets := by
    simp only [ite_ok] at journalled
    rcases journalled with ⟨-, recorded⟩ | ⟨-, same⟩
    · obtain ⟨_, _, rfl⟩ := recordModelResponse_effect recorded
      rfl
    · cases same
      rfl
  rw [← same]
  refine remembered_attempts ran fun _ outcome body => ?_
  simp only [bind_ok, require_ok] at body
  obtain ⟨row, -, _, -, _, -, _, -, receipt, -, inserted, stored, settled⟩ := body
  obtain ⟨_, shape⟩ := insertCandidate_effect stored
  have kept := applyCandidateSettlement_attempts settled
  rw [shape] at kept
  exact kept

/-- A reconciliation keeps attempts, or drops the one of a reservation it takes back. -/
theorem reconcile_attempts {command : CallerWorkReconcileInput} {result : Scope × CommandResult}
    (ran : reconcile H command clock s = .ok result) :
    NoNewAttempt s.tickets result.1.tickets := by
  refine remembered_attempts ran fun _ outcome body => ?_
  simp only [bind_ok, require_ok] at body
  obtain ⟨row, -, _, -, _, -, body⟩ := body
  cases action : command.reconciliationAction with
  | retryIfCertainNoSend =>
    simp only [action, bind_ok, require_ok, updateTicket_ok, pure_ok] at body
    obtain ⟨_, -, _, ⟨-, rfl⟩, _, -, rfl⟩ := body
    exact .revised (fun _ => rfl) fun _ => .inr rfl
  | lookup =>
    simp only [action, bind_ok, require_ok, pure_ok] at body
    obtain ⟨_, -, _, -, rfl⟩ := body
    exact .refl _
  | settle =>
    simp only [action, bind_ok, require_ok, orRaise_ok] at body
    obtain ⟨_, -, receipt, -, settled⟩ := body
    exact applyCandidateSettlement_attempts settled
  | quarantine =>
    simp only [action, bind_ok, require_ok, orRaise_ok] at body
    obtain ⟨_, -, receipt, -, settled⟩ := body
    exact quarantineTicket_attempts settled

/-- Only a claim brings a new attempt, which is fresh and belongs to the claimed ticket. -/
theorem ticketCall_attempts {call : TicketCall} (ran : call.run H clock s = .ok s') :
    NoNewAttempt s.tickets s'.tickets ∨
      ∃ command claimId attempt, call = .claim command claimId attempt ∧
        ClaimsAttempt s s' command.ticketId attempt := by
  cases call <;> simp only [TicketCall.run, map_ok] at ran <;> obtain ⟨result, ran, rfl⟩ := ran
  case claim command claimId attempt =>
    rcases claim_attempts ran with kept | claims
    · exact .inl kept
    · exact .inr ⟨command, claimId, attempt, rfl, claims⟩
  all_goals left
  case create ticket =>
    rcases createTicket_cases ran with ⟨-, same⟩ | ⟨-, same⟩ <;> rw [same]
    · exact .refl _
    · exact .created ticket
  case reclaimExpired =>
    simp only [reclaimExpired, bind_ok, updateTicket_ok, pure_ok] at ran
    obtain ⟨_, -, _, -, _, -, _, -, _, -, _, -, _, ⟨-, rfl⟩, _, -, rfl⟩ := ran
    exact .revised (fun _ => rfl) fun _ => .inr rfl
  case markSendStarted =>
    refine remembered_attempts ran fun _ outcome body => ?_
    simp only [bind_ok, updateTicket_ok, pure_ok] at body
    obtain ⟨_, -, _, -, _, -, _, -, _, -, _, -, _, -, _, -, _, -, _, ⟨-, rfl⟩, _, -, rfl⟩ := body
    exact .revised (fun _ => rfl) fun _ => .inl rfl
  case cancelBeforeSend =>
    refine remembered_attempts ran fun _ outcome body => ?_
    simp only [bind_ok, updateTicket_ok, pure_ok] at body
    obtain ⟨_, -, _, -, _, -, _, ⟨-, rfl⟩, _, projected, _, -, rfl⟩ := body
    obtain ⟨_, -, -, same | ⟨_, _, _, -, -, -, -, same⟩⟩ := projectTerminal_cases projected <;>
      rw [same] <;> exact .revised (fun _ => rfl) fun _ => .inl rfl
  case requestCancel =>
    simp only [requestTicketCancel, bind_ok, updateTicket_ok, pure_ok] at ran
    obtain ⟨_, -, _, -, _, -, _, ⟨-, rfl⟩, _, -, rfl⟩ := ran
    exact .revised (fun _ => rfl) fun _ => .inl rfl
  case markOutcomeUnknown =>
    simp only [markOutcomeUnknown, bind_ok, updateTicket_ok, ite_ok, pure_ok] at ran
    obtain ⟨_, -, _, -, ⟨-, _, -, rfl⟩ | ⟨-, _, -, _, ⟨-, rfl⟩, _, -, rfl⟩⟩ := ran
    · exact .refl _
    · exact .revised (fun _ => rfl) fun _ => .inl rfl
  case commit => exact commit_attempts ran
  case reconcile => exact reconcile_attempts ran
  case appendCandidateReceipt =>
    simp only [appendCandidateReceipt, bind_ok, pure_ok] at ran
    obtain ⟨_, -, _, -, _, -, inserted, stored, rfl⟩ := ran
    obtain ⟨_, same⟩ := insertCandidate_effect stored
    rw [same]
    exact .refl _
  case appendModelCandidateReceipt =>
    simp only [appendModelCandidateReceipt, bind_ok, pure_ok] at ran
    obtain ⟨_, -, _, -, _, -, _, -, _, recorded, inserted, stored, rfl⟩ := ran
    obtain ⟨_, _, rfl⟩ := recordModelResponse_effect recorded
    obtain ⟨_, same⟩ := insertCandidate_effect stored
    rw [same]
    exact .refl _
  case settleCandidate =>
    refine remembered_attempts ran fun _ outcome body => ?_
    simp only [bind_ok] at body
    obtain ⟨_, -, _, -, _, -, _, -, _, -, settled⟩ := body
    exact applyCandidateSettlement_attempts settled

theorem opens_attempts {ticket : CallerWorkTicket} {suspensions : List SuspensionRow}
    {tickets : List TicketRow} (opens : Registry.Opens ticket s suspensions tickets) :
    NoNewAttempt s.tickets tickets := by
  rcases opens.stored with ⟨-, rfl⟩ | ⟨-, rfl⟩
  · exact .refl _
  · exact .created ticket

end Calls

end Aar.CallerWork

namespace Aar

open Guarded Table CallerWork

section Steps

variable {H : Hashing} {clock : Clock} {s s' : Scope}

theorem RegistryCall.Waits.attempts {call : RegistryCall} {tickets : List TicketRow}
    {suspensions : List SuspensionRow} (waits : call.Waits clock s tickets suspensions) :
    NoNewAttempt s.tickets tickets := by
  cases waits with
  | still | stopped => exact .refl _
  | opened _ opens =>
    have kept := opens_attempts opens
    exact kept

/-- A call on an operation brings a new attempt only as a claim, with a fresh one. -/
theorem OpCall.attempts {call : OpCall} (ran : call.run H clock s = .ok s') :
    NoNewAttempt s.tickets s'.tickets ∨
      ∃ command claimId attempt, call = .ticket (.claim command claimId attempt) ∧
        ClaimsAttempt s s' command.ticketId attempt := by
  cases call with
  | registry call => exact .inl (RegistryCall.beside ran).waits.attempts
  | ticket call =>
    rcases ticketCall_attempts ran with kept | ⟨command, claimId, attempt, rfl, claims⟩
    · exact .inl kept
    · exact .inr ⟨command, claimId, attempt, rfl, claims⟩
  | workbench call =>
    obtain ⟨_, _, _, _, _, _, _, _, _, _, -, -, rfl⟩ := WorkbenchCall.effect ran
    exact .inl (.refl _)

end Steps

section Runs

variable {H : Hashing} {db : Db}

/-- A ticket of an operation holds an attempt. -/
def Db.Holds (db : Db) (operation ticketId attempt : String) : Prop :=
  ∃ record, db.lookup operation = some record ∧ HoldsAttempt record.tickets ticketId attempt

/-- The event is a claim of a ticket with an attempt that no ticket holds. -/
def Event.ClaimsFresh (event : Event) (db : Db) (operation ticketId attempt : String) : Prop :=
  (∃ command claimId, event.call = .on operation (.ticket (.claim command claimId attempt)) ∧
    command.ticketId = ticketId) ∧
    ∀ operation' ticketId', ¬ db.Holds operation' ticketId' attempt

/-- A fresh attempt is held by no ticket of any operation. -/
theorem Scope.Fresh.unheld {operation attempt : String} {record : OpRecord}
    (found : db.lookup operation = some record)
    (fresh : (db.scope operation record).Fresh physicalAttemptIds attempt)
    (operation' ticketId' : String) : ¬ db.Holds operation' ticketId' attempt := by
  rintro ⟨record', there, row, member, -, held⟩
  have listed : attempt ∈ physicalAttemptIds record' := by
    simp only [physicalAttemptIds, List.mem_filterMap]
    exact ⟨row, member, held⟩
  by_cases here : operation' = operation
  · subst here
    cases found.symm.trans there
    exact fresh.1 listed
  · -- Another operation's rows are among those the check reads.
    refine fresh.2 record' ?_ listed
    refine List.mem_map.mpr ⟨(operation', record'), List.mem_filter.mpr ?_, rfl⟩
    exact ⟨Db.mem_of_lookup there, by simpa using here⟩

/-- An attempt that is held after an event was held before, or the event claimed it. -/
theorem Event.holds_arises (event : Event) {operation ticketId attempt : String}
    (holds : (event.step H db).Holds operation ticketId attempt) :
    db.Holds operation ticketId attempt ∨ event.ClaimsFresh db operation ticketId attempt := by
  obtain ⟨record', after, held⟩ := holds
  cases found : db.lookup operation with
  | none =>
    -- A new operation has no ticket.
    have evolves := Event.evolves (H := H) (event.unrestricted db)
    have new := evolves.created operation record' found after
    obtain ⟨_, _, _, -, shape⟩ := new.rows
    have empty : record'.tickets = [] := congrArg OpRecord.tickets shape
    obtain ⟨row, member, -⟩ := held
    simp [empty] at member
  | some record =>
    rcases event.call_or_untouched (H := H) found with ⟨call, r, called, ran, there⟩ |
      ⟨record'', there, untouched⟩
    · cases there.symm.trans after
      rcases OpCall.attempts ran with kept | ⟨command, claimId, fresh, rfl, claims⟩
      · exact .inl ⟨record, found, kept _ _ held⟩
      · rcases claims.held _ _ held with old | ⟨rfl, rfl⟩
        · exact .inl ⟨record, found, old⟩
        · exact .inr ⟨⟨command, claimId, called, rfl⟩, claims.fresh.unheld found⟩
    · cases there.symm.trans after
      have same : record'.tickets = record.tickets := untouched.tickets
      rw [same] at held
      exact .inl ⟨record, found, held⟩

/-- No two tickets hold one attempt. -/
def Db.AttemptsApart (db : Db) : Prop :=
  ∀ operation ticketId operation' ticketId' attempt, db.Holds operation ticketId attempt →
    db.Holds operation' ticketId' attempt → operation = operation' ∧ ticketId = ticketId'

/-- In every reachable database, whatever attempt ids the claims drew, no two tickets share one. -/
theorem attempts_apart (reached : db.Reachable H) : db.AttemptsApart := by
  refine Runs.Reachable.invariant reached ?_ ?_
  · rintro _ _ _ _ _ ⟨record, found, -⟩
    cases found
  · intro event before apart operation ticketId operation' ticketId' attempt first second
    rcases event.holds_arises first with old | ⟨⟨_, _, called, name⟩, unheld⟩
    · rcases event.holds_arises second with old' | ⟨-, unheld⟩
      · exact apart _ _ _ _ _ old old'
      · exact absurd old (unheld _ _)
    · rcases event.holds_arises second with old' | ⟨⟨_, _, called', name'⟩, -⟩
      · exact absurd old' (unheld _ _)
      · -- One event claims one ticket.
        cases called.symm.trans called'
        exact ⟨rfl, name.symm.trans name'⟩

end Runs

end Aar
