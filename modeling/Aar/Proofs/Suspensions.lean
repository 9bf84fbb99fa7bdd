import Aar.Proofs.Tickets

/-! The link between tickets and suspensions: one of each under a revision, pending while open. -/

namespace Aar

open Guarded Table CallerWork

section Pairing

/-- What a step does to the tickets of an operation and to their suspensions: one ticket moves, a
suspension opens for a ticket that was asked for, or the pending suspensions end. -/
inductive Pairing (asked : CallerWorkTicket → Prop) (ended : Prop) (tickets : List TicketRow)
    (suspensions : List SuspensionRow) : List TicketRow → List SuspensionRow → Prop where
  | moved {tickets' suspensions'} (move : LinkedMove tickets suspensions tickets' suspensions') :
      Pairing asked ended tickets suspensions tickets' suspensions'
  | opened {ticket : CallerWorkTicket} {suspension : SuspensionRow} {tickets'} (asks : asked ticket)
      (first : ∀ stored ∈ suspensions, stored.suspensionRevision ≠ ticket.suspensionRevision)
      (revision : suspension.suspensionRevision = ticket.suspensionRevision)
      (pending : suspension.state = .pending)
      (stored : (∃ row ∈ tickets, row.suspensionRevision = ticket.suspensionRevision) ∨
        tickets' = tickets ++ [rowOfDocument ticket]) :
      Pairing asked ended tickets suspensions tickets' (suspensions ++ [suspension])
  | stopped {change : SuspensionRow → SuspensionRow} (ends : ended)
      (kept : ∀ row, (change row).suspensionRevision = row.suspensionRevision) :
      Pairing asked ended tickets suspensions tickets
        (updateWhere suspensions (·.state = .pending) change)

/-- The call ends its operation: a queued dispatch is cancelled, or a deadline has passed. -/
def OpCall.Terminalizes (H : Hashing) (clock : Clock) (call : OpCall) (s : Scope) : Prop :=
  (∃ generation resultJson s', call = .registry (.cancelQueuedDispatch generation resultJson) ∧
    Registry.cancelQueuedDispatch generation resultJson clock s = .ok (s', true)) ∨
  ∃ s', call = .workbench .markDeadlineTerminal ∧ call.run H clock s = .ok s' ∧ s' ≠ s

variable {H : Hashing} {clock : Clock} {s s' : Scope} {asked : CallerWorkTicket → Prop}
  {ended : Prop}

theorem Pairing.unchanged {tickets : List TicketRow} {suspensions : List SuspensionRow} :
    Pairing asked ended tickets suspensions tickets suspensions :=
  .moved .unchanged

/-- Opening a suspension opens it for its ticket. -/
theorem Registry.Opens.pairs {ticket : CallerWorkTicket} {suspensions : List SuspensionRow}
    {tickets : List TicketRow} (opens : Opens ticket s suspensions tickets)
    (asks : asked ticket) : Pairing asked ended s.tickets s.suspensions tickets suspensions := by
  obtain ⟨row, revision, -, pending, rfl⟩ := opens.opened
  refine .opened asks opens.first revision pending ?_
  rcases opens.stored with ⟨⟨known, found, shown⟩, -⟩ | ⟨-, rfl⟩
  · -- A stored document names the suspension of the row it is read from.
    refine .inl ⟨known, (fetchOne_some found).1, ?_⟩
    simp only [ticketFromRow, bind_ok, pure_ok] at shown
    obtain ⟨_, -, _, -, _, -, rfl⟩ := shown
    rfl
  · exact .inr rfl

theorem CallerWork.Written.pairs (written : Written H s s') :
    Pairing asked ended s.tickets s.suspensions s'.tickets s'.suspensions := by
  cases written with
  | aside move => exact .moved move
  | returned closing => exact .moved (.closed closing)

/-- A registry transaction opens suspensions for the tickets it asks for, and ends them last. -/
theorem RegistryCall.Waits.pairs {call : RegistryCall} {tickets : List TicketRow}
    {suspensions : List SuspensionRow} (waits : call.Waits clock s tickets suspensions)
    (asks : ∀ ticket ∈ OpCall.asks (.registry call), asked ticket)
    (ends : OpCall.Terminalizes H clock (.registry call) s → ended) :
    Pairing asked ended s.tickets s.suspensions tickets suspensions := by
  cases waits with
  | still => exact .unchanged
  | opened known opens => exact opens.pairs (asks _ known)
  | stopped cancels stops kept => exact .stopped (ends (.inl ⟨_, _, _, cancels ▸ rfl, stops⟩)) kept

/-- A coordinator transaction writes suspensions only when a deadline has passed. -/
theorem WorkbenchCall.pairs {call : WorkbenchCall} (ran : call.run H clock s = .ok s')
    (ends : OpCall.Terminalizes H clock (.workbench call) s → ended) :
    Pairing asked ended s.tickets s.suspensions s'.tickets s'.suspensions := by
  by_cases deadline : call = .markDeadlineTerminal
  · subst deadline
    by_cases same : s' = s
    · rw [same]
      exact .unchanged
    · have hit : ended := ends (.inr ⟨s', rfl, ran, same⟩)
      rcases Workbench.markDeadlineTerminal_ok ran with rfl | ⟨_, _, _, -, -, -, -, rfl⟩
      · exact .unchanged
      · exact .stopped hit fun _ => rfl
  · obtain ⟨_, _, _, _, _, _, _, _, _, _, -, rfl | deadline', rfl⟩ := WorkbenchCall.effect ran
    · exact .unchanged
    · exact absurd deadline' deadline

/-- A transaction moves one ticket, opens one suspension, or ends the pending ones. -/
theorem OpCall.pairs {call : OpCall} (ran : call.run H clock s = .ok s')
    (asks : ∀ ticket ∈ call.asks, asked ticket) (ends : call.Terminalizes H clock s → ended) :
    Pairing asked ended s.tickets s.suspensions s'.tickets s'.suspensions := by
  cases call with
  | registry call => exact (RegistryCall.beside ran).waits.pairs asks ends
  | ticket call => exact (TicketCall.written ran).pairs
  | workbench call => exact WorkbenchCall.pairs ran ends

/-- Every local step moves one ticket, opens one suspension, or ends the pending ones. -/
theorem LocalStep.pairs {rules : Rules} (step : LocalStep H rules clock s s')
    (asks : ∀ call, rules.call clock call s → ∀ ticket ∈ call.asks, asked ticket)
    (ends : ∀ call, rules.call clock call s → call.Terminalizes H clock s → ended) :
    Pairing asked ended s.tickets s.suspensions s'.tickets s'.suspensions := by
  rcases step.call_or_untouched with ⟨call, r, allow, ran, rfl⟩ | untouched
  · have pairs : Pairing asked ended s.tickets s.suspensions r.tickets r.suspensions :=
      OpCall.pairs ran (asks call allow) (ends call allow)
    exact pairs
  · rw [untouched.tickets, untouched.suspensions]
    exact .unchanged

end Pairing

section Linking

/-- Tickets and suspensions are stored in step: the same revisions in the same order, each once. -/
structure Linked (tickets : List TicketRow) (suspensions : List SuspensionRow) : Prop where
  aligned : tickets.map TicketRow.suspensionRevision =
    suspensions.map SuspensionRow.suspensionRevision
  distinct : (tickets.map TicketRow.suspensionRevision).Nodup

/-- A suspension is pending exactly while the ticket under its revision is open. -/
def Agreed (tickets : List TicketRow) (suspensions : List SuspensionRow) : Prop :=
  ∀ row ∈ tickets, ∀ suspension ∈ suspensions,
    suspension.suspensionRevision = row.suspensionRevision →
      (suspension.state = .pending ↔ row.state ∈ openStates)

variable {tickets tickets' : List TicketRow} {suspensions suspensions' : List SuspensionRow}
  {asked : CallerWorkTicket → Prop} {ended : Prop}

theorem Linked.held (linked : Linked tickets suspensions) {suspension : SuspensionRow}
    (member : suspension ∈ suspensions) :
    ∃ row ∈ tickets, row.suspensionRevision = suspension.suspensionRevision := by
  have listed := List.mem_map_of_mem (f := SuspensionRow.suspensionRevision) member
  rw [← linked.aligned] at listed
  exact List.mem_map.mp listed

theorem Linked.waits (linked : Linked tickets suspensions) {row : TicketRow}
    (member : row ∈ tickets) :
    ∃ suspension ∈ suspensions, suspension.suspensionRevision = row.suspensionRevision := by
  have listed := List.mem_map_of_mem (f := TicketRow.suspensionRevision) member
  rw [linked.aligned] at listed
  exact List.mem_map.mp listed

theorem Linked.ticket_unique (linked : Linked tickets suspensions) {row other : TicketRow}
    (member : row ∈ tickets) (member' : other ∈ tickets)
    (same : row.suspensionRevision = other.suspensionRevision) : row = other :=
  List.inj_on_of_nodup_map linked.distinct member member' same

theorem Linked.suspension_unique (linked : Linked tickets suspensions)
    {suspension other : SuspensionRow} (member : suspension ∈ suspensions)
    (member' : other ∈ suspensions)
    (same : suspension.suspensionRevision = other.suspensionRevision) : suspension = other :=
  List.inj_on_of_nodup_map (linked.aligned ▸ linked.distinct) member member' same

/-- Between linked tables every suspension has its ticket, so no ticket is created alone. -/
theorem Linked.none_alone (linked : Linked tickets suspensions) {row : TicketRow}
    (referenced : ∃ suspension ∈ suspensions, References row suspension)
    (first : ∀ other ∈ tickets, other.suspensionRevision ≠ row.suspensionRevision) : False := by
  obtain ⟨suspension, member, revision, -⟩ := referenced
  obtain ⟨other, there, same⟩ := linked.held member
  exact first other there (same.trans revision)

/-- Between linked tables a new suspension is opened with a new ticket. -/
theorem Linked.opened {ticket : CallerWorkTicket} (linked : Linked tickets suspensions)
    (first : ∀ stored ∈ suspensions, stored.suspensionRevision ≠ ticket.suspensionRevision)
    (stored : (∃ row ∈ tickets, row.suspensionRevision = ticket.suspensionRevision) ∨
      tickets' = tickets ++ [rowOfDocument ticket]) :
    tickets' = tickets ++ [rowOfDocument ticket] := by
  rcases stored with ⟨row, member, revision⟩ | added
  · obtain ⟨suspension, there, same⟩ := linked.waits member
    exact absurd (same.trans revision) (first suspension there)
  · exact added

/-- Rewriting pending suspensions keeps their revisions. -/
theorem suspensions_revisions (matching : SuspensionRow → Prop) [DecidablePred matching]
    {change : SuspensionRow → SuspensionRow}
    (kept : ∀ row, (change row).suspensionRevision = row.suspensionRevision) :
    (updateWhere suspensions matching change).map SuspensionRow.suspensionRevision =
      suspensions.map SuspensionRow.suspensionRevision :=
  updateWhere_column fun stored _ => kept stored

/-- Every step keeps tickets and suspensions linked. -/
theorem Linked.step (linked : Linked tickets suspensions) (kept : WellKept tickets)
    (pairs : Pairing asked ended tickets suspensions tickets' suspensions') :
    Linked tickets' suspensions' := by
  cases pairs with
  | moved move =>
    cases move with
    | unchanged => exact linked
    | created _ _ referenced first => exact (linked.none_alone referenced first).elim
    | moved found move =>
      have same := revised_column kept (fetchOne_some found).1 move.suspensionRevision
      exact ⟨same.trans linked.aligned, same ▸ linked.distinct⟩
    | closed closing =>
      have same := revised_column kept (fetchOne_some closing.found).1
        closing.move.suspensionRevision
      refine ⟨same.trans (linked.aligned.trans (Eq.symm ?_)), same ▸ linked.distinct⟩
      exact suspensions_revisions _ fun _ => rfl
  | @opened ticket suspension _ _ first revision _ stored =>
    obtain rfl := linked.opened first stored
    have fresh : ticket.suspensionRevision ∉ tickets.map TicketRow.suspensionRevision := by
      rw [linked.aligned]
      rintro listed
      obtain ⟨other, there, same⟩ := List.mem_map.mp listed
      exact first other there same
    constructor
    · rw [List.map_append, List.map_append, linked.aligned]
      simp only [List.map_cons, List.map_nil, rowOfDocument, revision]
    · rw [List.map_append, List.nodup_append]
      refine ⟨linked.distinct, by simp, ?_⟩
      rintro old member new there rfl
      simp only [List.map_cons, List.map_nil, List.mem_singleton, rowOfDocument] at there
      exact fresh (there ▸ member)
  | stopped _ keeps =>
    exact ⟨linked.aligned.trans (suspensions_revisions _ keeps).symm, linked.distinct⟩

theorem suspensionState_closed {state : TicketState} {projected : SuspensionState}
    (due : suspensionState state = some projected) :
    state ∉ openStates ∧ projected ≠ .pending := by
  cases state <;> simp only [suspensionState, reduceCtorEq, Option.some.injEq] at due <;>
    subst due <;> decide

/-- Closing a ticket ends its own suspension, and no other. -/
theorem Agreed.closed (agreed : Agreed tickets suspensions) (linked : Linked tickets suspensions)
    (kept : WellKept tickets) {row : TicketRow} {change : TicketRow → TicketRow}
    {projected : SuspensionState} {now : Nat}
    (closing : Closing tickets suspensions row change projected) :
    Agreed (revised row.ticketId row.revision change tickets)
      (projectedSuspensions row projected now suspensions) := by
  obtain ⟨shut, ended⟩ := suspensionState_closed closing.due
  have stored := (fetchOne_some closing.found).1
  intro new there suspension' there' same
  obtain ⟨suspension, member, rfl⟩ := mem_updateWhere.mp there'
  rcases mem_revised kept stored there with rfl | ⟨old, other⟩
  · -- The closed ticket: its suspension was pending and is projected, or had ended before.
    refine iff_of_false (fun pending => ?_) shut
    by_cases matched : PendingAt row.suspensionRevision suspension
    · simp [matched] at pending
      exact ended pending
    · simp only [matched, if_false] at pending same
      exact matched ⟨same.trans closing.move.suspensionRevision, pending⟩
  · -- Another ticket: its suspension has another revision and is left alone.
    have differ : ¬ PendingAt row.suspensionRevision suspension := by
      rintro ⟨revision, state⟩
      simp only [PendingAt, revision, state, and_self, if_true] at same
      exact other (linked.ticket_unique old stored same.symm ▸ rfl)
    simp only [differ, if_false] at same ⊢
    exact agreed new old suspension member same

/-- A step that does not end the operation keeps pending suspensions and open tickets agreed. -/
theorem Agreed.step (agreed : Agreed tickets suspensions) (linked : Linked tickets suspensions)
    (kept : WellKept tickets) (opening : ∀ ticket, asked ticket → ticket.state = .pending)
    (lasting : ¬ ended) (pairs : Pairing asked ended tickets suspensions tickets' suspensions') :
    Agreed tickets' suspensions' := by
  cases pairs with
  | moved move =>
    cases move with
    | unchanged => exact agreed
    | created _ _ referenced first => exact (linked.none_alone referenced first).elim
    | @moved row change found move _ remains =>
      have stored := (fetchOne_some found).1
      intro new there suspension member same
      rcases mem_revised kept stored there with rfl | ⟨old, -⟩
      · rw [move.suspensionRevision] at same
        exact (agreed row stored suspension member same).trans
          (iff_of_true move.moved.was_open remains)
      · exact agreed new old suspension member same
    | closed closing => exact agreed.closed linked kept closing
  | @opened ticket suspension _ asks first revision pending stored =>
    obtain rfl := linked.opened first stored
    intro row there other there' same
    rcases List.mem_append.mp there with old | new <;>
      rcases List.mem_append.mp there' with old' | new'
    · exact agreed row old other old' same
    · -- The new suspension has a revision that no stored ticket waits at.
      obtain rfl := List.mem_singleton.mp new'
      obtain ⟨stored, member, revision'⟩ := linked.waits old
      exact absurd (revision'.trans (same.symm.trans revision)) (first stored member)
    · obtain rfl := List.mem_singleton.mp new
      exact absurd same (first other old')
    · obtain rfl := List.mem_singleton.mp new
      obtain rfl := List.mem_singleton.mp new'
      refine iff_of_true pending ?_
      simp [rowOfDocument, opening ticket asks, openStates]
  | stopped ends => exact absurd ends lasting

end Linking

section Runs

variable {H : Hashing} {rules : Rules} {db : Db} {event : Event} {operation ticketId : String}

/-- In every run tickets are well kept, and linked to their suspensions. -/
theorem linked_invariant (rules : Rules) :
    Invariant H rules fun s => WellKept s.tickets ∧ Linked s.tickets s.suspensions where
  new s new := by
    obtain ⟨_, _, _, -, record⟩ := new.rows
    have tickets : s.tickets = [] := congrArg OpRecord.tickets record
    have suspensions : s.suspensions = [] := congrArg OpRecord.suspensions record
    rw [tickets, suspensions]
    exact ⟨⟨by simp, by simp⟩, rfl, by simp⟩
  step _ s s' step kept := by
    have pairs : Pairing (fun _ => True) True s.tickets s.suspensions s'.tickets s'.suspensions :=
      step.pairs (fun _ _ _ _ => trivial) fun _ _ _ => trivial
    exact ⟨kept.1.move step.tickets, kept.2.step kept.1 pairs⟩

/-- Every ticket that is asked for is new, and no call ends one operation. -/
def Undisturbed (H : Hashing) (operation : String) : Rules where
  call clock call s :=
    (∀ ticket ∈ call.asks, ticket.state = .pending ∧ ticket.revision = 0) ∧
      (s.operation = operation → ¬ call.Terminalizes H clock s)
  visit _ _ := True
  expiry _ := True

/-- As long as an operation lasts, its suspensions are pending exactly while their tickets are open. -/
theorem agreed_invariant : Invariant H (Undisturbed H operation) fun s =>
    (WellKept s.tickets ∧ Linked s.tickets s.suspensions) ∧
      (s.operation = operation → Agreed s.tickets s.suspensions) where
  new s new := by
    refine ⟨(linked_invariant Unrestricted).new s new, fun _ => ?_⟩
    obtain ⟨_, _, _, -, record⟩ := new.rows
    have tickets : s.tickets = [] := congrArg OpRecord.tickets record
    rw [tickets]
    exact fun _ member => nomatch member
  step clock s s' step kept := by
    refine ⟨(linked_invariant _).step clock s s' step kept.1, fun here => ?_⟩
    rw [step.keeps.1] at here
    exact (kept.2 here).step kept.1.2 kept.1.1 (fun _ asks => asks.1) not_false
      (step.pairs (fun _ allow => allow.1) fun _ allow => allow.2 here)

/-- The ticket stored under an identifier. -/
def Db.ticket (db : Db) (operation ticketId : String) : Option TicketRow :=
  (db.lookup operation).bind fun record => fetchOne record.tickets (·.ticketId = ticketId)

/-- A stored ticket has changed its state. -/
def StateChanged : Option TicketRow → Option TicketRow → Bool
  | some before, some after => decide (before.state ≠ after.state)
  | _, _ => false

/-- The revision of a stored ticket; before it is stored it has none yet. -/
def revisionOf (ticket : Option TicketRow) : Nat := ticket.elim 0 TicketRow.revision

theorem revisionOf_same (ticket : Option TicketRow) :
    revisionOf ticket = revisionOf ticket + if StateChanged ticket ticket then 1 else 0 := by
  cases ticket <;> simp [StateChanged]

/-- Opening a new ticket gives it revision zero, and leaves every other ticket alone. -/
theorem revisionOf_opened {tickets : List TicketRow} {row : TicketRow} (first : row.revision = 0) :
    let stored := fetchOne tickets (·.ticketId = ticketId)
    let added := fetchOne (tickets ++ [row]) (·.ticketId = ticketId)
    revisionOf added = revisionOf stored + if StateChanged stored added then 1 else 0 := by
  intro stored added
  cases found : stored with
  | some other =>
    have same : added = some other := by
      simp only [added, fetchOne, List.find?_append]
      simp only [stored, fetchOne] at found
      rw [found, Option.some_or]
    rw [same]
    exact revisionOf_same _
  | none =>
    -- The identifier was unused, so what is found now is nothing or the new ticket.
    have new : added = [row].find? (fun row => decide (row.ticketId = ticketId)) := by
      simp only [added, fetchOne, List.find?_append]
      simp only [stored, fetchOne] at found
      rw [found, Option.none_or]
    rw [new]
    by_cases named : row.ticketId = ticketId <;> simp [named, revisionOf, StateChanged, first]

/-- A move raises the revision of the moved ticket by one, and changes its state. -/
theorem revisionOf_moved {tickets : List TicketRow} {row : TicketRow}
    {change : TicketRow → TicketRow} (kept : WellKept tickets)
    (found : fetchOne tickets (·.ticketId = row.ticketId) = some row)
    (move : TicketMove row (change row))
    (checked : ∀ stored ∈ revised row.ticketId row.revision change tickets, stored.Checks) :
    let stored := fetchOne tickets (·.ticketId = ticketId)
    let moved := fetchOne (revised row.ticketId row.revision change tickets)
      (·.ticketId = ticketId)
    revisionOf moved = revisionOf stored + if StateChanged stored moved then 1 else 0 := by
  intro stored moved
  have there := (fetchOne_some found).1
  have kept' := kept.move (.moved found move checked)
  by_cases named : ticketId = row.ticketId
  · subst named
    have after : moved = some (change row) := by
      have fetched := kept'.fetch (mem_updateWhere.mpr ⟨row, there, by simp⟩ :
        change row ∈ revised row.ticketId row.revision change tickets)
      rwa [move.ticketId] at fetched
    rw [after, show stored = some row from found]
    simp only [StateChanged, decide_eq_true_eq, if_pos move.moved.changes.symm, revisionOf,
      Option.elim_some, move.revision]
  · -- Another ticket is found as before, because only the moved one was rewritten.
    have same : moved = stored := by
      cases before : stored with
      | some other =>
        obtain ⟨member, rfl⟩ := fetchOne_some before
        exact kept'.fetch (mem_updateWhere.mpr ⟨other, member, by simp [named]⟩)
      | none =>
        refine fetchOne_none.mpr fun new member same => ?_
        rcases mem_revised kept there member with rfl | ⟨old, -⟩
        · exact named (same.symm.trans move.ticketId)
        · exact fetchOne_none.mp before new old same
    rw [same]
    exact revisionOf_same _

/-- Every step raises the revision of a ticket by one exactly when its state changes. -/
theorem Pairing.raises {asked : CallerWorkTicket → Prop} {ended : Prop}
    {tickets tickets' : List TicketRow} {suspensions suspensions' : List SuspensionRow}
    (kept : WellKept tickets) (linked : Linked tickets suspensions)
    (opening : ∀ ticket, asked ticket → ticket.revision = 0)
    (pairs : Pairing asked ended tickets suspensions tickets' suspensions') (ticketId : String) :
    let stored := fetchOne tickets (·.ticketId = ticketId)
    let after := fetchOne tickets' (·.ticketId = ticketId)
    revisionOf after = revisionOf stored + if StateChanged stored after then 1 else 0 := by
  cases pairs with
  | moved move =>
    cases move with
    | unchanged => exact revisionOf_same _
    | created _ _ referenced first => exact (linked.none_alone referenced first).elim
    | moved found move checked => exact revisionOf_moved kept found move checked
    | closed closing => exact revisionOf_moved kept closing.found closing.move closing.checked
  | opened asks first _ _ stored =>
    obtain rfl := linked.opened first stored
    exact revisionOf_opened (opening _ asks)
  | stopped => exact revisionOf_same _

/-- The ticket document an event asks to be opened. -/
def Event.asks (event : Event) : Option CallerWorkTicket :=
  match event.call with
  | .on _ call => call.asks
  | _ => none

/-- Every ticket document an event asks to be opened is pending at its first revision. -/
def Event.OpensPending (event : Event) : Prop :=
  ∀ ticket ∈ event.asks, ticket.state = .pending ∧ ticket.revision = 0

instance (event : Event) : Decidable event.OpensPending :=
  inferInstanceAs (Decidable (∀ ticket ∈ event.asks, _ ∧ _))

/-- The event changes the state of a stored ticket. -/
def Event.movesTicket (H : Hashing) (operation ticketId : String) (event : Event) (db : Db) : Bool :=
  StateChanged (db.ticket operation ticketId) ((event.step H db).ticket operation ticketId)

/-- The event ends an operation: its queued dispatch is cancelled, or its deadline has passed. -/
def Event.Terminalizes (H : Hashing) (event : Event) (db : Db) (operation : String) : Prop :=
  ∃ call record, event.call = .on operation call ∧ db.lookup operation = some record ∧
    call.Terminalizes H event.clock (db.scope operation record)

/-- Every event raises the revision of a ticket by one exactly when it changes its state. -/
theorem Event.raises (each : db.Each fun s => WellKept s.tickets ∧ Linked s.tickets s.suspensions)
    (opens : event.OpensPending) :
    revisionOf ((event.step H db).ticket operation ticketId) =
      revisionOf (db.ticket operation ticketId) +
        if event.movesTicket H operation ticketId db then 1 else 0 := by
  unfold Event.movesTicket
  cases found : db.lookup operation with
  | none =>
    -- An operation that is new has no ticket yet.
    have before : db.ticket operation ticketId = none := by simp [Db.ticket, found]
    have after : (event.step H db).ticket operation ticketId = none := by
      cases there : (event.step H db).lookup operation with
      | none => simp [Db.ticket, there]
      | some record =>
        have new := (Event.evolves (event.unrestricted db)).created operation record found there
        obtain ⟨_, _, _, -, rows⟩ := new.rows
        have tickets : record.tickets = [] := congrArg OpRecord.tickets rows
        simp [Db.ticket, there, tickets]
    rw [before, after]
    exact revisionOf_same _
  | some record =>
    obtain ⟨kept, linked⟩ := each operation record found
    have before : db.ticket operation ticketId =
        fetchOne record.tickets (·.ticketId = ticketId) := by simp [Db.ticket, found]
    rcases Event.call_or_untouched (H := H) event found with ⟨call, r, called, ran, there⟩ |
      ⟨record', there, untouched⟩
    · have after : (event.step H db).ticket operation ticketId =
          fetchOne r.tickets (·.ticketId = ticketId) := by simp [Db.ticket, there]
      have asked : event.asks = call.asks := by simp only [Event.asks, called]
      rw [before, after]
      have pairs : Pairing (·.revision = 0) True record.tickets record.suspensions r.tickets
          r.suspensions := by
        refine OpCall.pairs ran (fun ticket asks => ?_) fun _ => trivial
        exact (opens ticket (asked ▸ asks)).2
      exact pairs.raises kept linked (fun _ => id) ticketId
    · have after : (event.step H db).ticket operation ticketId =
          fetchOne record.tickets (·.ticketId = ticketId) := by
        have same : record'.tickets = record.tickets := untouched.tickets
        simp [Db.ticket, there, same]
      rw [before, after]
      exact revisionOf_same _

/-- In every run that opens its tickets pending, a ticket's revision counts its state changes. -/
theorem revisionOf_run {events : List Event} (opens : ∀ event ∈ events, event.OpensPending) :
    revisionOf ((Runs.run (Event.step H) events Db.empty).ticket operation ticketId) =
      Runs.count (Event.step H) (Event.movesTicket H operation ticketId) events Db.empty := by
  have counted := Runs.run_counted
    (Db.Each fun s => WellKept s.tickets ∧ Linked s.tickets s.suspensions)
    (Event.movesTicket H operation ticketId) (fun db => revisionOf (db.ticket operation ticketId))
    (fun event member db each => ⟨(linked_invariant Unrestricted).event (event.unrestricted db) each,
      Event.raises each (opens event member)⟩) (Db.each_empty)
  rwa [show revisionOf (Db.empty.ticket operation ticketId) = 0 from rfl, Nat.zero_add] at counted

/-- In every run each stored ticket satisfies the constraints of its table and shows its document;
and when the run opens its tickets pending, a ticket's revision counts the changes of its state, and,
as long as nothing ends its operation, its suspension is pending exactly while the ticket is open. -/
theorem tickets_consistent {events : List Event} {record : OpRecord} {row : TicketRow}
    (found : (Runs.run (Event.step H) events Db.empty).lookup operation = some record)
    (member : row ∈ record.tickets) :
    row.Checks ∧ (∃ ticket, ticketFromRow operation row = .ok ticket) ∧
      ((∀ event ∈ events, event.OpensPending) →
        row.revision = Runs.count (Event.step H)
          (Event.movesTicket H operation row.ticketId) events Db.empty ∧
        ∃ suspension ∈ record.suspensions,
          (∀ other ∈ record.suspensions,
            other.suspensionRevision = row.suspensionRevision ↔ other = suspension) ∧
          ((∀ before event after, events = before ++ event :: after →
              ¬ event.Terminalizes H (Runs.run (Event.step H) before Db.empty) operation) →
            (suspension.state = .pending ↔ row.state ∈ openStates))) := by
  have each := (linked_invariant Unrestricted).run (H := H) (.unrestricted events Db.empty)
    Db.each_empty
  obtain ⟨kept, linked⟩ := each operation record found
  obtain ⟨ticket, shown, -⟩ := ticketFromRow_of_checks (kept.checked row member)
  obtain ⟨suspension, there, revision⟩ := linked.waits member
  refine ⟨kept.checked row member, ⟨ticket, shown⟩, fun opens => ⟨?_, suspension, there, ?_, ?_⟩⟩
  · have stored : (Runs.run (Event.step H) events Db.empty).ticket operation row.ticketId =
        some row := by
      simp only [Db.ticket, found, Option.bind_some]
      exact kept.fetch member
    rw [← revisionOf_run opens, stored]
    rfl
  · intro other member'
    constructor
    · intro same
      exact linked.suspension_unique member' there (same.trans revision.symm)
    · rintro rfl
      exact revision
  · intro lasting
    have allow : AllowedRun H (Undisturbed H operation) events Db.empty := by
      intro before event after split
      constructor
      · intro other call stored r called known ran
        constructor
        · intro ticket asks
          refine opens event (split ▸ by simp) ticket ?_
          simpa only [Event.asks, called] using asks
        · rintro rfl ends
          exact lasting before event after split ⟨call, stored, called, known, ends⟩
      · exact fun _ _ _ _ _ _ => trivial
      · exact fun _ _ => .of_all (fun _ => trivial) _ _ _
    have agreed := (agreed_invariant.run allow Db.each_empty operation record found).2 rfl
    exact agreed row member suspension there revision

/-- The event is one of the two calls that can end an operation. -/
def Event.mayTerminalize (event : Event) : Bool :=
  match event.call with
  | .on _ (.registry (.cancelQueuedDispatch ..)) => true
  | .on _ (.workbench .markDeadlineTerminal) => true
  | _ => false

theorem Event.Terminalizes.may (ends : event.Terminalizes H db operation) :
    event.mayTerminalize = true := by
  obtain ⟨call, record, called, -, ⟨_, _, _, rfl, -⟩ | ⟨_, rfl, -⟩⟩ := ends <;>
    simp only [Event.mayTerminalize, called]

/-- A settled ticket has moved three times, and its suspension is settled with it. -/
theorem tickets_consistent_sample :
    ∃ record row suspension, (Sample.db Sample.settled).lookup "op" = some record ∧
      row ∈ record.tickets ∧ row.Checks ∧ row.state = .settledFailure ∧
      Runs.count (Event.step .readable) (Event.movesTicket .readable "op" row.ticketId)
        Sample.settled Db.empty = 3 ∧
      suspension ∈ record.suspensions ∧ suspension.state ≠ .pending := by
  have shown : ((Sample.db Sample.settled).lookup "op").any fun record =>
      record.tickets.any fun row => row.state = .settledFailure ∧ row.revision = 3 := by
    decide +kernel
  simp only [Option.any_eq_true, List.any_eq_true, decide_eq_true_eq] at shown
  obtain ⟨record, found, row, member, state, revision⟩ := shown
  have opens : ∀ event ∈ Sample.settled, event.OpensPending := by decide +kernel
  have quiet : ∀ event ∈ Sample.settled, event.mayTerminalize = false := by decide +kernel
  obtain ⟨checked, -, consistent⟩ := tickets_consistent found member
  obtain ⟨counted, suspension, there, -, agrees⟩ := consistent opens
  refine ⟨record, row, suspension, found, member, checked, state, counted.symm.trans revision,
    there, fun pending => ?_⟩
  have closed := (agrees fun before event after split ends => ?_).mp pending
  · simp [state, openStates] at closed
  · have may := quiet event (split ▸ by simp)
    rw [ends.may] at may
    cases may

/-- A running job waits for a planner ticket whose document is at a later revision. -/
def Sample.late : List Event :=
  Sample.running "op" .callerDelegated ++
    [(Call.on "op" (.registry (.suspendPlannerAttempt (Sample.fence "op")
      { Sample.plannerTicket "op" with revision := 5 }))).atTime 3]

/-- The revision of a ticket does not always count the changes of its state: a ticket is stored at
the revision of the document that it is opened with. -/
theorem tickets_consistent_not :
    ∃ record row, (Sample.db Sample.late).lookup "op" = some record ∧ row ∈ record.tickets ∧
      row.revision = 5 ∧ Runs.count (Event.step .readable)
        (Event.movesTicket .readable "op" row.ticketId) Sample.late Db.empty = 0 := by
  have shown : ((Sample.db Sample.late).lookup "op").any fun record =>
      record.tickets.any fun row => row.ticketId = "op.ticket" ∧ row.revision = 5 := by
    decide +kernel
  simp only [Option.any_eq_true, List.any_eq_true, decide_eq_true_eq] at shown
  obtain ⟨record, found, row, member, named, revision⟩ := shown
  refine ⟨record, row, found, member, revision, ?_⟩
  rw [named]
  decide +kernel

end Runs

end Aar
