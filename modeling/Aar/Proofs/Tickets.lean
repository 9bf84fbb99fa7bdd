import Aar.Proofs.Runs

/-! A ticket's physical send: it is marked at most once, and a marked send never changes. -/

namespace Aar.CallerWork

open Guarded Table

section Table

/-- The tickets of an operation have distinct identifiers and satisfy their constraints. -/
structure WellKept (tickets : List TicketRow) : Prop where
  checked : ∀ row ∈ tickets, row.Checks
  distinct : (tickets.map TicketRow.ticketId).Nodup

/-- A ticket whose send has been marked. -/
def Marked (row : TicketRow) : Prop := row.sendStartedAtUnixMs.isSome

/-- The states a ticket has before its physical send. -/
def unsentStates : List TicketState := [.pending, .sendReserved, .cancelledBeforeSend]

variable {tickets tickets' : List TicketRow}

/-- A stored ticket is the one found under its identifier. -/
theorem WellKept.fetch (kept : WellKept tickets) {row : TicketRow} (member : row ∈ tickets) :
    fetchOne tickets (·.ticketId = row.ticketId) = some row := by
  -- Something is found because this row matches, and identifiers are distinct.
  cases found : fetchOne tickets (·.ticketId = row.ticketId) with
  | none => exact absurd rfl (fetchOne_none.mp found row member)
  | some other =>
    obtain ⟨stored, same⟩ := fetchOne_some found
    rw [List.inj_on_of_nodup_map kept.distinct stored member same]

/-- A marked ticket is past every state before its send. -/
theorem marked_sent {row : TicketRow} (checked : row.Checks) (marked : Marked row) :
    row.state ∉ unsentStates := by
  intro unsent
  simp only [unsentStates, List.mem_cons, List.not_mem_nil, or_false] at unsent
  have absent : row.sendStartedAtUnixMs = none := by
    rcases unsent with state | state | state
    · exact (checked.pending state).2.1.1
    · exact (checked.reserved state).2.1
    · exact (checked.cancelled state).1.1
  simp [Marked, absent] at marked

/-- A move of a marked ticket keeps its send. -/
theorem TicketMove.keeps {old new : TicketRow} (move : TicketMove old new)
    (checked : old.Checks) (marked : Marked old) : SameSend old new := by
  -- Only a ticket whose send has started can be marked, and those moves keep the send.
  have sent := marked_sent checked marked
  cases move.moved with
  | claimed state | rewound state | marked state => simp [unsentStates, state] at sent
  | withdrawn unsent =>
    simp only [List.mem_cons, List.not_mem_nil, or_false] at unsent
    rcases unsent with state | state <;> simp [unsentStates, state] at sent
  | continued _ _ _ send => exact send

/-- A row of the rewritten table is the rewritten ticket, or another stored one. -/
theorem mem_revised {row new : TicketRow} {change : TicketRow → TicketRow}
    (kept : WellKept tickets) (member : row ∈ tickets)
    (there : new ∈ revised row.ticketId row.revision change tickets) :
    new = change row ∨ new ∈ tickets ∧ new.ticketId ≠ row.ticketId := by
  obtain ⟨stored, member', rfl⟩ := mem_updateWhere.mp there
  -- Identifiers are distinct, so the rewrite matches the one ticket it was read from.
  by_cases named : stored.ticketId = row.ticketId
  · obtain rfl := List.inj_on_of_nodup_map kept.distinct member' member named
    simp
  · simp [named, member']

/-- Rewriting one ticket keeps every column that the rewrite of that ticket keeps. -/
theorem revised_column {γ : Type} {column : TicketRow → γ} {row : TicketRow}
    {change : TicketRow → TicketRow} (kept : WellKept tickets) (member : row ∈ tickets)
    (same : column (change row) = column row) :
    (revised row.ticketId row.revision change tickets).map column = tickets.map column := by
  simp only [revised, updateWhere, List.map_map]
  refine List.map_congr_left fun stored there => ?_
  by_cases matched : stored.ticketId = row.ticketId ∧ stored.revision = row.revision
  · obtain rfl := List.inj_on_of_nodup_map kept.distinct there member matched.1
    simp [same]
  · simp [matched]

/-- One move of the table keeps it well. -/
theorem WellKept.move (kept : WellKept tickets) (move : TableMove tickets tickets') :
    WellKept tickets' := by
  cases move with
  | unchanged => exact kept
  | created fresh checked =>
    constructor
    · intro row member
      rcases List.mem_append.mp member with old | new
      · exact kept.checked row old
      · rwa [List.mem_singleton.mp new]
    · rw [List.map_append, List.nodup_append]
      refine ⟨kept.distinct, by simp, ?_⟩
      rintro name member other new rfl
      exact fresh (by simpa [List.mem_singleton.mp new] using member)
  | moved found moves checked =>
    refine ⟨checked, ?_⟩
    rw [revised_column kept (fetchOne_some found).1 moves.ticketId]
    exact kept.distinct

/-- Every marked send of one table is a marked send of the other. -/
def SendsKept (tickets tickets' : List TicketRow) : Prop :=
  ∀ row ∈ tickets, Marked row → ∃ row' ∈ tickets', row'.ticketId = row.ticketId ∧ SameSend row row'

/-- One move of the table keeps every marked send. -/
theorem TableMove.sends (kept : WellKept tickets) (move : TableMove tickets tickets') :
    SendsKept tickets tickets' := by
  intro row member marked
  cases move with
  | unchanged => exact ⟨row, member, rfl, rfl, rfl, rfl, rfl, rfl⟩
  | created => exact ⟨row, List.mem_append_left _ member, rfl, rfl, rfl, rfl, rfl, rfl⟩
  | @moved target change found moves _ =>
    have there := (fetchOne_some found).1
    by_cases matched : row.ticketId = target.ticketId ∧ row.revision = target.revision
    · obtain rfl := List.inj_on_of_nodup_map kept.distinct member there matched.1
      refine ⟨change row, mem_updateWhere.mpr ⟨row, member, by simp⟩, moves.ticketId, ?_⟩
      exact moves.keeps (kept.checked row member) marked
    · exact ⟨row, mem_updateWhere.mpr ⟨row, member, by simp [matched]⟩, rfl, rfl, rfl, rfl, rfl, rfl⟩

/-- Kept sends stay kept. -/
theorem SendsKept.trans {tickets'' : List TicketRow} (first : SendsKept tickets tickets')
    (second : SendsKept tickets' tickets'') : SendsKept tickets tickets'' := by
  intro row member marked
  obtain ⟨mid, there, name, send⟩ := first row member marked
  have still : Marked mid := by
    rw [Marked, send.1]
    exact marked
  obtain ⟨last, here, name', send'⟩ := second mid there still
  exact ⟨last, here, name'.trans name, send'.1.trans send.1, send'.2.1.trans send.2.1,
    send'.2.2.1.trans send.2.2.1, send'.2.2.2.1.trans send.2.2.2.1,
    send'.2.2.2.2.trans send.2.2.2.2⟩

/-- Only an open ticket moves. -/
theorem Moved.was_open {old new : TicketRow} (moved : Moved old new) : old.state ∈ openStates := by
  cases moved with
  | claimed state | rewound state | marked state => simp [openStates, state]
  | withdrawn unsent =>
    simp only [List.mem_cons, List.not_mem_nil, or_false] at unsent
    rcases unsent with state | state <;> simp [openStates, state]
  | continued sent =>
    simp only [unsettledSends, List.mem_cons, List.not_mem_nil, or_false] at sent
    rcases sent with state | state | state <;> simp [openStates, state]

/-- A move changes the state of its ticket. -/
theorem Moved.changes {old new : TicketRow} (moved : Moved old new) : new.state ≠ old.state := by
  cases moved with
  | claimed before after | rewound before after | marked before after => simp [before, after]
  | withdrawn unsent cancelled =>
    simp only [List.mem_cons, List.not_mem_nil, or_false] at unsent
    rcases unsent with state | state <;> simp [cancelled, state]
  | continued _ _ changed => exact changed

/-- The later table still names every ticket of the earlier one, and keeps the closed ones. -/
structure TicketsKept (tickets tickets' : List TicketRow) : Prop where
  named : ∀ row ∈ tickets, ∃ row' ∈ tickets', row'.ticketId = row.ticketId
  closed : ∀ row ∈ tickets, row.state ∉ openStates → row ∈ tickets'

/-- One move of the table keeps its tickets. -/
theorem TableMove.closed (kept : WellKept tickets) (move : TableMove tickets tickets') :
    TicketsKept tickets tickets' := by
  cases move with
  | unchanged => exact ⟨fun row member => ⟨row, member, rfl⟩, fun row member _ => member⟩
  | created =>
    exact ⟨fun row member => ⟨row, List.mem_append_left _ member, rfl⟩,
      fun row member _ => List.mem_append_left _ member⟩
  | @moved target change found moves _ =>
    have there := (fetchOne_some found).1
    constructor
    · intro row member
      have listed : row.ticketId ∈
          (revised target.ticketId target.revision change tickets).map TicketRow.ticketId := by
        rw [revised_column kept there moves.ticketId]
        exact List.mem_map_of_mem member
      exact List.mem_map.mp listed
    · -- The moved ticket was open, so a closed one is left as it is.
      intro row member closed
      refine mem_updateWhere.mpr ⟨row, member, ?_⟩
      rw [if_neg]
      rintro ⟨name, -⟩
      obtain rfl := List.inj_on_of_nodup_map kept.distinct member there name
      exact closed moves.moved.was_open

/-- Kept tickets stay kept. -/
theorem TicketsKept.trans {tickets'' : List TicketRow} (first : TicketsKept tickets tickets')
    (second : TicketsKept tickets' tickets'') : TicketsKept tickets tickets'' where
  named row member := by
    obtain ⟨mid, there, name⟩ := first.named row member
    obtain ⟨last, here, name'⟩ := second.named mid there
    exact ⟨last, here, name'.trans name⟩
  closed row member closed := second.closed row (first.closed row member closed) closed

end Table

end Aar.CallerWork

namespace Aar

open Guarded Table CallerWork

section Shown

theorem TicketRow.Checks.claim {row : TicketRow} (checked : row.Checks) :
    row.ClaimAbsent ∨ row.ClaimPresent := by
  by_cases pending : row.state = .pending
  · exact .inl (checked.pending pending).1
  · by_cases cancelled : row.state = .cancelledBeforeSend
    · exact (checked.cancelled cancelled).2.2
    · exact .inr (checked.claimed (by simp [pending, cancelled]))

/-- A claimed row shows its claimant. -/
theorem CallerWork.claimantOf_present {row : TicketRow} (present : row.ClaimPresent) :
    ∃ claimant, claimantOf row = .ok (some claimant) := by
  simp only [TicketRow.ClaimPresent, Option.isSome_iff_exists] at present
  obtain ⟨⟨_, principal⟩, ⟨_, session⟩, ⟨_, adapter⟩, ⟨_, generation⟩, ⟨_, claim⟩, ⟨_, fence⟩,
    ⟨_, expires⟩, -⟩ := present
  simp [claimantOf, principal, session, adapter, generation, claim, fence, expires, orRaise]

/-- A claimed row shows its attempt, with the columns of its send. -/
theorem CallerWork.physicalAttemptOf_present {row : TicketRow} (present : row.ClaimPresent) :
    ∃ attempt, physicalAttemptOf row = .ok (some attempt) ∧
      attempt.sendStartedAtUnixMs = row.sendStartedAtUnixMs ∧
      attempt.sentRequestDigest = row.sentRequestDigest ∧
      attempt.sentAtUnixMs = row.sentAtUnixMs ∧
      attempt.providerOrChildRequestId = row.providerOrChildRequestId := by
  simp only [TicketRow.ClaimPresent, Option.isSome_iff_exists] at present
  obtain ⟨-, -, -, -, -, -, -, ⟨_, attempt⟩, ⟨_, key⟩, -⟩ := present
  simp [physicalAttemptOf, attempt, key, orRaise]

/-- A constrained row without a claim has not been sent; one with a claim shows its attempt. -/
theorem CallerWork.ticketFromRow_of_checks {operation : String} {row : TicketRow} (checked : row.Checks) :
    ∃ ticket, ticketFromRow operation row = .ok ticket ∧ ticket.state = row.state ∧
      ticket.revision = row.revision := by
  rcases checked.claim with absent | present
  · -- Only a ticket that was never claimed, or was cancelled before its send, shows no claim.
    have claimant : claimantOf row = .ok none := by simp only [claimantOf, absent.1]
    have attempt : physicalAttemptOf row = .ok none := by
      simp only [physicalAttemptOf, absent.2.2.2.2.2.2.2.1]
    have unclaimed : row.state ∈ [TicketState.pending, .cancelledBeforeSend] := by
      by_contra claimed
      have present := (checked.claimed claimed).1
      simp [absent.1] at present
    simp only [ticketFromRow, claimant, attempt, bind_ok, require_ok, pure_ok]
    refine ⟨_, ⟨_, rfl, _, rfl, (), ?_, rfl⟩, rfl, rfl⟩
    simp only [List.mem_cons, List.not_mem_nil, or_false] at unclaimed
    rcases unclaimed with state | state
    · have settlement := (checked.pending state).2.2
      simp [Conforms, state, TicketState.mayHaveSent, TicketState.settled, settlement.1,
        settlement.2]
    · have settlement := (checked.cancelled state).2.1
      simp [Conforms, state, TicketState.mayHaveSent, TicketState.settled, settlement.1,
        settlement.2]
  · obtain ⟨claimant, shown⟩ := claimantOf_present present
    obtain ⟨attempt, shownAttempt, started, request, sent, provider⟩ :=
      physicalAttemptOf_present present
    simp only [ticketFromRow, shown, shownAttempt, bind_ok, require_ok, pure_ok]
    refine ⟨_, ⟨_, rfl, _, rfl, (), ⟨?_, ?_, ?_, ?_, ?_⟩, rfl⟩, rfl, rfl⟩
    · intro state
      have absent := (checked.pending state).1.1
      simp [TicketRow.ClaimPresent, absent] at present
    · intro state
      obtain ⟨first, second, third, fourth⟩ := (checked.reserved state).2
      simp [UnsentDocument, PhysicalAttempt.Unsent, started, request, sent, provider, first, second,
        third, fourth]
    · intro state
      obtain ⟨first, second, third, fourth⟩ := (checked.cancelled state).1
      simp [UnsentDocument, PhysicalAttempt.Unsent, started, request, sent, provider, first, second,
        third, fourth]
    · intro state
      have send : row.sendStartedAtUnixMs.isSome ∧ row.sentRequestDigest.isSome := checked.sent state
      simpa [started, request] using send
    · dsimp only
      split
      · rename_i state
        exact (checked.settled state).symm
      · rename_i state
        exact (checked.unsettled state).symm

end Shown

section Steps

variable {H : Hashing} {clock : Clock} {s s' : Scope}

/-- A linked move moves the ticket table once. -/
theorem CallerWork.LinkedMove.table {tickets tickets' : List TicketRow}
    {suspensions suspensions' : List SuspensionRow}
    (move : LinkedMove tickets suspensions tickets' suspensions') : TableMove tickets tickets' := by
  cases move with
  | unchanged => exact .unchanged
  | created fresh checked => exact .created fresh checked
  | moved found move checked => exact .moved found move checked
  | closed closing => exact .moved closing.found closing.move closing.checked

theorem CallerWork.Written.table (written : Written H s s') : TableMove s.tickets s'.tickets := by
  cases written with
  | aside move => exact move.table
  | returned closing => exact .moved closing.found closing.move closing.checked

theorem RegistryCall.Waits.table {call : RegistryCall} {tickets : List TicketRow}
    {suspensions : List SuspensionRow} (waits : call.Waits clock s tickets suspensions) :
    TableMove s.tickets tickets := by
  cases waits with
  | still | stopped => exact .unchanged
  | opened _ opens => exact opens.table

/-- Every local step makes one move of the ticket table. -/
theorem LocalStep.tickets {rules : Rules}
    (step : LocalStep H rules clock s s') : TableMove s.tickets s'.tickets := by
  rcases step.call_or_untouched with ⟨call, r, -, ran, rfl⟩ | untouched
  · show TableMove s.tickets r.tickets
    cases call with
    | registry call => exact (RegistryCall.beside ran).waits.table
    | ticket call => exact (TicketCall.written ran).table
    | workbench call =>
      obtain ⟨_, _, _, _, _, _, _, _, _, _, -, -, rfl⟩ := WorkbenchCall.effect ran
      exact .unchanged
  · rw [untouched.tickets]
    exact .unchanged

end Steps

section Runs

variable {H : Hashing} {db : Db} {event : Event} {operation ticketId : String}

theorem wellKept_invariant : Invariant H Unrestricted fun s => WellKept s.tickets where
  new s new := by
    obtain ⟨_, _, _, -, record⟩ := new.rows
    have empty : s.tickets = [] := congrArg OpRecord.tickets record
    rw [empty]
    exact ⟨by simp, by simp⟩
  step _ _ _ step kept := kept.move step.tickets

theorem sends_progress : Progress H Unrestricted (fun _ => True) (fun s => WellKept s.tickets)
    fun s s' => SendsKept s.tickets s'.tickets where
  refl _ := fun row member _ => ⟨row, member, rfl, rfl, rfl, rfl, rfl, rfl⟩
  trans _ _ _ first second := first.trans second
  step _ _ _ _ step kept := step.tickets.sends kept

theorem tickets_progress : Progress H Unrestricted (fun _ => True) (fun s => WellKept s.tickets)
    fun s s' => TicketsKept s.tickets s'.tickets where
  refl _ := ⟨fun row member => ⟨row, member, rfl⟩, fun _ member _ => member⟩
  trans _ _ _ first second := first.trans second
  step _ _ _ _ step kept := step.tickets.closed kept

/-- The event marks the send of a ticket as started; it is not the replay of an earlier mark. -/
def Event.marksSend (H : Hashing) (event : Event) (db : Db) (operation ticketId : String) : Bool :=
  match event.call with
  | .on target (.ticket (.markSendStarted command)) =>
    decide (target = operation ∧ command.ticketId = ticketId) &&
      (db.lookup operation).any fun record =>
        match markSendStarted H command event.clock (db.scope operation record) with
        | .ok result => !result.2.replayed
        | .error _ => false
  | _ => false

/-- A mark is a successful command on the stored operation that is not a replay. -/
theorem Event.marksSend_cases (marks : event.marksSend H db operation ticketId) :
    ∃ command record result,
      event.call = .on operation (.ticket (.markSendStarted command)) ∧
      command.ticketId = ticketId ∧ db.lookup operation = some record ∧
      markSendStarted H command event.clock (db.scope operation record) = .ok result ∧
      result.2.replayed = false := by
  unfold Event.marksSend at marks
  split at marks
  · rename_i target command called
    simp only [Bool.and_eq_true, decide_eq_true_eq, Option.any_eq_true] at marks
    obtain ⟨⟨rfl, rfl⟩, record, found, marks⟩ := marks
    split at marks
    · rename_i result ran
      exact ⟨command, record, result, called, rfl, found, ran, by simpa using marks⟩
    · cases marks
  · cases marks

/-- A ticket is marked only while it is reserved. -/
theorem Event.marksSend_reserved (marks : event.marksSend H db operation ticketId) :
    ∃ record row, db.lookup operation = some record ∧
      fetchOne record.tickets (·.ticketId = ticketId) = some row ∧ row.state = .sendReserved := by
  obtain ⟨command, record, result, -, rfl, found, ran, first⟩ := Event.marksSend_cases marks
  rcases markSendStarted_cases ran with ⟨-, replayed⟩ | ⟨row, _, there, reserved, -⟩
  · rw [first] at replayed
    cases replayed
  · exact ⟨record, row, found, ticketRow_ok.mp there, reserved⟩

/-- A mark leaves its ticket stored with a marked send. -/
theorem Event.marksSend_marked (marks : event.marksSend H db operation ticketId) :
    ∃ record row, (event.step H db).lookup operation = some record ∧ row ∈ record.tickets ∧
      row.ticketId = ticketId ∧ row.state = .sendStarted ∧ Marked row := by
  obtain ⟨command, record, result, called, rfl, found, ran, first⟩ := Event.marksSend_cases marks
  have stepped : (OpCall.ticket (.markSendStarted command)).run H event.clock
      (db.scope operation record) = .ok result.1 := by
    simp only [OpCall.run, TicketCall.run, ran, map_ok]
    exact ⟨result, rfl, rfl⟩
  obtain ⟨-, after⟩ := Event.step_on called found stepped
  rcases markSendStarted_cases ran with ⟨-, replayed⟩ |
    ⟨row, change, there, -, started, move, checked, ⟨commands, same⟩, -⟩
  · rw [first] at replayed
    cases replayed
  · have stored := fetchOne_some (ticketRow_ok.mp there)
    have member : change row ∈ revised row.ticketId row.revision change record.tickets :=
      mem_updateWhere.mpr ⟨row, stored.1, by simp⟩
    refine ⟨_, change row, after, ?_, move.ticketId.trans stored.2, started, ?_⟩
    · rw [same]
      exact member
    · exact ((checked _ member).sent (by simp [started, TicketState.mayHaveSent])).1

/-- Once a ticket's send is marked, no later call marks it again, and the send never changes. -/
theorem send_marked_once (reached : db.Reachable H)
    (marks : event.marksSend H db operation ticketId) :
    ∃ record row, (event.step H db).lookup operation = some record ∧
      fetchOne record.tickets (·.ticketId = ticketId) = some row ∧ row.state = .sendStarted ∧
      ∀ later : List Event,
        let after := Runs.run (Event.step H) later (event.step H db)
        (∀ again : Event, ¬ again.marksSend H after operation ticketId) ∧
        ∃ record' row', after.lookup operation = some record' ∧
          fetchOne record'.tickets (·.ticketId = ticketId) = some row' ∧
          row'.state ∉ unsentStates ∧
          row'.physicalAttemptId = row.physicalAttemptId ∧
          row'.externalIdempotencyKey = row.externalIdempotencyKey ∧
          row'.claimId = row.claimId ∧ row'.sentRequestDigest = row.sentRequestDigest := by
  obtain ⟨record, row, found, member, rfl, started, marked⟩ := Event.marksSend_marked marks
  have reachedNext : (event.step H db).Reachable H := reached.run [event]
  have kept := wellKept_invariant.reachable reachedNext
  refine ⟨record, row, found, (kept operation record found).fetch member, started, ?_⟩
  intro later after
  -- Along the rest of the run the marked send is found under the same identifier.
  obtain ⟨record', there, sends⟩ :=
    sends_progress.run wellKept_invariant (fun event (_ : event ∈ later) => trivial) kept found
  obtain ⟨row', member', name, send⟩ := sends row member marked
  have well := wellKept_invariant.reachable (reachedNext.run later) operation record' there
  have fetched := well.fetch member'
  rw [name] at fetched
  have sent : row'.state ∉ unsentStates := by
    refine marked_sent (well.checked row' member') ?_
    rw [Marked, send.1]
    exact marked
  refine ⟨fun again marksAgain => ?_, record', row', there, fetched, sent, send.2⟩
  obtain ⟨_, _, there', fetched', reserved⟩ := Event.marksSend_reserved marksAgain
  cases there'.symm.trans there
  cases fetched'.symm.trans fetched
  exact sent (by simp [unsentStates, reserved])

/-- What every command on the waiting job's ticket repeats, at one revision of the ticket. -/
def Sample.command (operation : String) (expectedRevision : Nat) (idempotencyKey : String) :
    TicketCommand :=
  { context := ⟨"principal", "session"⟩, operation, expectedControlRevision := 5
    expectedCancellationRevision := 0, expectedSuspensionRevision := 1
    expectedCumulativeDeadlineUnixMs := 1001, ticketId := s!"{operation}.ticket"
    expectedRevision, ticketDigest := "ticket", idempotencyKey }

/-- A claim of the ticket. -/
def Sample.claimTicket (operation : String) : CallerWorkClaimInput :=
  { Sample.command operation 0 "claim" with
    adapterId := "adapter", adapterGeneration := 1, claimLeaseMs := 100 }

/-- The start of the claimed send. -/
def Sample.markSend (operation : String) : CallerWorkMarkSendStartedInput :=
  { Sample.command operation 1 "mark" with
    proof := { claimId := some "claim", claimFence := some s!"{operation}.ticket.1.claim"
               physicalAttemptId := some "physical" }
    expectedClaimExpiresAtUnixMs := 104, providerOrChildIdempotencyKey := "ticket"
    sentRequestDigest := "request", lookupSupported := true, cancelSupported := true }

/-- The waiting job's ticket is claimed. -/
def Sample.reserved (operation : String) : List Event :=
  Sample.waiting operation .callerDelegated ++
    [(Call.on operation
      (.ticket (.claim (Sample.claimTicket operation) "claim" "physical"))).atTime 4]

/-- The mark of the claimed ticket's send. -/
def Sample.mark : Event := (Call.on "op" (.ticket (.markSendStarted (Sample.markSend "op")))).atTime 5

/-- The report of a model call that certainly failed. -/
def Sample.failure : CallerWorkObservation :=
  { kind := .model, outcome := .failedCertain, outputText := none, outputDigest := none
    routeReceiptDigest := none, usageReceiptDigest := none, hostReceiptDigest := "host" }

/-- The commit of a failed call for the marked ticket. -/
def Sample.commitTicket (operation : String) : CallerWorkCommitInput :=
  { Sample.command operation 2 "commit" with
    proof := (Sample.markSend operation).proof, sentRequestDigest := "request", sentAtUnixMs := 5
    providerOrChildRequestId := none, observation := Sample.failure, modelResponse := none }

/-- The ticket of the waiting job is settled, so the job is accepted again. -/
def Sample.settled : List Event :=
  Sample.reserved "op" ++ [Sample.mark,
    (Call.on "op" (.ticket (.commit (Sample.commitTicket "op")))).atTime 6]

/-- A claimed ticket is marked, and its mark is never repeated. -/
theorem send_marked_once_sample :
    ∃ record row,
      (Sample.mark.step .readable (Sample.db (Sample.reserved "op"))).lookup "op" = some record ∧
      fetchOne record.tickets (·.ticketId = "op.ticket") = some row ∧ row.state = .sendStarted ∧
      ∀ (later : List Event) (again : Event),
        ¬ again.marksSend .readable (Runs.run (Event.step .readable) later
          (Sample.mark.step .readable (Sample.db (Sample.reserved "op")))) "op" "op.ticket" := by
  have marks : Sample.mark.marksSend .readable (Sample.db (Sample.reserved "op")) "op"
      "op.ticket" := by decide +kernel
  obtain ⟨record, row, found, fetched, started, once⟩ :=
    send_marked_once (Sample.reachable (Sample.reserved "op")) marks
  exact ⟨record, row, found, fetched, started, fun later => (once later).1⟩

end Runs

end Aar
