import Aar.Proofs.Receipts

/-! Commands are remembered: sent again they answer as before, and their key takes no other bytes. -/

namespace Aar

open Guarded Table CallerWork ModelBroker

section Kept

variable {H : Hashing} {s s' : Scope} {claimId attemptId : String} {clock : Clock}

/-- The command reports a model success while a receipt other than its own is stored for the attempt.

The receipt it stands for is the one its commit would store, at the instant its commit reads. -/
def CommandDocument.Contradicted (H : Hashing) (clock : Clock) (s : Scope) :
    CommandDocument → Prop
  | commit command => command.observation.ModelSucceeded ∧ ∃ row receipt,
      ticketRow command.ticketId s = .ok row ∧
      candidateFromCommit H row command (clock 0) = .ok receipt ∧
      ∃ stored ∈ attemptReceipts row s, stored.receiptDigest ≠ receipt.receiptDigest
  | _ => False

/-- The evidence of a reported model success has been journalled for a ticket. -/
def Evidenced (H : Hashing) (row : TicketRow) (command : CallerWorkCommitInput) (s : Scope) :
    Prop :=
  ∃ binding response key,
    Journals H row command.observation command.modelResponse binding response key ∧
    s.routeBinding = some binding ∧ journalRow H row binding response key ∈ s.modelExecutions

/-- Journalled evidence is journalled evidence of every ticket with the same request and key. -/
theorem Evidenced.of_same {row row' : TicketRow} {command : CallerWorkCommitInput}
    (evidenced : Evidenced H row command s) (remembers : Remembers s s')
    (request : row'.request = row.request) (digest : row'.requestDigest = row.requestDigest)
    (external : row'.externalIdempotencyKey = row.externalIdempotencyKey) :
    Evidenced H row' command s' := by
  obtain ⟨binding, response, key, journals, route, member⟩ := evidenced
  have same : journalRow H row' binding response key = journalRow H row binding response key := by
    simp only [journalRow, request, digest]
  refine ⟨binding, response, key, ⟨journals.reported, ?_, journals.described, ?_,
    journals.attested, ?_⟩, remembers.route binding route, ?_⟩
  · rw [request]
    exact journals.bound
  · rw [request, digest]
    exact journals.sealed
  · rw [external]
    exact journals.keyed
  · rw [same]
    exact remembers.executions _ member

/-- Evidence that was journalled is found in the journal, on the route that it bound. -/
theorem evidence_kept {row : TicketRow} {command : CallerWorkCommitInput}
    (succeeded : command.observation.ModelSucceeded)
    (journalled : CommandDocument.evidence H row s (.commit command) = .ok s') :
    Evidenced H row command s' := by
  simp only [CommandDocument.evidence, if_pos succeeded] at journalled
  obtain ⟨binding, response, key, journals, -, -, ⟨there, rfl⟩ | ⟨-, rfl⟩⟩ :=
    recordModelResponse_ok.mp journalled
  · exact ⟨binding, response, key, journals, rfl, (fetchOne_some there).1⟩
  · exact ⟨binding, response, key, journals, rfl,
      List.mem_append_right _ (List.mem_singleton_self _)⟩

/-- Journalled evidence of a ticket that still takes evidence is journalled again without a change. -/
theorem Evidenced.repeats {row : TicketRow} {command : CallerWorkCommitInput}
    (memory : Memory H s) (found : ticketRow row.ticketId s = .ok row)
    (succeeded : command.observation.ModelSucceeded) (evidenced : Evidenced H row command s) :
    CommandDocument.evidence H row s (.commit command) = .ok s ↔ row.state ∈ evidenceStates := by
  obtain ⟨binding, response, key, journals, route, member⟩ := evidenced
  have rerouted : { s with routeBinding := some binding } = s := by rw [← route]
  simp only [CommandDocument.evidence, if_pos succeeded, recordModelResponse_ok]
  constructor
  · rintro ⟨_, _, _, -, ⟨stored, there, authority⟩, -⟩
    cases found.symm.trans there
    exact authority.1
  · intro takes
    have fetched : journalled key s = some (journalRow H row binding response key) :=
      memory.executions.fetch member
    refine ⟨binding, response, key, journals, ⟨row, found, takes, rfl, rfl, rfl, rfl⟩, ?_,
      .inl ⟨fetched, rerouted⟩⟩
    intro stored bound
    rw [route] at bound
    exact (Option.some.inj bound).symm

/-- A commit's receipts contradict each other exactly when another receipt than its own is stored. -/
theorem Decides.contradictory_iff {document : CommandDocument} {row : TicketRow}
    {selected : CandidateReceipt} {now : Nat} {before after : Scope} (memory : Memory H s)
    (decides : Decides H document s row selected now before after)
    (grown : before.candidates = s.candidates ∨
      before.candidates = s.candidates ++ [receiptRow selected .claimantCallback]) :
    Contradictory H row before ↔
      ∃ stored ∈ attemptReceipts row s, stored.receiptDigest ≠ selected.receiptDigest := by
  obtain ⟨live, listed, digest⟩ := decides.stored
  have size : (attemptReceipts row before).length = (liveRows row before).length := by
    simp only [attemptReceipts, liveRows, List.length_map]
  rw [CallerWork.contradictory_iff decides.memory, size,
    Keyed.several (live_distinct decides.memory) listed]
  constructor
  · rintro ⟨other, member, apart⟩
    obtain ⟨stored, ticket, attempt⟩ := mem_liveRows.mp member
    rw [digest] at apart
    -- The row the commit itself stored has the commit's digest, so the other one was there before.
    have old : other ∈ s.candidates := by
      rcases grown with same | added
      · rwa [same] at stored
      · rw [added] at stored
        rcases List.mem_append.mp stored with old | new
        · exact old
        · rw [List.mem_singleton.mp new] at apart
          exact absurd rfl apart
    refine ⟨other.receipt, List.mem_map_of_mem (mem_liveRows.mpr ⟨old, ticket, attempt⟩), ?_⟩
    rw [(memory.sealed other old).receipt]
    exact apart
  · rintro ⟨receipt, member, apart⟩
    obtain ⟨other, there, rfl⟩ := List.mem_map.mp member
    obtain ⟨old, ticket, attempt⟩ := mem_liveRows.mp there
    have still : other ∈ before.candidates := by
      rcases grown with same | added
      · rwa [same]
      · rw [added]
        exact List.mem_append_left _ old
    rw [(memory.sealed other old).receipt, ← digest] at apart
    exact ⟨other, mem_liveRows.mpr ⟨still, ticket, attempt⟩, apart⟩

/-- A command that ran is remembered with the ticket it answered. -/
theorem CommandDocument.executed_remembered {document : CommandDocument}
    {result : Scope × CommandResult}
    (ran : document.submit H claimId attemptId clock s = .ok result)
    (executed : result.2.replayed = false) :
    document.receipt H result.2.ticket ∈ result.1.commands ∧
      result.2.ticket.ticketId = document.ticketId ∧
      result.2.ticket.operation = s.operation ∧
      ∃ row ∈ s.tickets, row.ticketId = document.ticketId := by
  obtain ⟨row, s₁, found, journalled, ⟨-, replayed, -⟩ | ⟨outcome, answered, -, rfl⟩⟩ :=
    document.submit_ok ran
  · rw [executed] at replayed
    cases replayed
  · obtain ⟨-, _, _, rfl⟩ := document.evidence_grows journalled
    obtain ⟨member, name⟩ := fetchOne_some (ticketRow_ok.mp found)
    exact ⟨List.mem_append_right _ (List.mem_singleton_self _), answered.ticketId,
      answered.operation, row, member, name⟩

/-- A committed model success leaves its ticket closed, with its evidence, and still taking that
evidence exactly when no other receipt was stored for the attempt. -/
theorem commit_evidenced {command : CallerWorkCommitInput} {result : Scope × CommandResult}
    (memory : Memory H s) (kept : WellKept s.tickets)
    (succeeded : command.observation.ModelSucceeded)
    (ran : (CommandDocument.commit command).submit H claimId attemptId clock s = .ok result)
    (executed : result.2.replayed = false) :
    ∃ row, fetchOne result.1.tickets (·.ticketId = command.ticketId) = some row ∧
      Evidenced H row command result.1 ∧ row.state ∉ openStates ∧
      (row.state ∈ evidenceStates ↔
        ¬ (CommandDocument.commit command).Contradicted H clock s) := by
  obtain ⟨first, s₁, found, journalled, ⟨-, replayed, -⟩ | ⟨outcome, answered, -, same⟩⟩ :=
    CommandDocument.submit_ok ran
  · rw [executed] at replayed
    cases replayed
  obtain ⟨row, selected, before, after, commands, built, grown, decides, written⟩ :=
    commit_decides memory ran executed
  obtain rfl : first = row := Option.some.inj ((ticketRow_ok.mp found).symm.trans decides.found)
  obtain ⟨fetched, -⟩ := decides.written kept
  -- The command's own receipt is all it is contradicted by, and all that its rewrite depends on.
  have contradicted : (CommandDocument.commit command).Contradicted H clock s ↔
      Contradictory H first before := by
    rw [decides.contradictory_iff memory grown]
    constructor
    · rintro ⟨-, row, receipt, found', built', other⟩
      cases found.symm.trans found'
      cases built.symm.trans built'
      exact other
    · exact fun other => ⟨succeeded, first, selected, found, built, other⟩
  have evidenced : Evidenced H first command result.1 := by
    have first := evidence_kept succeeded journalled
    obtain ⟨binding, response, key, journals, route, member⟩ := first
    refine ⟨binding, response, key, journals, ?_, ?_⟩ <;> rw [same]
    · exact answered.route.trans route
    · show _ ∈ outcome.1.modelExecutions
      rw [answered.executions]
      exact member
  have tickets : result.1.tickets = after.tickets := by rw [written]
  have outcome := (candidateFromCommit_ok built).2.2.1
  rw [contradicted, tickets]
  have still : Remembers result.1 result.1 := ⟨fun _ => id, fun _ => id, fun _ => id, fun _ => id⟩
  by_cases contradictory : Contradictory H first before
  · rw [if_pos contradictory] at fetched
    refine ⟨quarantined first, fetched, evidenced.of_same still rfl rfl rfl, ?_, ?_⟩
    · simp [quarantined, openStates]
    · simp [quarantined, evidenceStates, contradictory]
  · rw [if_neg contradictory] at fetched
    have state : (settledOn selected (clock 1) first).state = .settledSuccess := by
      simp [settledOn, settledState, outcome, succeeded.2, ObservationOutcome.wire]
    refine ⟨settledOn selected (clock 1) first, fetched, evidenced.of_same still rfl rfl rfl, ?_, ?_⟩
    · simp [state, openStates]
    · simp [state, evidenceStates, contradictory]

end Kept

section Resubmission

variable {H : Hashing} {db db' : Db} {operation : String} {document : CommandDocument}
  {claimId attemptId : String} {clock : Clock} {result : CommandResult}

/-- From some state on, a command answers one ticket and changes nothing, and its key takes no
command with other bytes, in every state that later calls lead to. -/
def Idempotent (H : Hashing) (document : CommandDocument) (operation : String) (db : Db)
    (ticket : CallerWorkTicket) : Prop :=
  ∀ (later : List Event) (claimId attemptId : String) (clock : Clock),
    let after := Runs.run (Event.step H) later db
    document.send H claimId attemptId clock operation after = .ok (after, ⟨ticket, true⟩) ∧
      ∀ other : CommandDocument, other.key = document.key → other ≠ document →
        (H.command other.kind other = H.command document.kind document → other = document) →
        ∃ error, other.send H claimId attemptId clock operation after = .error error

/-- A command without a model success journals nothing. -/
theorem CommandDocument.evidence_none {row : TicketRow} {s : Scope}
    (without : ∀ command, document = .commit command → ¬ command.observation.ModelSucceeded) :
    document.evidence H row s = .ok s := by
  cases document with
  | commit command => simp only [CommandDocument.evidence, if_neg (without command rfl)]
  | claim | markSendStarted | cancelBeforeSend | reconcile | settleCandidate => rfl

/-- A key that is remembered for one command takes no other bytes. -/
theorem CommandDocument.key_taken {other : CommandDocument} {ticket : CallerWorkTicket} {s : Scope}
    (memory : Memory H s) (kept : document.receipt H ticket ∈ s.commands)
    (same : other.key = document.key) (differ : other ≠ document)
    (sealed : H.command other.kind other = H.command document.kind document → other = document)
    (result : Scope × CommandResult) : other.submit H claimId attemptId clock s ≠ .ok result := by
  intro ran
  obtain ⟨row, s₁, -, journalled, finished⟩ := other.submit_ok ran
  obtain ⟨-, _, _, rfl⟩ := other.evidence_grows journalled
  rcases finished with ⟨-, -, stored, found, digest⟩ | ⟨_, -, fresh, -⟩
  · -- The receipt under the key is the one of the remembered command, for its own bytes.
    have fetched := memory.commands.fetch kept
    simp only [CommandDocument.receipt, ← same] at fetched
    cases fetched.symm.trans found
    exact differ (sealed digest.symm)
  · exact fresh _ kept same.symm

/-- What every later state keeps of a command that ran: its receipt, and a ticket that is closed
with journalled evidence when the command reported a model success. -/
structure Lasting (H : Hashing) (document : CommandDocument) (ticket : CallerWorkTicket)
    (contradicted : Prop) (row : TicketRow) (s : Scope) : Prop where
  memory : Memory H s
  receipt : document.receipt H ticket ∈ s.commands
  found : ticketRow document.ticketId s = .ok row
  evidence : ∀ command, document = .commit command → command.observation.ModelSucceeded →
    Evidenced H row command s ∧ (row.state ∈ evidenceStates ↔ ¬ contradicted)

/-- A command that ran is kept in every state that later calls lead to. -/
theorem CommandDocument.lasting (reached : db.Reachable H) {record : OpRecord} {r : Scope}
    (found : db.lookup operation = some record)
    (ran : document.submit H claimId attemptId clock (db.scope operation record) = .ok (r, result))
    (executed : result.replayed = false) (later : List Event) :
    let last := Runs.run (Event.step H) later (db.commit operation r)
    ∃ after row, last.lookup operation = some after ∧
      Lasting H document result.ticket (document.Contradicted H clock (db.scope operation record))
        row (last.scope operation after) := by
  intro last
  have sent : document.send H claimId attemptId clock operation db =
      .ok (db.commit operation r, result) := Db.transact_ok.mpr ⟨record, r, found, ran, rfl⟩
  have reached' := document.send_reachable reached sent
  have memory := memory_invariant.reachable reached operation record found
  have kept := wellKept_invariant.reachable reached operation record found
  obtain ⟨receipt, -, -, old, member, name⟩ := document.executed_remembered ran executed
  have found' : (db.commit operation r).lookup operation = some r.toOpRecord := by
    rw [Db.lookup_commit, if_pos rfl, found]
    rfl
  have ticking : ∀ event ∈ later, True := fun _ _ => trivial
  obtain ⟨after, there, remembers⟩ :=
    remembers_progress.run memory_invariant ticking (memory_invariant.reachable reached') found'
  obtain ⟨_, there', tickets⟩ :=
    tickets_progress.run wellKept_invariant ticking (wellKept_invariant.reachable reached') found'
  cases there.symm.trans there'
  have still := memory_invariant.reachable (reached'.run later) operation after there
  have well := wellKept_invariant.reachable (reached'.run later) operation after there
  by_cases success : ∃ command, document = .commit command ∧ command.observation.ModelSucceeded
  · -- The ticket of a model success was closed by it, so it is still the same row.
    obtain ⟨command, rfl, succeeded⟩ := success
    obtain ⟨row, fetched, evidenced, closed, takes⟩ :=
      commit_evidenced memory kept succeeded ran executed
    have evidenced : Evidenced H row command
      ((db.commit operation r).scope operation r.toOpRecord) := evidenced
    obtain ⟨listed, named⟩ := fetchOne_some fetched
    have fetched' := well.fetch (tickets.closed row listed closed)
    rw [named] at fetched'
    refine ⟨after, row, there, still, remembers.commands _ receipt, ticketRow_ok.mpr fetched', ?_⟩
    rintro _ ⟨⟩ -
    exact ⟨evidenced.of_same remembers rfl rfl rfl, takes⟩
  · -- Any other command only needs its ticket to be stored still.
    have step : LocalStep H Unrestricted clock (db.scope operation record)
        ((db.scope operation record).settle r) := by
      refine .call (.ticket (document.call claimId attemptId)) trivial ?_
      simp only [OpCall.run, CommandDocument.call_run, ran, map_ok]
      exact ⟨_, rfl, rfl⟩
    obtain ⟨mid, there₁, name₁⟩ := (step.tickets.closed kept).named old member
    obtain ⟨row, there₂, name₂⟩ := tickets.named mid there₁
    have fetched := well.fetch there₂
    rw [name₂, name₁, name] at fetched
    refine ⟨after, row, there, still, remembers.commands _ receipt, ticketRow_ok.mpr fetched, ?_⟩
    intro command same succeeded
    exact absurd ⟨command, same, succeeded⟩ success

/-- A command that ran is idempotent from then on, unless it reported a model success while another
receipt than its own was stored for the attempt. -/
theorem commands_idempotent (reached : db.Reachable H)
    (sent : document.send H claimId attemptId clock operation db = .ok (db', result))
    (executed : result.replayed = false) :
    ∃ record, db.lookup operation = some record ∧
      (Idempotent H document operation db' result.ticket ↔
        ¬ document.Contradicted H clock (db.scope operation record)) := by
  obtain ⟨record, r, found, ran, rfl⟩ := Db.transact_ok.mp sent
  have lasting := document.lasting reached found ran executed
  obtain ⟨-, named, here, -⟩ := document.executed_remembered ran executed
  refine ⟨record, found, fun idempotent contradicted => ?_, fun consistent later claimId attemptId
    clock => ⟨?_, fun other same differ sealed => ?_⟩⟩
  · -- A contradicted command left its ticket in quarantine, which takes no evidence any more.
    obtain ⟨after, row, there, last⟩ := lasting []
    cases document with
    | commit command =>
      obtain ⟨again, -⟩ := idempotent [] "" "" clock
      obtain ⟨_, s₂, there', ran', -⟩ := Db.transact_ok.mp again
      cases there.symm.trans there'
      obtain ⟨_, s₁, found', journalled, -⟩ := CommandDocument.submit_ok ran'
      cases last.found.symm.trans found'
      simp only [CommandDocument.evidence, if_pos contradicted.1] at journalled
      obtain ⟨_, _, _, -, ⟨stored, fetched, authority⟩, -⟩ := recordModelResponse_ok.mp journalled
      have name := (fetch_self (ticketRow_ok.mp last.found)).1
      rw [name] at fetched
      cases last.found.symm.trans fetched
      exact ((last.evidence command rfl contradicted.1).2.mp authority.1) contradicted
    | claim | markSendStarted | cancelBeforeSend | reconcile | settleCandidate =>
      exact contradicted
  · obtain ⟨after, row, there, last⟩ := lasting later
    refine Db.transact_ok.mpr ⟨after, _, there, ?_, Db.commit_unchanged there⟩
    have fetched := last.memory.commands.fetch last.receipt
    refine document.submit_replays last.found ?_ fetched named here
    by_cases success : ∃ command, document = .commit command ∧ command.observation.ModelSucceeded
    · obtain ⟨command, rfl, succeeded⟩ := success
      obtain ⟨evidenced, takes⟩ := last.evidence command rfl succeeded
      have found' := last.found
      rw [← (fetch_self (ticketRow_ok.mp last.found)).1] at found'
      exact (evidenced.repeats last.memory found' succeeded).mpr (takes.mpr consistent)
    · exact CommandDocument.evidence_none fun command same succeeded =>
        success ⟨command, same, succeeded⟩
  · obtain ⟨after, row, there, last⟩ := lasting later
    cases again : other.send H claimId attemptId clock operation
        (Runs.run (Event.step H) later (db.commit operation r)) with
    | error raised => exact ⟨raised, rfl⟩
    | ok answer =>
      obtain ⟨_, s₂, there', ran', -⟩ := Db.transact_ok.mp again
      cases there.symm.trans there'
      exact absurd ran'
        (CommandDocument.key_taken last.memory last.receipt same differ sealed _)

/-- A command that failed to settle is remembered, and its resubmission answers the same ticket. -/
theorem commands_idempotent_sample :
    ∃ db' result,
      (CommandDocument.commit (Sample.commitTicket "op")).send .readable "" "" (fun _ => 6) "op"
        Sample.sent = .ok (db', result) ∧
      Idempotent .readable (.commit (Sample.commitTicket "op")) "op" db' result.ticket := by
  have answers : ((CommandDocument.commit (Sample.commitTicket "op")).send .readable "" ""
      (fun _ => 6) "op" Sample.sent).toOption.any fun answer => answer.2.replayed = false := by
    decide +kernel
  simp only [Option.any_eq_true, decide_eq_true_eq] at answers
  obtain ⟨⟨db', result⟩, answered, executed⟩ := answers
  have sent := toOption_ok.mp answered
  obtain ⟨record, -, idempotent⟩ := commands_idempotent (Sample.reachable _) sent executed
  -- The commit reports a failure, so no other receipt can contradict it.
  exact ⟨db', result, sent, idempotent.mpr fun contradicted => by cases contradicted.1.2⟩

/-- A success that is committed against a stored failure runs once, and is refused when it is sent
again. -/
theorem commands_idempotent_not :
    Sample.disputed.Reachable .readable ∧ ∃ db' result,
      Sample.commitSuccess.send .readable "" "" (fun _ => 7) "op" Sample.disputed =
        .ok (db', result) ∧
      result.replayed = false ∧ result.ticket.state = .quarantined ∧
      Sample.commitSuccess.send .readable "" "" (fun _ => 8) "op" db' =
        .error (.callerWorkConflict "caller model ticket authority is stale") := by
  have answers : (Sample.commitSuccess.send .readable "" "" (fun _ => 7) "op"
      Sample.disputed).toOption.any fun answer =>
        decide (answer.2.replayed = false ∧ answer.2.ticket.state = .quarantined) &&
        match Sample.commitSuccess.send .readable "" "" (fun _ => 8) "op" answer.1 with
        | .error error =>
          decide (error = .callerWorkConflict "caller model ticket authority is stale")
        | .ok _ => false := by
    decide +kernel
  simp only [Option.any_eq_true, Bool.and_eq_true, decide_eq_true_eq] at answers
  obtain ⟨⟨db', result⟩, answered, ⟨executed, state⟩, again⟩ := answers
  refine ⟨Sample.reachable _, db', result, toOption_ok.mp answered, executed, state, ?_⟩
  split at again
  · rename_i raised
    rw [raised, of_decide_eq_true again]
  · cases again

end Resubmission

end Aar
