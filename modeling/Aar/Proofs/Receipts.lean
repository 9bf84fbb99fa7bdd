import Mathlib.Data.List.Dedup
import Aar.Proofs.Memory

/-! A settlement decides on the receipts of the live attempt: on the only one, or on none of them. -/

namespace Aar.CallerWork

open Guarded Table ModelBroker

section Decision

variable {H : Hashing} {s s' : Scope} {row : TicketRow}

/-- The receipts of the live attempt contradict each other. -/
def Contradictory (H : Hashing) (row : TicketRow) (s : Scope) : Prop :=
  1 < ((attemptReceipts row s).map fun receipt =>
    H.candidate receipt.toCandidatePayload).dedup.length

instance : Decidable (Contradictory H row s) := inferInstanceAs (Decidable (_ < _))

/-- A ticket settled on one receipt. -/
def settledOn (selected : CandidateReceipt) (now : Nat) (row : TicketRow) : TicketRow :=
  { row with
    revision := row.revision + 1, state := settledState selected.observation.outcome
    sentAtUnixMs := some selected.sentAtUnixMs
    providerOrChildRequestId := selected.providerOrChildRequestId
    settledReceiptDigest := some selected.receiptDigest, settledAtUnixMs := some now }

/-- A ticket put in quarantine. -/
def quarantined (row : TicketRow) : TicketRow :=
  { row with revision := row.revision + 1, state := .quarantined }

/-- A projection closes the pending suspension, and continues the job where one is due. -/
theorem projectTerminal_ok {state : TicketState} {digest : Option Digest} {now : Nat} :
    projectTerminal H row state digest now s = .ok s' ↔
      ∃ projected, suspensionState state = some projected ∧
        s.suspensions.countP (fun stored => PendingAt row.suspensionRevision stored) = 1 ∧
        let closed := { s with
          suspensions := projectedSuspensions row projected now s.suspensions }
        ((state ∉ successorStates ∧ closed = s') ∨
          (state ∈ successorStates ∧ ∃ settlement, digest = some settlement ∧
            ((s.row.state ≠ .accepted ∧ closed = s') ∨
              (s.row.state = .accepted ∧
                projectSuccessor H row settlement now closed = .ok s')))) := by
  simp only [projectTerminal, bind_ok, orRaise_ok, updateOne_ok, ite_ok, pure_ok, not_not]
  constructor
  · rintro ⟨projected, due, _, ⟨one, rfl⟩, rest⟩
    exact ⟨projected, due, one, rest⟩
  · rintro ⟨projected, due, one, rest⟩
    exact ⟨projected, due, _, ⟨one, rfl⟩, rest⟩

/-- A quarantine is one projected move of its ticket. -/
theorem quarantineTicket_cases {now : Nat} {outcome : Scope × CallerWorkTicket}
    (ran : quarantineTicket H row now s = .ok outcome) :
    let tickets := revised row.ticketId row.revision quarantined s.tickets
    (∀ stored ∈ tickets, stored.Checks) ∧
      projectTerminal H row .quarantined none now { s with tickets } = .ok outcome.1 := by
  simp only [quarantineTicket, bind_ok, updateTicket_ok, pure_ok] at ran
  obtain ⟨_, ⟨checked, rfl⟩, _, projected, _, -, rfl⟩ := ran
  exact ⟨checked, projected⟩

/-- A settlement quarantines on contradictory receipts, and settles on the selected one else. -/
theorem applyCandidateSettlement_cases {selected : CandidateReceipt} {now : Nat}
    {outcome : Scope × CallerWorkTicket}
    (ran : applyCandidateSettlement H row selected now s = .ok outcome) :
    let change := if Contradictory H row s then quarantined else settledOn selected now
    let digest := if Contradictory H row s then none else some selected.receiptDigest
    let tickets := revised row.ticketId row.revision change s.tickets
    (∀ stored ∈ tickets, stored.Checks) ∧
      projectTerminal H row (change row).state digest now { s with tickets } = .ok outcome.1 := by
  simp only [applyCandidateSettlement, ite_ok] at ran
  rcases ran with ⟨contradictory, ran⟩ | ⟨single, ran⟩
  · have chosen : Contradictory H row s := contradictory
    simp only [if_pos chosen]
    exact quarantineTicket_cases ran
  · have chosen : ¬ Contradictory H row s := single
    simp only [bind_ok, updateTicket_ok, pure_ok] at ran
    obtain ⟨_, -, _, ⟨checked, rfl⟩, _, projected, _, -, rfl⟩ := ran
    simp only [if_neg chosen]
    exact ⟨checked, projected⟩

end Decision

section Live

variable {H : Hashing} {s s' : Scope} {row : TicketRow}

/-- The stored rows of the live attempt of a ticket. -/
def liveRows (row : TicketRow) (s : Scope) : List CandidateRow :=
  s.candidates.filter fun stored => decide (stored.ticketId = row.ticketId ∧
    some stored.physicalAttemptId = row.physicalAttemptId)

theorem mem_liveRows {stored : CandidateRow} :
    stored ∈ liveRows row s ↔ stored ∈ s.candidates ∧ stored.ticketId = row.ticketId ∧
      some stored.physicalAttemptId = row.physicalAttemptId := by
  simp [liveRows]

theorem live_digests (memory : Memory H s) :
    (attemptReceipts row s).map (fun receipt => H.candidate receipt.toCandidatePayload) =
      (liveRows row s).map CandidateRow.receiptDigest := by
  simp only [attemptReceipts, liveRows, List.map_map]
  refine List.map_congr_left fun stored member => ?_
  exact (memory.sealed stored (mem_liveRows.mp member).1).digest.symm

/-- The live rows of one ticket are stored under distinct digests. -/
theorem live_distinct (memory : Memory H s) :
    ((liveRows row s).map CandidateRow.receiptDigest).Nodup := by
  -- Two live rows share the ticket and the attempt, so their keys differ in the digest.
  refine List.Nodup.map_on ?_ ((List.Nodup.of_map _ memory.candidates).filter _)
  intro first member second stored same
  obtain ⟨there, ticket, attempt⟩ := mem_liveRows.mp member
  obtain ⟨here, ticket', attempt'⟩ := mem_liveRows.mp stored
  refine memory.candidates.unique there here ?_
  have one : first.physicalAttemptId = second.physicalAttemptId :=
    Option.some.inj (attempt.trans attempt'.symm)
  simp only [receiptKey, ticket, ticket', one, same]

theorem contradictory_iff (memory : Memory H s) :
    Contradictory H row s ↔ 1 < (attemptReceipts row s).length := by
  have size : (attemptReceipts row s).length = (liveRows row s).length := by
    simp only [attemptReceipts, liveRows, List.length_map]
  rw [Contradictory, live_digests memory, List.dedup_eq_self.mpr (live_distinct memory),
    List.length_map, size]

end Live

end Aar.CallerWork

namespace Aar

open Guarded Table CallerWork ModelBroker

section Settlement

variable {H : Hashing} {s : Scope} {claimId attemptId : String} {clock : Clock}

/-- The commands that settle a ticket on its receipts. -/
def CommandDocument.Settles : CommandDocument → Prop
  | commit _ => True
  | reconcile command => command.reconciliationAction = .settle
  | settleCandidate _ => True
  | _ => False

/-- The receipt of a commit names the live attempt of its ticket and is sealed. -/
theorem candidateFromCommit_ok {row : TicketRow} {command : CallerWorkCommitInput} {now : Nat}
    {receipt : CandidateReceipt} (built : candidateFromCommit H row command now = .ok receipt) :
    receipt.ticketId = row.ticketId ∧ some receipt.physicalAttemptId = row.physicalAttemptId ∧
      receipt.observation = command.observation ∧
      receipt.receiptDigest = H.candidate receipt.toCandidatePayload := by
  simp only [candidateFromCommit, bind_ok, orRaise_ok, pure_ok] at built
  obtain ⟨payload, made, rfl⟩ := built
  simp only [Option.bind_eq_bind, Option.bind_eq_some_iff, Option.pure_def,
    Option.some.injEq] at made
  obtain ⟨attempt, live, _, -, _, -, _, -, _, -, rfl⟩ := made
  exact ⟨rfl, live.symm, rfl, rfl⟩

/-- What a settlement reads: its ticket, and a receipt stored for the ticket's live attempt. -/
structure Decides (H : Hashing) (document : CommandDocument) (s : Scope) (row : TicketRow)
    (selected : CandidateReceipt) (now : Nat) (before after : Scope) : Prop where
  found : fetchOne s.tickets (·.ticketId = document.ticketId) = some row
  unsettled : row.state ∈ unsettledSends
  evidence : ∃ candidates routeBinding modelExecutions,
    before = { s with candidates, routeBinding, modelExecutions }
  memory : Memory H before
  stored : ∃ live ∈ liveRows row before, live.receiptDigest = selected.receiptDigest
  sealed : selected.receiptDigest = H.candidate selected.toCandidatePayload
  ran : ∃ ticket, applyCandidateSettlement H row selected now before = .ok (after, ticket)

/-- A receipt read for the live attempt is the sealed one of a live row. -/
theorem storedReceipt_live {row : TicketRow} {digest : Option Digest}
    {selected : CandidateReceipt} (memory : Memory H s)
    (read : storedReceipt row digest s = some selected) :
    (∃ live ∈ liveRows row s, live.receiptDigest = selected.receiptDigest) ∧
      selected.receiptDigest = H.candidate selected.toCandidatePayload := by
  simp only [storedReceipt, Option.map_eq_some_iff] at read
  obtain ⟨live, found, rfl⟩ := read
  obtain ⟨member, ticket, attempt, -⟩ := fetchOne_some found
  obtain ⟨digest, receipt, -, -⟩ := memory.sealed live member
  exact ⟨⟨live, mem_liveRows.mpr ⟨member, ticket, attempt⟩, receipt.symm⟩, receipt.trans digest⟩

/-- A commit that runs stores its own receipt, and decides on all of its ticket's live attempt. -/
theorem commit_decides {command : CallerWorkCommitInput} {result : Scope × CommandResult}
    (memory : Memory H s) (ran : CallerWork.commit H command clock s = .ok result)
    (executed : result.2.replayed = false) :
    ∃ row selected before after commands,
      candidateFromCommit H row command (clock 0) = .ok selected ∧
      (before.candidates = s.candidates ∨
        before.candidates = s.candidates ++ [receiptRow selected .claimantCallback]) ∧
      Decides H (.commit command) s row selected (clock 1) before after ∧
      result.1 = { after with commands } := by
  simp only [CallerWork.commit, bind_ok] at ran
  obtain ⟨first, there, s₁, journalled, ran⟩ := ran
  have evidence : CommandDocument.evidence H first s (.commit command) = .ok s₁ := journalled
  obtain ⟨grows, _, _, rfl⟩ := CommandDocument.evidence_grows evidence
  rcases remembered_cases ran with ⟨-, replay⟩ | ⟨_, outcome, commands, -, body, rfl⟩
  · rw [executed] at replay
    cases replay
  simp only [bind_ok, require_ok] at body
  obtain ⟨row, checked, _, sent, _, -, _, -, selected, built, inserted, stored, settled⟩ := body
  obtain ⟨ticket, attempt, -, sealing⟩ := candidateFromCommit_ok built
  -- The commit's own receipt is stored before the settlement reads the receipts.
  have journal : Memory H inserted.1 := (memory.grow grows).insert stored
  have live : ∃ live ∈ liveRows row inserted.1,
      live.receiptDigest = selected.receiptDigest := by
    obtain ⟨-, ⟨⟨live, member, same⟩, rfl⟩ | ⟨-, -, rfl⟩⟩ := insertCandidate_ok.mp stored
    · simp only [receiptKey, receiptRow, Prod.mk.injEq] at same
      refine ⟨live, mem_liveRows.mpr ⟨member, same.1.trans ticket, ?_⟩, same.2.2⟩
      rw [same.2.1, attempt]
    · exact ⟨receiptRow selected .claimantCallback, mem_liveRows.mpr
        ⟨List.mem_append_right _ (List.mem_singleton_self _), ticket, attempt⟩, rfl⟩
  have grown : inserted.1.candidates = s.candidates ∨
      inserted.1.candidates = s.candidates ++ [receiptRow selected .claimantCallback] := by
    obtain ⟨-, ⟨-, rfl⟩ | ⟨-, -, rfl⟩⟩ := insertCandidate_ok.mp stored
    · exact .inl rfl
    · exact .inr rfl
  obtain ⟨candidates, same⟩ := insertCandidate_effect stored
  exact ⟨row, selected, inserted.1, outcome.1, commands, built, grown,
    ⟨ticketRow_ok.mp (checkedRow_ok checked), sent, ⟨_, _, _, same⟩, journal, live, sealing,
      outcome.2, settled⟩, rfl⟩

/-- A settlement that runs decides on the receipts of its ticket's live attempt. -/
theorem CommandDocument.settles_ok {document : CommandDocument} (settles : document.Settles)
    {result : Scope × CommandResult} (memory : Memory H s)
    (ran : document.submit H claimId attemptId clock s = .ok result)
    (executed : result.2.replayed = false) :
    ∃ row selected now before after commands, Decides H document s row selected now before after ∧
      result.1 = { after with commands } := by
  cases document with
  | claim | markSendStarted | cancelBeforeSend => exact absurd settles id
  | commit command =>
    obtain ⟨row, selected, before, after, commands, -, -, decides, written⟩ :=
      commit_decides memory ran executed
    exact ⟨row, selected, _, before, after, commands, decides, written⟩
  | reconcile command =>
    change CallerWork.reconcile H command clock s = .ok result at ran
    rcases remembered_cases ran with ⟨-, replay⟩ | ⟨_, outcome, commands, -, body, rfl⟩
    · rw [executed] at replay
      cases replay
    · simp only [bind_ok, require_ok] at body
      obtain ⟨row, checked, _, -, _, -, body⟩ := body
      simp only [CommandDocument.Settles] at settles
      simp only [settles, bind_ok, require_ok, orRaise_ok] at body
      obtain ⟨_, sent, selected, read, settled⟩ := body
      obtain ⟨live, sealing⟩ := storedReceipt_live memory read
      exact ⟨row, selected, _, s, outcome.1, commands, ⟨ticketRow_ok.mp (checkedRow_ok checked),
        sent, ⟨_, _, _, rfl⟩, memory, live, sealing, outcome.2, settled⟩, rfl⟩
  | settleCandidate command =>
    change CallerWork.settleCandidate H command clock s = .ok result at ran
    rcases remembered_cases ran with ⟨-, replay⟩ | ⟨row, outcome, commands, found, body, rfl⟩
    · rw [executed] at replay
      cases replay
    · simp only [bind_ok, require_ok, orRaise_ok] at body
      obtain ⟨_, -, _, sent, _, -, _, -, selected, read, settled⟩ := body
      obtain ⟨live, sealing⟩ := storedReceipt_live memory read
      exact ⟨row, selected, _, s, outcome.1, commands, ⟨ticketRow_ok.mp found,
        sent, ⟨_, _, _, rfl⟩, memory, live, sealing, outcome.2, settled⟩, rfl⟩

/-- The ticket a decision writes: in quarantine, or settled on the selected receipt. -/
theorem Decides.written {document : CommandDocument} {row : TicketRow}
    {selected : CandidateReceipt} {now : Nat} {before after : Scope} (kept : WellKept s.tickets)
    (decides : Decides H document s row selected now before after) :
    let change := if Contradictory H row before then quarantined else settledOn selected now
    fetchOne after.tickets (·.ticketId = document.ticketId) = some (change row) ∧
      after.candidates = before.candidates := by
  obtain ⟨found, sent, ⟨_, _, _, rfl⟩, -, -, -, ticket, ran⟩ := decides
  obtain ⟨there, name⟩ := fetchOne_some found
  obtain ⟨same, -⟩ := applyCandidateSettlement_read ran
  obtain ⟨checked, projected⟩ := applyCandidateSettlement_cases ran
  refine ⟨?_, same.candidates⟩
  generalize chosen : (if Contradictory H row _ then quarantined else settledOn selected now)
    = change at checked projected ⊢
  -- Whatever the decision, it is one move of a ticket that may have been sent.
  have move : TicketMove row (change row) := by
    rw [← chosen]
    split
    · exact ⟨rfl, rfl, rfl, .continued sent (by simp [quarantined, TicketState.mayHaveSent])
        (leaves_unsettled sent (by simp [quarantined, unsettledSends])) ⟨rfl, rfl, rfl, rfl, rfl⟩⟩
    · exact ⟨rfl, rfl, rfl, .continued sent (settledState_mayHaveSent _)
        (leaves_unsettled sent (settledState_settled _)) ⟨rfl, rfl, rfl, rfl, rfl⟩⟩
  obtain ⟨_, -, -, rest⟩ := projectTerminal_ok.mp projected
  have tickets : after.tickets = revised row.ticketId row.revision change s.tickets := by
    obtain ⟨_, -, -, rfl | ⟨_, _, _, -, -, -, -, rfl⟩⟩ := projectTerminal_cases projected <;> rfl
  have written : WellKept after.tickets := by
    rw [tickets]
    exact kept.move (.moved (kept.fetch there) move checked)
  have member : change row ∈ after.tickets := by
    rw [tickets]
    exact mem_updateWhere.mpr ⟨row, there, by simp⟩
  have fetched := written.fetch member
  rwa [move.ticketId, name] at fetched

/-- A quarantine parks the suspension of its ticket and continues nothing. -/
theorem Decides.parked {document : CommandDocument} {row : TicketRow}
    {selected : CandidateReceipt} {now : Nat} {before after : Scope}
    (decides : Decides H document s row selected now before after)
    (contradictory : Contradictory H row before) :
    (∃ suspension ∈ after.suspensions,
        suspension.suspensionRevision = row.suspensionRevision ∧ suspension.state = .parked) ∧
      after.outbox = s.outbox := by
  obtain ⟨-, -, ⟨_, _, _, rfl⟩, -, -, -, ticket, ran⟩ := decides
  obtain ⟨-, projected⟩ := applyCandidateSettlement_cases ran
  simp only [if_pos contradictory] at projected
  obtain ⟨state, due, one, ⟨-, rfl⟩ | ⟨due', -⟩⟩ := projectTerminal_ok.mp projected
  · cases due
    obtain ⟨suspension, member, pending⟩ := exists_of_countP_one one
    refine ⟨⟨_, mem_updateWhere.mpr ⟨suspension, member, rfl⟩, ?_⟩, rfl⟩
    rw [if_pos pending]
    exact ⟨pending.1, rfl⟩
  · simp [quarantined, successorStates] at due'

/-- A closed ticket is found unchanged after every later run. -/
theorem closed_forever {db : Db} {operation ticketId : String} {record : OpRecord}
    {row : TicketRow} (reached : db.Reachable H) (found : db.lookup operation = some record)
    (fetched : fetchOne record.tickets (·.ticketId = ticketId) = some row)
    (closed : row.state ∉ openStates) (later : List Event) :
    ∃ record', (Runs.run (Event.step H) later db).lookup operation = some record' ∧
      fetchOne record'.tickets (·.ticketId = ticketId) = some row := by
  have kept := wellKept_invariant.reachable reached
  obtain ⟨record', found', tickets⟩ := tickets_progress.run wellKept_invariant
    (fun event (_ : event ∈ later) => trivial) kept found
  obtain ⟨member, name⟩ := fetchOne_some fetched
  have still : row ∈ record'.tickets := tickets.closed row member closed
  have fetch := (wellKept_invariant.reachable (reached.run later) operation record' found').fetch still
  rw [name] at fetch
  exact ⟨record', found', fetch⟩

/-- A settlement decides on the only receipt of the live attempt, or quarantines for good. -/
theorem settlement_decides {document : CommandDocument} {operation : String} {db db' : Db}
    {result : CommandResult} (settles : document.Settles) (reached : db.Reachable H)
    (sent : document.send H claimId attemptId clock operation db = .ok (db', result))
    (executed : result.replayed = false) :
    ∃ record row record' row',
      db.lookup operation = some record ∧
      fetchOne record.tickets (·.ticketId = document.ticketId) = some row ∧
      db'.lookup operation = some record' ∧
      fetchOne record'.tickets (·.ticketId = document.ticketId) = some row' ∧
      row'.physicalAttemptId = row.physicalAttemptId ∧
      ((∃ receipt payload,
          attemptReceipts row' (db'.scope operation record') = [receipt] ∧
          H.candidate payload = receipt.receiptDigest ∧
          row'.settledReceiptDigest = some receipt.receiptDigest ∧
          row'.state = settledState payload.observation.outcome) ∨
        (2 ≤ (attemptReceipts row' (db'.scope operation record')).length ∧
          row'.state = .quarantined ∧
          (∃ suspension ∈ record'.suspensions,
            suspension.suspensionRevision = row.suspensionRevision ∧
              suspension.state = .parked) ∧
          record'.outbox = record.outbox ∧
          ∀ later : List Event, ∃ record'' row'',
            (Runs.run (Event.step H) later db').lookup operation = some record'' ∧
            fetchOne record''.tickets (·.ticketId = document.ticketId) = some row'' ∧
            row''.state = .quarantined)) := by
  have reached' := document.send_reachable reached sent
  obtain ⟨record, r, found, ran, rfl⟩ := Db.transact_ok.mp sent
  have memory := memory_invariant.reachable reached operation record found
  have kept := wellKept_invariant.reachable reached operation record found
  obtain ⟨row, selected, now, before, after, commands, decides, written⟩ :=
    document.settles_ok settles memory ran executed
  obtain ⟨fetched, candidates⟩ := decides.written kept
  have shape : r = { after with commands } := written
  have found' : (db.commit operation r).lookup operation = some r.toOpRecord := by
    rw [Db.lookup_commit, if_pos rfl, found]
    rfl
  -- The receipts read after the settlement are those it read itself.
  have receipts : ∀ row' : TicketRow, row'.ticketId = row.ticketId →
      row'.physicalAttemptId = row.physicalAttemptId →
      attemptReceipts row' ((db.commit operation r).scope operation r.toOpRecord) =
        attemptReceipts row before := by
    intro row' name attempt
    have same : r.candidates = before.candidates := by rw [shape]; exact candidates
    simp only [attemptReceipts, name, attempt, Db.scope, same]
  have tickets : r.toOpRecord.tickets = after.tickets := by rw [shape]
  have suspensions : r.toOpRecord.suspensions = after.suspensions := by rw [shape]
  have outbox : r.toOpRecord.outbox = after.outbox := by rw [shape]
  by_cases contradictory : Contradictory H row before
  · -- Several receipts: the ticket is in quarantine, where no later call moves it.
    rw [if_pos contradictory] at fetched
    rw [← tickets] at fetched
    obtain ⟨parked, same⟩ := decides.parked contradictory
    refine ⟨record, row, r.toOpRecord, quarantined row, found, decides.found, found', fetched, rfl,
      .inr ⟨?_, rfl, ?_, ?_, fun later => ?_⟩⟩
    · rw [receipts (quarantined row) rfl rfl]
      exact (contradictory_iff decides.memory).mp contradictory
    · rw [suspensions]
      exact parked
    · rw [outbox]
      exact same
    · have closed : (quarantined row).state ∉ openStates := by simp [quarantined, openStates]
      obtain ⟨record'', found'', fetched''⟩ :=
        closed_forever reached' found' fetched closed later
      exact ⟨record'', quarantined row, found'', fetched'', rfl⟩
  · -- At most one receipt, and the selected one is stored: it is the only one.
    rw [if_neg contradictory] at fetched
    rw [← tickets] at fetched
    obtain ⟨live, member, digest⟩ := decides.stored
    have few : ¬ 1 < (attemptReceipts row before).length := fun several =>
      contradictory ((contradictory_iff decides.memory).mpr several)
    have listed : live.receipt ∈ attemptReceipts row before :=
      List.mem_map_of_mem (f := CandidateRow.receipt) member
    have single : attemptReceipts row before = [live.receipt] := by
      generalize attemptReceipts row before = receipts at few listed
      rcases receipts with _ | ⟨first, _ | ⟨second, rest⟩⟩
      · cases listed
      · rw [List.mem_singleton.mp listed]
      · simp at few
    have known := (decides.memory.sealed live (mem_liveRows.mp member).1).receipt
    refine ⟨record, row, r.toOpRecord, settledOn selected now row, found, decides.found, found',
      fetched, rfl, .inl ⟨live.receipt, selected.toCandidatePayload, ?_, ?_, ?_, rfl⟩⟩
    · rw [receipts (settledOn selected now row) rfl rfl, single]
    · rw [← decides.sealed, ← digest, known]
    · simp only [settledOn, known, digest]

/-- The database in which the sample ticket has been sent. -/
def Sample.sent : Db := Sample.db (Sample.reserved "op" ++ [Sample.mark])

/-- The answer of a model call. -/
def Sample.response : ModelResponse :=
  { outputText := "answer"
    routeReceipt :=
      { requested := Sample.route, finishReason := "stop", receiptDigest := "route"
        effective := { providerDriver := "driver", provider := "provider", model := "model" } }
    usage := { accountingSource := .reference, inputTokens := 1, outputTokens := 1, totalTokens := 2 } }

/-- The commit of a successful call for the sent ticket. -/
def Sample.commitSuccess : CommandDocument :=
  .commit { Sample.commitTicket "op" with
    observation :=
      { kind := .model, outcome := .succeeded, outputText := some "answer"
        outputDigest := some "answer", routeReceiptDigest := some "route"
        usageReceiptDigest := some "2", hostReceiptDigest := "answer" }
    modelResponse := some Sample.response }

/-- A receipt that reports the failure of the sent call. -/
def Sample.failureReceipt : CandidateReceipt :=
  { ticketId := "op.ticket", ticketDigest := "ticket", physicalAttemptId := "physical"
    sentRequestDigest := "request", sentAtUnixMs := 5, providerOrChildRequestId := none
    observation := Sample.failure, callbackPrincipalId := "principal"
    callbackSessionId := "session", callbackAdapterId := "adapter", callbackAdapterGeneration := 1
    observedAtUnixMs := 6, signatureDigest := "signature"
    receiptDigest := "op.ticket.physical.failed_certain" }

/-- The database in which the sent ticket already has a receipt of its failure. -/
def Sample.disputed : Db :=
  Sample.db (Sample.reserved "op" ++ [Sample.mark,
    (Call.on "op" (.ticket (.appendCandidateReceipt Sample.failureReceipt .providerLookup))).atTime
      6])

/-- The commit of a failed call settles its ticket on the only receipt, which is the commit's own; and
a success that is committed against a stored failure quarantines it. -/
theorem settlement_decides_sample :
    (∃ db' result record row,
      (CommandDocument.commit (Sample.commitTicket "op")).send .readable "" "" (fun _ => 6) "op"
        Sample.sent = .ok (db', result) ∧
      db'.lookup "op" = some record ∧
      fetchOne record.tickets (·.ticketId = "op.ticket") = some row ∧
      ∃ receipt, attemptReceipts row (db'.scope "op" record) = [receipt] ∧
        row.settledReceiptDigest = some receipt.receiptDigest) ∧
    ∃ db' result record row,
      Sample.commitSuccess.send .readable "" "" (fun _ => 6) "op" Sample.disputed =
        .ok (db', result) ∧
      db'.lookup "op" = some record ∧
      fetchOne record.tickets (·.ticketId = "op.ticket") = some row ∧
      2 ≤ (attemptReceipts row (db'.scope "op" record)).length ∧ row.state = .quarantined := by
  -- What the tickets of an operation are in, in the end.
  have ended {state : TicketState} {db : Db} {record : OpRecord} {row : TicketRow}
      (all : (db.lookup "op").any fun record => record.tickets.all fun row => row.state = state)
      (found : db.lookup "op" = some record)
      (fetched : fetchOne record.tickets (·.ticketId = "op.ticket") = some row) :
      row.state = state := by
    simp only [found, Option.any_some, List.all_eq_true, decide_eq_true_eq] at all
    exact all row (fetchOne_some fetched).1
  constructor
  · have answers : ((CommandDocument.commit (Sample.commitTicket "op")).send .readable "" ""
        (fun _ => 6) "op" Sample.sent).toOption.any fun answer => answer.2.replayed = false ∧
          (answer.1.lookup "op").any fun record =>
            record.tickets.all fun row => row.state = .settledFailure := by
      decide +kernel
    rw [Option.any_eq_true] at answers
    obtain ⟨⟨db', result⟩, answered, holds⟩ := answers
    obtain ⟨executed, all⟩ := of_decide_eq_true holds
    have settles : (CommandDocument.commit (Sample.commitTicket "op")).Settles := trivial
    obtain ⟨_, _, record, row, -, -, found, fetched, -, decided⟩ :=
      settlement_decides settles (Sample.reachable _) (toOption_ok.mp answered) executed
    refine ⟨db', result, record, row, toOption_ok.mp answered, found, fetched, ?_⟩
    rcases decided with ⟨receipt, -, single, -, digest, -⟩ | ⟨-, state, -⟩
    · exact ⟨receipt, single, digest⟩
    · cases state.symm.trans (ended all found fetched)
  · have answers : (Sample.commitSuccess.send .readable "" "" (fun _ => 6) "op"
        Sample.disputed).toOption.any fun answer => answer.2.replayed = false ∧
          (answer.1.lookup "op").any fun record =>
            record.tickets.all fun row => row.state = .quarantined := by
      decide +kernel
    rw [Option.any_eq_true] at answers
    obtain ⟨⟨db', result⟩, answered, holds⟩ := answers
    obtain ⟨executed, all⟩ := of_decide_eq_true holds
    have settles : Sample.commitSuccess.Settles := trivial
    obtain ⟨_, _, record, row, -, -, found, fetched, -, decided⟩ :=
      settlement_decides settles (Sample.reachable _) (toOption_ok.mp answered) executed
    refine ⟨db', result, record, row, toOption_ok.mp answered, found, fetched, ?_⟩
    rcases decided with ⟨receipt, payload, -, -, -, state⟩ | ⟨several, state, -⟩
    · have settled := state.symm.trans (ended all found fetched)
      unfold settledState at settled
      repeat' split at settled
      all_goals cases settled
    · exact ⟨several, state⟩

end Settlement

end Aar
