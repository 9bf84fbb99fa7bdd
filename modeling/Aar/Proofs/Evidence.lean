import Aar.Proofs.Replays
import Aar.Proofs.Settlements

/-! Late evidence: a settlement that passes its checks is kept, whatever became of the operation. -/

namespace Aar.CallerWork

open Guarded Table ModelBroker

section Continuation

variable {H : Hashing} {s s' : Scope} {row : TicketRow} {selected : CandidateReceipt} {now : Nat}

/-- The send was given up as reconcile-only, and the deadline of the job is behind it. -/
def PastRevival (row : TicketRow) (now : Nat) (job : JobRow) : Prop :=
  row.state = .outcomeUnknown ∧ job.cumulativeDeadlineUnixMs ≤ now

/-- The job still waits for this settlement, and its control lets it continue. -/
def Continues (row : TicketRow) (now : Nat) (s : Scope) : Prop :=
  s.row.state = .accepted ∧ ∃ job control, s.job = some job ∧ s.control = some control ∧
    job.phase = .waitingExternal ∧ job.controlRevision = control.controlRevision ∧
    control.cancellationRequested = false ∧ ¬ PastRevival row now job

/-- The settlement is evidence only: the operation is no longer accepted, or cannot be revived. -/
def EvidenceOnly (row : TicketRow) (now : Nat) (s : Scope) : Prop :=
  s.row.state ≠ .accepted ∨
    ∃ job control, s.job = some job ∧ s.control = some control ∧ PastRevival row now job

/-- The suspension state that the settlement on a receipt ends with. -/
def endedState (selected : CandidateReceipt) : SuspensionState :=
  if settledState selected.observation.outcome = .cancelledCertain then .cancelled else .settled

/-- The settled ticket and its suspension, with everything else as it was. -/
def retained (row : TicketRow) (selected : CandidateReceipt) (now : Nat) (s : Scope) : Scope :=
  { s with
    tickets := revised row.ticketId row.revision (settledOn selected now) s.tickets
    suspensions := projectedSuspensions row (endedState selected) now s.suspensions }

/-- The job returned from its wait, with the outbox row of the settlement. -/
def returned (H : Hashing) (row : TicketRow) (selected : CandidateReceipt) (job : JobRow)
    (control : ControlRow) (s : Scope) : Scope :=
  { s with
    outbox := s.outbox ++
      [settlementRow H s.operation row.suspensionRevision selected.receiptDigest]
    job := some { job with phase := .accepted, controlRevision := job.controlRevision + 1 }
    control := some { control with controlRevision := job.controlRevision + 1 } }

theorem Continues.not_evidenceOnly (continues : Continues row now s) : ¬ EvidenceOnly row now s := by
  obtain ⟨accepted, job, _, here, -, -, -, -, revives⟩ := continues
  rintro (ended | ⟨other, _, stored, -, past⟩)
  · exact ended accepted
  · cases here.symm.trans stored
    exact revives past

theorem settled_due (selected : CandidateReceipt) :
    suspensionState (settledState selected.observation.outcome) = some (endedState selected) ∧
      settledState selected.observation.outcome ∈ successorStates := by
  cases outcome : selected.observation.outcome <;> simp only [endedState, outcome] <;> decide

/-- A settlement projects nothing, or continues the waiting job with a digest that is new. -/
theorem projectSuccessor_ok {digest : Digest} (accepted : s.row.state = .accepted)
    (fresh : s.Fresh outboxDigests (H.settlementOutbox s.operation row.suspensionRevision digest))
    (first : ∀ stored ∈ s.outbox, stored.suspensionRevision ≠ row.suspensionRevision) :
    projectSuccessor H row digest now s = .ok s' ↔
      (EvidenceOnly row now s ∧ s = s') ∨
      ∃ job control, ReturnsFromWait s job control ∧ ¬ PastRevival row now job ∧
        { s with
          outbox := s.outbox ++ [settlementRow H s.operation row.suspensionRevision digest]
          job := some { job with
            phase := .accepted, controlRevision := job.controlRevision + 1 }
          control := some { control with controlRevision := job.controlRevision + 1 } } = s' := by
  have inserted : insertOutbox H row.suspensionRevision digest s = .ok { s with
      outbox := s.outbox ++ [settlementRow H s.operation row.suspensionRevision digest] } := by
    simp only [insertOutbox, bind_ok, require_ok, insertUnique_ok, pure_ok]
    exact ⟨(), fresh, _, ⟨first, rfl⟩, rfl⟩
  simp only [projectSuccessor, bind_ok, orRaise_ok, ite_ok, pure_ok, inserted, require_ok,
    patchOne_ok, Except.ok.injEq]
  constructor
  · rintro ⟨job, storedJob, control, storedControl, ⟨past, same⟩ |
      ⟨revives, _, rfl, _, ⟨waiting, inStep, uncancelled⟩, _, ⟨job', here, -, rfl⟩, _,
        ⟨control', there, -, rfl⟩, written⟩⟩
    · exact .inl ⟨.inr ⟨job, control, storedJob, storedControl, past⟩, same⟩
    · cases storedJob.symm.trans here
      cases storedControl.symm.trans there
      exact .inr ⟨job, control, ⟨storedJob, storedControl, accepted, waiting, inStep, uncancelled⟩,
        revives, written⟩
  · rintro (⟨ended | ⟨job, control, storedJob, storedControl, past⟩, same⟩ |
      ⟨job, control, waits, revives, written⟩)
    · exact absurd accepted ended
    · exact ⟨job, storedJob, control, storedControl, .inl ⟨past, same⟩⟩
    · exact ⟨job, waits.storedJob, control, waits.storedControl, .inr ⟨revives, _, rfl, (),
        ⟨waits.waiting, waits.inStep, waits.uncancelled⟩, _,
        ⟨job, waits.storedJob, ⟨waits.waiting, rfl⟩, rfl⟩, _,
        ⟨control, waits.storedControl, ⟨waits.inStep.symm, waits.uncancelled⟩, rfl⟩, written⟩⟩

end Continuation

section Settling

variable {H : Hashing} {s s' : Scope} {row : TicketRow} {selected : CandidateReceipt} {now : Nat}

/-- What a settlement makes of the rows: it is kept as evidence, or it continues the job. -/
inductive Settlement (H : Hashing) (row : TicketRow) (selected : CandidateReceipt) (now : Nat)
    (s : Scope) : Scope → Prop where
  | kept (evidence : EvidenceOnly row now s) : Settlement H row selected now s
      (retained row selected now s)
  | continued {job : JobRow} {control : ControlRow} (waits : ReturnsFromWait s job control)
      (revives : ¬ PastRevival row now job) : Settlement H row selected now s
      (returned H row selected job control (retained row selected now s))

/-- The rows on which a settlement of one receipt decides. -/
structure Settleable (H : Hashing) (row : TicketRow) (selected : CandidateReceipt) (s : Scope) :
    Prop where
  kept : WellKept s.tickets
  linked : Linked s.tickets s.suspensions
  resolved : Resolved s.tickets s.outbox
  member : row ∈ s.tickets
  unsettled : row.state ∈ unsettledSends
  pending : ∃ suspension ∈ s.suspensions, PendingAt row.suspensionRevision suspension
  single : ¬ Contradictory H row s
  attested : selected.observation.ModelSucceeded →
    requireModelSettlementAuthority H row selected.observation s = .ok ()
  fresh : s.Fresh outboxDigests
    (H.settlementOutbox s.operation row.suspensionRevision selected.receiptDigest)

theorem unsettled_open {state : TicketState} (unsettled : state ∈ unsettledSends) :
    state ∈ openStates := by
  cases state <;> simp [unsettledSends, openStates] at unsettled ⊢

theorem settledOn_move (unsettled : row.state ∈ unsettledSends) :
    TicketMove row (settledOn selected now row) :=
  ⟨rfl, rfl, rfl, .continued unsettled (settledState_mayHaveSent _)
    (leaves_unsettled unsettled (settledState_settled _)) ⟨rfl, rfl, rfl, rfl, rfl⟩⟩

/-- A sent ticket that is settled satisfies the constraints of its table. -/
theorem settledOn_checks (checked : row.Checks) (unsettled : row.state ∈ unsettledSends) :
    (settledOn selected now row).Checks := by
  -- The claim and the send stay, and every settlement column is set.
  have claim : row.ClaimPresent := checked.claimed fun unclaimed => by
    cases state : row.state <;> simp [state, unsettledSends] at unsettled unclaimed
  have send : row.SendPresent := checked.sent (by
    cases state : row.state <;> simp [state, unsettledSends, TicketState.mayHaveSent] at unsettled ⊢)
  have settlement : (settledOn selected now row).SettlementPresent := ⟨rfl, rfl⟩
  have state : (settledOn selected now row).state = settledState selected.observation.outcome := rfl
  have due := (settled_due selected).2
  have ends : ∀ other, other ∉ successorStates → (settledOn selected now row).state ≠ other := by
    rintro _ other rfl
    exact other due
  exact {
    claimed := fun _ => claim
    sent := fun _ => send
    pending := fun pending => absurd pending (ends _ (by decide))
    reserved := fun reserved => absurd reserved (ends _ (by decide))
    cancelled := fun cancelled => absurd cancelled (ends _ (by decide))
    unsettled := fun other => by
      rw [state] at other
      simp only [successorStates, List.mem_cons, List.not_mem_nil, or_false] at due
      rcases due with state | state | state <;> simp [state, TicketState.settled] at other
    succeeded := fun _ => rfl
    settled := fun _ => settlement }

/-- Between linked tables at most one suspension is pending at a revision. -/
theorem Settleable.one (settleable : Settleable H row selected s) :
    s.suspensions.countP (fun stored => PendingAt row.suspensionRevision stored) = 1 := by
  obtain ⟨suspension, there, pending⟩ := settleable.pending
  have distinct : (s.suspensions.map SuspensionRow.suspensionRevision).Nodup :=
    settleable.linked.aligned ▸ settleable.linked.distinct
  refine countP_one distinct there pending fun other member matched => ?_
  exact matched.1.trans pending.1.symm

/-- An open ticket's suspension has no outbox row yet. -/
theorem Settleable.first (settleable : Settleable H row selected s) :
    ∀ stored ∈ s.outbox, stored.suspensionRevision ≠ row.suspensionRevision := by
  intro stored listed same
  obtain ⟨ticket, there, revision, closed⟩ := settleable.resolved stored listed
  obtain rfl := settleable.linked.ticket_unique there settleable.member (revision.trans same)
  exact closed (unsettled_open settleable.unsettled)

/-- The ticket a settlement rewrote is read back settled. -/
theorem Settleable.rewritten (settleable : Settleable H row selected s) (now : Nat) :
    (∀ stored ∈ revised row.ticketId row.revision (settledOn selected now) s.tickets,
        stored.Checks) ∧
      fetchOne (revised row.ticketId row.revision (settledOn selected now) s.tickets)
        (·.ticketId = row.ticketId) = some (settledOn selected now row) := by
  have move : TicketMove row (settledOn selected now row) := settledOn_move settleable.unsettled
  have checked : ∀ stored ∈ revised row.ticketId row.revision (settledOn selected now) s.tickets,
      stored.Checks := by
    intro stored there
    rcases mem_revised settleable.kept settleable.member there with rfl | ⟨old, -⟩
    · exact settledOn_checks (settleable.kept.checked row settleable.member) settleable.unsettled
    · exact settleable.kept.checked stored old
  have well := settleable.kept.move (.moved (settleable.kept.fetch settleable.member) move checked)
  refine ⟨checked, ?_⟩
  have there : settledOn selected now row ∈
      revised row.ticketId row.revision (settledOn selected now) s.tickets :=
    mem_updateWhere.mpr ⟨row, settleable.member, by simp⟩
  exact well.fetch there

theorem Settlement.tickets (settlement : Settlement H row selected now s s') :
    s'.tickets = revised row.ticketId row.revision (settledOn selected now) s.tickets := by
  cases settlement <;> rfl

/-- A settlement succeeds exactly by keeping the evidence or by continuing the job. -/
theorem applyCandidateSettlement_ok (settleable : Settleable H row selected s) :
    (∃ ticket, applyCandidateSettlement H row selected now s = .ok (s', ticket)) ↔
      Settlement H row selected now s s' := by
  obtain ⟨checked, fetched⟩ := settleable.rewritten now
  obtain ⟨due, continues⟩ := settled_due selected
  have projects : projectTerminal H row (settledOn selected now row).state
      (some selected.receiptDigest) now
      { s with tickets := revised row.ticketId row.revision (settledOn selected now) s.tickets } =
        .ok s' ↔ Settlement H row selected now s s' := by
    have accepts : s.row.state = .accepted →
        (projectSuccessor H row selected.receiptDigest now (retained row selected now s) = .ok s' ↔
          _) :=
      fun accepted => projectSuccessor_ok accepted settleable.fresh settleable.first
    rw [projectTerminal_ok]
    constructor
    · rintro ⟨projected, due', -, rest⟩
      obtain rfl : endedState selected = projected := Option.some.inj (due.symm.trans due')
      rcases rest with ⟨ends, -⟩ | ⟨-, settlement, ⟨⟩, ⟨closed, rfl⟩ | ⟨accepted, projected⟩⟩
      · exact absurd continues ends
      · exact .kept (.inl closed)
      · rcases (accepts accepted).mp projected with ⟨evidence, rfl⟩ | ⟨job, control, waits, revives, rfl⟩
        · exact .kept evidence
        · exact .continued ⟨waits.storedJob, waits.storedControl, waits.accepted, waits.waiting,
            waits.inStep, waits.uncancelled⟩ revives
    · rintro (evidence | ⟨waits, revives⟩)
      · refine ⟨_, due, settleable.one, .inr ⟨continues, _, rfl, ?_⟩⟩
        by_cases accepted : s.row.state = .accepted
        · exact .inr ⟨accepted, (accepts accepted).mpr (.inl ⟨evidence, rfl⟩)⟩
        · exact .inl ⟨accepted, rfl⟩
      · exact ⟨_, due, settleable.one, .inr ⟨continues, _, rfl, .inr ⟨waits.accepted,
          (accepts waits.accepted).mpr (.inr ⟨_, _, ⟨waits.storedJob, waits.storedControl,
            waits.accepted, waits.waiting, waits.inStep, waits.uncancelled⟩, revives, rfl⟩)⟩⟩⟩
  constructor
  · rintro ⟨ticket, ran⟩
    obtain ⟨-, projected⟩ := applyCandidateSettlement_cases ran
    simp only [if_neg settleable.single] at projected
    exact projects.mp projected
  · intro settlement
    -- The settled row satisfies its constraints, so its document can be shown.
    have well : (settledOn selected now row).Checks :=
      settledOn_checks (settleable.kept.checked row settleable.member) settleable.unsettled
    obtain ⟨ticket, shown⟩ : ∃ ticket, ticketFromRow s'.operation (settledOn selected now row) =
        .ok ticket := (ticketFromRow_of_checks well).imp fun _ shown => shown.1
    refine ⟨ticket, ?_⟩
    have single : ¬ 1 < ((attemptReceipts row s).map fun receipt =>
      H.candidate receipt.toCandidatePayload).dedup.length := settleable.single
    simp only [applyCandidateSettlement, ite_ok, bind_ok, runWhen_ok, updateTicket_ok, pure_ok]
    refine .inr ⟨single, (), settleable.attested, _, ⟨checked, rfl⟩, s', projects.mpr settlement,
      ticket, ?_, rfl⟩
    simp only [getTicket, bind_ok, ticketRow_ok, settlement.tickets]
    exact ⟨_, fetched, shown⟩

/-- A settlement continues the job exactly when the job may continue. -/
theorem Settlement.outbox (settlement : Settlement H row selected now s s') :
    (Continues row now s ∧ s'.outbox = s.outbox ++
        [settlementRow H s.operation row.suspensionRevision selected.receiptDigest]) ∨
      (¬ Continues row now s ∧ s' = retained row selected now s) := by
  cases settlement with
  | kept evidence => exact .inr ⟨fun continues => continues.not_evidenceOnly evidence, rfl⟩
  | continued waits revives =>
    exact .inl ⟨⟨waits.accepted, _, _, waits.storedJob, waits.storedControl, waits.waiting,
      waits.inStep, waits.uncancelled, revives⟩, rfl⟩

/-- A settlement is possible exactly when the job may continue or nothing continues. -/
theorem settlement_possible (H : Hashing) (selected : CandidateReceipt) :
    (∃ s', Settlement H row selected now s s') ↔ Continues row now s ∨ EvidenceOnly row now s := by
  constructor
  · rintro ⟨_, evidence | ⟨waits, revives⟩⟩
    · exact .inr evidence
    · exact .inl ⟨waits.accepted, _, _, waits.storedJob, waits.storedControl, waits.waiting,
        waits.inStep, waits.uncancelled, revives⟩
  · rintro (⟨accepted, job, control, here, there, waiting, inStep, uncancelled, revives⟩ | evidence)
    · exact ⟨_, .continued ⟨here, there, accepted, waiting, inStep, uncancelled⟩ revives⟩
    · exact ⟨_, .kept evidence⟩

end Settling

section Attesting

variable {H : Hashing} {s : Scope} {row : TicketRow}

/-- Journalled evidence of a sent ticket is the authority that a settlement requires. -/
theorem evidenced_attests {command : CallerWorkCommitInput} (memory : Memory H s)
    (found : ticketRow row.ticketId s = .ok row) (unsettled : row.state ∈ unsettledSends)
    (evidenced : Evidenced H row command s) :
    requireModelSettlementAuthority H row command.observation s = .ok () := by
  obtain ⟨binding, response, key, journals, -, member⟩ := evidenced
  have fetched : journalled key s = some (journalRow H row binding response key) :=
    memory.executions.fetch member
  have takes : row.state ∈ evidenceStates := by
    cases state : row.state <;> simp [state, unsettledSends, evidenceStates] at unsettled ⊢
  simp only [requireModelSettlementAuthority, requestBinding, requireCallerResult, bind_ok,
    orRaise_ok, require_ok, pure_ok]
  exact ⟨binding, journals.bound, response, ⟨row, found, (), ⟨takes, rfl, rfl, rfl, rfl⟩, key,
    journals.keyed, _, fetched, (), ⟨rfl, rfl, rfl⟩, rfl⟩, journals.described⟩

theorem evidenced_insert {command : CallerWorkCommitInput} {receipt : CandidateReceipt}
    {source : ReceiptSource} {result : Scope × Bool} (evidenced : Evidenced H row command s)
    (inserted : insertCandidate H receipt source s = .ok result) :
    Evidenced H row command result.1 := by
  obtain ⟨_, same⟩ := insertCandidate_effect inserted
  rw [same]
  exact evidenced

/-- A receipt that is the only one of the live attempt is read under its digest. -/
theorem storedReceipt_only {selected : CandidateReceipt} (memory : Memory H s)
    (only : attemptReceipts row s = [selected]) :
    storedReceipt row (some selected.receiptDigest) s = some selected := by
  have listed : selected ∈ attemptReceipts row s := by rw [only]; exact List.mem_singleton_self _
  obtain ⟨live, there, receipt⟩ := List.mem_map.mp listed
  obtain ⟨member, ticket, attempt⟩ := mem_liveRows.mp there
  have digest := (memory.sealed live member).receipt
  rw [receipt] at digest
  cases found : fetchOne s.candidates fun stored => stored.ticketId = row.ticketId ∧
      some stored.physicalAttemptId = row.physicalAttemptId ∧
      some stored.receiptDigest = some selected.receiptDigest with
  | none => exact absurd ⟨ticket, attempt, by rw [digest]⟩ (fetchOne_none.mp found live member)
  | some other =>
    obtain ⟨member', ticket', attempt', -⟩ := fetchOne_some found
    have here : other.receipt ∈ attemptReceipts row s :=
      List.mem_map_of_mem (mem_liveRows.mpr ⟨member', ticket', attempt'⟩)
    rw [only] at here
    rw [storedReceipt, found, Option.map_some, List.mem_singleton.mp here]

end Attesting

end Aar.CallerWork

namespace Aar

open Guarded Table CallerWork ModelBroker

section Documents

variable {H : Hashing} {clock : Clock} {s before : Scope} {row : TicketRow}
  {selected : CandidateReceipt} {document : CommandDocument} {claimId attemptId : String}

/-- The typed evidence behind a receipt that reports a model success is in the journal. -/
def Attested (H : Hashing) (row : TicketRow) (selected : CandidateReceipt) (s : Scope) : Prop :=
  selected.observation.ModelSucceeded →
    requireModelSettlementAuthority H row selected.observation s = .ok ()

/-- The checks a settling command passes on its own authority, with the receipt it settles on. -/
def CommandDocument.Authorized (H : Hashing) (clock : Clock) (s : Scope) (row : TicketRow)
    (selected : CandidateReceipt) : CommandDocument → Prop
  | commit command => checkedRow command.toTicketCommand s = .ok row ∧
      requireClaim row command.proof = .ok () ∧
      some command.sentRequestDigest = row.sentRequestDigest ∧
      candidateFromCommit H row command (clock 0) = .ok selected
  | reconcile command => command.reconciliationAction = .settle ∧
      checkedRow command.toTicketCommand s = .ok row ∧
      row.physicalAttemptId = some command.physicalAttemptId ∧
      requireReconciler H row command = .ok () ∧
      command.candidateReceiptDigest = some selected.receiptDigest ∧ Attested H row selected s
  | settleCandidate command => requireRevision row command.expectedRevision = .ok () ∧
      requireInternalReconciler row command.reconcilerId command.reconcilerGeneration = .ok () ∧
      requireReconcileFence H command.reconcileFence
        { ticketId := command.ticketId, expectedRevision := command.expectedRevision
          physicalAttemptId := row.physicalAttemptId.getD "None"
          candidateReceiptDigest := some command.candidateReceiptDigest
          reconcilerId := command.reconcilerId
          reconcilerGeneration := command.reconcilerGeneration
          reconciliationAction := .settle } = .ok () ∧
      command.candidateReceiptDigest = selected.receiptDigest ∧ Attested H row selected s
  | _ => False

/-- What a settling command stores first: a commit its model evidence and its own receipt. -/
def CommandDocument.Stores (H : Hashing) (row : TicketRow) (selected : CandidateReceipt)
    (s before : Scope) : CommandDocument → Prop
  | commit command => ∃ s₁ inserted,
      CommandDocument.evidence H row s (.commit command) = .ok s₁ ∧
      insertCandidate H selected .claimantCallback s₁ = .ok (before, inserted)
  | _ => before = s

/-- The instant at which a command settles: a commit reads the clock once for its receipt before. -/
def CommandDocument.settlesAt (clock : Clock) : CommandDocument → Nat
  | commit _ => clock 1
  | _ => clock 0

/-- The command is checked against rows that it no longer matches. -/
def CommandDocument.Fenced (s : Scope) : CommandDocument → Prop
  | commit command => ∃ error, checkedRow command.toTicketCommand s = .error error
  | reconcile command => ∃ error, checkedRow command.toTicketCommand s = .error error
  | _ => False

/-- Storing evidence and a receipt changes what is remembered, and nothing else. -/
theorem CommandDocument.stores_shape (memory : Memory H s)
    (stores : document.Stores H row selected s before) :
    Memory H before ∧ ∃ candidates routeBinding modelExecutions,
      before = { s with candidates, routeBinding, modelExecutions } := by
  cases document with
  | commit command =>
    obtain ⟨s₁, inserted, journalled, stored⟩ := stores
    obtain ⟨grows, _, _, rfl⟩ := CommandDocument.evidence_grows journalled
    obtain ⟨_, shape⟩ := insertCandidate_effect stored
    exact ⟨(memory.grow grows).insert stored, _, _, _, shape⟩
  | claim | markSendStarted | cancelBeforeSend | reconcile | settleCandidate =>
    obtain rfl : before = s := stores
    exact ⟨memory, _, _, _, rfl⟩

/-- A command whose key is unused runs its body, and is remembered with what it answers. -/
theorem remembered_unused {ticketId key : String} {kind : CommandKind}
    {body : TicketRow → Scope → Except Err (Scope × CallerWorkTicket)}
    {result : Scope × CommandResult} (found : ticketRow ticketId s = .ok row)
    (unused : ∀ stored ∈ s.commands, stored.idempotencyKey ≠ key) :
    remembered H ticketId kind document key body s = .ok result ↔
      ∃ outcome, body row s = .ok outcome ∧ ∃ r,
        recordCommand H row kind document key outcome.2 outcome.1 = .ok r ∧
        (r, { ticket := outcome.2, replayed := false }) = result := by
  have fresh : replayCommand H row kind document key s = .ok none := by
    have absent : fetchOne s.commands (·.idempotencyKey = key) = none := fetchOne_none.mpr unused
    simp only [replayCommand, absent]
  simp only [remembered, bind_ok]
  constructor
  · rintro ⟨_, here, known, replays, ran⟩
    cases found.symm.trans here
    cases fresh.symm.trans replays
    simpa only [bind_ok, pure_ok] using ran
  · rintro ⟨outcome, ran, r, recorded, same⟩
    refine ⟨row, found, none, fresh, ?_⟩
    simp only [bind_ok, pure_ok]
    exact ⟨outcome, ran, r, recorded, same⟩

/-- A new command whose body is the settlement of one receipt is remembered with its outcome. -/
theorem CommandDocument.remembered_settles (document : CommandDocument) {now : Nat} {s₁ : Scope}
    {body : TicketRow → Scope → Except Err (Scope × CallerWorkTicket)}
    {result : Scope × CommandResult} (found : ticketRow document.ticketId s₁ = .ok row)
    (unused : ∀ stored ∈ s₁.commands, stored.idempotencyKey ≠ document.key)
    (remembers : before.commands = s₁.commands)
    (runs : ∀ outcome, body row s₁ = .ok outcome ↔
      applyCandidateSettlement H row selected now before = .ok outcome) :
    remembered H document.ticketId document.kind document document.key body s₁ = .ok result ↔
      ∃ outcome, applyCandidateSettlement H row selected now before = .ok outcome ∧
        ({ outcome.1 with commands := s₁.commands ++ [document.receipt H outcome.2] },
          { ticket := outcome.2, replayed := false }) = result := by
  have name := (fetch_self (ticketRow_ok.mp found)).1
  rw [remembered_unused found unused]
  simp only [runs, recordCommand, bind_ok, insertUnique_ok, pure_ok]
  refine exists_congr fun outcome => and_congr_right fun ran => ?_
  have kept : outcome.1.commands = s₁.commands :=
    (applyCandidateSettlement_read ran).1.commands.trans remembers
  simp only [kept, CommandDocument.receipt, name]
  constructor
  · rintro ⟨_, ⟨_, ⟨-, rfl⟩, rfl⟩, same⟩
    exact same
  · intro same
    exact ⟨_, ⟨_, ⟨unused, rfl⟩, rfl⟩, same⟩

/-- An authorised command that is new settles its ticket on the only receipt. -/
theorem CommandDocument.submit_settles {result : Scope × CommandResult} (memory : Memory H s)
    (found : ticketRow document.ticketId s = .ok row) (unsettled : row.state ∈ unsettledSends)
    (unused : ∀ stored ∈ s.commands, stored.idempotencyKey ≠ document.key)
    (authorized : document.Authorized H clock s row selected)
    (stores : document.Stores H row selected s before)
    (only : attemptReceipts row before = [selected]) :
    document.submit H claimId attemptId clock s = .ok result ↔
      ∃ outcome,
        applyCandidateSettlement H row selected (document.settlesAt clock) before = .ok outcome ∧
          ({ outcome.1 with commands := s.commands ++ [document.receipt H outcome.2] },
            { ticket := outcome.2, replayed := false }) = result := by
  cases document with
  | claim | markSendStarted | cancelBeforeSend => exact absurd authorized id
  | commit command =>
    obtain ⟨checked, claimed, digest, built⟩ := authorized
    obtain ⟨s₁, inserted, journalled, stored⟩ := stores
    have evidence : (if command.observation.ModelSucceeded then
        recordModelResponse H row command.observation command.modelResponse s else .ok s) =
          .ok s₁ := journalled
    obtain ⟨-, _, _, rfl⟩ := CommandDocument.evidence_grows journalled
    obtain ⟨_, shape⟩ := insertCandidate_effect stored
    have remembers : before.commands = s.commands := congrArg (·.commands) shape
    have there : ticketRow command.ticketId s = .ok row := found
    simp only [CommandDocument.submit, CallerWork.commit, there, evidence, ok_bind]
    refine (CommandDocument.commit command).remembered_settles found unused remembers
      fun outcome => ?_
    simp only [bind_ok, require_ok]
    constructor
    · rintro ⟨_, here, _, -, _, -, _, -, _, built', _, stored', settled⟩
      cases here.symm.trans checked
      cases built.symm.trans built'
      cases stored.symm.trans stored'
      exact settled
    · intro settled
      exact ⟨row, checked, (), unsettled, (), claimed, (), digest, selected, built, _, stored,
        settled⟩
  | reconcile command =>
    obtain ⟨settle, checked, attempt, reconciler, digest, -⟩ := authorized
    obtain rfl : before = s := stores
    have read := storedReceipt_only memory only
    simp only [CommandDocument.submit, CallerWork.reconcile]
    refine (CommandDocument.reconcile command).remembered_settles found unused rfl
      fun outcome => ?_
    simp only [bind_ok, require_ok, settle, orRaise_ok, digest]
    constructor
    · rintro ⟨_, here, _, -, _, -, _, -, _, read', settled⟩
      cases here.symm.trans checked
      cases read.symm.trans read'
      exact settled
    · intro settled
      exact ⟨row, checked, (), attempt, (), reconciler, (), unsettled, selected, read, settled⟩
  | settleCandidate command =>
    obtain ⟨revision, reconciler, fence, digest, -⟩ := authorized
    obtain rfl : before = s := stores
    have read := storedReceipt_only memory only
    simp only [CommandDocument.submit, CallerWork.settleCandidate]
    refine (CommandDocument.settleCandidate command).remembered_settles found unused rfl
      fun outcome => ?_
    simp only [bind_ok, require_ok, orRaise_ok, digest]
    rw [digest] at fence
    constructor
    · rintro ⟨_, -, _, -, _, -, _, -, _, read', settled⟩
      cases read.symm.trans read'
      exact settled
    · intro settled
      exact ⟨(), revision, (), unsettled, (), reconciler, (), fence, selected, read, settled⟩

/-- A new command that no longer matches the rows it is checked against is refused. -/
theorem CommandDocument.fenced_refused (fenced : document.Fenced s)
    (unused : ∀ stored ∈ s.commands, stored.idempotencyKey ≠ document.key)
    (result : Scope × CommandResult) : document.submit H claimId attemptId clock s ≠ .ok result := by
  intro ran
  cases document with
  | claim | markSendStarted | cancelBeforeSend | settleCandidate => exact fenced
  | commit command =>
    obtain ⟨error, raised⟩ := fenced
    simp only [CommandDocument.submit, CallerWork.commit, bind_ok] at ran
    obtain ⟨first, there, s₁, journalled, ran⟩ := ran
    have evidence : CommandDocument.evidence H first s (.commit command) = .ok s₁ := journalled
    obtain ⟨-, routeBinding, modelExecutions, rfl⟩ := CommandDocument.evidence_grows evidence
    have still : ticketRow command.ticketId { s with routeBinding, modelExecutions } =
      .ok first := there
    obtain ⟨outcome, body, -⟩ := (remembered_unused still unused).mp ran
    simp only [bind_ok] at body
    obtain ⟨row, checked, -⟩ := body
    cases raised.symm.trans checked
  | reconcile command =>
    obtain ⟨error, raised⟩ := fenced
    simp only [CommandDocument.submit, CallerWork.reconcile] at ran
    have found : ∃ row, ticketRow command.ticketId s = .ok row := by
      simp only [remembered, bind_ok] at ran
      obtain ⟨row, there, -⟩ := ran
      exact ⟨row, there⟩
    obtain ⟨first, there⟩ := found
    obtain ⟨outcome, body, -⟩ := (remembered_unused there unused).mp ran
    simp only [bind_ok] at body
    obtain ⟨row, checked, -⟩ := body
    cases raised.symm.trans checked

/-- What an authorised command stores first leaves its ticket ready to be settled. -/
theorem CommandDocument.settleable (memory : Memory H s) (kept : WellKept s.tickets)
    (linked : Linked s.tickets s.suspensions) (resolved : Resolved s.tickets s.outbox)
    (found : ticketRow document.ticketId s = .ok row) (unsettled : row.state ∈ unsettledSends)
    (authorized : document.Authorized H clock s row selected)
    (stores : document.Stores H row selected s before)
    (only : attemptReceipts row before = [selected])
    (pending : ∃ suspension ∈ s.suspensions, PendingAt row.suspensionRevision suspension)
    (fresh : s.Fresh outboxDigests
      (H.settlementOutbox s.operation row.suspensionRevision selected.receiptDigest)) :
    Settleable H row selected before := by
  obtain ⟨journal, _, _, _, rfl⟩ := document.stores_shape memory stores
  obtain ⟨name, there⟩ := fetch_self (ticketRow_ok.mp found)
  refine ⟨kept, linked, resolved, (fetchOne_some there).1, unsettled, pending, ?_, ?_, fresh⟩
  · rw [contradictory_iff journal, only]
    simp
  · intro succeeded
    cases document with
    | claim | markSendStarted | cancelBeforeSend => exact absurd authorized id
    | reconcile command =>
      obtain ⟨-, -, -, -, -, attested⟩ := authorized
      have same : s = _ := stores.symm
      rw [← same]
      exact attested succeeded
    | settleCandidate command =>
      obtain ⟨-, -, -, -, attested⟩ := authorized
      have same : s = _ := stores.symm
      rw [← same]
      exact attested succeeded
    | commit command =>
      -- A commit has journalled its own evidence, for the ticket it settles.
      obtain ⟨-, -, -, built⟩ := authorized
      obtain ⟨s₁, inserted, journalled, stored⟩ := stores
      have observed := (candidateFromCommit_ok built).2.2.1
      rw [observed] at succeeded ⊢
      have evidenced := evidence_kept succeeded journalled
      exact evidenced_attests journal (ticketRow_ok.mpr there) unsettled (evidenced_insert evidenced stored)

end Documents

section Late

variable {H : Hashing} {db : Db} {operation : String} {record : OpRecord} {row : TicketRow}
  {document : CommandDocument} {claimId attemptId : String} {clock : Clock}

/-- No stored outbox row of another settlement has the digest of this one. -/
def Uncollided (H : Hashing) (db : Db) (operation : String) (row : TicketRow)
    (selected : CandidateReceipt) : Prop :=
  ∀ other record', db.lookup other = some record' → ∀ stored ∈ record'.outbox,
    stored.outboxDigest =
        H.settlementOutbox operation row.suspensionRevision selected.receiptDigest →
      other = operation ∧ stored.suspensionRevision = row.suspensionRevision

/-- A digest without collisions is new when its suspension has no outbox row. -/
theorem Uncollided.fresh {selected : CandidateReceipt}
    (uncollided : Uncollided H db operation row selected) (found : db.lookup operation = some record)
    (first : ∀ stored ∈ record.outbox, stored.suspensionRevision ≠ row.suspensionRevision) :
    (db.scope operation record).Fresh outboxDigests
      (H.settlementOutbox operation row.suspensionRevision selected.receiptDigest) := by
  constructor
  · intro listed
    obtain ⟨stored, member, same⟩ := List.mem_map.mp listed
    exact first stored member (uncollided operation record found stored member same).2
  · -- Another operation has another name, so its outbox has other digests.
    intro other elsewhere listed
    obtain ⟨⟨name, _⟩, kept, rfl⟩ := List.mem_map.mp elsewhere
    obtain ⟨entry, differs⟩ := List.mem_filter.mp kept
    obtain ⟨stored, member, same⟩ := List.mem_map.mp listed
    have here := (uncollided name _ (Db.lookup_of_mem entry) stored member same).1
    simp [here] at differs

/-- A new settlement command on a ticket that may have been sent, whose authority is checked and
whose suspension is pending, settles the ticket on the only receipt of the live attempt: the job
continues exactly when it waits uncancelled within its revival, nothing but the evidence is kept
when the operation is not accepted or past its revival, and it is refused otherwise. A commit or a
reconciliation that does not match the checked rows any more is refused. -/
theorem late_evidence_retained (reached : db.Reachable H)
    (found : db.lookup operation = some record)
    (there : fetchOne record.tickets (·.ticketId = document.ticketId) = some row)
    (unsettled : row.state ∈ unsettledSends)
    (unused : ∀ stored ∈ record.commands, stored.idempotencyKey ≠ document.key) :
    let s := db.scope operation record
    let now := document.settlesAt clock
    (∀ selected before, document.Authorized H clock s row selected →
      document.Stores H row selected s before → attemptReceipts row before = [selected] →
      (∃ suspension ∈ record.suspensions, PendingAt row.suspensionRevision suspension) →
      Uncollided H db operation row selected →
        ((∃ db' result, document.send H claimId attemptId clock operation db = .ok (db', result)) ↔
          Continues row now s ∨ EvidenceOnly row now s) ∧
        ∀ db' result, document.send H claimId attemptId clock operation db = .ok (db', result) →
          result.replayed = false ∧ ∃ record' after, db'.lookup operation = some record' ∧
            fetchOne record'.tickets (·.ticketId = document.ticketId) =
              some (settledOn selected now row) ∧
            record' = { after.toOpRecord with
              commands := record.commands ++ [document.receipt H result.ticket] } ∧
            Settlement H row selected now before after ∧
            ((Continues row now s ∧ after.outbox = record.outbox ++
                [settlementRow H operation row.suspensionRevision selected.receiptDigest]) ∨
              (¬ Continues row now s ∧ after = retained row selected now before))) ∧
    (document.Fenced s →
      ∃ error, document.send H claimId attemptId clock operation db = .error error) := by
  intro s now
  have memory : Memory H s := memory_invariant.reachable reached operation record found
  have kept : WellKept s.tickets := wellKept_invariant.reachable reached operation record found
  have linked := ((linked_invariant Unrestricted).reachable reached operation record found).2
  have resolved := (resolved_invariant.reachable reached operation record found).2
  have ticket : ticketRow document.ticketId s = .ok row := ticketRow_ok.mpr there
  obtain ⟨name, -⟩ := fetch_self (s := s) there
  refine ⟨fun selected before authorized stores only pending uncollided => ?_, fun fenced => ?_⟩
  · have fresh : s.Fresh outboxDigests
        (H.settlementOutbox s.operation row.suspensionRevision selected.receiptDigest) := by
      refine uncollided.fresh found fun stored listed same => ?_
      obtain ⟨other, member, revision, closed⟩ := resolved stored listed
      obtain rfl := linked.ticket_unique member (fetchOne_some there).1 (revision.trans same)
      exact closed (unsettled_open unsettled)
    have settleable := document.settleable memory kept linked resolved ticket unsettled authorized
      stores only pending fresh
    obtain ⟨-, candidates, routeBinding, modelExecutions, shape⟩ :=
      document.stores_shape memory stores
    -- Storing evidence does not touch what decides whether the job continues.
    have continues : Continues row now before ↔ Continues row now s := by rw [shape]; rfl
    have evidence : EvidenceOnly row now before ↔ EvidenceOnly row now s := by rw [shape]; rfl
    have runs : ∀ result, document.submit H claimId attemptId clock s = .ok result ↔ _ :=
      fun result => document.submit_settles memory ticket unsettled unused authorized stores only
    constructor
    · rw [← continues, ← evidence]
      refine Iff.trans ?_ (settlement_possible H selected)
      constructor
      · rintro ⟨db', result, sent⟩
        obtain ⟨_, r, found', ran, -⟩ := Db.transact_ok.mp sent
        cases found.symm.trans found'
        obtain ⟨⟨after, answer⟩, applied, -⟩ := (runs _).mp ran
        exact ⟨after, (applyCandidateSettlement_ok settleable).mp ⟨answer, applied⟩⟩
      · rintro ⟨after, settlement⟩
        obtain ⟨answer, applied⟩ := (applyCandidateSettlement_ok settleable).mpr settlement
        exact ⟨_, _, Db.transact_ok.mpr ⟨record, _, found, (runs _).mpr ⟨_, applied, rfl⟩, rfl⟩⟩
    · intro db' result sent
      obtain ⟨_, r, found', ran, rfl⟩ := Db.transact_ok.mp sent
      cases found.symm.trans found'
      obtain ⟨⟨after, answer⟩, applied, same⟩ := (runs _).mp ran
      cases same
      have settlement := (applyCandidateSettlement_ok settleable).mp ⟨answer, applied⟩
      refine ⟨rfl, _, after, ?_, ?_, rfl, settlement, ?_⟩
      · rw [Db.lookup_commit, if_pos rfl, found]
        rfl
      · rw [← name]
        simp only [settlement.tickets]
        exact (settleable.rewritten _).2
      · rw [← continues]
        have outbox : before.outbox = record.outbox := by rw [shape]; rfl
        have here : before.operation = operation := by rw [shape]; rfl
        rw [← outbox, ← here]
        exact settlement.outbox
  · cases sent : document.send H claimId attemptId clock operation db with
    | error raised => exact ⟨raised, rfl⟩
    | ok answer =>
      obtain ⟨_, r, found', ran, -⟩ := Db.transact_ok.mp sent
      cases found.symm.trans found'
      exact absurd ran (CommandDocument.fenced_refused fenced unused _)

/-- The database in which the disputed send was given up before its receipt was looked at. -/
def Sample.unknown : Db :=
  Sample.db (Sample.reserved "op" ++ [Sample.mark,
    (Call.on "op" (.ticket (.appendCandidateReceipt Sample.failureReceipt .providerLookup))).atTime
      6,
    (Call.on "op" (.ticket (.markOutcomeUnknown "op.ticket" 2))).atTime 7])

/-- The internal settlement of the unknown send on its receipt. -/
def Sample.settleLate : CommandDocument :=
  .settleCandidate
    { ticketId := "op.ticket", expectedRevision := 3
      candidateReceiptDigest := "op.ticket.physical.failed_certain", reconcilerId := "adapter"
      reconcilerGeneration := 1, reconcileFence := "op.ticket.adapter", idempotencyKey := "late" }

/-- A receipt that is settled past the deadline closes its ticket, and continues nothing. -/
theorem late_evidence_retained_sample :
    ∃ db' result record' row',
      Sample.settleLate.send .readable "" "" (fun _ => 2000) "op" Sample.unknown =
        .ok (db', result) ∧
      db'.lookup "op" = some record' ∧
      fetchOne record'.tickets (·.ticketId = "op.ticket") = some row' ∧
      row'.state = .settledFailure ∧ record'.outbox = [] := by
  have shown : (Sample.unknown.lookup "op").any fun record => record.tickets.any fun row =>
      record.job.any fun job => record.control.any fun _ =>
        decide (fetchOne record.tickets (·.ticketId = "op.ticket") = some row ∧
          row.state = .outcomeUnknown ∧ job.cumulativeDeadlineUnixMs ≤ 2000 ∧
          (∀ stored ∈ record.commands, stored.idempotencyKey ≠ "late") ∧
          attemptReceipts row (Sample.unknown.scope "op" record) = [Sample.failureReceipt] ∧
          (∃ suspension ∈ record.suspensions, PendingAt row.suspensionRevision suspension) ∧
          requireRevision row 3 = .ok () ∧ requireInternalReconciler row "adapter" 1 = .ok () ∧
          record.outbox = [] ∧ ∀ entry ∈ Sample.unknown.operations, entry.2.outbox = []) := by
    decide +kernel
  simp only [Option.any_eq_true, List.any_eq_true, decide_eq_true_eq] at shown
  obtain ⟨record, found, row, -, job, storedJob, control, storedControl, there, unknown, past, unused,
    only, pending, revision, reconciler, empty, every⟩ := shown
  have evidence : EvidenceOnly row 2000 (Sample.unknown.scope "op" record) :=
    .inr ⟨job, control, storedJob, storedControl, unknown, past⟩
  have uncollided : Uncollided .readable Sample.unknown "op" row Sample.failureReceipt := by
    intro other record' listed stored member
    rw [every _ (Db.mem_of_lookup listed)] at member
    cases member
  have fence : "op.ticket.adapter" = toString "op.ticket" ++ "." ++ toString "adapter" := by decide
  have authorized : Sample.settleLate.Authorized .readable (fun _ => 2000)
      (Sample.unknown.scope "op" record) row Sample.failureReceipt :=
    ⟨revision, reconciler, require_ok.mpr fence, rfl, fun succeeded => by cases succeeded.2⟩
  -- The settlement goes through although nothing continues, and the outbox stays empty.
  have fresh : ∀ stored ∈ record.commands, stored.idempotencyKey ≠ Sample.settleLate.key := unused
  have named : fetchOne record.tickets (·.ticketId = Sample.settleLate.ticketId) = some row := there
  have retained : ((∃ db' result, Sample.settleLate.send .readable "" "" (fun _ => 2000) "op"
      Sample.unknown = .ok (db', result)) ↔ _) ∧ _ :=
    (late_evidence_retained (Sample.reachable _) found named
      (by simp [unknown, unsettledSends]) fresh).1 Sample.failureReceipt _ authorized rfl only
      pending uncollided
  obtain ⟨db', result, sent⟩ := retained.1.mpr (.inr evidence)
  obtain ⟨-, record', after, found', fetched, shape, -, ⟨continues, -⟩ | ⟨-, kept⟩⟩ :=
    retained.2 db' result sent
  · exact absurd evidence continues.not_evidenceOnly
  · refine ⟨db', result, record', _, sent, found', fetched, rfl, ?_⟩
    rw [shape, kept]
    exact empty

/-- The database in which the cancellation of the job is requested while its ticket is sent. -/
def Sample.cancelling : Db :=
  Sample.db (Sample.reserved "op" ++ [Sample.mark,
    (Call.on "op" (.registry (.requestCancel "requester" "user"))).atTime 6])

/-- After a cancellation request a commit of the only receipt is refused, also at the control
revision that the request left. -/
theorem late_evidence_retained_not :
    Sample.cancelling.Reachable .readable ∧
      (∃ record row, Sample.cancelling.lookup "op" = some record ∧
        fetchOne record.tickets (·.ticketId = "op.ticket") = some row ∧
        row.state = .sendStarted ∧ attemptReceipts row (Sample.cancelling.scope "op" record) = []) ∧
      (CommandDocument.commit
          { Sample.commitTicket "op" with expectedControlRevision := 6 }).send .readable "" ""
        (fun _ => 7) "op" Sample.cancelling =
          .error (.callerWorkConflict "authoritative cancellation is already requested") := by
  refine ⟨Sample.reachable _, ?_, ?_⟩
  · have shown : (Sample.cancelling.lookup "op").any fun record => record.tickets.any fun row =>
        decide (fetchOne record.tickets (·.ticketId = "op.ticket") = some row ∧
          row.state = .sendStarted ∧
          attemptReceipts row (Sample.cancelling.scope "op" record) = []) := by
      decide +kernel
    simp only [Option.any_eq_true, List.any_eq_true, decide_eq_true_eq] at shown
    obtain ⟨record, found, row, -, there, state, none⟩ := shown
    exact ⟨record, row, found, there, state, none⟩
  · have refused : ((CommandDocument.commit
          { Sample.commitTicket "op" with expectedControlRevision := 6 }).send .readable "" ""
        (fun _ => 7) "op" Sample.cancelling).map (fun _ => ()) =
          .error (.callerWorkConflict "authoritative cancellation is already requested") := by
      decide +kernel
    revert refused
    generalize (CommandDocument.commit
      { Sample.commitTicket "op" with expectedControlRevision := 6 }).send .readable "" ""
        (fun _ => 7) "op" Sample.cancelling = sent
    intro refused
    -- What is left of a success after the map is no error.
    cases sent with
    | ok value => cases refused
    | error error => exact congrArg _ (Except.error.inj refused)

end Late

end Aar
