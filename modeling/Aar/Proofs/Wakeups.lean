import Aar.Proofs.Replays
import Aar.Workbench.Notification

/-! Wakeups: a settlement that continues a job queues it again, where it notifies the coordinator. -/

namespace Aar

open Guarded Table CallerWork Registry Workbench

section Inserting

variable {H : Hashing} {s : Scope} {document : CommandDocument} {claimId attemptId : String}
  {clock : Clock}

/-- The dispatch row of an operation is queued. -/
abbrev OpRecord.Queued (record : OpRecord) : Prop :=
  record.dispatch.any fun row => row.state = .queued

/-- What a settlement that inserted an outbox row leaves for the notification of its ticket. -/
structure Inserted (s r : Scope) (ticket : CallerWorkTicket) : Prop where
  accepted : r.row.state = .accepted
  dispatch : r.dispatch = s.dispatch
  idle : ∀ job ∈ r.job, job.phase = .accepted
  continues : ticket.state ∈ successorStates
  pending : ∃ row, fetchOne r.outbox (OutboxOf ticket) = some row ∧ row.state = .pending

/-- A document shows the state, the suspension and the receipt of its row. -/
theorem ticketFromRow_shows {operation : String} {row : TicketRow} {ticket : CallerWorkTicket}
    (shown : ticketFromRow operation row = .ok ticket) :
    ticket.state = row.state ∧ ticket.suspensionRevision = row.suspensionRevision ∧
      ticket.settledReceiptDigest = row.settledReceiptDigest := by
  simp only [ticketFromRow, bind_ok, pure_ok] at shown
  obtain ⟨_, -, _, -, _, -, rfl⟩ := shown
  exact ⟨rfl, rfl, rfl⟩

/-- A settlement that inserts an outbox row leaves the job to be dispatched with it. -/
theorem CommandDocument.inserts (settles : document.Settles) (memory : Memory H s)
    (kept : WellKept s.tickets) {result : Scope × CommandResult}
    (ran : document.submit H claimId attemptId clock s = .ok result)
    (inserted : ∃ row ∈ result.1.outbox, row ∉ s.outbox) :
    Inserted s result.1 result.2.ticket := by
  obtain ⟨new, there, fresh⟩ := inserted
  obtain ⟨first, s₁, found, journalled, ⟨same, -⟩ | ⟨outcome, answered, -, shape⟩⟩ :=
    document.submit_ok ran
  · -- A replay journals evidence at most, and inserts nothing.
    obtain ⟨-, _, _, rfl⟩ := document.evidence_grows journalled
    rw [same] at there
    exact absurd there fresh
  have executed : result.2.replayed = false := by rw [shape]
  obtain ⟨row, selected, now, before, after, commands, decides, written⟩ :=
    document.settles_ok settles memory ran executed
  by_cases contradictory : Contradictory H row before
  · obtain ⟨-, outbox⟩ := decides.parked contradictory
    have same : result.1.outbox = s.outbox := by rw [written]; exact outbox
    rw [same] at there
    exact absurd there fresh
  obtain ⟨fetched, -⟩ := decides.written kept
  rw [if_neg contradictory] at fetched
  -- The answered ticket is the settled one.
  obtain ⟨stored, read, shown, -, -⟩ := getTicket_ok answered.shown
  have tickets : outcome.1.tickets = after.tickets := by
    have left : result.1.tickets = outcome.1.tickets := by rw [shape]
    have right : result.1.tickets = after.tickets := by rw [written]
    exact left.symm.trans right
  obtain rfl : settledOn selected now row = stored := by
    rw [← tickets] at fetched
    exact Option.some.inj (fetched.symm.trans (ticketRow_ok.mp read))
  obtain ⟨state, suspension, digest⟩ := ticketFromRow_shows shown
  obtain ⟨-, -, ⟨_, _, _, rfl⟩, -, -, -, ticket, applied⟩ := decides
  obtain ⟨-, projected⟩ := applyCandidateSettlement_cases applied
  simp only [if_neg contradictory] at projected
  have answer : result.2.ticket = outcome.2 := by rw [shape]
  obtain ⟨_, -, -, same | ⟨job, control, settlement, waits, due, continues, first, same⟩⟩ :=
    projectTerminal_cases projected
  · have outbox : result.1.outbox = s.outbox := by rw [written, same]
    rw [outbox] at there
    exact absurd there fresh
  · obtain rfl : selected.receiptDigest = settlement := Option.some.inj due
    rw [answer]
    have shape : result.1 = _ := written
    rw [same] at shape
    refine ⟨?_, ?_, ?_, ?_, settlementRow H s.operation row.suspensionRevision
      selected.receiptDigest, ?_, rfl⟩
    · rw [shape]
      exact waits.accepted
    · rw [shape]
    · rw [shape]
      rintro _ ⟨⟩
      rfl
    · rw [state]
      exact continues
    · -- The inserted row is the only one of its suspension.
      have none : fetchOne s.outbox (OutboxOf outcome.2) = none := by
        refine fetchOne_none.mpr fun old listed matched => first old listed ?_
        exact matched.1.trans suspension
      have matches' : OutboxOf outcome.2
          (settlementRow H s.operation row.suspensionRevision selected.receiptDigest) :=
        ⟨suspension.symm, digest.symm⟩
      rw [shape]
      simp only [fetchOne, List.find?_append] at none ⊢
      rw [none]
      simp [matches']

end Inserting

section Interleaving

variable {H : Hashing} {clock : Clock} {s s' : Scope} {operation : String}

/-- Only the owner of an attempt calls: it suspends, parks or finishes it, or extends its lease. -/
def OpCall.ByAttempt : OpCall → Prop
  | registry (.heartbeat ..) => True
  | registry (.parkAttempt ..) => True
  | registry (.finishAttempt ..) => True
  | registry (.suspendPlannerAttempt ..) => True
  | registry (.suspendWorkbenchAttempt ..) => True
  | workbench (.parkClaimed ..) => True
  | _ => False

/-- The calls on an operation come from owners of its attempts; everything else may happen. -/
def Interleaved (operation : String) : Rules where
  call _ call s := s.operation = operation → call.ByAttempt
  visit _ _ := True
  expiry _ := True

/-- No attempt can suspend the job of the operation. -/
def Scope.Idle (s : Scope) : Prop :=
  ∀ job ∈ s.job, job.phase ≠ .running

/-- The operation waits to be claimed, with its outbox as a settlement left it. -/
structure Awaits (outbox : List OutboxRow) (s : Scope) : Prop where
  accepted : s.row.state = .accepted
  outbox : s.outbox = outbox
  idle : s.Idle

/-- The operation was claimed, or expired in the queue. -/
structure Taken (s : Scope) : Prop where
  closed : s.row.state ≠ .accepted
  unqueued : ¬ s.Queued
  idle : s.Idle

/-- A waiting operation waits on, in or outside the queue, until it is taken from the queue. -/
structure Wakes (s s' : Scope) : Prop where
  named : s'.operation = s.operation
  waits : ∀ outbox, Awaits outbox s →
    (Awaits outbox s' ∧ (s'.Queued ↔ s.Queued)) ∨ (s.Queued ∧ Taken s')
  taken : Taken s → Taken s'

theorem Wakes.refl (s : Scope) : Wakes s s :=
  ⟨rfl, fun _ awaits => .inl ⟨awaits, .rfl⟩, id⟩

/-- Waiting on and then waiting on is waiting on. -/
theorem Wakes.trans {mid : Scope} (first : Wakes s mid) (second : Wakes mid s') :
    Wakes s s' where
  named := second.named.trans first.named
  waits outbox awaits := by
    rcases first.waits outbox awaits with ⟨still, same⟩ | ⟨queued, taken⟩
    · rcases second.waits outbox still with ⟨still', same'⟩ | ⟨queued, taken⟩
      · exact .inl ⟨still', same'.trans same⟩
      · exact .inr ⟨same.mp queued, taken⟩
    · exact .inr ⟨queued, second.taken taken⟩
  taken before := second.taken (first.taken before)

/-- A change of other rows than the outer one, the queue and the outbox is no change here. -/
theorem Wakes.of_same (named : s'.operation = s.operation)
    (state : s'.row.state = s.row.state) (dispatch : s'.dispatch = s.dispatch)
    (outbox : s'.outbox = s.outbox) (idle : s.Idle → s'.Idle) : Wakes s s' where
  named := named
  waits left awaits := by
    refine .inl ⟨⟨state.trans awaits.accepted, outbox.trans awaits.outbox, idle awaits.idle⟩, ?_⟩
    rw [OpRecord.Queued, dispatch]
  taken before :=
    ⟨fun accepted => before.closed (state.symm.trans accepted), by
      rw [OpRecord.Queued, dispatch]
      exact before.unqueued, idle before.idle⟩

/-- An operation that is not accepted stays taken when nothing queues or accepts it again. -/
theorem Wakes.of_closed (named : s'.operation = s.operation) (closed : s.row.state ≠ .accepted)
    (closed' : s'.row.state ≠ .accepted) (dispatch : s'.Queued → s.Queued)
    (idle : s.Idle → s'.Idle) : Wakes s s' where
  named := named
  waits _ awaits := absurd awaits.accepted closed
  taken before := ⟨closed', fun queued => before.unqueued (dispatch queued), idle before.idle⟩

theorem Wakes.of_running (named : s'.operation = s.operation) {job : JobRow}
    (stored : s.job = some job) (running : job.phase = .running) : Wakes s s' where
  named := named
  waits _ awaits := absurd running (awaits.idle job stored)
  taken before := absurd running (before.idle job stored)

theorem closedDispatch_unqueued (outer : OperationState) : closedDispatch outer ≠ .queued := by
  unfold closedDispatch
  split <;> simp

/-- A dispatch row that is rewritten to another state than queued is not queued by it. -/
theorem patched_queued {dispatch : Option DispatchRow} {matching : DispatchRow → Prop}
    [DecidablePred matching] {change : DispatchRow → DispatchRow}
    (leaves : ∀ row, (change row).state ≠ .queued)
    (queued : (patchWhere dispatch matching change).any fun row => row.state = .queued) :
    dispatch.any fun row => row.state = .queued := by
  cases dispatch with
  | none => simp [patchWhere] at queued
  | some row =>
    simp only [patchWhere, Option.map_some, Option.any_some, decide_eq_true_eq] at queued ⊢
    split at queued
    · exact absurd queued (leaves row)
    · exact queued

theorem mapped_unqueued {dispatch : Option DispatchRow} {change : DispatchRow → DispatchRow}
    (leaves : ∀ row, (change row).state ≠ .queued) :
    ¬ (dispatch.map change).any fun row => row.state = .queued := by
  cases dispatch with
  | none => simp
  | some row => simp [leaves row]

/-- The owner of an attempt keeps a waiting operation waiting and a taken one taken. -/
theorem OpCall.byAttempt_wakes {call : OpCall} {r : Scope} (attempt : call.ByAttempt)
    (ran : call.run H clock s = .ok r) : Wakes s (s.settle r) := by
  cases call with
  | ticket call => exact attempt.elim
  | workbench call =>
    cases call with
    | parkClaimed fence failure =>
      obtain ⟨job, -, -, rfl⟩ := Workbench.parkClaimed_ok ran
      refine .of_same rfl rfl rfl rfl fun _ => ?_
      rintro _ ⟨⟩ running
      cases running
    | _ => exact attempt.elim
  | registry call =>
    cases call with
    | heartbeat fence generation duration =>
      obtain ⟨-, rfl⟩ := heartbeat_ok ran
      exact .of_same rfl rfl rfl rfl id
    | parkAttempt fence generation note =>
      obtain ⟨-, -, running, _⟩ := transitionClaimed_ok ran
      simp only [OpCall.run, RegistryCall.run, Registry.parkAttempt, transitionClaimed, bind_ok,
        require_ok, pure_ok, insertEvent] at ran
      obtain ⟨_, -, _, -, _, -, _, -, rfl⟩ := ran
      -- The dispatch row of the attempt is parked, and another one is left alone.
      have parked : ∀ row : DispatchRow, closedDispatch .indeterminate ≠ DispatchState.queued :=
        fun _ => closedDispatch_unqueued _
      exact .of_closed rfl (by rw [running]; decide) (fun accepted => by cases accepted)
        (patched_queued parked) id
    | finishAttempt fence generation =>
      simp only [OpCall.run, RegistryCall.run, Registry.finishAttempt, bind_ok, ite_ok,
        require_ok, pure_ok] at ran
      obtain ⟨_, -, ⟨-, _, -, rfl⟩ | ⟨-, _, -, _, ended, rfl⟩⟩ := ran
      · exact .refl _
      · have closed : s.row.state ≠ .accepted := by
          intro accepted
          rw [accepted] at ended
          revert ended
          decide
        exact .of_closed rfl closed closed
          (fun queued => (mapped_unqueued (fun _ => closedDispatch_unqueued _) queued).elim) id
    | suspendPlannerAttempt fence ticket =>
      obtain ⟨-, job, _, _, _, _, _, _, _, _, _, suspends, rfl⟩ := suspendPlannerAttempt_ok ran
      exact .of_running rfl suspends.storedJob suspends.phase
    | suspendWorkbenchAttempt fence cell ticket =>
      obtain ⟨-, job, _, _, _, _, _, _, _, _, _, suspends, rfl⟩ := suspendWorkbenchAttempt_ok ran
      exact .of_running rfl suspends.storedJob suspends.phase
    | _ => exact attempt.elim

/-- A visit takes a waiting operation from the queue, and meets no taken one. -/
theorem visitQueued_wakes {request : ClaimRequest} {now : Nat}
    {result : Scope × Option OperationDispatchClaim} (queued : s.Queued)
    (ran : visitQueued H request now s = .ok result) : Wakes s (s.settle result.1) where
  named := rfl
  taken before := absurd queued before.unqueued
  waits outbox awaits := by
    refine .inr ⟨queued, ?_⟩
    rcases visitQueued_cases ran with ⟨closed, -, -⟩ | ⟨accepted, rfl⟩ | ⟨claimed, claims, rfl⟩
    · exact absurd awaits.accepted closed
    · refine ⟨?_, ?_, awaits.idle⟩
      · simp [Scope.settle, expireQueued, insertEvent, accepted]
      · exact mapped_unqueued fun _ impossible => by cases impossible
    · obtain ⟨-, -, _, prepared, _, _, stored, prepares, rfl⟩ := claimQueued_ok claims
      refine ⟨(fun impossible => by cases impossible), ?_, ?_⟩
      · simp only [OpRecord.Queued, Scope.settle, stored, patchWhere, Option.map_some,
          Option.any_some]
        split
        · simp
        · simpa using ‹_›
      · have same : prepared.job = s.job := by cases prepares <;> rfl
        simp only [Scope.Idle, Scope.settle, same]
        exact awaits.idle

/-- A restart leaves the queue alone, and only moves what runs. -/
theorem restarted_wakes (now : Nat) (s : Scope) : Wakes s (restarted now s) := by
  simp only [restarted]
  by_cases accepted : s.row.state = .accepted
  · rw [if_pos accepted]
    exact .of_same rfl rfl rfl rfl id
  · rw [if_neg accepted]
    by_cases running : s.row.state = .running
    · rw [if_pos running]
      simp only [fenceRunning, insertEvent]
      cases latestRunning _ <;>
        exact .of_closed rfl accepted (fun impossible => by cases impossible) id id
    · rw [if_neg running]
      exact .of_same rfl rfl rfl rfl id

/-- Whatever happens in between takes a waiting operation from the queue at most. -/
theorem LocalStep.wakes (step : LocalStep H (Interleaved operation) clock s s')
    (named : s.operation = operation) : Wakes s s' := by
  cases step with
  | call call allow ran => exact OpCall.byAttempt_wakes (allow named) ran
  | admitted binding ran =>
    obtain ⟨-, rfl⟩ := CallerWork.bindOperation_ok.mp ran
    exact .of_same rfl rfl rfl rfl id
  | visited current queued ran _ => exact visitQueued_wakes queued ran
  | expired =>
    simp only [fenceExpired, insertEvent]
    by_cases running : s.row.state = .running
    · refine .of_closed rfl (by rw [running]; decide) ?_ id id
      simp [running]
    · refine .of_same rfl ?_ rfl rfl id
      simp [running]
  | restarted => exact restarted_wakes _ _
  | elsewhere record named =>
    exact .of_same named (congrArg (·.row.state) record) (congrArg OpRecord.dispatch record)
      (congrArg OpRecord.outbox record) fun idle job stored =>
        idle job (by rw [← congrArg OpRecord.job record]; exact stored)

theorem wakes_progress : Progress H (Interleaved operation) (fun _ => True) (fun _ => True)
    (fun s s' => s.operation = operation → Wakes s s') where
  refl s _ := .refl s
  trans _ _ _ first second named :=
    (first named).trans (second ((first named).named.trans named))
  step _ _ _ _ step _ named := step.wakes named

end Interleaving

section Notifying

variable {H : Hashing} {claimId attemptId : String} {clock : Clock} {document : CommandDocument}
  {s s' : Scope} {operation : String} {db db' : Db}

/-- Requesting a dispatch leaves a queued row, unless the operation is closed. -/
theorem requestDispatch_queued {kind : DispatchKind} (ran : requestDispatch kind clock s = .ok s') :
    s'.Queued ↔ s.row.state = .accepted ∨ s.Queued := by
  simp only [requestDispatch, bind_ok, require_ok, ite_ok, pure_ok, insertEvent] at ran
  obtain ⟨_, -, ⟨closed, _, -, rfl⟩ | ⟨accepted, ran⟩⟩ := ran
  · simp [closed]
  · have accepted : s.row.state = .accepted := not_not.mp accepted
    cases stored : s.dispatch with
    | some existing =>
      simp only [stored, ite_ok, pure_ok] at ran
      rcases ran with ⟨queued, rfl⟩ | ⟨-, rfl⟩
      · simp [OpRecord.Queued, accepted, stored, queued]
      · simp [OpRecord.Queued, accepted]
    | none =>
      simp only [stored, pure_ok] at ran
      rw [← ran]
      simp [OpRecord.Queued, accepted]

/-- The commands that notify the coordinator of the ticket they return. -/
def CommandDocument.notifies : CommandDocument → Bool
  | commit _ => true
  | settleCandidate _ => true
  | _ => false

/-- What comes between the transactions of one command: before its notification reads the rows, and
before it queues the operation again. -/
structure Schedule where
  beforeRead : List Event
  readAt : Nat
  beforeRequest : List Event
  requestClock : Clock

/-- All events that come between the transactions of one command. -/
def Schedule.events (schedule : Schedule) : List Event :=
  schedule.beforeRead ++ schedule.beforeRequest

/-- What a command leaves when it returns: its own transaction, and then its notification. -/
def CommandDocument.returns (H : Hashing) (claimId attemptId : String) (clock : Clock)
    (document : CommandDocument) (operation : String) (schedule : Schedule) (db : Db) :
    Except Err Db := do
  let (sent, result) ← document.send H claimId attemptId clock operation db
  if document.notifies then
    let read := Runs.run (Event.step H) schedule.beforeRead sent
    let record ← orRaise (read.lookup operation) (.keyError operation)
    let asked ← notifyCallerSettlement result.ticket schedule.readAt (read.scope operation record)
    -- The deadline is only to be enforced for a ticket that has no outbox row.
    if asked = .dispatch then
      (Runs.run (Event.step H) schedule.beforeRequest read).update operation (.keyError operation)
        (requestDispatch .rlmWorkbenchExecute schedule.requestClock)
    else return read
  else return sent

/-- The operation is still accepted after some events. -/
def StillAccepted (H : Hashing) (operation : String) (events : List Event) (db : Db) : Prop :=
  ∃ record, (Runs.run (Event.step H) events db).lookup operation = some record ∧
    record.row.state = .accepted

theorem Inserted.asks {r read : Scope} {ticket : CallerWorkTicket} (inserted : Inserted s r ticket)
    (awaits : Awaits r.outbox read) (now : Nat) :
    notifyCallerSettlement ticket now read = .ok .dispatch := by
  obtain ⟨row, fetched, pending⟩ := inserted.pending
  simp [notifyCallerSettlement, inserted.continues, awaits.outbox, fetched, pending]

/-- Interleaved events take an operation through what they leave of it. -/
theorem wakes_along {events : List Event} {record : OpRecord}
    (allow : AllowedRun H (Interleaved operation) events db)
    (found : db.lookup operation = some record) :
    ∃ record', (Runs.run (Event.step H) events db).lookup operation = some record' ∧
      Wakes (db.scope operation record)
        ((Runs.run (Event.step H) events db).scope operation record') := by
  have anything : Invariant H (Interleaved operation) fun _ => True :=
    ⟨fun _ _ => trivial, fun _ _ _ _ _ => trivial⟩
  obtain ⟨record', found', wakes⟩ := wakes_progress.along anything allow
    (fun event (_ : event ∈ events) => trivial) (fun _ _ _ => trivial) found
  exact ⟨record', found', wakes rfl⟩

/-- Queueing an operation again works while it waits, and does nothing once it was taken. -/
theorem request_queued {record : OpRecord} {kind : DispatchKind}
    (found : db.lookup operation = some record)
    (requested : db.update operation (.keyError operation) (requestDispatch kind clock) = .ok db') :
    ∃ record', db'.lookup operation = some record' ∧
      (record'.Queued ↔ record.row.state = .accepted ∨ record.Queued) := by
  obtain ⟨_, r, same, ran, rfl⟩ := Db.update_ok.mp requested
  cases found.symm.trans same
  refine ⟨r.toOpRecord, by rw [Db.lookup_commit, if_pos rfl, found]; rfl, ?_⟩
  exact requestDispatch_queued ran

/-- A settlement that inserts an outbox row leaves a queued dispatch row when it returns, exactly if
its command notifies, and no claim took a row that was queued already before the notification, or its
command does not notify, and the row was queued already. -/
theorem settlement_wakes {sent : Db} {result : CommandResult} {schedule : Schedule}
    {record record₁ : OpRecord} (settles : document.Settles) (reached : db.Reachable H)
    (found : db.lookup operation = some record)
    (ran : document.send H claimId attemptId clock operation db = .ok (sent, result))
    (found₁ : sent.lookup operation = some record₁)
    (inserted : ∃ row ∈ record₁.outbox, row ∉ record.outbox ∧ row.state = .pending)
    (allow : AllowedRun H (Interleaved operation) schedule.events sent)
    (returned : document.returns H claimId attemptId clock operation schedule db = .ok db') :
    ∃ record', db'.lookup operation = some record' ∧
      (record'.Queued ↔
        if document.notifies then record.Queued → StillAccepted H operation schedule.events sent
        else record.Queued) := by
  obtain ⟨_, r, same, submitted, rfl⟩ := Db.transact_ok.mp ran
  cases found.symm.trans same
  have there : (db.commit operation r).lookup operation = some r.toOpRecord := by
    rw [Db.lookup_commit, if_pos rfl, found]
    rfl
  cases found₁.symm.trans there
  obtain ⟨row, stored, fresh, -⟩ := inserted
  have left := document.inserts settles (memory_invariant.reachable reached operation record found)
    (wellKept_invariant.reachable reached operation record found) submitted ⟨row, stored, fresh⟩
  have unmoved : r.toOpRecord.Queued ↔ record.Queued := by
    rw [OpRecord.Queued, left.dispatch]
    rfl
  simp only [CommandDocument.returns, ran, ok_bind] at returned
  by_cases notifies : document.notifies
  · simp only [notifies, if_true, bind_ok, orRaise_ok] at returned ⊢
    obtain ⟨read, foundRead, asked, asks, returned⟩ := returned
    -- The operation waits for the notification, unless it is taken from the queue before.
    obtain ⟨allowRead, allowRequest⟩ := allow.append
    have awaits : Awaits r.outbox ((db.commit operation r).scope operation r.toOpRecord) := by
      refine ⟨left.accepted, rfl, fun job kept running => ?_⟩
      cases (left.idle job kept).symm.trans running
    obtain ⟨_, same, first⟩ := wakes_along allowRead there
    cases foundRead.symm.trans same
    obtain ⟨request, foundRequest, second⟩ := wakes_along allowRequest foundRead
    have ends : StillAccepted H operation schedule.events (db.commit operation r) ↔
        request.row.state = .accepted := by
      rw [StillAccepted, Schedule.events, Runs.run_append]
      constructor
      · rintro ⟨_, same, accepted⟩
        cases foundRequest.symm.trans same
        exact accepted
      · exact fun accepted => ⟨request, foundRequest, accepted⟩
    rw [ends]
    rcases first.waits _ awaits with ⟨still, kept⟩ | ⟨queued, taken⟩
    · -- It still waits when its rows are read, so a dispatch is requested.
      rw [left.asks still] at asks
      cases asks
      rw [if_pos rfl] at returned
      obtain ⟨record', found', requeued⟩ := request_queued foundRequest returned
      refine ⟨record', found', requeued.trans ?_⟩
      rcases second.waits _ still with ⟨waiting, -⟩ | ⟨queued, taken⟩
      · exact ⟨fun _ _ => waiting.accepted, fun _ => .inl waiting.accepted⟩
      · have before : record.Queued := unmoved.mp (kept.mp queued)
        constructor
        · rintro (accepted | queued)
          · exact fun _ => accepted
          · exact absurd queued taken.unqueued
        · exact fun accepted => .inl (accepted before)
    · -- It was taken before its rows were read, and nothing queues it again.
      have before : record.Queued := unmoved.mp queued
      have later := second.taken taken
      have missed : ¬ (record.Queued → request.row.state = .accepted) :=
        fun accepted => later.closed (accepted before)
      split at returned
      · obtain ⟨record', found', requeued⟩ := request_queued foundRequest returned
        refine ⟨record', found', iff_of_false (fun again => ?_) missed⟩
        rcases requeued.mp again with accepted | queued
        · exact later.closed accepted
        · exact later.unqueued queued
      · simp only [pure_ok] at returned
        rw [← returned]
        exact ⟨read, foundRead, iff_of_false taken.unqueued missed⟩
  · simp only [notifies, if_false, pure_ok, Bool.false_eq_true] at returned ⊢
    rw [← returned]
    exact ⟨r.toOpRecord, there, unmoved⟩

/-- Nothing comes between the transactions of a command. -/
def Sample.quiet : Schedule :=
  { beforeRead := [], readAt := 6, beforeRequest := [], requestClock := fun _ => 6 }

/-- The commit of a failed call queues the waiting job again. -/
theorem settlement_wakes_sample :
    ∃ db' record',
      (CommandDocument.commit (Sample.commitTicket "op")).returns .readable "" "" (fun _ => 6) "op"
        Sample.quiet Sample.sent = .ok db' ∧
      db'.lookup "op" = some record' ∧ record'.Queued := by
  have shown : ((CommandDocument.commit (Sample.commitTicket "op")).returns .readable "" ""
      (fun _ => 6) "op" Sample.quiet Sample.sent).toOption.isSome ∧
      ((CommandDocument.commit (Sample.commitTicket "op")).send .readable "" "" (fun _ => 6) "op"
        Sample.sent).toOption.any fun answer =>
      (Sample.sent.lookup "op").any fun record => (answer.1.lookup "op").any fun record₁ =>
        record₁.outbox.any fun row =>
          decide (row ∉ record.outbox ∧ row.state = .pending ∧ ¬ record.Queued) := by
    decide +kernel
  simp only [Option.isSome_iff_exists, Option.any_eq_true, List.any_eq_true,
    decide_eq_true_eq] at shown
  obtain ⟨⟨db', returned⟩, ⟨sent, result⟩, ran, record, found, record₁, found₁, row, stored, fresh,
    pending, unqueued⟩ := shown
  have settles : (CommandDocument.commit (Sample.commitTicket "op")).Settles := trivial
  obtain ⟨record', found', requeued⟩ := settlement_wakes settles (Sample.reachable _) found
    (toOption_ok.mp ran) found₁ ⟨row, stored, fresh, pending⟩ .nil (toOption_ok.mp returned)
  refine ⟨db', record', toOption_ok.mp returned, found', requeued.mpr fun queued => ?_⟩
  simp only [OpRecord.Queued, Option.any_eq_true, decide_eq_true_eq] at queued
  exact absurd queued unqueued

/-- The caller's settlement of the disputed send on the stored receipt. -/
def Sample.settle : CommandDocument :=
  .reconcile
    { Sample.command "op" 2 "settle" with
      physicalAttemptId := "physical"
      candidateReceiptDigest := some "op.ticket.physical.failed_certain", reconcilerId := "adapter"
      reconcilerGeneration := 1, reconcileFence := "op.ticket.adapter"
      reconciliationAction := .settle }

/-- A reconciliation that settles leaves its pending outbox row with nothing queued. -/
theorem settlement_wakes_not :
    Sample.disputed.Reachable .readable ∧ Sample.settle.Settles ∧
      ∃ sent result record record₁ db' record',
        Sample.settle.send .readable "" "" (fun _ => 7) "op" Sample.disputed = .ok (sent, result) ∧
        Sample.disputed.lookup "op" = some record ∧ sent.lookup "op" = some record₁ ∧
        (∃ row ∈ record₁.outbox, row ∉ record.outbox ∧ row.state = .pending) ∧
        Sample.settle.returns .readable "" "" (fun _ => 7) "op" Sample.quiet Sample.disputed =
          .ok db' ∧
        db'.lookup "op" = some record' ∧ ¬ record'.Queued := by
  have shown : (Sample.settle.returns .readable "" "" (fun _ => 7) "op" Sample.quiet
      Sample.disputed).toOption.any (fun db' => (db'.lookup "op").any fun record' =>
        decide (¬ record'.Queued)) ∧
      (Sample.settle.send .readable "" "" (fun _ => 7) "op" Sample.disputed).toOption.any
        fun answer => (Sample.disputed.lookup "op").any fun record =>
          (answer.1.lookup "op").any fun record₁ => record₁.outbox.any fun row =>
            decide (row ∉ record.outbox ∧ row.state = .pending) := by
    decide +kernel
  simp only [Option.any_eq_true, List.any_eq_true, decide_eq_true_eq] at shown
  obtain ⟨⟨db', returned, record', found', unqueued⟩, ⟨sent, result⟩, ran, record, found, record₁,
    found₁, row, stored, fresh, pending⟩ := shown
  refine ⟨Sample.reachable _, rfl, sent, result, record, record₁, db', record', toOption_ok.mp ran,
    found, found₁, ⟨row, stored, fresh, pending⟩, toOption_ok.mp returned, found', ?_⟩
  simpa only [OpRecord.Queued, Option.any_eq_true, decide_eq_true_eq] using unqueued

end Notifying

end Aar
