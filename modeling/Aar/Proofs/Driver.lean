import Aar.CallerWork.Driver
import Aar.Proofs.Marks

/-! Guards over one runtime: what each of them sends, and what two of them can send together. -/

namespace Aar.CallerDriver

open Guarded Table CallerWork

section Successor

variable {operation : String} {row : TicketRow} {before after : CallerWorkTicket}
  {command : CallerWorkMarkSendStartedInput} {now : Nat}

/-- The document of a started reservation is the exact successor of the reserved one. -/
theorem started_successor (checked : row.Checks) (reserved : row.state = .sendReserved)
    (request : command.sentRequestDigest = row.requestDigest)
    (shown : ticketFromRow operation row = .ok before)
    (answered : ticketFromRow operation (startedBy command now row) = .ok after) :
    requireSendStartedSuccessor before after = .ok () := by
  have present := checked.claimed (by simp [reserved])
  obtain ⟨-, unsent⟩ := checked.reserved reserved
  have unsettled := checked.unsettled (by simp [reserved, TicketState.settled])
  obtain ⟨attempt, held⟩ := Option.isSome_iff_exists.mp present.2.2.2.2.2.2.2.1
  obtain ⟨key, external⟩ := Option.isSome_iff_exists.mp present.2.2.2.2.2.2.2.2.1
  -- The mark touches no column that the guard compares, and sets the two it looks for.
  simp only [ticketFromRow, bind_ok, pure_ok, physicalAttemptOf, held, external, startedBy,
    orRaise_ok, Option.bind_eq_bind, Option.bind_some, Option.pure_def, Option.some.injEq,
    exists_eq_left'] at shown answered
  obtain ⟨claimant, claims, _, -, rfl⟩ := shown
  obtain ⟨claimant', claims', _, -, rfl⟩ := answered
  have same : claimant' = claimant := Except.ok.inj (claims'.symm.trans claims)
  subst same
  simp [requireSendStartedSuccessor, require, orRaise, bind, Except.bind, request,
    unsent.2.2.1, unsent.2.2.2, unsettled.1, unsettled.2]

/-- A guard accepts exactly a conforming successor of its reserved ticket. -/
theorem accepts_ok {guard : CallerDriverSendGuard} {marked : CallerWorkTicket} :
    guard.accepts after = .ok marked ↔ Conforms after ∧
      requireSendStartedSuccessor guard.reservedTicket after = .ok () ∧ after = marked := by
  simp only [CallerDriverSendGuard.accepts, callerWorkTicket, bind_ok, require_ok, pure_ok]
  constructor
  · rintro ⟨_, ⟨_, conforms, rfl⟩, _, successor, rfl⟩
    exact ⟨conforms, successor, rfl⟩
  · rintro ⟨conforms, successor, rfl⟩
    exact ⟨_, ⟨(), conforms, rfl⟩, (), successor, rfl⟩

/-- An accepted successor carries the attempt of the reserved ticket. -/
theorem successor_attempt (successor : requireSendStartedSuccessor before after = .ok ()) :
    after.physicalAttempt.map PhysicalAttempt.physicalAttemptId =
      before.physicalAttempt.map PhysicalAttempt.physicalAttemptId := by
  simp only [requireSendStartedSuccessor, bind_ok, require_ok, orRaise_ok] at successor
  obtain ⟨_, -, _, -, _, -, _, -, _, -, _, -, _, -, _, -, _, -, _, -, _, -, first, held, second,
    held', _, same, -⟩ := successor
  rw [held, held', Option.map_some, Option.map_some, same]

end Successor

section Documents

variable {H : Hashing} {db db' : Db} {ticket : CallerWorkTicket}

/-- A database that later events lead to. -/
def Later (H : Hashing) (db db' : Db) : Prop :=
  ∃ events, Runs.run (Event.step H) events db = db'

/-- A document shows its ticket as it is, or at an earlier revision. -/
def Known (db : Db) (ticket : CallerWorkTicket) : Prop :=
  ∃ record row, db.lookup ticket.operation = some record ∧ row ∈ record.tickets ∧
    row.ticketId = ticket.ticketId ∧
    (ticketFromRow ticket.operation row = .ok ticket ∨ ticket.revision < row.revision)

/-- A known document stays known. -/
theorem Known.later (reached : db.Reachable H) (later : Later H db db') (known : Known db ticket) :
    Known db' ticket := by
  obtain ⟨events, rfl⟩ := later
  obtain ⟨record, row, found, member, name, shown⟩ := known
  obtain ⟨record', found', advances⟩ := advances_progress.run wellKept_invariant
    (fun event (_ : event ∈ events) => trivial) (wellKept_invariant.reachable reached) found
  obtain ⟨row', member', name', same | higher⟩ := advances row member
  · subst same
    exact ⟨record', row', found', member', name, shown⟩
  · refine ⟨record', row', found', member', name'.trans name, .inr ?_⟩
    rcases shown with shown | earlier
    · rwa [(ticketFromRow_named shown).2.2.2.1]
    · exact earlier.trans higher

/-- What the repository answered to a mark that a guard's callback forwarded. -/
structure Answers (H : Hashing) (db : Db) (reserved : CallerWorkTicket) (mark : Mark) : Prop where
  named : mark.result.ticket.operation = reserved.operation ∧
    mark.result.ticket.ticketId = reserved.ticketId
  stored : ∃ record receipt, db.lookup reserved.operation = some record ∧
    receipt ∈ record.commands ∧ receipt.commandKind = .markSendStarted ∧
    receipt.ticketId = reserved.ticketId ∧
    receipt.idempotencyKey = mark.command.idempotencyKey ∧
    receipt.commandDigest = H.command .markSendStarted (.markSendStarted mark.command) ∧
    receipt.resultTicket = mark.result.ticket
  accepted : mark.result.replayed = false →
    Conforms mark.result.ticket ∧ requireSendStartedSuccessor reserved mark.result.ticket = .ok ()

/-- What the repository answered stays stored. -/
theorem Answers.later {mark : Mark} (reached : db.Reachable H) (later : Later H db db')
    (answers : Answers H db ticket mark) : Answers H db' ticket mark := by
  obtain ⟨events, rfl⟩ := later
  obtain ⟨named, ⟨record, receipt, found, member, facts⟩, accepted⟩ := answers
  obtain ⟨record', found', remembers⟩ := remembers_progress.run wellKept_invariant
    (fun event (_ : event ∈ events) => trivial) (wellKept_invariant.reachable reached) found
  exact ⟨named, ⟨record', receipt, found', remembers.commands receipt member, facts⟩, accepted⟩

/-- The receipt of an answered mark belongs to the marked ticket, which holds its attempt. -/
theorem Answers.marked {mark : Mark} (reached : db.Reachable H)
    (answers : Answers H db ticket mark) :
    ∃ record row, db.lookup ticket.operation = some record ∧ row ∈ record.tickets ∧
      row.ticketId = ticket.ticketId ∧ Marked row ∧
      mark.result.ticket.physicalAttempt.map PhysicalAttempt.physicalAttemptId =
        row.physicalAttemptId := by
  obtain ⟨-, ⟨record, receipt, found, member, kind, ticketId, -, -, result⟩, -⟩ := answers
  obtain ⟨-, receipts⟩ := markReceipts_invariant.reachable reached _ _ found
  obtain ⟨row, there, name, marked, attempt⟩ := receipts.marked receipt member kind
  exact ⟨record, row, found, there, name.trans ticketId, marked, result ▸ attempt⟩

/-- Two marks of one ticket were answered from one receipt. -/
theorem Answers.same_command {ticket' : CallerWorkTicket} {mark mark' : Mark}
    (reached : db.Reachable H) (answers : Answers H db ticket mark)
    (answers' : Answers H db ticket' mark') (operation : ticket.operation = ticket'.operation)
    (ticketId : ticket.ticketId = ticket'.ticketId) :
    mark.command.idempotencyKey = mark'.command.idempotencyKey ∧
      H.command .markSendStarted (.markSendStarted mark.command) =
        H.command .markSendStarted (.markSendStarted mark'.command) := by
  obtain ⟨-, ⟨record, receipt, found, member, kind, name, key, digest, -⟩, -⟩ := answers
  obtain ⟨-, ⟨record', receipt', found', member', kind', name', key', digest', -⟩, -⟩ := answers'
  rw [← operation, found] at found'
  cases found'
  obtain ⟨-, receipts⟩ := markReceipts_invariant.reachable reached _ _ found
  have same := receipts.single receipt member receipt' member' kind kind'
    (name.trans (ticketId.trans name'.symm))
  subst same
  exact ⟨key.symm.trans key', digest.symm.trans digest'⟩

/-- A mark of a reserved ticket that a guard forwards is answered, and is the first one if it is
executed. -/
theorem forwarded_answers {operation : String} {missing : Err} {result : CommandResult}
    {command : CallerWorkMarkSendStartedInput} {clock : Clock} (reached : db.Reachable H)
    (known : Known db ticket) (forwards : Forwards ticket command)
    (here : ticket.operation = operation)
    (ran : db.transact operation missing (CallerWork.markSendStarted H command clock) =
      .ok (db', result)) :
    Later H db db' ∧ Answers H db' ticket { command, result } ∧
      (result.replayed = false → ∀ reserved mark, reserved.operation = ticket.operation →
        reserved.ticketId = ticket.ticketId → ¬ Answers H db reserved mark) := by
  subst here
  obtain ⟨record, r, found, marked, rfl⟩ := Db.transact_ok.mp ran
  obtain ⟨kept, receipts⟩ := markReceipts_invariant.reachable reached _ _ found
  have stored : (db.commit ticket.operation r).lookup ticket.operation = some r.toOpRecord := by
    rw [Db.lookup_commit, if_pos rfl, found]
    rfl
  have later : Later H db (db.commit ticket.operation r) := by
    have sent : (CommandDocument.markSendStarted command).send H "" "" clock ticket.operation db =
        .ok (db.commit ticket.operation r, result) :=
      Db.transact_ok.mpr ⟨record, r, found, marked, rfl⟩
    exact ⟨[_], CommandDocument.send_step sent⟩
  refine ⟨later, ?_⟩
  rcases markSendStarted_ok marked with ⟨executes, row, executed⟩ | ⟨replays, receipt, replayed⟩
  · obtain ⟨there, name⟩ := fetchOne_some executed.found
    obtain ⟨operation, shows, -, -, conforms⟩ := ticketFromRow_named (executed.answer kept)
    constructor
    · refine ⟨⟨operation, shows.trans (name.trans forwards.1)⟩, ⟨r.toOpRecord,
        (CommandDocument.markSendStarted command).receipt H result.ticket, stored, ?_, rfl,
        forwards.1, rfl, rfl, rfl⟩, fun _ => ⟨conforms, ?_⟩⟩
      · rw [executed.commands]
        exact List.mem_append_right _ (List.mem_singleton_self _)
      · -- The ticket is at the revision the guard has seen, so it is the document it has seen.
        obtain ⟨record', row', found', member, name', shown⟩ := known
        cases found.symm.trans found'
        obtain rfl := List.inj_on_of_nodup_map kept.distinct member there
          (name'.trans (forwards.1.symm.trans name.symm))
        have current : ticketFromRow ticket.operation row' = .ok ticket := by
          rcases shown with shown | earlier
          · exact shown
          · rw [← forwards.2, executed.revision] at earlier
            exact absurd earlier (Nat.lt_irrefl _)
        exact started_successor (kept.checked row' there) executed.reserved executed.request
          current (executed.answer kept)
    · -- A ticket with an answered mark is marked already, and this one was still reserved.
      rintro - reserved mark operation ticketId answers
      obtain ⟨record', row', found', member, name', marked', -⟩ := answers.marked reached
      rw [operation] at found'
      cases found.symm.trans found'
      obtain rfl := List.inj_on_of_nodup_map kept.distinct member there
        (name'.trans (ticketId.trans (forwards.1.symm.trans name.symm)))
      exact marked_sent (kept.checked row' there) marked'
        (by simp [unsentStates, executed.reserved])
  · have same : r = db.scope ticket.operation record := replayed.same
    constructor
    · refine ⟨⟨replayed.named.2, replayed.named.1.trans forwards.1⟩, ⟨r.toOpRecord, receipt, stored,
        ?_, replayed.kind, replayed.ticketId.trans forwards.1, replayed.key, replayed.digest,
        replayed.answered⟩, fun executes => ?_⟩
      · rw [same]
        exact replayed.stored
      · cases replays.symm.trans executes
    · intro executes
      cases replays.symm.trans executes

end Documents

section Hosts

variable {H : Hashing} {modelValidateJson : ModelValidateJson} {hosts hosts' : Hosts}

/-- A guard is bound to a reserved ticket that was once the stored one. -/
structure CallerDriverSendGuard.Bound (db : Db) (guard : CallerDriverSendGuard) : Prop where
  known : Known db guard.reservedTicket
  bound : ∃ expectedLaunchNonce,
    requireReadyBinding guard.reservedTicket guard.ready expectedLaunchNonce = .ok ()

/-- The state of a call agrees with its guard and with what the repository answered. -/
structure SendCall.Sound (H : Hashing) (hosts : Hosts) (call : SendCall)
    (guard : CallerDriverSendGuard) : Prop where
  held : hosts.guards[call.guard]? = some guard
  entered : guard.phase ≠ .prepared
  answers : ∀ mark, call.mark = some mark → Answers H hosts.db guard.reservedTicket mark
  accepted : call.stage ∈ [SendStage.started, .sending] → ∃ mark, call.mark = some mark ∧
    requireSendStartedSuccessor guard.reservedTicket mark.result.ticket = .ok ()

/-- A send was made by a call of its guard, on the mark that the guard accepted. -/
structure PhysicalSend.Sound (hosts : Hosts) (send : PhysicalSend) (call : SendCall)
    (guard : CallerDriverSendGuard) : Prop where
  called : call ∈ hosts.calls
  made : call.guard = send.guard
  mark : call.mark = some send.mark
  stage : call.stage ∈ [SendStage.sending, .ended]
  held : hosts.guards[send.guard]? = some guard
  ready : send.ready = guard.ready
  accepted : requireSendStartedSuccessor guard.reservedTicket send.mark.result.ticket = .ok ()

/-- What holds between the runtime, the guards, their calls and their sends. -/
structure Hosts.Sound (H : Hashing) (hosts : Hosts) : Prop where
  reached : hosts.db.Reachable H
  documents : ∀ ticket ∈ hosts.documents, Known hosts.db ticket
  guards : ∀ guard ∈ hosts.guards, guard.Bound hosts.db
  calls : ∀ call ∈ hosts.calls, ∃ guard, call.Sound H hosts guard
  single : (hosts.calls.map SendCall.guard).Nodup
  first : ∀ call ∈ hosts.calls, ∀ other ∈ hosts.calls, ∀ mark mark', call.mark = some mark →
    other.mark = some mark' → mark.result.replayed = false → mark'.result.replayed = false →
    mark.result.ticket.operation = mark'.result.ticket.operation →
    mark.result.ticket.ticketId = mark'.result.ticket.ticketId → call.guard = other.guard
  sends : ∀ send ∈ hosts.sends, ∃ call guard, send.Sound hosts call guard
  once : (hosts.sends.map PhysicalSend.guard).Nodup

/-- Guards keep what they are bound to, never become prepared again, and the runtime goes on. -/
structure Carries (H : Hashing) (hosts hosts' : Hosts) : Prop where
  later : Later H hosts.db hosts'.db
  guards : ∀ (index : Nat) (guard : CallerDriverSendGuard), hosts.guards[index]? = some guard →
    ∃ phase, hosts'.guards[index]? = some { guard with phase } ∧
      (guard.phase ≠ .prepared → phase ≠ .prepared)

theorem Carries.same (later : Later H hosts.db hosts'.db) (guards : hosts'.guards = hosts.guards) :
    Carries H hosts hosts' := by
  refine ⟨later, fun index guard held => ⟨guard.phase, ?_, id⟩⟩
  rw [guards, held]

/-- A guard that moves on to another phase is carried with the others. -/
theorem Carries.phase {index : Nat} {phase : CallerDriverGuardPhase} (entered : phase ≠ .prepared)
    (later : Later H hosts.db hosts'.db)
    (guards : hosts'.guards = hosts.guards.modify index fun guard => { guard with phase }) :
    Carries H hosts hosts' := by
  refine ⟨later, fun other guard held => ?_⟩
  rw [guards, List.getElem?_modify, held]
  by_cases here : index = other
  · exact ⟨phase, by simp [here], fun _ => entered⟩
  · exact ⟨guard.phase, by simp [here], id⟩

theorem Later.refl (db : Db) : Later H db db := ⟨[], rfl⟩

/-- A sound call stays sound while its guard and its answers are carried. -/
theorem SendCall.Sound.carry {call : SendCall} {guard : CallerDriverSendGuard}
    (reached : hosts.db.Reachable H) (carries : Carries H hosts hosts')
    (sound : call.Sound H hosts guard) : ∃ guard', call.Sound H hosts' guard' := by
  obtain ⟨phase, held, entered⟩ := carries.guards _ _ sound.held
  exact ⟨{ guard with phase }, held, entered sound.entered,
    fun mark made => (sound.answers mark made).later reached carries.later, sound.accepted⟩

/-- A guard that keeps its binding stays bound over a later database. -/
theorem CallerDriverSendGuard.Bound.carry {db db' : Db} {guard guard' : CallerDriverSendGuard}
    (reached : db.Reachable H) (later : Later H db db') (bound : guard.Bound db)
    (ticket : guard'.reservedTicket = guard.reservedTicket) (ready : guard'.ready = guard.ready) :
    guard'.Bound db' := by
  refine ⟨?_, ?_⟩
  · rw [ticket]
    exact bound.known.later reached later
  · rw [ticket, ready]
    exact bound.bound

theorem Later.reachable {db db' : Db} (later : Later H db db') (reached : db.Reachable H) :
    db'.Reachable H := by
  obtain ⟨events, rfl⟩ := later
  exact reached.run events

/-- A step that leaves the calls and the sends alone keeps what holds between the hosts. -/
theorem Hosts.Sound.quiet (sound : hosts.Sound H) (carries : Carries H hosts hosts')
    (documents : ∀ ticket ∈ hosts'.documents, ticket ∈ hosts.documents ∨ Known hosts'.db ticket)
    (guards : ∀ guard ∈ hosts'.guards, guard ∈ hosts.guards ∨ guard.Bound hosts'.db)
    (calls : hosts'.calls = hosts.calls) (sends : hosts'.sends = hosts.sends) :
    hosts'.Sound H where
  reached := carries.later.reachable sound.reached
  documents ticket member := (documents ticket member).elim
    (fun old => (sound.documents ticket old).later sound.reached carries.later) id
  guards guard member := (guards guard member).elim
    (fun old => (sound.guards guard old).carry sound.reached carries.later rfl rfl) id
  calls call member := by
    rw [calls] at member
    obtain ⟨guard, holds⟩ := sound.calls call member
    exact holds.carry sound.reached carries
  single := by
    rw [calls]
    exact sound.single
  first := by
    rw [calls]
    exact sound.first
  sends send member := by
    rw [sends] at member
    obtain ⟨call, guard, makes⟩ := sound.sends send member
    obtain ⟨phase, held, -⟩ := carries.guards _ _ makes.held
    exact ⟨call, { guard with phase }, calls ▸ makes.called, makes.made, makes.mark, makes.stage,
      held, makes.ready, makes.accepted⟩
  once := by
    rw [sends]
    exact sound.once

/-- A call that passes the lock of a guard without calls keeps what holds between the hosts. -/
theorem Hosts.Sound.enters {index : Nat} {guard : CallerDriverSendGuard} (sound : hosts.Sound H)
    (held : hosts.guards[index]? = some guard) (prepared : guard.phase = .prepared)
    (carries : Carries H hosts hosts') (documents : hosts'.documents = hosts.documents)
    (calls : hosts'.calls = hosts.calls ++ [{ guard := index, mark := none, stage := .marking }])
    (sends : hosts'.sends = hosts.sends)
    (entered : hosts'.guards[index]? = some { guard with phase := .markInProgress })
    (bound : ∀ guard ∈ hosts'.guards, ∃ old ∈ hosts.guards,
      guard.reservedTicket = old.reservedTicket ∧ guard.ready = old.ready) : hosts'.Sound H := by
  have listed : ∀ call ∈ hosts'.calls, call ∈ hosts.calls ∨
      call = { guard := index, mark := none, stage := .marking } := by
    intro call member
    rw [calls] at member
    simpa using member
  constructor
  · exact carries.later.reachable sound.reached
  · intro ticket member
    rw [documents] at member
    exact (sound.documents ticket member).later sound.reached carries.later
  · intro other member
    obtain ⟨old, before, ticket, ready⟩ := bound other member
    exact (sound.guards old before).carry sound.reached carries.later ticket ready
  · intro call member
    rcases listed call member with old | rfl
    · obtain ⟨guard', holds⟩ := sound.calls call old
      exact holds.carry sound.reached carries
    · exact ⟨_, entered, by simp, (fun _ made => by cases made), by simp⟩
  · -- A call of this guard would have moved it on.
    rw [calls, List.map_append, List.nodup_append]
    refine ⟨sound.single, by simp, ?_⟩
    rintro name member other new rfl
    obtain ⟨call, before, same⟩ := List.mem_map.mp member
    obtain ⟨guard', holds⟩ := sound.calls call before
    have named : call.guard = index := same.trans (by simpa using new)
    rw [named] at same
    have found := holds.held
    rw [named] at found
    cases found.symm.trans held
    exact holds.entered prepared
  · intro one member other member' mark mark' made made'
    rcases listed one member with old | rfl
    · rcases listed other member' with old' | rfl
      · exact sound.first one old other old' mark mark' made made'
      · cases made'
    · cases made
  · intro send member
    rw [sends] at member
    obtain ⟨call, guard', makes⟩ := sound.sends send member
    obtain ⟨phase, found, -⟩ := carries.guards _ _ makes.held
    refine ⟨call, { guard' with phase }, ?_, makes.made, makes.mark, makes.stage, found,
      makes.ready, makes.accepted⟩
    rw [calls]
    exact List.mem_append_left _ makes.called
  · rw [sends]
    exact sound.once

/-- A call that is replaced in the list leaves every other call in it. -/
theorem mem_set_of_ne {index : Nat} {call other moved : SendCall} {calls : List SendCall}
    (found : calls[index]? = some call) (member : other ∈ calls) (differs : other ≠ call) :
    other ∈ calls.set index moved := by
  obtain ⟨place, there⟩ := List.mem_iff_getElem?.mp member
  refine List.mem_iff_getElem?.mpr ⟨place, ?_⟩
  rw [List.getElem?_set_ne, there]
  rintro rfl
  exact differs (Option.some.inj (there.symm.trans found))

/-- A step of one call keeps what holds between the hosts. -/
theorem Hosts.Sound.move {index : Nat} {call : SendCall} (moved : SendCall) (sound : hosts.Sound H)
    (found : hosts.calls[index]? = some call) (same : moved.guard = call.guard)
    (carries : Carries H hosts hosts')
    (documents : hosts'.documents = hosts.documents)
    (calls : hosts'.calls = hosts.calls.set index moved) (sends : hosts'.sends = hosts.sends)
    (bound : ∀ guard ∈ hosts'.guards, ∃ old ∈ hosts.guards,
      guard.reservedTicket = old.reservedTicket ∧ guard.ready = old.ready)
    (holds : ∃ guard, moved.Sound H hosts' guard)
    (first : ∀ mark, moved.mark = some mark → call.mark = some mark ∨
      (mark.result.replayed = false → ∀ other ∈ hosts.calls, ∀ mark', other.mark = some mark' →
        mark.result.ticket.operation = mark'.result.ticket.operation →
        mark.result.ticket.ticketId ≠ mark'.result.ticket.ticketId))
    (stays : call.stage ∈ [SendStage.sending, .ended] →
      moved.mark = call.mark ∧ moved.stage ∈ [SendStage.sending, .ended]) : hosts'.Sound H := by
  have member : call ∈ hosts.calls := List.mem_of_getElem? found
  -- A call of the new list is the moved one, or one that was there before.
  have listed : ∀ other ∈ hosts'.calls, other ∈ hosts.calls ∨ other = moved := by
    intro other there
    rw [calls] at there
    exact List.mem_or_eq_of_mem_set there
  constructor
  · exact carries.later.reachable sound.reached
  · intro ticket known
    rw [documents] at known
    exact (sound.documents ticket known).later sound.reached carries.later
  · intro guard there
    obtain ⟨old, before, ticket, ready⟩ := bound guard there
    exact (sound.guards old before).carry sound.reached carries.later ticket ready
  · intro other there
    rcases listed other there with old | rfl
    · obtain ⟨guard, held⟩ := sound.calls other old
      exact held.carry sound.reached carries
    · exact holds
  · have guards : hosts'.calls.map SendCall.guard = hosts.calls.map SendCall.guard := by
      rw [calls, List.map_set, same]
      refine List.ext_getElem? fun place => ?_
      rw [List.getElem?_set]
      split
      · rename_i here
        subst here
        split
        · rw [List.getElem?_map, found]
          rfl
        · rename_i beyond
          exact (List.getElem?_eq_none (Nat.le_of_not_lt beyond)).symm
      · rfl
    rw [guards]
    exact sound.single
  · intro one there other there' mark mark' made made' executes executes' operation ticketId
    -- A mark that was not there before is the first of its ticket.
    have old : ∀ each ∈ hosts'.calls, ∀ marked, each.mark = some marked →
        marked.result.replayed = false →
        (∃ before ∈ hosts.calls, before.guard = each.guard ∧ before.mark = some marked) ∨
          (each = moved ∧ ∀ other ∈ hosts.calls, ∀ mark', other.mark = some mark' →
            marked.result.ticket.operation = mark'.result.ticket.operation →
            marked.result.ticket.ticketId ≠ mark'.result.ticket.ticketId) := by
      intro each known marked made executes
      rcases listed each known with before | rfl
      · exact .inl ⟨each, before, rfl, made⟩
      · rcases first marked made with kept | new
        · exact .inl ⟨call, member, same.symm, kept⟩
        · exact .inr ⟨rfl, new executes⟩
    rcases old one there mark made executes with ⟨before, known, name, kept⟩ | ⟨rfl, new⟩
    · rcases old other there' mark' made' executes' with
        ⟨before', known', name', kept'⟩ | ⟨rfl, new⟩
      · rw [← name, ← name']
        exact sound.first before known before' known' mark mark' kept kept' executes executes'
          operation ticketId
      · exact absurd ticketId.symm (new before known mark kept operation.symm)
    · rcases old other there' mark' made' executes' with ⟨before', known', name', kept'⟩ | ⟨rfl, -⟩
      · exact absurd ticketId (new before' known' mark' kept' operation)
      · rfl
  · intro send there
    rw [sends] at there
    obtain ⟨maker, guard, makes⟩ := sound.sends send there
    obtain ⟨phase, held, -⟩ := carries.guards _ _ makes.held
    by_cases this : maker = call
    · subst this
      obtain ⟨mark, stage⟩ := stays makes.stage
      refine ⟨moved, { guard with phase }, ?_, same.trans makes.made, mark.trans makes.mark, stage,
        held, makes.ready, makes.accepted⟩
      rw [calls]
      exact List.mem_set (List.getElem?_eq_some_iff.mp found).1 moved
    · refine ⟨maker, { guard with phase }, ?_, makes.made, makes.mark, makes.stage, held,
        makes.ready, makes.accepted⟩
      rw [calls]
      exact mem_set_of_ne found makes.called this
  · rw [sends]
    exact sound.once

end Hosts

section Steps

variable {H : Hashing} {modelValidateJson : ModelValidateJson} {hosts : Hosts}

/-- A running call is stored at its stage, and its guard is stored too. -/
theorem running_ok {index : Nat} {stage : SendStage} {call : SendCall}
    {guard : CallerDriverSendGuard} (running : hosts.running index stage = some (call, guard)) :
    hosts.calls[index]? = some call ∧ call.stage = stage ∧
      hosts.guards[call.guard]? = some guard := by
  simp only [Hosts.running, Hosts.guard?, Option.bind_eq_bind, Option.bind_eq_some_iff,
    Option.filter_eq_some_iff, decide_eq_true_eq, Option.pure_def, Option.some.injEq,
    Prod.mk.injEq] at running
  obtain ⟨_, ⟨found, at_stage⟩, _, ⟨held, -⟩, rfl, rfl⟩ := running
  exact ⟨found, at_stage, held⟩

/-- Moving a guard on leaves every guard bound as it was. -/
theorem bound_of_modify {guards : List CallerDriverSendGuard} {index : Nat}
    {phase : CallerDriverGuardPhase} {guard : CallerDriverSendGuard}
    (member : guard ∈ guards.modify index fun guard => { guard with phase }) :
    ∃ old ∈ guards, guard.reservedTicket = old.reservedTicket ∧ guard.ready = old.ready := by
  obtain ⟨place, there⟩ := List.mem_iff_getElem?.mp member
  rw [List.getElem?_modify] at there
  cases found : guards[place]? with
  | none => simp [found] at there
  | some old =>
    refine ⟨old, List.mem_of_getElem? found, ?_⟩
    simp only [found, Option.map_eq_map, Option.map_some, Option.some.injEq] at there
    rw [← there]
    split <;> exact ⟨rfl, rfl⟩

/-- A call that ends, or goes on with its guard, keeps what holds between the hosts. -/
theorem Hosts.Sound.advance {index : Nat} {call : SendCall} {guard : CallerDriverSendGuard}
    {phase : CallerDriverGuardPhase} (stage : SendStage) (sound : hosts.Sound H)
    (found : hosts.calls[index]? = some call) (held : hosts.guards[call.guard]? = some guard)
    (entered : phase ≠ .prepared)
    (accepted : stage ∈ [SendStage.started, .sending] → ∃ mark, call.mark = some mark ∧
      requireSendStartedSuccessor guard.reservedTicket mark.result.ticket = .ok ())
    (stays : call.stage ∈ [SendStage.sending, .ended] → stage ∈ [SendStage.sending, .ended]) :
    (hosts.advance index { call with stage } phase).Sound H := by
  have carries : Carries H hosts (hosts.advance index { call with stage } phase) :=
    .phase entered (Later.refl _) rfl
  refine sound.move { call with stage } found rfl carries rfl rfl rfl
    (fun _ => bound_of_modify) ?_
    (fun _ made => .inl made) fun ended => ⟨rfl, stays ended⟩
  obtain ⟨guard', holds⟩ := sound.calls call (List.mem_of_getElem? found)
  cases holds.held.symm.trans held
  obtain ⟨phase', held', -⟩ := carries.guards _ _ held
  refine ⟨{ guard with phase := phase' }, held', ?_, holds.answers, accepted⟩
  -- The guard that is found afterwards is the one that was moved on.
  simp only [Hosts.advance, List.getElem?_modify, held, if_true, Option.map_eq_map,
    Option.map_some, Option.some.injEq] at held'
  have moved := congrArg CallerDriverSendGuard.phase held'
  simp only at moved
  rw [← moved]
  exact entered

theorem Hosts.Sound.runtime (sound : hosts.Sound H) (event : Event) :
    ({ hosts with db := event.step H hosts.db } : Hosts).Sound H :=
  sound.quiet (.same ⟨[event], rfl⟩ rfl) (fun _ => .inl) (fun _ => .inl) rfl rfl

theorem Hosts.Sound.stop (sound : hosts.Sound H) (process : Nat) :
    ({ hosts with stopped := process :: hosts.stopped } : Hosts).Sound H :=
  sound.quiet (.same (Later.refl _) rfl) (fun _ => .inl) (fun _ => .inl) rfl rfl

/-- A document that is read is known. -/
theorem Hosts.Sound.read (sound : hosts.Sound H) (operation ticketId : String) :
    (hosts.read operation ticketId).Sound H := by
  unfold Hosts.read
  split
  · exact sound
  · rename_i record found
    split
    · exact sound
    · rename_i ticket shown
      obtain ⟨row, fetched, drawn, name, here⟩ := getTicket_ok shown
      have operation' : ticket.operation = operation := here
      refine sound.quiet (.same (Later.refl _) rfl) (fun other member => ?_) (fun _ => .inl) rfl rfl
      rcases List.mem_append.mp member with old | new
      · exact .inl old
      · obtain rfl := List.mem_singleton.mp new
        obtain ⟨stored, named⟩ := fetchOne_some (ticketRow_ok.mp fetched)
        refine .inr ⟨record, row, by rw [operation', found], stored, named.trans name.symm, .inl ?_⟩
        rw [operation']
        exact drawn

/-- A prepared guard is bound to the document it was prepared from. -/
theorem Hosts.Sound.prepare (sound : hosts.Sound H) (process document : Nat)
    (readyLine : List UInt8) (expectedLaunchNonce : String) :
    (hosts.prepare modelValidateJson process document readyLine expectedLaunchNonce).Sound H := by
  unfold Hosts.prepare
  split
  · exact sound
  · rename_i ticket found
    split
    · exact sound
    · rename_i guard prepared
      simp only [CallerDriver.prepare, bind_ok, require_ok, pure_ok] at prepared
      obtain ⟨_, -, ready, -, _, bound, rfl⟩ := prepared
      have known := sound.documents ticket (List.mem_of_getElem? found)
      refine sound.quiet ⟨Later.refl _, fun index old there => ⟨old.phase, ?_, id⟩⟩ (fun _ => .inl)
        (fun other member => ?_) rfl rfl
      · -- The guards before the new one are found where they were.
        exact (List.getElem?_append_left (List.getElem?_eq_some_iff.mp there).1).trans there
      · rcases List.mem_append.mp member with old | new
        · exact .inl old
        · rw [List.mem_singleton.mp new]
          exact .inr ⟨known, expectedLaunchNonce, bound⟩

/-- The lock lets one call of a guard pass: a guard with a call is not prepared any more. -/
theorem Hosts.Sound.sendOnce (sound : hosts.Sound H) (index : Nat) :
    (hosts.sendOnce index).Sound H := by
  unfold Hosts.sendOnce
  split
  · exact sound
  · rename_i guard held
    split
    · exact sound
    · rename_i entered enters
      simp only [CallerDriverSendGuard.enter, bind_ok, require_ok, pure_ok] at enters
      obtain ⟨_, prepared, rfl⟩ := enters
      simp only [Hosts.guard?, Option.filter_eq_some_iff, decide_eq_true_eq] at held
      obtain ⟨there, -⟩ := held
      have guards : hosts.guards.set index { guard with phase := .markInProgress } =
          hosts.guards.modify index fun guard => { guard with phase := .markInProgress } := by
        rw [List.modify_eq_set_getElem?]
        simp [there]
      refine sound.enters there prepared (.phase (by simp) (Later.refl _) guards) rfl rfl rfl ?_ ?_
      · exact List.getElem?_set_self (List.getElem?_eq_some_iff.mp there).1
      · intro other member
        rw [guards] at member
        exact bound_of_modify member

/-- A call whose callback has returned. -/
def SendCall.answered (call : SendCall) (mark : Mark) : SendCall :=
  { call with mark := some mark, stage := .returned }

/-- A forwarded mark keeps what holds between the hosts: its answer is the first of its ticket, or
repeats the one that is stored. -/
theorem Hosts.Sound.markSendStarted (sound : hosts.Sound H) (index : Nat)
    (command : CallerWorkMarkSendStartedInput) (clock : Clock) (raises : Bool) :
    (hosts.markSendStarted H index command clock raises).Sound H := by
  unfold Hosts.markSendStarted
  split
  · exact sound
  · rename_i call guard running
    obtain ⟨found, marking, held⟩ := running_ok running
    have member := List.mem_of_getElem? found
    dsimp only
    split
    · rename_i forwards
      split
      · exact sound.advance .ended found held (by simp) (by simp) (by simp)
      · rename_i db result ran
        have known := (sound.guards guard (List.mem_of_getElem? held)).known
        obtain ⟨later, answers, first⟩ := forwarded_answers sound.reached known forwards rfl ran
        obtain ⟨guard', holds⟩ := sound.calls call member
        cases holds.held.symm.trans held
        have carries : ∀ calls : List SendCall, Carries H hosts { hosts with db, calls } :=
          fun calls => .same later rfl
        -- No call has an answer for this ticket when the mark is executed.
        have unmarked : ∀ mark : Mark, some ⟨command, result⟩ = some mark →
            call.mark = some mark ∨ (mark.result.replayed = false → ∀ other ∈ hosts.calls,
              ∀ mark', other.mark = some mark' →
              mark.result.ticket.operation = mark'.result.ticket.operation →
              mark.result.ticket.ticketId ≠ mark'.result.ticket.ticketId) := by
          rintro mark ⟨rfl⟩
          refine .inr fun executes other listed mark' made operation ticketId => ?_
          obtain ⟨holder, sound'⟩ := sound.calls other listed
          have answers' := sound'.answers mark' made
          refine first executes holder.reservedTicket mark' ?_ ?_ answers'
          · rw [← answers'.named.1, ← operation, answers.named.1]
          · rw [← answers'.named.2, ← ticketId, answers.named.2]
        have marked : Hosts.Sound H { hosts with
            db := db
            calls := hosts.calls.set index (call.answered ⟨command, result⟩) } := by
          refine sound.move (call.answered ⟨command, result⟩) found rfl (carries _) rfl rfl rfl
            (fun old listed => ⟨old, listed, rfl, rfl⟩) ?_ unmarked (by simp [marking])
          refine ⟨guard, held, holds.entered, fun mark made => ?_, by simp [SendCall.answered]⟩
          cases made
          exact answers
        split
        · -- The callback raises after its mark was answered.
          have place : (hosts.calls.set index (call.answered ⟨command, result⟩))[index]? =
              some (call.answered ⟨command, result⟩) :=
            List.getElem?_set_self (List.getElem?_eq_some_iff.mp found).1
          have unconfirmed : CallerDriverGuardPhase.markUnconfirmed ≠ .prepared := by simp
          have ended := marked.advance .ended place held unconfirmed (by simp) (by simp)
          simp only [Hosts.advance, SendCall.answered, List.set_set] at ended ⊢
          exact ended
        · exact marked
    · exact sound

/-- The check of a mark keeps what holds between the hosts. -/
theorem Hosts.Sound.validate (sound : hosts.Sound H) (index : Nat) :
    (hosts.validate index).Sound H := by
  unfold Hosts.validate
  split
  · exact sound
  · rename_i call guard running
    obtain ⟨found, returned, held⟩ := running_ok running
    split
    · exact sound
    · rename_i mark made
      split
      · exact sound.advance .ended found held (by simp) (by simp) (by simp)
      · rename_i ticket accepts
        obtain ⟨-, successor, -⟩ := accepts_ok.mp accepts
        exact sound.advance .started found held (by simp) (fun _ => ⟨mark, made, successor⟩)
          (by simp [returned])

/-- The entry into the physical send keeps what holds between the hosts. -/
theorem Hosts.Sound.physicalSend (sound : hosts.Sound H) (index : Nat) :
    (hosts.physicalSend index).Sound H := by
  unfold Hosts.physicalSend
  split
  · exact sound
  · rename_i call guard running
    obtain ⟨found, started, held⟩ := running_ok running
    split
    · exact sound
    · rename_i mark made
      have member := List.mem_of_getElem? found
      obtain ⟨guard', holds⟩ := sound.calls call member
      cases holds.held.symm.trans held
      obtain ⟨mark', made', successor⟩ := holds.accepted (by simp [started])
      cases made.symm.trans made'
      have moved : ({ hosts with
          calls := hosts.calls.set index { call with stage := .sending } } : Hosts).Sound H := by
        refine sound.move { call with stage := .sending } found rfl (.same (Later.refl _) rfl) rfl
          rfl rfl (fun old listed => ⟨old, listed, rfl, rfl⟩) ?_ (fun _ => .inl) (by simp [started])
        exact ⟨guard, held, holds.entered, holds.answers, fun _ => ⟨mark, made, successor⟩⟩
      have listed : { call with stage := .sending } ∈
          hosts.calls.set index { call with stage := .sending } :=
        List.mem_set (List.getElem?_eq_some_iff.mp found).1 _
      refine ⟨moved.reached, moved.documents, moved.guards, fun other there => ?_, moved.single,
        moved.first, ?_, ?_⟩
      · obtain ⟨guard', holds'⟩ := moved.calls other there
        exact ⟨guard', holds'.held, holds'.entered, holds'.answers, holds'.accepted⟩
      · intro send there
        rcases List.mem_append.mp there with old | new
        · obtain ⟨maker, guard', makes⟩ := moved.sends send old
          exact ⟨maker, guard', makes.called, makes.made, makes.mark, makes.stage, makes.held,
            makes.ready, makes.accepted⟩
        · rw [List.mem_singleton.mp new]
          exact ⟨{ call with stage := .sending }, guard, listed, rfl, made, by simp, held, rfl,
            successor⟩
      · -- A guard that sent before has a call that is past this stage, and it has one call only.
        rw [List.map_append, List.nodup_append]
        refine ⟨sound.once, by simp, ?_⟩
        rintro name there other new rfl
        obtain ⟨send, before, same⟩ := List.mem_map.mp there
        obtain ⟨maker, _, makes⟩ := sound.sends send before
        have named : maker.guard = call.guard :=
          makes.made.trans (same.trans (by simpa using new))
        have this := List.inj_on_of_nodup_map sound.single makes.called member named
        have stage := makes.stage
        simp [this, started] at stage

theorem Hosts.Sound.observe (sound : hosts.Sound H) (index : Nat) (raises : Bool) :
    (hosts.observe index raises).Sound H := by
  unfold Hosts.observe
  split
  · exact sound
  · rename_i call guard running
    obtain ⟨found, -, held⟩ := running_ok running
    refine sound.advance .ended found held ?_ (by simp) (by simp)
    split <;> simp

/-- Every step keeps what holds between the hosts. -/
theorem HostStep.sound (sound : hosts.Sound H) (next : HostStep) :
    (next.step H modelValidateJson hosts).Sound H := by
  cases next with
  | runtime event => exact sound.runtime event
  | read operation ticketId => exact sound.read operation ticketId
  | prepare process document line nonce => exact sound.prepare process document line nonce
  | sendOnce guard => exact sound.sendOnce guard
  | markSendStarted call command clock raises =>
    exact sound.markSendStarted call command clock raises
  | validate call => exact sound.validate call
  | physicalSend call => exact sound.physicalSend call
  | observe call raises => exact sound.observe call raises
  | stop process => exact sound.stop process

/-- In every run of the hosts this holds between them. -/
theorem hosts_sound (steps : List HostStep) :
    (Runs.run (HostStep.step H modelValidateJson) steps Hosts.empty).Sound H := by
  have preserved : ∀ (next : HostStep) (hosts : Hosts), hosts.Sound H →
      (next.step H modelValidateJson hosts).Sound H := fun next _ sound => HostStep.sound sound next
  have start : Hosts.empty.Sound H := by
    refine ⟨⟨[], rfl⟩, ?_, ?_, ?_, .nil, ?_, ?_, .nil⟩ <;> simp [Hosts.empty]
  exact Runs.run_invariant preserved start

end Steps

section Sends

variable {H : Hashing} {modelValidateJson : ModelValidateJson} {hosts : Hosts}

/-- The attempt of a send is stored with a started send. -/
def PhysicalSend.MarkedIn (db : Db) (send : PhysicalSend) : Prop :=
  ∃ record row, db.lookup send.mark.result.ticket.operation = some record ∧
    row ∈ record.tickets ∧ row.ticketId = send.ready.ticketId ∧
    row.physicalAttemptId = some send.ready.physicalAttemptId ∧ Marked row

/-- A bound guard is ready for its own ticket and for the attempt that it shows. -/
theorem CallerDriverSendGuard.Bound.attempt {db : Db} {guard : CallerDriverSendGuard}
    (bound : guard.Bound db) : guard.ready.ticketId = guard.reservedTicket.ticketId ∧
      guard.reservedTicket.physicalAttempt.map PhysicalAttempt.physicalAttemptId =
        some guard.ready.physicalAttemptId := by
  obtain ⟨nonce, ready⟩ := bound.bound
  simp only [requireReadyBinding, bind_ok, require_ok, orRaise_ok] at ready
  obtain ⟨_, -, _, -, physical, held, _, -, _, -, _, -, _, ticketId, _, -, _, -, attempt⟩ := ready
  exact ⟨ticketId, by rw [held, Option.map_some, attempt]⟩

/-- A send was made on a stored answer, for the attempt of its guard's ticket. -/
theorem Hosts.Sound.answered (sound : hosts.Sound H) {send : PhysicalSend}
    (member : send ∈ hosts.sends) :
    ∃ guard, hosts.guards[send.guard]? = some guard ∧
      Answers H hosts.db guard.reservedTicket send.mark ∧ send.ready = guard.ready ∧
      send.ready.ticketId = guard.reservedTicket.ticketId ∧
      send.mark.result.ticket.physicalAttempt.map PhysicalAttempt.physicalAttemptId =
        some send.ready.physicalAttemptId := by
  obtain ⟨call, guard, makes⟩ := sound.sends send member
  obtain ⟨guard', holds⟩ := sound.calls call makes.called
  have held := holds.held
  rw [makes.made] at held
  cases held.symm.trans makes.held
  obtain ⟨ticketId, attempt⟩ := (sound.guards guard (List.mem_of_getElem? held)).attempt
  refine ⟨guard, held, holds.answers _ makes.mark, makes.ready, makes.ready ▸ ticketId, ?_⟩
  rw [successor_attempt makes.accepted, makes.ready, attempt]

/-- The attempt of every send is stored with a started send. -/
theorem Hosts.Sound.marked (sound : hosts.Sound H) {send : PhysicalSend}
    (member : send ∈ hosts.sends) : send.MarkedIn hosts.db := by
  obtain ⟨guard, -, answers, -, ticketId, attempt⟩ := sound.answered member
  obtain ⟨record, row, found, there, name, marked, shown⟩ := answers.marked sound.reached
  refine ⟨record, row, ?_, there, name.trans ticketId.symm, shown.symm.trans attempt, marked⟩
  rw [answers.named.1, found]

/-- Two sends of one attempt belong to one ticket. -/
theorem Hosts.Sound.same_ticket (sound : hosts.Sound H) {first second : PhysicalSend}
    (member : first ∈ hosts.sends) (member' : second ∈ hosts.sends)
    (same : first.ready.physicalAttemptId = second.ready.physicalAttemptId) :
    first.mark.result.ticket.operation = second.mark.result.ticket.operation ∧
      first.ready.ticketId = second.ready.ticketId := by
  obtain ⟨record, row, found, there, name, held, -⟩ := sound.marked member
  obtain ⟨record', row', found', there', name', held', -⟩ := sound.marked member'
  exact attempts_apart sound.reached _ _ _ _ _ ⟨record, found, row, there, name, held⟩
    ⟨record', found', row', there', name', same ▸ held'⟩

/-- A step that changes the database enters no physical send. -/
theorem HostStep.sends_or_db (next : HostStep) :
    (next.step H modelValidateJson hosts).sends = hosts.sends ∨
      (next.step H modelValidateJson hosts).db = hosts.db := by
  cases next with
  | runtime | stop => exact .inl rfl
  | physicalSend call =>
    right
    simp only [HostStep.step, Hosts.physicalSend]
    repeat' split
    all_goals rfl
  | read operation ticketId =>
    left
    simp only [HostStep.step, Hosts.read]
    repeat' split
    all_goals rfl
  | prepare process document line nonce =>
    left
    simp only [HostStep.step, Hosts.prepare]
    repeat' split
    all_goals rfl
  | sendOnce guard =>
    left
    simp only [HostStep.step, Hosts.sendOnce]
    repeat' split
    all_goals rfl
  | markSendStarted call command clock raises =>
    left
    simp only [HostStep.step, Hosts.markSendStarted]
    repeat' split
    all_goals rfl
  | validate call =>
    left
    simp only [HostStep.step, Hosts.validate]
    repeat' split
    all_goals rfl
  | observe call raises =>
    left
    simp only [HostStep.step, Hosts.observe]
    repeat' split
    all_goals rfl

/-- Over any number of guards, processes and stops, and whatever else happens to the runtime: a
physical send is entered only for an attempt whose mark is stored already, and at most once by a
guard; a first mark that its callback returned is always accepted; and two guards that send one
attempt were answered from one stored mark, so that their commands carry one key and one digest, and
at most one of the two was executed. -/
theorem attempt_sent_by_one_command (H : Hashing) (modelValidateJson : ModelValidateJson)
    (steps : List HostStep) (next : HostStep) :
    let hosts := Runs.run (HostStep.step H modelValidateJson) steps Hosts.empty
    let after := next.step H modelValidateJson hosts
    (∀ send ∈ after.sends, send.MarkedIn hosts.db) ∧
      (after.sends.map PhysicalSend.guard).Nodup ∧
      (∀ index call guard mark, hosts.running index .returned = some (call, guard) →
        call.mark = some mark → mark.result.replayed = false →
        hosts.validate index = hosts.advance index { call with stage := .started } .sendStarted) ∧
      ∀ first ∈ after.sends, ∀ second ∈ after.sends,
        first.ready.physicalAttemptId = second.ready.physicalAttemptId →
        first.guard ≠ second.guard →
        first.mark.command.idempotencyKey = second.mark.command.idempotencyKey ∧
          H.command .markSendStarted (.markSendStarted first.mark.command) =
            H.command .markSendStarted (.markSendStarted second.mark.command) ∧
          (first.mark.result.replayed = true ∨ second.mark.result.replayed = true) := by
  intro hosts after
  have sound : hosts.Sound H := hosts_sound steps
  have sound' : after.Sound H := HostStep.sound sound next
  refine ⟨fun send member => ?_, sound'.once, ?_, ?_⟩
  · -- The step that enters a send does not touch the database.
    have either : after.sends = hosts.sends ∨ after.db = hosts.db := next.sends_or_db
    rcases either with same | same
    · exact sound.marked (same ▸ member)
    · exact same ▸ sound'.marked member
  · intro index call guard mark running made executes
    obtain ⟨found, -, held⟩ := running_ok running
    obtain ⟨guard', holds⟩ := sound.calls call (List.mem_of_getElem? found)
    cases holds.held.symm.trans held
    obtain ⟨conforms, successor⟩ := (holds.answers mark made).accepted executes
    have accepts := accepts_ok.mpr ⟨conforms, successor, rfl⟩
    simp only [Hosts.validate, running, made, accepts]
  · intro first member second member' attempt apart
    obtain ⟨guard, -, answers, -, ticketId, -⟩ := sound'.answered member
    obtain ⟨guard', -, answers', -, ticketId', -⟩ := sound'.answered member'
    obtain ⟨operation, named⟩ := sound'.same_ticket member member' attempt
    have here : guard.reservedTicket.operation = guard'.reservedTicket.operation := by
      rw [← answers.named.1, operation, answers'.named.1]
    have ticket : guard.reservedTicket.ticketId = guard'.reservedTicket.ticketId := by
      rw [← ticketId, named, ticketId']
    obtain ⟨key, digest⟩ := answers.same_command sound'.reached answers' here ticket
    refine ⟨key, digest, ?_⟩
    -- Two executed marks of one ticket belong to one call.
    by_contra both
    simp only [not_or, Bool.not_eq_true] at both
    obtain ⟨call, _, makes⟩ := sound'.sends first member
    obtain ⟨call', _, makes'⟩ := sound'.sends second member'
    have one := sound'.first call makes.called call' makes'.called _ _ makes.mark makes'.mark
      both.1 both.2 operation (by rw [answers.named.2, answers'.named.2, ticket])
    exact apart (makes.made.symm.trans (one.trans makes'.made))

/-- The relay of the claimed ticket is ready. -/
def Sample.ready : CallerDriverReadyEnvelope :=
  { launchNonce := "nonce", adapterId := "adapter", adapterGeneration := 1
    ticketId := "op.ticket", ticketDigest := "ticket", requestDigest := "request"
    physicalAttemptId := "physical", baseUrl := "http://127.0.0.1:43123" }

/-- The body of the relay's frame is read as its envelope. -/
def Sample.validateJson : ModelValidateJson := fun body =>
  if body = Sample.ready.canonicalJsonBytes then some Sample.ready else none

/-- Two processes prepare a guard each from one reservation, and forward one mark command. -/
def Sample.shared : List HostStep :=
  let line := Sample.ready.canonicalJsonBytes ++ [10]
  let command := Aar.Sample.markSend "op"
  (Aar.Sample.reserved "op").map .runtime ++
    [.read "op" "op.ticket", .prepare 1 0 line "nonce", .prepare 2 0 line "nonce", .sendOnce 0,
      .sendOnce 1, .markSendStarted 0 command (fun _ => 5) false,
      .markSendStarted 1 command (fun _ => 6) false, .validate 0, .validate 1, .physicalSend 0,
      .physicalSend 1]

/-- One attempt is sent twice: the second guard is answered from the memory of the first mark. -/
theorem attempt_sent_by_one_command_not :
    ¬ ∀ steps : List HostStep,
      ((Runs.run (HostStep.step .readable Sample.validateJson) steps Hosts.empty).sends.map
        fun send => send.ready.physicalAttemptId).Nodup := by
  intro once
  have twice : ((Runs.run (HostStep.step .readable Sample.validateJson) Sample.shared
      Hosts.empty).sends.map fun send => send.ready.physicalAttemptId) =
      ["physical", "physical"] := by decide +kernel
  have distinct := once Sample.shared
  rw [twice] at distinct
  simp at distinct

end Sends

end Aar.CallerDriver
