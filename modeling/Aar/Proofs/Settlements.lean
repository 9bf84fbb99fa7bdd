import Aar.Proofs.Ownership
import Aar.Proofs.Suspensions

/-! Settlements: an outbox row is prepared for one successor at a time, and consumed at most once. -/

namespace Aar

open Guarded Table Registry

section Rows

/-- One move of an outbox row: prepared for the next successor, or consumed once prepared. -/
inductive OutboxRow.Move (old new : OutboxRow) : Prop where
  | prepared {attemptId : String} {fence : Digest}
      (unconsumed : old.state = .pending ∨ old.state = .prepared)
      (row : new = { old with
        state := .prepared, rebindGeneration := old.rebindGeneration + 1
        successorAttemptId := some attemptId, successorAttemptFence := some fence })
  | consumed (prepared : old.state = .prepared) (row : new = { old with state := .consumed })

/-- The moves of an outbox row, one after the other. -/
abbrev OutboxRow.Moves : OutboxRow → OutboxRow → Prop := Relation.ReflTransGen OutboxRow.Move

theorem OutboxRow.Moves.settlement {old new : OutboxRow} (moves : old.Moves new) :
    new.suspensionRevision = old.suspensionRevision ∧
      new.settlementDigest = old.settlementDigest ∧ new.outboxDigest = old.outboxDigest := by
  induction moves with
  | refl => exact ⟨rfl, rfl, rfl⟩
  | tail _ move ih => cases move <;> (rename_i row; subst row; exact ih)

/-- A consumed row never moves again. -/
theorem OutboxRow.Moves.ended {old new : OutboxRow} (moves : old.Moves new)
    (consumed : old.state = .consumed) : new = old := by
  induction moves with
  | refl => rfl
  | tail _ move ih =>
    rw [ih] at move
    cases move with
    | prepared unconsumed => rcases unconsumed with state | state <;> cases consumed.symm.trans state
    | consumed prepared => cases consumed.symm.trans prepared

theorem OutboxRow.Carried.moves {old new : OutboxRow} (carried : old.Carried new) :
    old.Moves new := by
  rcases carried with rfl | ⟨prepared, row⟩
  · exact .refl
  · exact .single (.consumed prepared row)

/-- The attempt is stored, and the fence is the digest of it and of its lease. -/
structure SuccessorOf (H : Hashing) (record : OpRecord) (attemptId : String) (fence : Digest) :
    Prop where
  known : attemptId ∈ record.attempts.map AttemptRow.attemptId
  fenced : ∀ attempt ∈ record.attempts, attempt.attemptId = attemptId →
    ∀ lease ∈ record.leases, lease.attemptNo = attempt.attemptNo →
      fence = H.attemptFence attempt.dispatcherGeneration lease.leaseEpoch lease.ownerDigest

/-- The outbox and the transfers of an operation fit together, and name stored successors. -/
structure Handed (H : Hashing) (record : OpRecord) : Prop where
  suspensions : (record.outbox.map OutboxRow.suspensionRevision).Nodup
  minted : ∀ transfer ∈ record.transfers,
    SuccessorOf H record transfer.successorAttemptId transfer.successorAttemptFence
  matched : ∀ transfer ∈ record.transfers, ∀ row ∈ record.outbox,
    row.suspensionRevision = transfer.suspensionRevision →
      row.successorAttemptId = some transfer.successorAttemptId →
        row.rebindGeneration = transfer.rebindGeneration

/-- What one local step does to the outbox and the transfers. -/
inductive HandStep (H : Hashing) (now : Nat) (s s' : Scope) : Prop where
  | carried (outbox : List.Forall₂ OutboxRow.Carried s.outbox s'.outbox)
      (transfers : List.Forall₂ TransferRow.Carried s.transfers s'.transfers)
  | settled {row : OutboxRow} {ticket : TicketRow} (member : ticket ∈ s'.tickets)
      (resolves : ticket.suspensionRevision = row.suspensionRevision)
      (closed : ticket.state ∉ CallerWork.openStates) (unclaimed : row.successorAttemptId = none)
      (first : ∀ stored ∈ s.outbox, stored.suspensionRevision ≠ row.suspensionRevision)
      (outbox : s'.outbox = s.outbox ++ [row]) (transfers : s'.transfers = s.transfers)
  | claimed {request : ClaimRequest} {prepared : Scope} (claimed : Claimed H request now s s')
      (prepares : Prepares H (nextSuccessor H request s)
        (withAttempt request (nextSuccessor H request s) now s) prepared)
      (outbox : s'.outbox = prepared.outbox) (transfers : s'.transfers = prepared.transfers)

end Rows

section Steps

variable {H : Hashing} {clock : Clock} {now : Nat} {s s' : Scope}

theorem carried_outbox {rows : List OutboxRow} : List.Forall₂ OutboxRow.Carried rows rows :=
  List.forall₂_same.mpr fun row _ => .refl row

theorem carried_transfers {rows : List TransferRow} : List.Forall₂ TransferRow.Carried rows rows :=
  List.forall₂_same.mpr fun row _ => .refl row

theorem consumed_carried {rows : List OutboxRow} {matching : OutboxRow → Prop}
    [DecidablePred matching] (prepared : ∀ row, matching row → row.state = .prepared) :
    List.Forall₂ OutboxRow.Carried rows
      (updateWhere rows matching fun row => { row with state := .consumed }) :=
  updateWhere_aged .refl fun row _ matched => .inr ⟨prepared row matched, rfl⟩

/-- A registry transaction carries the outbox and the transfers on. -/
theorem RegistryCall.carries {call : RegistryCall} (ran : call.run H clock s = .ok s') :
    List.Forall₂ OutboxRow.Carried s.outbox s'.outbox ∧
      List.Forall₂ TransferRow.Carried s.transfers s'.transfers := by
  by_cases moves : call.MovesJob
  swap
  · obtain ⟨_, _, _, _, _, _, _, _, _, _, _, _, _, _, -, rfl⟩ := RegistryCall.frame ran moves
    exact ⟨carried_outbox, carried_transfers⟩
  cases call <;> simp only [RegistryCall.MovesJob] at moves <;>
    simp only [RegistryCall.run, map_ok] at ran
  case requestCancel =>
    rcases Registry.requestCancel_ok ran with ⟨rfl, -⟩ | ⟨_, _, _, -, -, -, rfl⟩ <;>
      exact ⟨carried_outbox, carried_transfers⟩
  case suspendPlannerAttempt =>
    obtain ⟨-, _, _, _, _, _, _, _, _, _, _, -, rfl⟩ := Registry.suspendPlannerAttempt_ok ran
    exact ⟨carried_outbox, carried_transfers⟩
  case suspendWorkbenchAttempt =>
    obtain ⟨-, _, _, _, _, _, _, _, _, _, _, -, rfl⟩ := Registry.suspendWorkbenchAttempt_ok ran
    exact ⟨carried_outbox, carried_transfers⟩
  case consumePlannerSuccessor =>
    obtain ⟨read, -, projected⟩ := Registry.consumePlannerSuccessor_cases ran
    have consumed : ∀ attemptId fence, List.Forall₂ OutboxRow.Carried s.outbox
        (consumedOutbox read.outbox attemptId fence s.outbox) :=
      fun _ _ => consumed_carried fun _ matched => matched.2.1
    rcases projected with ⟨state, -, _, _, ran⟩ | ⟨_, _, -, ran⟩ | ⟨-, _, _, _, -, ran⟩
    · obtain ⟨-, _, _, _, _, _, _, _, _, _, _, _, -, -, -, -, rfl⟩ :=
        Registry.projectPlannerTerminal_ok ran
      exact ⟨consumed _ _, carried_transfers⟩
    · obtain ⟨-, _, _, _, _, _, _, _, _, _, _, -, -, -, -, -, rfl⟩ :=
        Registry.projectCorrection_ok ran
      exact ⟨consumed _ _, carried_transfers⟩
    · obtain ⟨_, _, _, _, _, _, -, -, -, -, rfl⟩ := Registry.projectDirective_ok ran
      exact ⟨consumed _ _, carried_transfers⟩
  case commitWorkbenchRebind =>
    obtain ⟨result, ran, rfl⟩ := ran
    obtain ⟨-, read, -, ⟨-, same⟩ | commits⟩ := commitWorkbenchRebind_cases ran
    · rw [same]
      exact ⟨carried_outbox, carried_transfers⟩
    · obtain ⟨_, transfers, _, _, carried, same⟩ := commits.writes
      rw [same]
      exact ⟨consumed_carried fun _ matched => matched.2.1, carried⟩
  case acknowledgeWorkbenchRebind =>
    obtain ⟨_, _, _, carried, rfl⟩ := Registry.acknowledgeWorkbenchRebind_effect ran
    exact ⟨carried_outbox, carried⟩
  case markWorkbenchRebindWorkerLost =>
    rcases (markWorkbenchRebindWorkerLost_ok ran).2 with rfl |
      ⟨_, _, _, _, _, _, _, -, -, -, -, transfers, outbox, rfl⟩
    · exact ⟨carried_outbox, carried_transfers⟩
    · exact ⟨outbox, transfers⟩
  case cancelQueuedDispatch =>
    obtain ⟨result, ran, rfl⟩ := ran
    rcases Registry.cancelQueuedDispatch_ok ran with same |
      ⟨-, _, _, _, _, -, -, ⟨_, _, _, _, -, same⟩ | ⟨-, same⟩⟩ <;> rw [same]
    · exact ⟨carried_outbox, carried_transfers⟩
    · exact ⟨consumed_carried fun _ matched => matched,
        updateWhere_aged .refl fun _ _ _ => ⟨_, _, _, rfl⟩⟩
    · exact ⟨carried_outbox, carried_transfers⟩

/-- Every local step carries settlements on, adds one, or prepares some for a new owner. -/
theorem LocalStep.hands {rules : Rules}
    (step : LocalStep H rules clock s s') : HandStep H (clock 0) s s' := by
  have still : ∀ {r : Scope}, r.outbox = s.outbox → r.transfers = s.transfers →
      HandStep H (clock 0) s r := fun outbox transfers =>
    .carried (outbox ▸ carried_outbox) (transfers ▸ carried_transfers)
  cases step with
  | @call r call _ ran =>
    cases call with
    | registry call =>
      obtain ⟨outbox, transfers⟩ := RegistryCall.carries ran
      exact .carried outbox transfers
    | ticket call =>
      have written : CallerWork.Written H s r := TicketCall.written ran
      cases written with
      | aside => exact still rfl rfl
      | @returned _ _ _ _ _ _ row change _ _ _ closing _ _ first =>
        have moved : change row ∈ CallerWork.revised row.ticketId row.revision change s.tickets :=
          mem_updateWhere.mpr ⟨row, (fetchOne_some closing.found).1, by simp⟩
        exact .settled moved closing.move.suspensionRevision (suspensionState_closed closing.due).1
          rfl first rfl rfl
    | workbench call =>
      obtain ⟨_, _, _, _, _, _, _, _, _, _, -, -, rfl⟩ := WorkbenchCall.effect ran
      exact still rfl rfl
  | admitted binding ran =>
    obtain ⟨-, rfl⟩ := CallerWork.bindOperation_ok.mp ran
    exact still rfl rfl
  | visited current queued ran _ =>
    rcases visitQueued_cases ran with ⟨-, -, same⟩ | ⟨-, rfl⟩ | ⟨claimed, claims, rfl⟩
    · rw [same]
      exact still rfl rfl
    · exact still rfl rfl
    · have owner := claimQueued_claimed current queued claims
      obtain ⟨-, -, _, prepared, _, _, -, prepares, rfl⟩ := claimQueued_ok claims
      exact .claimed owner prepares rfl rfl
  | expired => exact still rfl rfl
  | restarted =>
    unfold Aar.restarted
    dsimp only
    split
    · exact still rfl rfl
    · split
      · simp only [fenceRunning, insertEvent]
        cases latestRunning _ <;> exact still rfl rfl
      · exact still rfl rfl
  | elsewhere record =>
    exact still (congrArg OpRecord.outbox record) (congrArg OpRecord.transfers record)

/-- Preparing a row for a successor moves it. -/
theorem preparedOutbox_moves {read : OutboxRow} {successor : Successor} {rows : List OutboxRow}
    (unconsumed : read.state = .pending ∨ read.state = .prepared) :
    List.Forall₂ OutboxRow.Moves rows (preparedOutbox H read successor rows) := by
  refine updateWhere_aged (fun _ => .refl) fun row _ matched => .single ?_
  obtain ⟨-, state, generation, -⟩ := matched
  exact .prepared (state ▸ unconsumed) (by rw [generation])

/-- Preparing a successor moves outbox rows only. -/
theorem Registry.Prepares.outbox {successor : Successor} (prepares : Prepares H successor s s') :
    List.Forall₂ OutboxRow.Moves s.outbox s'.outbox := by
  cases prepares with
  | nothing | takenOver => exact List.forall₂_same.mpr fun _ _ => .refl
  | planner member unconsumed one => exact preparedOutbox_moves unconsumed
  | workbench member pending => exact preparedOutbox_moves (.inl pending)

/-- Every outbox row lives on, moved. -/
theorem HandStep.moves (step : HandStep H now s s') :
    ∀ row ∈ s.outbox, ∃ row' ∈ s'.outbox, row.Moves row' := by
  intro row member
  cases step with
  | carried outbox =>
    obtain ⟨row', there, carried⟩ := aged_to outbox member
    exact ⟨row', there, carried.moves⟩
  | settled _ _ _ _ _ outbox =>
    rw [outbox]
    exact ⟨row, List.mem_append_left _ member, .refl⟩
  | claimed _ prepares outbox =>
    rw [outbox]
    exact aged_to prepares.outbox member

end Steps

section Invariant

variable {H : Hashing} {now : Nat} {s s' : Scope}

/-- A stored successor stays the successor its fence was made for. -/
theorem OwnStep.successorOf {attemptId : String} {fence : Digest} (owned : Owned s.toOpRecord)
    (own : OwnStep H now s s') (successor : SuccessorOf H s.toOpRecord attemptId fence) :
    SuccessorOf H s'.toOpRecord attemptId fence := by
  obtain ⟨known, fenced⟩ := successor
  obtain ⟨row, stored, rfl⟩ := List.mem_map.mp known
  cases own with
  | aged aged =>
    constructor
    · obtain ⟨new, there, ages⟩ := aged_to aged.attempts stored
      exact List.mem_map.mpr ⟨new, there, ages.attemptId⟩
    · intro attempt member same lease held number
      obtain ⟨before, listed, ages⟩ := aged_from aged.attempts member
      obtain ⟨old, leased, aged⟩ := aged_from aged.leases held
      rw [ages.dispatcherGeneration, aged.leaseEpoch, aged.ownerDigest]
      exact fenced before listed (ages.attemptId.symm.trans same) old leased
        (aged.attemptNo.symm.trans (number.trans ages.attemptNo))
  | @claimed request claimed =>
    constructor
    · obtain ⟨new, there, ages, -⟩ := aged_to claimed.attempts (List.mem_append_left _ stored)
      exact List.mem_map.mpr ⟨new, there, ages.attemptId⟩
    · -- The new attempt has an identifier of its own, and the new lease is its.
      intro attempt member same lease held number
      obtain ⟨before, listed, ages, -⟩ := aged_from claimed.attempts member
      have named := ages.attemptId.symm.trans same
      rw [ages.dispatcherGeneration]
      rcases List.mem_append.mp listed with old | new
      · rw [claimed.leases] at held
        rcases List.mem_append.mp held with leased | fresh
        · exact fenced before old named lease leased (number.trans ages.attemptNo)
        · have last : lease.attemptNo = s.attempts.length + 1 := by
            rw [List.mem_singleton.mp fresh]
            exact (owned.next (H := H) request).1
          have bound := (owned.attempts.bounds old).2
          have numbered := number.trans ages.attemptNo
          omega
      · rw [List.mem_singleton.mp new] at named
        exact absurd (List.mem_map.mpr ⟨row, stored, named.symm⟩) claimed.fresh

/-- The attempt of a claim is the successor its fence is made for. -/
theorem Claimed.successorOf {request : ClaimRequest} (owned : Owned s.toOpRecord)
    (claimed : Claimed H request now s s') :
    SuccessorOf H s'.toOpRecord (nextSuccessor H request s).attemptId
      ((nextSuccessor H request s).fence H) := by
  constructor
  · obtain ⟨new, there, ages, -⟩ := aged_to claimed.attempts
      (List.mem_append_right _ (List.mem_singleton_self _))
    exact List.mem_map.mpr ⟨new, there, ages.attemptId⟩
  · intro attempt member same lease held number
    obtain ⟨before, listed, ages, -⟩ := aged_from claimed.attempts member
    have named := ages.attemptId.symm.trans same
    rw [ages.dispatcherGeneration]
    rcases List.mem_append.mp listed with old | new
    · exact absurd (List.mem_map.mpr ⟨before, old, named⟩) claimed.fresh
    · obtain rfl := List.mem_singleton.mp new
      rw [claimed.leases] at held
      rcases List.mem_append.mp held with leased | fresh
      · -- Every earlier lease has an earlier number.
        have bound := (owned.leases.bounds leased).2
        have numbered : lease.attemptNo = s.attempts.length + 1 :=
          (number.trans ages.attemptNo).trans (owned.next (H := H) request).1
        rw [owned.paired] at bound
        omega
      · rw [List.mem_singleton.mp fresh]
        rfl

/-- A row of the prepared outbox was already there, or names the new successor. -/
theorem mem_preparedOutbox {read row : OutboxRow} {successor : Successor} {rows : List OutboxRow}
    (member : row ∈ preparedOutbox H read successor rows) :
    (row ∈ rows ∧ ¬ UnchangedOutbox read row) ∨
      row.successorAttemptId = some successor.attemptId ∧
        row.rebindGeneration = read.rebindGeneration + 1 := by
  obtain ⟨stored, there, rfl⟩ := mem_updateWhere.mp member
  by_cases unchanged : UnchangedOutbox read stored
  · rw [if_pos unchanged]
    exact .inr ⟨rfl, rfl⟩
  · rw [if_neg unchanged]
    exact .inl ⟨there, unchanged⟩

/-- Every local step keeps the outbox and the transfers fitting together. -/
theorem Handed.step (handed : Handed H s.toOpRecord) (owned : Owned s.toOpRecord)
    (own : OwnStep H now s s') (step : HandStep H now s s') : Handed H s'.toOpRecord := by
  obtain ⟨suspensions, minted, matched⟩ := handed
  cases step with
  | carried outbox transfers =>
    refine ⟨?_, ?_, ?_⟩
    · have columns : s'.outbox.map OutboxRow.suspensionRevision =
          s.outbox.map OutboxRow.suspensionRevision :=
        aged_column outbox fun _ _ carried => carried.moves.settlement.1
      exact columns.symm ▸ suspensions
    · intro transfer member
      obtain ⟨old, stored, _, _, _, rfl⟩ := aged_from transfers member
      exact own.successorOf owned (minted old stored)
    · intro transfer member row listed
      obtain ⟨old, stored, _, _, _, rfl⟩ := aged_from transfers member
      obtain ⟨before, there, carried⟩ := aged_from outbox listed
      have kept : row.suspensionRevision = before.suspensionRevision ∧
          row.successorAttemptId = before.successorAttemptId ∧
          row.rebindGeneration = before.rebindGeneration := by
        rcases carried with same | ⟨-, same⟩ <;> rw [same] <;> exact ⟨rfl, rfl, rfl⟩
      rw [kept.1, kept.2.1, kept.2.2]
      exact matched old stored before there
  | settled _ _ _ unclaimed first outbox transfers =>
    refine ⟨?_, ?_, ?_⟩
    · rw [outbox, List.map_append, List.nodup_append]
      refine ⟨suspensions, by simp, ?_⟩
      rintro revision member other new rfl
      obtain ⟨stored, there, same⟩ := List.mem_map.mp member
      exact first stored there (by simpa [same] using new)
    · rw [transfers]
      exact fun transfer member => own.successorOf owned (minted transfer member)
    · rw [transfers, outbox]
      intro transfer member row listed suspension successor
      rcases List.mem_append.mp listed with old | new
      · exact matched transfer member row old suspension successor
      · rw [List.mem_singleton.mp new, unclaimed] at successor
        cases successor
  | @claimed request prepared claimed prepares outbox transfers =>
    have columns : (s'.outbox.map OutboxRow.suspensionRevision).Nodup := by
      rw [outbox, aged_column prepares.outbox fun _ _ moves => moves.settlement.1]
      exact suspensions
    -- A transfer that was minted before does not name the new successor.
    have older : ∀ transfer ∈ s.transfers,
        transfer.successorAttemptId ≠ (nextSuccessor H request s).attemptId :=
      fun transfer member same => claimed.fresh (same ▸ (minted transfer member).known)
    have stays : ∀ transfer ∈ s.transfers,
        SuccessorOf H s'.toOpRecord transfer.successorAttemptId transfer.successorAttemptFence :=
      fun transfer member => own.successorOf owned (minted transfer member)
    have kept : ∀ (read : OutboxRow), ∀ transfer ∈ s.transfers,
        ∀ row ∈ preparedOutbox H read (nextSuccessor H request s) s.outbox,
          row.suspensionRevision = transfer.suspensionRevision →
            row.successorAttemptId = some transfer.successorAttemptId →
              row.rebindGeneration = transfer.rebindGeneration := by
      intro read transfer member row listed suspension successor
      rcases mem_preparedOutbox listed with ⟨there, -⟩ | ⟨renamed, -⟩
      · exact matched transfer member row there suspension successor
      · exact absurd (Option.some.inj (successor.symm.trans renamed)) (older transfer member)
    refine ⟨columns, ?_, ?_⟩ <;> rw [transfers]
    · cases prepares with
      | nothing | takenOver | planner => exact stays
      | workbench _ _ _ _ _ _ owner fenced =>
        intro transfer member
        rcases List.mem_append.mp member with old | new
        · exact stays transfer old
        · rw [List.mem_singleton.mp new, owner, fenced]
          exact claimed.successorOf owned
    · rw [outbox]
      cases prepares with
      | nothing | takenOver => exact matched
      | @planner read => exact kept read
      | @workbench read transfer _ there pending _ _ suspension generation =>
        intro other member row listed same successor
        rcases List.mem_append.mp member with old | new
        · exact kept read other old row listed same successor
        · obtain rfl := List.mem_singleton.mp new
          rcases mem_preparedOutbox listed with ⟨stored, changed⟩ | ⟨-, next⟩
          · -- The only row of this settlement is the one that was prepared.
            have twin := List.inj_on_of_nodup_map suspensions stored there (same.trans suspension)
            exact absurd ⟨congrArg _ twin, congrArg _ twin, congrArg _ twin, fun _ =>
              ⟨congrArg _ twin, congrArg _ twin⟩⟩ changed
          · rw [next, generation]

/-- In every run the ownership rows, the outbox and the transfers of an operation fit together. -/
theorem handed_invariant :
    Invariant H Unrestricted fun s => Owned s.toOpRecord ∧ Handed H s.toOpRecord where
  new s new := by
    refine ⟨(owned_invariant (H := H)).new s new, ?_⟩
    obtain ⟨row, _, _, -, record⟩ := new.rows
    rw [record]
    exact ⟨by simp [acceptedRecord], by simp [acceptedRecord], by simp [acceptedRecord]⟩
  step _ _ _ step := by
    rintro ⟨owned, handed⟩
    exact ⟨owned_invariant.step _ _ _ step owned, handed.step owned (step.owns owned) step.hands⟩

/-- Every outbox row carries the settlement of a closed ticket. -/
def Resolved (tickets : List TicketRow) (outbox : List OutboxRow) : Prop :=
  ∀ row ∈ outbox, ∃ ticket ∈ tickets, ticket.suspensionRevision = row.suspensionRevision ∧
    ticket.state ∉ CallerWork.openStates

/-- In every run each outbox row carries the settlement of a closed ticket. -/
theorem resolved_invariant :
    Invariant H Unrestricted fun s =>
      CallerWork.WellKept s.tickets ∧ Resolved s.tickets s.outbox where
  new s new := by
    refine ⟨wellKept_invariant.new s new, ?_⟩
    obtain ⟨_, _, _, -, record⟩ := new.rows
    have empty : s.outbox = [] := congrArg OpRecord.outbox record
    rw [empty]
    exact fun _ member => nomatch member
  step _ s s' step := by
    rintro ⟨kept, resolved⟩
    refine ⟨kept.move step.tickets, ?_⟩
    -- A closed ticket stays as it is, so an outbox row that was there keeps its settlement.
    have closed := (step.tickets.closed kept).closed
    have older : ∀ row ∈ s.outbox, ∃ ticket ∈ s'.tickets,
        ticket.suspensionRevision = row.suspensionRevision ∧
          ticket.state ∉ CallerWork.openStates := by
      intro row member
      obtain ⟨ticket, stored, revision, ended⟩ := resolved row member
      exact ⟨ticket, closed ticket stored ended, revision, ended⟩
    intro row member
    cases step.hands with
    | carried outbox =>
      obtain ⟨old, stored, carried⟩ := aged_from outbox member
      rw [carried.moves.settlement.1]
      exact older old stored
    | settled ticket resolves ended _ _ outbox =>
      rw [outbox] at member
      rcases List.mem_append.mp member with old | new
      · exact older row old
      · rw [List.mem_singleton.mp new]
        exact ⟨_, ticket, resolves, ended⟩
    | claimed _ prepares outbox =>
      rw [outbox] at member
      obtain ⟨old, stored, moves⟩ := aged_from prepares.outbox member
      rw [moves.settlement.1]
      exact older old stored

/-- In every run each outbox row lives on, moved. -/
theorem settlement_progress : Progress H Unrestricted (fun _ => True)
    (fun s => Owned s.toOpRecord ∧ Handed H s.toOpRecord)
    fun s s' => ∀ row ∈ s.outbox, ∃ row' ∈ s'.outbox, row.Moves row' where
  refl _ := fun row member => ⟨row, member, .refl⟩
  trans _ _ _ first second := by
    intro row member
    obtain ⟨mid, there, before⟩ := first row member
    obtain ⟨last, here, after⟩ := second mid there
    exact ⟨last, here, before.trans after⟩
  step _ _ _ _ step _ := step.hands.moves

end Invariant

end Aar
