import Aar.Proofs.Settlements

/-! Projections: only the current successor of a settlement projects an outcome of it, and once. -/

namespace Aar

open Guarded Table Registry

section Projecting

variable {H : Hashing} {clock : Clock} {s s' : Scope}

/-- What the successor of a settlement does with it. -/
inductive Outcome where
  | directive
  | terminal
  | correction
  | rebindCommit
  deriving DecidableEq

/-- An outcome of one settlement, with the fence and the rebind generation it is projected under. -/
structure Projection where
  suspensionRevision : Nat
  outcome : Outcome
  fence : AttemptFence
  rebindGeneration : Nat

/-- The outcome a consumption of the row it read projects. -/
def plannerOutcome (read : PlannerRow) (outcome : PlannerOutcome) (now : Nat) : Outcome :=
  if (selectTerminal read outcome.terminalState now).isSome then .terminal
  else if outcome.correctionTicket.isSome then .correction
  else .directive

/-- The projection of a successful transaction; the replay of a rebind commit projects nothing. -/
def RegistryCall.projection (clock : Clock) (s : Scope) : RegistryCall → Option Projection
  | consumePlannerSuccessor fence token outcome =>
    (plannerRow fence.attempt.attemptId s).map fun read =>
      { suspensionRevision := read.outbox.suspensionRevision
        outcome := plannerOutcome read outcome (clock 1), fence
        rebindGeneration := token.rebindGeneration }
  | commitWorkbenchRebind fence tokenDigest _ =>
    (rebindRow tokenDigest fence.attempt.attemptId s).bind fun read =>
      if read.transfer.state = .committed ∨ read.transfer.state = .consumed then none
      else some
        { suspensionRevision := read.transfer.suspensionRevision, outcome := .rebindCommit, fence
          rebindGeneration := read.transfer.rebindGeneration }
  | _ => none

/-- The projection that an event makes of a settlement of one operation, if it succeeds. -/
def Event.projection (H : Hashing) (event : Event) (db : Db) (operation : String) :
    Option Projection :=
  match event.call with
  | .on target (.registry call) =>
    if target = operation then
      (db.lookup operation).bind fun record =>
        match call.run H event.clock (db.scope operation record) with
        | .ok _ => call.projection event.clock (db.scope operation record)
        | .error _ => none
    else none
  | _ => none

/-- The row is prepared for the attempt, the fence and the rebind generation of a projection. -/
structure Projection.Presents (H : Hashing) (projection : Projection) (row : OutboxRow) : Prop where
  suspension : row.suspensionRevision = projection.suspensionRevision
  prepared : row.state = .prepared
  attempt : row.successorAttemptId = some projection.fence.attempt.attemptId
  fence : row.successorAttemptFence = some (H.attemptFence projection.fence.dispatcherGeneration
    projection.fence.leaseEpoch projection.fence.ownerDigest)
  generation : row.rebindGeneration = projection.rebindGeneration

/-- A projection is made by a successful transaction on the stored operation. -/
theorem Event.projection_cases {event : Event} {db : Db} {operation : String}
    {projection : Projection} (projects : event.projection H db operation = some projection) :
    ∃ call record r, event.call = .on operation (.registry call) ∧
      db.lookup operation = some record ∧
      call.run H event.clock (db.scope operation record) = .ok r ∧
      call.projection event.clock (db.scope operation record) = some projection := by
  unfold Event.projection at projects
  split at projects
  · rename_i target call called
    split at projects
    · rename_i here
      subst here
      obtain ⟨record, found, projects⟩ := Option.bind_eq_some_iff.mp projects
      split at projects
      · rename_i r ran
        exact ⟨call, record, r, called, found, ran, projects⟩
      · cases projects
    · cases projects
  · cases projects

/-- A live owner is the successor that its attempt's fence was made for. -/
theorem SuccessorOf.validated {attemptId : String} {digest : Digest} {fence : AttemptFence}
    {now generation : Nat} {owner : AttemptRow × LeaseRow}
    (successor : SuccessorOf H s.toOpRecord attemptId digest)
    (named : fence.attempt.attemptId = attemptId)
    (live : validateFence now fence generation s = .ok owner) :
    digest = H.attemptFence fence.dispatcherGeneration fence.leaseEpoch fence.ownerDigest := by
  obtain ⟨-, found, -, dispatcher, -, leased, owner, -⟩ := validateFence_ok live
  obtain ⟨member, number, identity⟩ := fetchOne_some found
  obtain ⟨held, attemptNo, leaseEpoch⟩ := fetchOne_some leased
  rw [← dispatcher, ← owner, ← leaseEpoch]
  exact successor.fenced _ member (identity.trans named) _ held (attemptNo.trans number.symm)

theorem consumed_mem {rows : List OutboxRow} {matching : OutboxRow → Prop}
    [DecidablePred matching] {row : OutboxRow} (member : row ∈ rows) (matched : matching row) :
    { row with state := .consumed } ∈
      updateWhere rows matching fun row => { row with state := .consumed } :=
  mem_updateWhere.mpr ⟨row, member, by rw [if_pos matched]⟩

/-- A projecting transaction consumes the row that is prepared for it. -/
theorem RegistryCall.projects {call : RegistryCall} {projection : Projection}
    (handed : Handed H s.toOpRecord)
    (ran : call.run H clock s = .ok s') (projects : call.projection clock s = some projection) :
    ∃ row ∈ s.outbox, projection.Presents H row ∧ { row with state := .consumed } ∈ s'.outbox := by
  cases call <;> simp only [RegistryCall.projection, reduceCtorEq] at projects <;>
    simp only [RegistryCall.run, map_ok] at ran
  case consumePlannerSuccessor fence token outcome =>
    obtain ⟨read, consumes, projected⟩ := consumePlannerSuccessor_cases ran
    simp only [consumes.found, Option.map_some, Option.some.injEq] at projects
    subst projects
    refine ⟨read.outbox, consumes.member, ⟨rfl, consumes.prepared.1, consumes.prepared.2,
      consumes.fenced, consumes.presented⟩, ?_⟩
    have matched : ConsumedBy read.outbox fence.attempt.attemptId
        (H.attemptFence fence.dispatcherGeneration fence.leaseEpoch fence.ownerDigest)
        read.outbox :=
      ⟨rfl, consumes.prepared.1, rfl, consumes.prepared.2, consumes.fenced⟩
    rcases projected with ⟨state, -, _, _, ran⟩ | ⟨_, _, -, ran⟩ | ⟨-, _, _, _, -, ran⟩
    · obtain ⟨-, _, _, _, _, _, _, _, _, _, _, _, -, -, -, -, rfl⟩ :=
        projectPlannerTerminal_ok ran
      exact consumed_mem consumes.member matched
    · obtain ⟨-, _, _, _, _, _, _, _, _, _, _, -, -, -, -, -, rfl⟩ := projectCorrection_ok ran
      exact consumed_mem consumes.member matched
    · obtain ⟨_, _, _, _, _, _, -, -, -, -, rfl⟩ := projectDirective_ok ran
      exact consumed_mem consumes.member matched
  case commitWorkbenchRebind fence tokenDigest worker =>
    obtain ⟨result, ran, rfl⟩ := ran
    obtain ⟨⟨owner, live⟩, read, found, ⟨again, -⟩ | commits⟩ := commitWorkbenchRebind_cases ran
    · simp [found, again] at projects
    · simp only [found, Option.bind_some, if_neg commits.first, Option.some.injEq] at projects
      subst projects
      obtain ⟨⟨minted, -, named⟩, -, -⟩ := rebindRow_some found
      obtain ⟨row, member, prepared⟩ := exists_of_countP_one commits.one
      obtain ⟨suspension, state, attempt, fenced⟩ := prepared
      refine ⟨row, member, ⟨suspension, state, attempt, ?_, ?_⟩, ?_⟩
      · -- The transfer was minted for the attempt that now owns the operation.
        rw [fenced, (handed.minted _ minted).validated named.symm live]
      · exact handed.matched _ minted row member suspension (named.symm ▸ attempt)
      · obtain ⟨_, _, _, _, -, same⟩ := commits.writes
        rw [same]
        exact consumed_mem member ⟨suspension, state, attempt, fenced⟩

end Projecting

section Once

variable {H : Hashing} {db : Db} {event : Event} {operation : String} {record : OpRecord}

/-- A projecting event consumes the row that is prepared for it. -/
theorem Event.projects {projection : Projection} (reached : db.Reachable H)
    (projects : event.projection H db operation = some projection) :
    ∃ record, db.lookup operation = some record ∧ ∃ row ∈ record.outbox,
      projection.Presents H row ∧ ∃ record', (event.step H db).lookup operation = some record' ∧
        { row with state := .consumed } ∈ record'.outbox := by
  obtain ⟨call, record, r, called, found, ran, projects⟩ := Event.projection_cases projects
  obtain ⟨-, handed⟩ := handed_invariant.reachable reached operation record found
  obtain ⟨row, member, presents, consumed⟩ := RegistryCall.projects handed ran projects
  have stepped : (OpCall.registry call).run H event.clock (db.scope operation record) = .ok r := ran
  exact ⟨record, found, row, member, presents, r.toOpRecord,
    (Event.step_on called found stepped).2, consumed⟩

/-- A settlement has one outbox row, which moves from pending to prepared to consumed with a rebind
generation that grows with every preparation; and at most one outcome is ever projected from it,
under the attempt, the fence and the rebind generation the row is then prepared for. -/
theorem settlement_consumed_once (reached : db.Reachable H)
    (found : db.lookup operation = some record) :
    (record.outbox.map OutboxRow.suspensionRevision).Nodup ∧
      (∀ later : List Event, ∃ record',
        (Runs.run (Event.step H) later db).lookup operation = some record' ∧
          ∀ row ∈ record.outbox, ∃ row' ∈ record'.outbox,
            row'.suspensionRevision = row.suspensionRevision ∧ row.Moves row') ∧
      ∀ (event : Event) (projection : Projection),
        event.projection H db operation = some projection →
          (∃ row ∈ record.outbox, projection.Presents H row) ∧
            ∀ (later : List Event) (again : Event) (other : Projection),
              again.projection H (Runs.run (Event.step H) later (event.step H db)) operation =
                  some other →
                other.suspensionRevision ≠ projection.suspensionRevision := by
  refine ⟨(handed_invariant.reachable reached operation record found).2.suspensions, ?_, ?_⟩
  · intro later
    obtain ⟨record', there, moves⟩ := settlement_progress.run handed_invariant
      (fun event (_ : event ∈ later) => trivial) (handed_invariant.reachable reached) found
    refine ⟨record', there, fun row member => ?_⟩
    obtain ⟨row', here, moved⟩ := moves row member
    exact ⟨row', here, moved.settlement.1, moved⟩
  · intro event projection projects
    obtain ⟨before, stored, row, member, presents, after, next, consumed⟩ :=
      Event.projects reached projects
    cases stored.symm.trans found
    refine ⟨⟨row, member, presents⟩, ?_⟩
    intro later again other projectsAgain same
    -- The consumed row stays as it is, so a second projection would find it prepared.
    have reachedNext : (event.step H db).Reachable H := reached.run [event]
    obtain ⟨last, there, moves⟩ := settlement_progress.run handed_invariant
      (fun event (_ : event ∈ later) => trivial) (handed_invariant.reachable reachedNext) next
    obtain ⟨row', here, moved⟩ := moves _ consumed
    obtain rfl := moved.ended rfl
    obtain ⟨final, listed, twin, member', presents', -⟩ :=
      Event.projects (reachedNext.run later) projectsAgain
    cases listed.symm.trans there
    have distinct := (handed_invariant.reachable (reachedNext.run later) operation _ there).2
    have ends := List.inj_on_of_nodup_map distinct.suspensions member' here
      (presents'.suspension.trans (same.trans presents.suspension.symm))
    have prepared := presents'.prepared
    rw [ends] at prepared
    cases prepared

/-- The fence of the second attempt of the sample job. -/
def Sample.successorFence : AttemptFence :=
  { attempt := ⟨"op", 2, "op#2"⟩, dispatcherGeneration := 1, leaseEpoch := 2
    ownerDigest := "owner" }

/-- The settled job is claimed again, for the successor of its first planner step. -/
def Sample.succession : List Event :=
  Sample.settled ++ [(Call.on "op" (.registry (.requestDispatch .rlmWorkbenchExecute))).atTime 6,
    (Call.claimNext Sample.claim).atTime 7]

/-- What the successor of the first planner step repeats about its settlement. -/
def Sample.plannerToken : PlannerToken :=
  { operation := "op", suspensionRevision := 1, settlementDigest := "op.ticket.physical.failed_certain"
    outboxDigest := "op.1.op.ticket.physical.failed_certain", rebindGeneration := 1, ticketId := "op.ticket"
    requestDigest := "request", logicalOwner := .planner .initial 0 }

/-- The successor fails the job. -/
def Sample.consume : Event :=
  (Call.on "op" (.registry (.consumePlannerSuccessor Sample.successorFence Sample.plannerToken
    { directive := none, cellProjection := none, terminalState := some .failed, failure := none
      correctionTicket := none }))).atTime 8

/-- The successor of a settled planner step projects its failure, and nothing is projected again. -/
theorem settlement_consumed_once_sample :
    ∃ projection,
      Sample.consume.projection .readable (Sample.db Sample.succession) "op" = some projection ∧
      projection.outcome = .terminal ∧
      ∀ (later : List Event) (again : Event) (other : Projection),
        again.projection .readable (Runs.run (Event.step .readable) later
          (Sample.consume.step .readable (Sample.db Sample.succession))) "op" = some other →
        other.suspensionRevision ≠ projection.suspensionRevision := by
  have projects : ((Sample.db Sample.succession).lookup "op").isSome ∧
      (Sample.consume.projection .readable (Sample.db Sample.succession) "op").any
        fun projection => projection.outcome = .terminal := by decide +kernel
  simp only [Option.isSome_iff_exists, Option.any_eq_true, decide_eq_true_eq] at projects
  obtain ⟨⟨record, found⟩, projection, projects, outcome⟩ := projects
  refine ⟨projection, projects, outcome, ?_⟩
  exact ((settlement_consumed_once (Sample.reachable _) found).2.2 _ _ projects).2

end Once

end Aar
