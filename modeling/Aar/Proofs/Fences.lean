import Aar.Proofs.Ownership

/-! A fence that has become stale stays stale, and no fenced transaction succeeds under it. -/

namespace Aar

open Guarded Table Registry

section Outliving

variable {H : Hashing} {t : Nat}

/-- The clock never reads a time before the given one. -/
def Clock.From (t : Nat) (clock : Clock) : Prop := ∀ reading, t ≤ clock reading

/-- Every attempt and every lease lives on, older, under a generation that has not gone back. -/
structure Outlives (t : Nat) (s s' : Scope) : Prop where
  generation : s.generation ≤ s'.generation
  attempts : ∀ old ∈ s.attempts, ∃ new ∈ s'.attempts, old.Ages new
  leases : ∀ old ∈ s.leases, ∃ new ∈ s'.leases, old.Ages t new

/-- Attempts age step after step. -/
theorem AttemptRow.Ages.trans {first second third : AttemptRow} (before : first.Ages second)
    (after : second.Ages third) : first.Ages third :=
  ⟨after.attemptNo.trans before.attemptNo, after.attemptId.trans before.attemptId,
    after.runtimeGeneration.trans before.runtimeGeneration,
    after.dispatcherGeneration.trans before.dispatcherGeneration,
    fun running => before.running (after.running running)⟩

/-- Leases age step after step, at times that are not before the given one. -/
theorem LeaseRow.Ages.trans {first second third : LeaseRow} (before : first.Ages t second)
    (after : second.Ages t third) : first.Ages t third := by
  refine ⟨after.attemptNo.trans before.attemptNo, after.leaseEpoch.trans before.leaseEpoch,
    after.ownerDigest.trans before.ownerDigest,
    fun held => before.released (after.released held), ?_⟩
  -- An expired lease was not extended before, so it is not extended after.
  rcases before.expires with same | live
  · rw [← same]
    exact after.expires
  · exact .inr live

theorem LeaseRow.Ages.earlier {now : Nat} {old new : LeaseRow} (ages : old.Ages now new)
    (late : t ≤ now) : old.Ages t new :=
  ⟨ages.attemptNo, ages.leaseEpoch, ages.ownerDigest, ages.released,
    ages.expires.imp_right fun live => Nat.lt_of_le_of_lt late live⟩

theorem LocalStep.generation {rules : Rules} {clock : Clock} {s s' : Scope}
    (step : LocalStep H rules clock s s') : s.generation ≤ s'.generation := by
  cases step with
  | call | admitted | visited | expired => exact Nat.le_refl _
  | restarted =>
    rw [(restarted_keeps (clock 0) s).2.2]
    exact Nat.le_succ _
  | elsewhere _ _ same => exact Nat.le_of_eq same.symm

/-- In every run whose clocks do not read an earlier time, attempts and leases live on. -/
theorem outlives_progress (t : Nat) :
    Progress H Unrestricted (Clock.From t) (fun s => Owned s.toOpRecord) (Outlives t) where
  refl s := ⟨Nat.le_refl _, fun old member => ⟨old, member, .refl old⟩,
    fun old member => ⟨old, member, .refl t old⟩⟩
  trans first second third before after := by
    refine ⟨Nat.le_trans before.generation after.generation, fun old member => ?_,
      fun old member => ?_⟩
    · obtain ⟨mid, there, ages⟩ := before.attempts old member
      obtain ⟨new, here, later⟩ := after.attempts mid there
      exact ⟨new, here, ages.trans later⟩
    · obtain ⟨mid, there, ages⟩ := before.leases old member
      obtain ⟨new, here, later⟩ := after.leases mid there
      exact ⟨new, here, ages.trans later⟩
  step clock s s' ticks step owned := by
    refine ⟨step.generation, fun old member => ?_, fun old member => ?_⟩
    · cases step.owns owned with
      | aged aged => exact aged_to aged.attempts member
      | claimed claimed =>
        obtain ⟨new, here, ages, -⟩ := aged_to claimed.attempts (List.mem_append_left _ member)
        exact ⟨new, here, ages⟩
    · cases step.owns owned with
      | aged aged =>
        obtain ⟨new, here, ages⟩ := aged_to aged.leases member
        exact ⟨new, here, ages.earlier (ticks 0)⟩
      | claimed claimed =>
        rw [claimed.leases]
        exact ⟨old, List.mem_append_left _ member, .refl t old⟩

end Outliving

section Fenced

variable {H : Hashing} {clock : Clock} {s s' : Scope}

/-- The registry transactions that act for the owner a fence names. -/
def RegistryCall.FencedBy (fence : AttemptFence) : RegistryCall → Prop
  | heartbeat given _ _ | transitionClaimed given _ _ _ _ _ | parkAttempt given _ _
  | bindCheckpoint given _ _ _ | suspendPlannerAttempt given _ | suspendWorkbenchAttempt given _ _
  | consumePlannerSuccessor given _ _ | commitWorkbenchRebind given _ _
  | acknowledgeWorkbenchRebind given _ _ | bindWorkbenchRecoveryAuthority given _ _ =>
    given = fence
  | _ => False

/-- A fenced transaction succeeds only after its fence has been validated. -/
theorem RegistryCall.FencedBy.validated {call : RegistryCall} {fence : AttemptFence}
    (fenced : call.FencedBy fence) (ran : call.run H clock s = .ok s') :
    ∃ generation owner, validateFence (clock 0) fence generation s = .ok owner := by
  cases call <;> simp only [RegistryCall.FencedBy] at fenced <;> subst fenced <;>
    simp only [RegistryCall.run, map_ok] at ran
  case heartbeat => exact ⟨_, (heartbeat_ok ran).1⟩
  case transitionClaimed | parkAttempt => exact ⟨_, (transitionClaimed_ok ran).1⟩
  case bindCheckpoint => exact ⟨_, (bindCheckpoint_ok ran).1⟩
  case suspendPlannerAttempt =>
    obtain ⟨-, _, _, _, _, _, _, _, _, _, _, suspends, -⟩ := suspendPlannerAttempt_ok ran
    exact ⟨_, suspends.live⟩
  case suspendWorkbenchAttempt =>
    obtain ⟨-, _, _, _, _, _, _, _, _, _, _, suspends, -⟩ := suspendWorkbenchAttempt_ok ran
    exact ⟨_, suspends.live⟩
  case consumePlannerSuccessor =>
    obtain ⟨read, consumes, -⟩ := consumePlannerSuccessor_cases ran
    exact ⟨_, consumes.live⟩
  case commitWorkbenchRebind =>
    obtain ⟨_, ran, -⟩ := ran
    exact ⟨_, (commitWorkbenchRebind_cases ran).1⟩
  case acknowledgeWorkbenchRebind =>
    simp only [Registry.acknowledgeWorkbenchRebind, bind_ok] at ran
    obtain ⟨owner, live, -⟩ := ran
    exact ⟨_, owner, live⟩
  case bindWorkbenchRecoveryAuthority =>
    simp only [Registry.bindWorkbenchRecoveryAuthority, bind_ok] at ran
    obtain ⟨owner, live, -⟩ := ran
    exact ⟨_, owner, live⟩

end Fenced

section Issue

variable {H : Hashing} {clock : Clock} {db db' : Db}

/-- A claim names an attempt of the generation it was claimed in. -/
structure Issued (claim : OperationDispatchClaim) (db : Db) : Prop where
  current : claim.runtimeGeneration = db.generation
  attempt : ∃ record, db.lookup claim.attempt.operation = some record ∧
    ∃ row ∈ record.attempts, row.attemptNo = claim.attempt.attemptNo ∧
      row.attemptId = claim.attempt.attemptId ∧
      row.runtimeGeneration = claim.runtimeGeneration

/-- Claiming one operation stores the attempt that the claim names. -/
theorem claimQueued_issues {request : ClaimRequest} {now : Nat} {s : Scope}
    {result : Scope × OperationDispatchClaim} (ran : claimQueued H request now s = .ok result) :
    result.2.attempt.operation = s.operation ∧
      result.2.runtimeGeneration = request.runtimeGeneration ∧
      ∃ row ∈ result.1.attempts, row.attemptNo = result.2.attempt.attemptNo ∧
        row.attemptId = result.2.attempt.attemptId ∧
        row.runtimeGeneration = result.2.runtimeGeneration := by
  obtain ⟨-, -, _, prepared, _, _, -, prepares, rfl⟩ := claimQueued_ok ran
  obtain ⟨row, member, ages, -⟩ := aged_to prepares.attempts
    (List.mem_append_right _ (List.mem_singleton_self _))
  exact ⟨rfl, rfl, row, member, ages.attemptNo, ages.attemptId, ages.runtimeGeneration⟩

/-- A claim found in the queue is issued in the database it leaves. -/
theorem claimFrom_issues {request : ClaimRequest} {now : Nat} {queue : List QueueEntry}
    {claim : OperationDispatchClaim} (current : request.runtimeGeneration = db.generation)
    (ran : claimFrom H request now queue db = .ok (db', some claim)) : Issued claim db' := by
  induction queue generalizing db with
  | nil => simp [claimFrom] at ran
  | cons entry rest ih =>
    simp only [claimFrom, bind_ok] at ran
    obtain ⟨⟨mid, found⟩, visited, ran⟩ := ran
    obtain ⟨record, r, stored, visit, rfl⟩ := Db.transact_ok.mp visited
    cases found with
    | none =>
      have kept : request.runtimeGeneration = (db.commit entry.operation r).generation := current
      exact ih kept ran
    | some found =>
      simp only [pure_ok, Prod.mk.injEq, Option.some.injEq] at ran
      obtain ⟨rfl, rfl⟩ := ran
      rcases visitQueued_cases visit with ⟨-, none, -⟩ | ⟨-, none⟩ | ⟨claimed, claims, same⟩
      · cases none
      · cases none
      · cases same
        obtain ⟨operation, generation, row, member, names⟩ := claimQueued_issues claims
        refine ⟨generation.trans current, claimed.1.toOpRecord, ?_, row, member, names⟩
        rw [operation]
        show (db.commit entry.operation claimed.1).lookup entry.operation = _
        rw [Db.lookup_commit, if_pos rfl, stored]
        rfl

theorem claimNext_issues {request : ClaimRequest} {claim : OperationDispatchClaim}
    (ran : claimNext H request clock db = .ok (db', some claim)) : Issued claim db' := by
  simp only [claimNext, bind_ok, require_ok] at ran
  obtain ⟨_, -, _, current, ran⟩ := ran
  exact claimFrom_issues current ran

end Issue

section Staleness

variable {H : Hashing} {t : Nat} {db : Db} {claim : OperationDispatchClaim}

/-- The owner of a claim has lost it: by a restart, through its lease or its attempt, or to a
later attempt. -/
inductive Stale (claim : OperationDispatchClaim) (t : Nat) (db : Db) : Prop where
  | restarted (advanced : claim.runtimeGeneration < db.generation)
  | released {record : OpRecord} {lease : LeaseRow}
      (found : db.lookup claim.attempt.operation = some record) (member : lease ∈ record.leases)
      (named : LeasedAs claim.attempt.attemptNo claim.leaseEpoch lease)
      (ended : lease.releasedAtUnixMs ≠ none)
  | expired {record : OpRecord} {lease : LeaseRow}
      (found : db.lookup claim.attempt.operation = some record) (member : lease ∈ record.leases)
      (named : LeasedAs claim.attempt.attemptNo claim.leaseEpoch lease)
      (late : lease.expiresAtUnixMs ≤ t)
  | closed {record : OpRecord} {attempt : AttemptRow}
      (found : db.lookup claim.attempt.operation = some record)
      (member : attempt ∈ record.attempts) (named : NamedAs claim.attempt attempt)
      (stopped : attempt.state ≠ runningAttempt)
  | superseded {record : OpRecord} {attempt : AttemptRow}
      (found : db.lookup claim.attempt.operation = some record)
      (member : attempt ∈ record.attempts)
      (later : claim.attempt.attemptNo < attempt.attemptNo)

/-- No fence is validated once its claim has become stale, at any later time of any run. -/
theorem Stale.refused {issuedIn mid : Db} {between later : List Event} {record : OpRecord}
    {now generation : Nat} (reached : issuedIn.Reachable H) (issued : Issued claim issuedIn)
    (ran : Runs.run (Event.step H) between issuedIn = mid) (stale : Stale claim t mid)
    (ticking : ∀ event ∈ later, event.clock.From t)
    (found : (Runs.run (Event.step H) later mid).lookup claim.attempt.operation = some record)
    (late : t ≤ now) {owner : AttemptRow × LeaseRow} :
    validateFence now claim.fence generation
      ((Runs.run (Event.step H) later mid).scope claim.attempt.operation record) ≠ .ok owner := by
  intro validated
  have live := validateFence_ok validated
  have reachedMid : mid.Reachable H := ran ▸ reached.run between
  have each := owned_invariant.reachable reachedMid
  have owned : Owned record :=
    owned_invariant.reachable (reachedMid.run later) claim.attempt.operation record found
  obtain ⟨runs, numbered, -⟩ := fetchOne_some live.named
  obtain ⟨holds, leased, -⟩ := fetchOne_some live.leased
  -- What the operation was when the claim became stale lives on in what it is now.
  have outlives : ∀ {before : OpRecord}, mid.lookup claim.attempt.operation = some before →
      Outlives t (mid.scope claim.attempt.operation before)
        ((Runs.run (Event.step H) later mid).scope claim.attempt.operation record) := by
    intro before there
    obtain ⟨after, here, outlives⟩ :=
      (outlives_progress t).run owned_invariant ticking each there
    cases here.symm.trans found
    exact outlives
  cases stale with
  | restarted advanced =>
    obtain ⟨first, there, row, member, named, -, started⟩ := issued.attempt
    have timeless : ∀ event ∈ between, event.clock.From 0 := fun _ _ _ => Nat.zero_le _
    obtain ⟨before, here, aged⟩ := (outlives_progress 0).run owned_invariant timeless
      (owned_invariant.reachable reached) there
    rw [ran] at here aged
    -- The attempt of the claim keeps its generation, which is no longer the current one.
    obtain ⟨old, listed, once⟩ := aged.attempts row member
    obtain ⟨attempt, stored, again⟩ := (outlives here).attempts old listed
    have ages := once.trans again
    have same := owned.attempts.injective stored runs
      (ages.attemptNo.trans (named.trans numbered.symm))
    have begun : owner.1.runtimeGeneration = claim.runtimeGeneration :=
      same ▸ ages.runtimeGeneration.trans started
    have current := live.started.trans live.generation
    have onward := (outlives here).generation
    simp only [Db.scope_generation] at current onward
    omega
  | released there member named ended =>
    obtain ⟨lease, stored, ages⟩ := (outlives there).leases _ member
    have same := owned.leases.injective stored holds
      (ages.attemptNo.trans (named.1.trans leased.symm))
    exact ended (ages.released (same ▸ live.held))
  | expired there member named gone =>
    obtain ⟨lease, stored, ages⟩ := (outlives there).leases _ member
    have same := owned.leases.injective stored holds
      (ages.attemptNo.trans (named.1.trans leased.symm))
    have unexpired : now < lease.expiresAtUnixMs := same ▸ live.unexpired
    rcases ages.expires with kept | extended <;> omega
  | closed there member named stopped =>
    obtain ⟨attempt, stored, ages⟩ := (outlives there).attempts _ member
    have same := owned.attempts.injective stored runs
      (ages.attemptNo.trans (named.1.trans numbered.symm))
    exact stopped (ages.running (same ▸ live.running))
  | superseded there member after =>
    obtain ⟨attempt, stored, ages⟩ := (outlives there).attempts _ member
    have last := owned.attempts.latest _ runs live.running
    have bound := (owned.attempts.bounds stored).2
    rw [ages.attemptNo] at bound
    have named : owner.1.attemptNo = claim.attempt.attemptNo := numbered
    omega

variable {issued : Db} {request : ClaimRequest} {clock now : Clock} {between later : List Event}
  {call : RegistryCall}

/-- A claim leaves a reachable database. -/
theorem claimNext_reachable (reached : db.Reachable H)
    (claimed : claimNext H request clock db = .ok (issued, some claim)) : issued.Reachable H := by
  have ran : (Call.claimNext request).run H clock db = .ok issued := by
    simp only [Call.run, claimed, map_ok]
    exact ⟨_, rfl, rfl⟩
  have stepped : Event.step H ⟨.claimNext request, clock⟩ db = issued := by
    simp only [Event.step, ran]
  rw [← stepped]
  exact reached.run [⟨.claimNext request, clock⟩]

/-- Under a stale fence every fenced transaction raises and changes nothing, whatever happened
since; and a lease that has expired is never extended again. -/
theorem stale_fence_powerless (reached : db.Reachable H)
    (claimed : claimNext H request clock db = .ok (issued, some claim))
    (stale : Stale claim t (Runs.run (Event.step H) between issued))
    (ticking : ∀ event ∈ later, event.clock.From t) (fenced : call.FencedBy claim.fence)
    (late : now.From t) :
    let mid := Runs.run (Event.step H) between issued
    let after := Runs.run (Event.step H) later mid
    let stalled : Event := ⟨.on claim.attempt.operation (.registry call), now⟩
    (∃ error, stalled.call.run H now after = .error error) ∧ stalled.step H after = after ∧
      ∀ operation record, mid.lookup operation = some record →
        ∀ lease ∈ record.leases, lease.expiresAtUnixMs ≤ t →
          ∃ record', after.lookup operation = some record' ∧
            ∃ lease' ∈ record'.leases, lease'.attemptNo = lease.attemptNo ∧
              lease'.leaseEpoch = lease.leaseEpoch ∧
              lease'.expiresAtUnixMs = lease.expiresAtUnixMs := by
  intro mid after stalled
  have reachedIssued := claimNext_reachable reached claimed
  have reachedMid : mid.Reachable H := reachedIssued.run between
  have raises : ∃ error, stalled.call.run H now after = .error error := by
    cases ran : stalled.call.run H now after with
    | error error => exact ⟨error, rfl⟩
    | ok written =>
      -- A success would have validated the stale fence.
      obtain ⟨record, r, found, ran, -⟩ := Db.update_ok.mp ran
      obtain ⟨generation, owner, validated⟩ := fenced.validated ran
      exact absurd validated (stale.refused reachedIssued (claimNext_issues claimed) rfl ticking
        found (late 0))
  refine ⟨raises, ?_, ?_⟩
  · obtain ⟨error, raised⟩ := raises
    exact Event.step_error raised
  · intro operation record found lease member expired
    obtain ⟨record', there, outlives⟩ := (outlives_progress t).run owned_invariant ticking
      (owned_invariant.reachable reachedMid) found
    obtain ⟨lease', stored, ages⟩ := outlives.leases lease member
    refine ⟨record', there, lease', stored, ages.attemptNo, ages.leaseEpoch, ?_⟩
    exact ages.expires.resolve_right (Nat.not_lt.mpr expired)

/-- A claim of the queued job that a restart makes stale. -/
theorem stale_fence_powerless_sample :
    ∃ issued claim,
      claimNext .readable Sample.claim (fun _ => 2)
        (Sample.db (Sample.queued "op" .callerDelegated)) = .ok (issued, some claim) ∧
      ∃ error, (Call.on claim.attempt.operation (.registry (.heartbeat claim.fence 1 100))).run
        .readable (fun _ => 4)
        (Runs.run (Event.step .readable) [Call.startRuntime.atTime 3] issued) = .error error := by
  have some_claim : ((claimNext .readable Sample.claim (fun _ => 2)
      (Sample.db (Sample.queued "op" .callerDelegated))).toOption.bind Prod.snd).isSome := by
    decide +kernel
  cases claimed : claimNext .readable Sample.claim (fun _ => 2)
      (Sample.db (Sample.queued "op" .callerDelegated)) with
  | error error =>
    rw [claimed] at some_claim
    cases some_claim
  | ok outcome =>
    obtain ⟨issued, found⟩ := outcome
    obtain ⟨claim, rfl⟩ : ∃ claim, found = some claim := by
      rw [claimed] at some_claim
      exact Option.isSome_iff_exists.mp some_claim
    refine ⟨issued, claim, rfl, ?_⟩
    have stale : Stale claim 0 (Runs.run (Event.step .readable) [Call.startRuntime.atTime 3]
        issued) := by
      refine .restarted ?_
      have next : (startRuntime (fun _ => 3) issued).generation = issued.generation + 1 :=
        startRuntime_keeps.1
      rw [(claimNext_issues claimed).current]
      exact next ▸ Nat.lt_succ_self _
    have fenced : RegistryCall.FencedBy claim.fence (.heartbeat claim.fence 1 100) := rfl
    have late : Clock.From 0 fun _ => 4 := fun _ => Nat.zero_le _
    exact (stale_fence_powerless (Sample.reachable _) claimed stale
      (fun event (member : event ∈ []) => absurd member List.not_mem_nil) fenced late).1

end Staleness

end Aar
