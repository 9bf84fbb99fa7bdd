import Aar.Lib.Succession
import Aar.Proofs.Runs

/-! Who owns an operation: attempts and leases are numbered in order, and at most one is live. -/

namespace Aar

open Guarded Table Registry

section Rows

/-- An attempt keeps its identity, and never runs again once it has stopped. -/
structure AttemptRow.Ages (old new : AttemptRow) : Prop where
  attemptNo : new.attemptNo = old.attemptNo
  attemptId : new.attemptId = old.attemptId
  runtimeGeneration : new.runtimeGeneration = old.runtimeGeneration
  dispatcherGeneration : new.dispatcherGeneration = old.dispatcherGeneration
  running : new.state = runningAttempt → old.state = runningAttempt

/-- A lease keeps its identity, is released for good, and is extended only while it is live. -/
structure LeaseRow.Ages (now : Nat) (old new : LeaseRow) : Prop where
  attemptNo : new.attemptNo = old.attemptNo
  leaseEpoch : new.leaseEpoch = old.leaseEpoch
  ownerDigest : new.ownerDigest = old.ownerDigest
  released : new.releasedAtUnixMs = none → old.releasedAtUnixMs = none
  expires : new.expiresAtUnixMs = old.expiresAtUnixMs ∨ now < old.expiresAtUnixMs

theorem AttemptRow.Ages.refl (row : AttemptRow) : row.Ages row := ⟨rfl, rfl, rfl, rfl, id⟩

theorem LeaseRow.Ages.refl (now : Nat) (row : LeaseRow) : row.Ages now row :=
  ⟨rfl, rfl, rfl, id, .inl rfl⟩

/-- The attempt runs. -/
abbrev AttemptRow.Live (row : AttemptRow) : Prop := row.state = runningAttempt

/-- The lease is not released. -/
abbrev LeaseRow.Live (row : LeaseRow) : Prop := row.releasedAtUnixMs = none

/-- No attempt of the operation runs and no lease is held. -/
structure Quiet (record : OpRecord) : Prop where
  attempts : ∀ row ∈ record.attempts, ¬ row.Live
  leases : ∀ row ∈ record.leases, ¬ row.Live

/-- The ownership rows of an operation fit together. -/
structure Owned (record : OpRecord) : Prop where
  attempts : Succession AttemptRow.attemptNo AttemptRow.Live record.attempts
  leases : Succession LeaseRow.attemptNo LeaseRow.Live record.leases
  epochs : ∀ lease ∈ record.leases, lease.leaseEpoch = lease.attemptNo
  paired : record.leases.length = record.attempts.length
  accepted : record.row.state = .accepted → Quiet record
  running : record.row.state = .running → ∀ lease ∈ record.leases, lease.Live →
    ∃ attempt ∈ record.attempts, attempt.Live
  current : ∀ attemptNo ∈ record.dispatch.bind DispatchRow.currentAttemptNo,
    attemptNo = record.attempts.length

/-- The outcome of an operation is unchanged. -/
structure SameOutcome (old new : OperationRow) : Prop where
  state : new.state = old.state
  certainty : new.certainty = old.certainty
  recordRevision : new.recordRevision = old.recordRevision
  resultJson : new.resultJson = old.resultJson
  failure : new.failure = old.failure

/-- The ownership rows have aged: nobody new owns the operation. -/
structure Aged (now : Nat) (s s' : OpRecord) : Prop where
  attempts : List.Forall₂ AttemptRow.Ages s.attempts s'.attempts
  leases : List.Forall₂ (LeaseRow.Ages now) s.leases s'.leases
  current : ∀ attemptNo ∈ s'.dispatch.bind DispatchRow.currentAttemptNo,
    attemptNo ∈ s.dispatch.bind DispatchRow.currentAttemptNo ∨ attemptNo = s.attempts.length
  accepted : s'.row.state = .accepted → s.row.state = .accepted ∨ Quiet s'
  running : s'.row.state = .running → (s.row.state = .running ∨ s.row.state = .accepted) ∧
    s'.attempts.map AttemptRow.state = s.attempts.map AttemptRow.state ∧
    s'.leases.map LeaseRow.releasedAtUnixMs = s.leases.map LeaseRow.releasedAtUnixMs
  final : s.row.state.Terminal → SameOutcome s.row s'.row

/-- A claim gave an accepted operation a new owner. -/
structure Claimed (H : Hashing) (request : ClaimRequest) (now : Nat) (s s' : Scope) : Prop where
  accepted : s.row.state = .accepted
  current : request.runtimeGeneration = s.generation
  fresh : (nextSuccessor H request s).attemptId ∉ s.attempts.map AttemptRow.attemptId
  attempts : List.Forall₂ (fun old new => old.Ages new ∧ new.state = old.state)
    (s.attempts ++ [claimedAttempt request (nextSuccessor H request s)]) s'.attempts
  leases : s'.leases = s.leases ++ [claimedLease request (nextSuccessor H request s) now]
  running : s'.row.state = .running
  dispatch : s'.dispatch.bind DispatchRow.currentAttemptNo =
    some (nextSuccessor H request s).attemptNo

/-- What one local step does to the ownership rows. -/
inductive OwnStep (H : Hashing) (now : Nat) (s s' : Scope) : Prop where
  | aged (aged : Aged now s.toOpRecord s'.toOpRecord)
  | claimed {request : ClaimRequest} (claimed : Claimed H request now s s')

end Rows

section Fence

/-- What a validated fence says about the rows it names. -/
structure LiveFence (now : Nat) (fence : AttemptFence) (runtimeGeneration : Nat) (s : Scope)
    (attempt : AttemptRow) (lease : LeaseRow) : Prop where
  generation : runtimeGeneration = s.generation
  named : fencedAttempt fence s = some attempt
  started : attempt.runtimeGeneration = runtimeGeneration
  dispatcher : attempt.dispatcherGeneration = fence.dispatcherGeneration
  running : attempt.Live
  leased : fencedLease fence.attempt.attemptNo fence.leaseEpoch s = some lease
  owner : lease.ownerDigest = fence.ownerDigest
  held : lease.Live
  unexpired : now < lease.expiresAtUnixMs
  dispatch : DispatchRuns s.dispatch fence.attempt.attemptNo
  row : s.row.runtimeGeneration = runtimeGeneration
  outer : s.row.state ≠ .accepted

/-- A fence is validated only against rows it still matches. -/
theorem validateFence_ok {now : Nat} {fence : AttemptFence} {generation : Nat} {s : Scope}
    {owner : AttemptRow × LeaseRow} (live : validateFence now fence generation s = .ok owner) :
    LiveFence now fence generation s owner.1 owner.2 := by
  simp only [validateFence, bind_ok, require_ok, orRaise_ok, pure_ok] at live
  obtain ⟨_, current, attempt, named, _, started, _, dispatcher, _, running, lease, leased, _,
    owned, _, held, _, unexpired, _, dispatch, _, row, _, outer, rfl⟩ := live
  exact ⟨current, named, started, dispatcher, running, leased, owned, held, unexpired, dispatch,
    row, outer⟩

end Fence

section Aging

variable {now : Nat} {s s' : OpRecord}

theorem aged_attempts {rows : List AttemptRow} : List.Forall₂ AttemptRow.Ages rows rows :=
  List.forall₂_same.mpr fun row _ => AttemptRow.Ages.refl row

theorem aged_leases {rows : List LeaseRow} : List.Forall₂ (LeaseRow.Ages now) rows rows :=
  List.forall₂_same.mpr fun row _ => LeaseRow.Ages.refl now row

theorem AttemptRow.Ages.closed (row : AttemptRow) {state : AttemptState}
    (stopped : state ≠ runningAttempt) {certainty : OutcomeCertainty} {reason : Option String}
    {ended : Option Nat} : row.Ages { row with
      state, certainty, recoveryReason := reason, endedAtUnixMs := ended } :=
  ⟨rfl, rfl, rfl, rfl, fun running => absurd running stopped⟩

theorem LeaseRow.Ages.closed (row : LeaseRow) (ended : Nat) :
    row.Ages now { row with releasedAtUnixMs := some ended } :=
  ⟨rfl, rfl, rfl, fun held => (by cases held), .inl rfl⟩

theorem SameOutcome.refl (row : OperationRow) : SameOutcome row row := ⟨rfl, rfl, rfl, rfl, rfl⟩

/-- Attempts and leases that stay as they are age, whatever the outer operation does. -/
theorem Aged.outer (attempts : s'.attempts = s.attempts) (leases : s'.leases = s.leases)
    (current : ∀ attemptNo ∈ s'.dispatch.bind DispatchRow.currentAttemptNo,
      attemptNo ∈ s.dispatch.bind DispatchRow.currentAttemptNo)
    (accepted : s'.row.state = .accepted → s.row.state = .accepted)
    (running : s'.row.state = .running → s.row.state = .running ∨ s.row.state = .accepted)
    (final : s.row.state.Terminal → SameOutcome s.row s'.row) : Aged now s s' where
  attempts := attempts ▸ aged_attempts
  leases := leases ▸ aged_leases
  current attemptNo named := .inl (current attemptNo named)
  accepted state := .inl (accepted state)
  running state := ⟨running state, by rw [attempts], by rw [leases]⟩
  final := final

theorem Aged.same (row : s'.row = s.row) (attempts : s'.attempts = s.attempts)
    (leases : s'.leases = s.leases) (dispatch : s'.dispatch = s.dispatch) : Aged now s s' := by
  refine .outer attempts leases ?_ ?_ ?_ ?_
  · rw [dispatch]
    exact fun _ named => named
  · rw [row]
    exact id
  · rw [row]
    exact .inl
  · rw [row]
    exact fun _ => .refl s.row

/-- An open operation stopped: its attempts and leases age. -/
theorem Aged.stopped (attempts : List.Forall₂ AttemptRow.Ages s.attempts s'.attempts)
    (leases : List.Forall₂ (LeaseRow.Ages now) s.leases s'.leases)
    (current : ∀ attemptNo ∈ s'.dispatch.bind DispatchRow.currentAttemptNo,
      attemptNo ∈ s.dispatch.bind DispatchRow.currentAttemptNo ∨ attemptNo = s.attempts.length)
    (unfinished : ¬ s.row.state.Terminal) (idle : s'.row.state ≠ .running)
    (quiet : s'.row.state = .accepted → Quiet s') : Aged now s s' where
  attempts := attempts
  leases := leases
  current := current
  accepted state := .inr (quiet state)
  running state := absurd state idle
  final terminal := absurd terminal unfinished

end Aging

section Closing

variable {now : Nat} {s s' : Scope}

/-- Closing the named running attempt leaves no attempt running. -/
theorem Owned.closes {record : OpRecord} (owned : Owned record) {attempt : OperationAttemptRef}
    {change : AttemptRow → AttemptRow} (found : ∃ row ∈ record.attempts, RunningAs attempt row)
    (stops : ∀ row, RunningAs attempt row → ¬ (change row).Live) :
    ∀ row ∈ updateWhere record.attempts (RunningAs attempt) change, ¬ row.Live := by
  -- Only one attempt runs, and it is the named one.
  obtain ⟨target, there, runs⟩ := found
  refine updateWhere_stops (fun row member alive => ?_) stops
  rwa [owned.attempts.unique member there alive runs.2.2]

/-- Releasing the named held lease leaves no lease held. -/
theorem Owned.releases {record : OpRecord} (owned : Owned record) {attemptNo leaseEpoch : Nat}
    {change : LeaseRow → LeaseRow} (found : ∃ row ∈ record.leases, HeldAs attemptNo leaseEpoch row)
    (stops : ∀ row, HeldAs attemptNo leaseEpoch row → ¬ (change row).Live) :
    ∀ row ∈ updateWhere record.leases (HeldAs attemptNo leaseEpoch) change, ¬ row.Live := by
  obtain ⟨target, there, held⟩ := found
  refine updateWhere_stops (fun row member alive => ?_) stops
  rwa [owned.leases.unique member there alive held.2.2]

/-- An owner that gives its attempt up leaves the operation without an owner. -/
theorem Registry.GivesUp.aged {fence : AttemptFence} {state : OperationState} {attempt : AttemptState}
    {dispatch : DispatchState} (gives : GivesUp fence state attempt dispatch s s')
    (owned : Owned s.toOpRecord) (stopped : attempt ≠ runningAttempt) (idle : state ≠ .running) :
    Aged now s.toOpRecord s'.toOpRecord := by
  obtain ⟨_, row⟩ := gives.row
  obtain ⟨reason, ended, attempts⟩ := gives.attempts
  obtain ⟨released, leases⟩ := gives.leases
  obtain ⟨current, _, stored, runs, left⟩ := gives.dispatch
  have quiet : Quiet s'.toOpRecord := by
    constructor
    · rw [attempts]
      exact owned.closes (exists_of_countP_one gives.one) fun _ _ => stopped
    · rw [leases]
      exact owned.releases (exists_of_countP_one gives.held) fun _ _ held => by cases held
  refine .stopped ?_ ?_ ?_ ?_ ?_ fun _ => quiet
  · rw [attempts]
    exact updateWhere_aged .refl fun row _ _ => .closed row stopped
  · rw [leases]
    exact updateWhere_aged (.refl now) fun row _ _ => .closed row released
  · rw [left, stored]
    exact fun _ named => .inl named
  · rw [gives.running]
    decide
  · rw [row]
    exact idle

/-- The attempt a recovery decision is about is the last one. -/
theorem Owned.priorAttempt (owned : Owned s.toOpRecord) {prior : AttemptRow}
    (found : Registry.priorAttempt s = some prior) :
    prior ∈ s.attempts ∧ prior.attemptNo = s.attempts.length := by
  unfold Registry.priorAttempt at found
  split at found
  · rename_i attemptNo named
    obtain ⟨member, same⟩ := fetchOne_some found
    exact ⟨member, same.trans (owned.current attemptNo named)⟩
  · obtain ⟨member, -, most⟩ := fetchMax_some found
    refine ⟨member, Nat.le_antisymm (owned.attempts.bounds member).2 ?_⟩
    -- The last attempt is stored, and no attempt has a larger number.
    rw [← owned.attempts.maxOf]
    have positive : 0 < maxOf s.attempts AttemptRow.attemptNo := by
      rw [owned.attempts.maxOf]
      exact List.length_pos_of_mem member
    obtain ⟨last, stored, same⟩ := maxOf_attained positive
    rw [← same]
    exact most last stored trivial

/-- Without an attempt a recovery decision could be about, nobody owns the operation. -/
theorem Owned.unattempted (owned : Owned s.toOpRecord)
    (absent : Registry.priorAttempt s = none) : s.attempts = [] := by
  unfold Registry.priorAttempt at absent
  split at absent
  · rename_i attemptNo named
    by_contra nonempty
    have positive : 0 < maxOf s.attempts AttemptRow.attemptNo := by
      rw [owned.attempts.maxOf]
      exact List.length_pos_iff.mpr nonempty
    obtain ⟨last, stored, same⟩ := maxOf_attained positive
    rw [owned.attempts.maxOf, ← owned.current attemptNo named] at same
    exact fetchOne_none.mp absent last stored same
  · by_contra nonempty
    obtain ⟨row, member⟩ := List.exists_mem_of_ne_nil _ nonempty
    exact fetchMax_none absent row member trivial

/-- Closing the predecessor of a recovery decision leaves nobody as owner. -/
theorem closePrior_aged (owned : Owned s.toOpRecord) (reason : String) (ended : Nat) :
    List.Forall₂ AttemptRow.Ages s.attempts (closePrior reason ended s).attempts ∧
      List.Forall₂ (LeaseRow.Ages now) s.leases (closePrior reason ended s).leases ∧
      Quiet (closePrior reason ended s).toOpRecord := by
  cases found : Registry.priorAttempt s with
  | none =>
    have empty := owned.unattempted found
    have leaseless : s.leases = [] :=
      List.length_eq_zero_iff.mp (owned.paired.trans (List.length_eq_zero_iff.mpr empty))
    simp only [closePrior, found]
    refine ⟨aged_attempts, aged_leases, ?_, ?_⟩
    · rw [empty]
      simp
    · rw [leaseless]
      simp
  | some prior =>
    obtain ⟨member, last⟩ := owned.priorAttempt found
    have stopped : AttemptState.outer .indeterminate ≠ runningAttempt := by decide
    have covers : ∀ row ∈ s.leases, row.Live → HeldBy prior.attemptNo row := fun row stored alive =>
      ⟨by rw [owned.leases.latest row stored alive, owned.paired, last], alive⟩
    have released : ∀ row ∈ updateWhere s.leases (HeldBy prior.attemptNo) (fun row =>
        { row with releasedAtUnixMs := some ended }), ¬ row.Live :=
      updateWhere_stops covers fun _ _ held => by cases held
    have leases : List.Forall₂ (LeaseRow.Ages now) s.leases
        (updateWhere s.leases (HeldBy prior.attemptNo) fun row =>
          { row with releasedAtUnixMs := some ended }) :=
      updateWhere_aged (.refl now) fun row _ _ => .closed row ended
    by_cases runs : prior.state = runningAttempt
    · simp only [closePrior, found, runs, if_true]
      refine ⟨updateWhere_aged .refl fun row _ _ => .closed row stopped, leases, ?_, released⟩
      refine updateWhere_stops (fun row stored alive => ?_) fun _ _ => stopped
      rw [owned.attempts.latest row stored alive, last]
    · simp only [closePrior, found, runs, if_false]
      refine ⟨aged_attempts, leases, fun row stored alive => runs ?_, released⟩
      -- A running attempt would be the last one, which does not run.
      have same := owned.attempts.injective stored member
        ((owned.attempts.latest row stored alive).trans last.symm)
      exact same ▸ alive

end Closing

section Calls

variable {H : Hashing} {clock : Clock} {s s' : Scope}

/-- An outer transition moves an open operation, and never back to acceptance. -/
theorem transition_aged {change : Transition} {generation : Nat}
    (ran : transition change generation clock s = .ok s')
    (opens : ∀ state ∈ change.expectedStates, ¬ state.Terminal)
    (leaves : change.state ≠ .accepted)
    (starts : change.state = .running → change.expectedStates = [.accepted]) :
    Aged (clock 0) s.toOpRecord s'.toOpRecord := by
  obtain ⟨expected, -, _, _, rfl⟩ := transition_ok ran
  refine .outer rfl rfl (fun _ named => named) (fun state => absurd state leaves) ?_
    fun terminal => absurd terminal (opens _ expected)
  intro state
  rw [starts state, List.mem_singleton] at expected
  exact .inr expected

/-- A claimed outcome closes a running operation, and never back to acceptance. -/
theorem transitionClaimed_aged {fence : AttemptFence} {generation : Nat} {state : OperationState}
    {resultJson : Option String} {failure : Option FailureEnvelope} {note : String}
    (ran : transitionClaimed fence generation state resultJson failure note clock s = .ok s') :
    Aged (clock 0) s.toOpRecord s'.toOpRecord := by
  obtain ⟨-, closed, running, row, _, _, _, _, same, current, rfl⟩ := transitionClaimed_ok ran
  have ended : state ≠ .running ∧ state ≠ .accepted := by
    rcases closed with terminal | indeterminate
    · constructor <;> rintro rfl <;> exact absurd terminal (by decide)
    · rw [indeterminate]
      decide
  refine .stopped (updateWhere_aged .refl fun row _ _ => .closed row ?_)
    (updateWhere_aged (.refl _) fun row _ _ => .closed row _) (fun _ named => .inl (current _ named))
    (fun terminal => absurd (running ▸ terminal) (by decide)) (same ▸ ended.1)
    fun accepted => absurd (same ▸ accepted) ended.2
  rintro runs
  cases runs
  exact ended.1 rfl

/-- Every registry transaction lets the ownership rows age. -/
theorem RegistryCall.aged {call : RegistryCall} (owned : Owned s.toOpRecord)
    (ran : call.run H clock s = .ok s') : Aged (clock 0) s.toOpRecord s'.toOpRecord := by
  cases call <;> simp only [RegistryCall.run, map_ok] at ran
  case bindRecoveryPolicy =>
    obtain ⟨_, _, _, rfl⟩ := Registry.bindRecoveryPolicy_effect ran
    exact .same rfl rfl rfl rfl
  case begin =>
    exact transition_aged ran (by simp [OperationState.Terminal, TERMINAL_STATES]) (by simp)
      fun _ => rfl
  case succeed _ _ reconciled | fail _ _ reconciled _ =>
    cases reconciled <;>
      exact transition_aged ran (by simp [OperationState.Terminal, TERMINAL_STATES]) (by simp)
        fun running => by cases running
  case cancel | timeOut | markIndeterminate =>
    exact transition_aged ran (by simp [OperationState.Terminal, TERMINAL_STATES]) (by simp)
      fun running => by cases running
  case requestDispatch =>
    rcases Registry.requestDispatch_ok ran with rfl | ⟨-, row, _, _, named, -, rfl⟩
    · exact .same rfl rfl rfl rfl
    · refine .outer rfl rfl ?_ id .inl fun _ => .refl s.row
      show ∀ attemptNo ∈ row.currentAttemptNo, _
      rw [named]
      exact fun _ named => named
  case requestCancel =>
    rcases Registry.requestCancel_ok ran with ⟨rfl, -⟩ | ⟨_, _, _, -, -, -, rfl⟩ <;>
      exact .same rfl rfl rfl rfl
  case heartbeat =>
    obtain ⟨⟨owner, live⟩, rfl⟩ := Registry.heartbeat_ok ran
    have fenced := validateFence_ok live
    obtain ⟨stored, named⟩ := fetchOne_some fenced.leased
    refine ⟨aged_attempts, updateWhere_aged (.refl _) fun row member leased =>
      ⟨rfl, rfl, rfl, id, .inr ?_⟩, fun _ named => .inl named, .inl,
      fun state => ⟨.inl state, rfl, updateWhere_column fun _ _ => rfl⟩, fun _ => .refl _⟩
    -- The extended lease is the validated one, which had not expired.
    rw [owned.leases.injective member stored (leased.1.trans named.1.symm)]
    exact fenced.unexpired
  case transitionClaimed | parkAttempt => exact transitionClaimed_aged ran
  case bindCheckpoint =>
    obtain ⟨-, rfl | ⟨_, _, _, rfl⟩⟩ := Registry.bindCheckpoint_ok ran
    · exact .same rfl rfl rfl rfl
    · exact ⟨updateWhere_aged .refl fun row _ _ => ⟨rfl, rfl, rfl, rfl, id⟩, aged_leases,
        fun _ named => .inl named, .inl,
        fun state => ⟨.inl state, updateWhere_column fun _ _ => rfl, rfl⟩, fun _ => .refl _⟩
  case finishAttempt =>
    rcases Registry.finishAttempt_ok ran with
      rfl | ⟨state, _, dispatch, stopped, idle, closed, current, rfl⟩
    · exact .same rfl rfl rfl rfl
    · refine ⟨updateWhere_aged .refl fun row _ _ => .closed row ?_,
        updateWhere_aged (.refl _) fun row _ _ => .closed row _, ?_, .inl,
        fun running => absurd running idle, fun _ => .refl _⟩
      · rintro same
        cases same
        exact stopped rfl
      · show ∀ attemptNo ∈ dispatch.bind _, _
        rw [current]
        exact fun _ named => .inl named
  case suspendPlannerAttempt =>
    obtain ⟨gives, -⟩ := Registry.suspendPlannerAttempt_ok ran
    exact gives.aged owned (by decide) (by decide)
  case suspendWorkbenchAttempt =>
    obtain ⟨gives, -⟩ := Registry.suspendWorkbenchAttempt_ok ran
    exact gives.aged owned (by decide) (by decide)
  case consumePlannerSuccessor =>
    obtain ⟨read, -, ⟨state, terminal, _, _, ran⟩ | ⟨_, _, -, ran⟩ | ⟨-, _, _, _, -, ran⟩⟩ :=
      Registry.consumePlannerSuccessor_cases ran
    · have ended : state ≠ .running := by rintro rfl; exact absurd terminal (by decide)
      refine (Registry.projectPlannerTerminal_ok ran).1.of_outbox.aged owned ?_ ended
      rintro same
      cases same
      exact ended rfl
    · exact (Registry.projectCorrection_ok ran).1.of_outbox.aged owned (by decide) (by decide)
    · obtain ⟨_, _, _, _, _, _, -, -, -, -, rfl⟩ := Registry.projectDirective_ok ran
      exact .same rfl rfl rfl rfl
  case commitWorkbenchRebind =>
    obtain ⟨result, ran, rfl⟩ := ran
    obtain ⟨_, _, _, _, _, _, _, _, same⟩ := Registry.commitWorkbenchRebind_effect ran
    rw [same]
    exact .same rfl rfl rfl rfl
  case acknowledgeWorkbenchRebind =>
    obtain ⟨_, _, _, -, rfl⟩ := Registry.acknowledgeWorkbenchRebind_effect ran
    exact .same rfl rfl rfl rfl
  case markWorkbenchRebindWorkerLost =>
    obtain ⟨_, _, _, _, _, _, rfl⟩ := Registry.markWorkbenchRebindWorkerLost_effect ran
    exact .same rfl rfl rfl rfl
  case bindWorkbenchRecoveryAuthority =>
    obtain ⟨_, _, _, rfl⟩ := Registry.bindWorkbenchRecoveryAuthority_effect ran
    exact .same rfl rfl rfl rfl
  case cancelQueuedDispatch =>
    obtain ⟨result, ran, rfl⟩ := ran
    rcases Registry.cancelQueuedDispatch_ok ran with same |
      ⟨unowned, row, dispatch, _, _, cancelled, current, ended⟩
    · rw [same]
      exact .same rfl rfl rfl rfl
    · have rows : result.1.row = row ∧ result.1.attempts = s.attempts ∧
          result.1.leases = s.leases ∧ result.1.dispatch = dispatch := by
        rcases ended with ⟨_, _, _, _, -, same⟩ | ⟨-, same⟩ <;> rw [same] <;>
          exact ⟨rfl, rfl, rfl, rfl⟩
      obtain ⟨rows, attempts, leases, dispatches⟩ := rows
      refine .outer attempts leases ?_ ?_ ?_ fun terminal =>
        absurd (unowned.1 ▸ terminal) (by decide)
      · rw [dispatches, current]
        exact fun _ named => named
      · rw [rows, cancelled]
        exact fun state => by cases state
      · rw [rows, cancelled]
        exact fun state => by cases state
  case requeueIndeterminate =>
    obtain ⟨indeterminate, row, dispatch, _, _, _, _, _, state, current, rfl⟩ :=
      Registry.requeueIndeterminate_ok ran
    obtain ⟨attempts, leases, quiet⟩ := closePrior_aged owned _ (clock 0)
    refine .stopped attempts leases ?_
      (fun terminal => absurd (indeterminate ▸ terminal) (by decide)) ?_
      fun _ => ⟨quiet.attempts, quiet.leases⟩
    · intro attemptNo named
      refine (current attemptNo named).imp_right fun missing => ?_
      obtain ⟨absent, prior⟩ := missing
      -- A missing dispatch row is made anew for the attempt the decision is about.
      simp only [Registry.priorAttemptNo, absent, Option.bind_none, Option.or_none,
        Option.map_eq_some_iff] at prior
      obtain ⟨attempt, found, rfl⟩ := prior
      exact (owned.priorAttempt found).2
    · show row.state ≠ _
      rcases state with state | state <;> rw [state] <;> decide
  case recoverTerminalFromReceipt =>
    obtain ⟨indeterminate, receipt, row, dispatch, _, _, _, _, _, state, current, rfl⟩ :=
      Registry.recoverTerminalFromReceipt_ok ran
    have ended : row.state ≠ .running ∧ row.state ≠ .accepted := by
      rw [state]
      constructor <;> rintro rfl <;> exact absurd receipt (by decide)
    refine .stopped (updateWhere_aged .refl fun row _ _ => ⟨rfl, rfl, rfl, rfl, ?_⟩) aged_leases ?_
      (fun terminal => absurd (indeterminate ▸ terminal) (by decide)) ended.1
      fun accepted => absurd accepted ended.2
    · rintro same
      cases same
      exact absurd state ended.1
    · show ∀ attemptNo ∈ dispatch.bind _, _
      rw [current]
      exact fun _ named => .inl named
  case succeedWorkspaceCheckpoint =>
    obtain ⟨running, row, _, _, succeeded, rfl⟩ := Registry.succeedWorkspaceCheckpoint_ok ran
    refine .outer rfl rfl (fun _ named => named) ?_ ?_ ?_
    · exact fun state => by rw [show row.state = .accepted from state] at succeeded; cases succeeded
    · exact fun state => by rw [show row.state = .running from state] at succeeded; cases succeeded
    · exact fun terminal => absurd (running ▸ terminal) (by decide)
  case recordWorkspaceCheckpoint =>
    obtain rfl := Registry.recordWorkspaceCheckpoint_effect ran
    exact .same rfl rfl rfl rfl
  case selectWorkspaceCheckpoint =>
    obtain ⟨_, _, _, rfl⟩ := Registry.selectWorkspaceCheckpoint_effect ran
    exact .same rfl rfl rfl rfl
  case markWorkspaceCheckpointRestored =>
    obtain ⟨_, _, _, rfl⟩ := Registry.markWorkspaceCheckpointRestored_effect ran
    exact .same rfl rfl rfl rfl

end Calls

section Steps

variable {H : Hashing} {clock : Clock} {s s' : Scope}

/-- Preparing a successor keeps the identity and the state of every attempt. -/
theorem Registry.Prepares.attempts {successor : Successor} (prepares : Prepares H successor s s') :
    List.Forall₂ (fun old new => old.Ages new ∧ new.state = old.state) s.attempts s'.attempts := by
  have same : ∀ row : AttemptRow, row.Ages row ∧ row.state = row.state := fun row => ⟨.refl row, rfl⟩
  cases prepares with
  | nothing | planner => exact List.forall₂_same.mpr fun row _ => same row
  | takenOver | workbench =>
    exact updateWhere_aged same fun row _ _ => ⟨⟨rfl, rfl, rfl, rfl, id⟩, rfl⟩

/-- Claiming a queued operation gives it a new owner. -/
theorem claimQueued_claimed {request : ClaimRequest} {now : Nat}
    {result : Scope × OperationDispatchClaim}
    (current : request.runtimeGeneration = s.generation)
    (queued : s.dispatch.any fun row => row.state = .queued)
    (ran : claimQueued H request now s = .ok result) :
    Claimed H request now s (s.settle result.1) := by
  obtain ⟨accepted, fresh, dispatch, prepared, _, _, stored, prepares, rfl⟩ := claimQueued_ok ran
  refine ⟨accepted, current, fresh, prepares.attempts, prepares.frame.2.2.1, rfl, ?_⟩
  -- The dispatch row was queued, so it now names the new attempt.
  have state : dispatch.state = .queued := by simpa [stored] using queued
  show (patchWhere s.dispatch _ _).bind DispatchRow.currentAttemptNo = _
  simp only [patchWhere, stored, Option.map_some, state, if_true, Option.bind_some]

/-- A visit lets the ownership rows age, or gives the operation a new owner. -/
theorem visitQueued_owns {request : ClaimRequest} {now : Nat}
    {result : Scope × Option OperationDispatchClaim}
    (current : request.runtimeGeneration = s.generation)
    (queued : s.dispatch.any fun row => row.state = .queued)
    (ran : visitQueued H request now s = .ok result) :
    OwnStep H now s (s.settle result.1) := by
  have kept : ∀ (change : DispatchRow → DispatchRow),
      (∀ row, (change row).currentAttemptNo = row.currentAttemptNo) →
      (s.dispatch.map change).bind DispatchRow.currentAttemptNo =
        s.dispatch.bind DispatchRow.currentAttemptNo := by
    intro change keeps
    cases s.dispatch with
    | none => rfl
    | some row => exact keeps row
  rcases visitQueued_cases ran with ⟨closed, -, same⟩ | ⟨accepted, rfl⟩ | ⟨claimed, claims, rfl⟩
  · refine .aged (.outer (by rw [same]; rfl) (by rw [same]; rfl) ?_ ?_ ?_ ?_)
    · rw [same]
      exact fun attemptNo named => (kept (fun row => { row with state := .parked })
        (fun _ => rfl)) ▸ named
    · rw [same]
      exact id
    · rw [same]
      exact .inl
    · rw [same]
      exact fun _ => .refl s.row
  · have ended : (expireQueued now s).row.state = .timedOut := by
      simp only [expireQueued, insertEvent, accepted, if_true]
    refine .aged (.outer rfl rfl ?_ (fun state => ?_) (fun state => ?_)
      fun terminal => absurd (accepted ▸ terminal) (by decide))
    · exact fun attemptNo named => (kept (fun row => { row with
        state := .completed, finishedAtUnixMs := some now }) (fun _ => rfl)) ▸ named
    · exact absurd (ended.symm.trans state) (by decide)
    · exact absurd (ended.symm.trans state) (by decide)
  · exact .claimed (claimQueued_claimed current queued claims)

/-- Fencing an expired lease closes its attempt, and ends a running operation. -/
theorem fenceExpired_aged (attemptNo leaseEpoch now : Nat) :
    Aged now s.toOpRecord (fenceExpired attemptNo leaseEpoch now s).toOpRecord := by
  have attempts : List.Forall₂ AttemptRow.Ages s.attempts
      (fenceExpired attemptNo leaseEpoch now s).attempts :=
    updateWhere_aged .refl fun row _ _ => .closed row (by decide)
  have leases : List.Forall₂ (LeaseRow.Ages now) s.leases
      (fenceExpired attemptNo leaseEpoch now s).leases :=
    updateWhere_aged (.refl now) fun row _ _ => .closed row now
  by_cases running : s.row.state = .running
  · have ended : (fenceExpired attemptNo leaseEpoch now s).row.state = .indeterminate := by
      simp only [fenceExpired, insertEvent, running, if_true]
    refine .stopped attempts leases (fun _ named => .inl named)
      (fun terminal => absurd (running ▸ terminal) (by decide)) ?_ fun accepted => ?_
    · rw [ended]
      decide
    · exact absurd (ended.symm.trans accepted) (by decide)
  · have same : (fenceExpired attemptNo leaseEpoch now s).row = s.row := by
      simp only [fenceExpired, insertEvent, running, if_false]
    refine ⟨attempts, leases, fun _ named => .inl named, ?_, ?_, ?_⟩ <;> rw [same]
    · exact .inl
    · exact fun state => absurd state running
    · exact fun _ => .refl s.row

/-- A restart closes what a running operation still runs, and leaves the others alone. -/
theorem restarted_aged (now : Nat) : Aged now s.toOpRecord (restarted now s).toOpRecord := by
  unfold restarted
  dsimp only
  split
  · rename_i accepted
    exact .outer rfl rfl (fun _ named => named) (fun _ => accepted) (fun _ => .inr accepted)
      fun terminal => absurd (accepted ▸ terminal) (by decide)
  · split
    · rename_i running
      have open_ : ¬ s.row.state.Terminal := fun terminal =>
        absurd (running ▸ terminal) (by decide)
      simp only [fenceRunning, insertEvent]
      cases Registry.latestRunning _ with
      | none =>
        exact .stopped aged_attempts aged_leases (fun _ named => .inl named) open_
          (fun state => by cases state) fun state => by cases state
      | some attempt =>
        exact .stopped (updateWhere_aged .refl fun row _ _ => .closed row (by decide))
          (updateWhere_aged (.refl now) fun row _ _ => .closed row now)
          (fun _ named => .inl named) open_ (fun state => by cases state)
          fun state => by cases state
    · exact .same rfl rfl rfl rfl

/-- Every local step lets the ownership rows age, or gives the operation a new owner. -/
theorem LocalStep.owns {rules : Rules} (owned : Owned s.toOpRecord)
    (step : LocalStep H rules clock s s') : OwnStep H (clock 0) s s' := by
  cases step with
  | @call r call _ ran =>
    refine .aged ?_
    show Aged _ s.toOpRecord r.toOpRecord
    cases call with
    | registry call => exact RegistryCall.aged owned ran
    | ticket call => cases TicketCall.written ran <;> exact .same rfl rfl rfl rfl
    | workbench call =>
      obtain ⟨_, _, _, _, _, _, _, _, _, _, -, -, rfl⟩ := WorkbenchCall.effect ran
      exact .same rfl rfl rfl rfl
  | admitted binding ran =>
    obtain ⟨-, rfl⟩ := CallerWork.bindOperation_ok.mp ran
    exact .aged (.same rfl rfl rfl rfl)
  | visited current queued ran _ => exact visitQueued_owns current queued ran
  | expired attemptNo leaseEpoch => exact .aged (fenceExpired_aged attemptNo leaseEpoch _)
  | restarted => exact .aged (restarted_aged _)
  | elsewhere record =>
    refine .aged ?_
    rw [record]
    exact .same rfl rfl rfl rfl

end Steps

section Invariant

variable {H : Hashing} {now : Nat} {record record' : OpRecord} {s s' : Scope}

/-- Rows that have aged still fit together. -/
theorem Owned.aged (owned : Owned record) (aged : Aged now record record') : Owned record' where
  attempts := owned.attempts.evolve aged.attempts (fun _ _ ages => ages.attemptNo)
    fun _ _ ages => ages.running
  leases := owned.leases.evolve aged.leases (fun _ _ ages => ages.attemptNo)
    fun _ _ ages => ages.released
  epochs lease member := by
    obtain ⟨old, stored, ages⟩ := aged_from aged.leases member
    rw [ages.leaseEpoch, ages.attemptNo, owned.epochs old stored]
  paired := by rw [← aged.leases.length_eq, ← aged.attempts.length_eq, owned.paired]
  accepted state := by
    rcases aged.accepted state with accepted | quiet
    · -- Attempts that did not run and leases that were released stay so.
      obtain ⟨attempts, leases⟩ := owned.accepted accepted
      constructor
      · intro row member alive
        obtain ⟨old, stored, ages⟩ := aged_from aged.attempts member
        exact attempts old stored (ages.running alive)
      · intro row member alive
        obtain ⟨old, stored, ages⟩ := aged_from aged.leases member
        exact leases old stored (ages.released alive)
    · exact quiet
  running state lease member held := by
    obtain ⟨before, attempts, leases⟩ := aged.running state
    -- The release columns are as before, so some lease was held before.
    have listed : none ∈ record.leases.map LeaseRow.releasedAtUnixMs := by
      rw [← leases]
      exact List.mem_map.mpr ⟨lease, member, held⟩
    obtain ⟨old, stored, alive⟩ := List.mem_map.mp listed
    rcases before with running | accepted
    · obtain ⟨attempt, there, runs⟩ := owned.running running old stored alive
      have still : runningAttempt ∈ record'.attempts.map AttemptRow.state := by
        rw [attempts]
        exact List.mem_map.mpr ⟨attempt, there, runs⟩
      exact List.mem_map.mp still
    · exact absurd alive ((owned.accepted accepted).leases old stored)
  current attemptNo named := by
    rw [← aged.attempts.length_eq]
    rcases aged.current attemptNo named with before | last
    · exact owned.current attemptNo before
    · exact last

theorem Owned.next (owned : Owned s.toOpRecord) (request : ClaimRequest) :
    (nextSuccessor H request s).attemptNo = s.attempts.length + 1 ∧
      (nextSuccessor H request s).leaseEpoch = s.attempts.length + 1 := by
  refine ⟨congrArg (· + 1) owned.attempts.maxOf, congrArg (· + 1) ?_⟩
  rw [maxOf_congr owned.epochs, owned.leases.maxOf, owned.paired]

/-- Rows that have been claimed still fit together. -/
theorem Owned.claimed (owned : Owned s.toOpRecord) {request : ClaimRequest}
    (claimed : Claimed H request now s s') : Owned s'.toOpRecord := by
  obtain ⟨attemptNo, leaseEpoch⟩ := owned.next (H := H) request
  obtain ⟨stopped, released⟩ := owned.accepted claimed.accepted
  have attempts : Succession AttemptRow.attemptNo AttemptRow.Live
      (s.attempts ++ [claimedAttempt request (nextSuccessor H request s)]) :=
    owned.attempts.append stopped attemptNo
  have number : (claimedLease request (nextSuccessor H request s) now).attemptNo =
      s.leases.length + 1 := by
    rw [owned.paired]
    exact attemptNo
  refine ⟨attempts.evolve claimed.attempts (fun _ _ ages => ages.1.attemptNo)
    fun _ _ ages => ages.1.running, ?_, ?_, ?_, ?_, ?_, ?_⟩
  · rw [claimed.leases]
    exact owned.leases.append released number
  · rw [claimed.leases]
    intro lease member
    rcases List.mem_append.mp member with old | new
    · exact owned.epochs lease old
    · rw [List.mem_singleton.mp new]
      exact leaseEpoch.trans attemptNo.symm
  · rw [claimed.leases, ← claimed.attempts.length_eq, List.length_append, List.length_append,
      owned.paired]
    rfl
  · intro state
    exact absurd (claimed.running.symm.trans state) (by decide)
  · -- The new attempt runs.
    intro _ _ _ _
    obtain ⟨attempt, member, -, state⟩ := aged_to claimed.attempts
      (List.mem_append_right _ (List.mem_singleton_self _))
    exact ⟨attempt, member, state⟩
  · intro named current
    rw [claimed.dispatch] at current
    cases current
    rw [← claimed.attempts.length_eq, List.length_append, attemptNo]
    rfl

theorem Owned.step (owned : Owned s.toOpRecord) (step : OwnStep H now s s') :
    Owned s'.toOpRecord := by
  cases step with
  | aged aged => exact owned.aged aged
  | claimed claimed => exact owned.claimed claimed

/-- In every run the ownership rows of every operation fit together. -/
theorem owned_invariant : Invariant H Unrestricted fun s => Owned s.toOpRecord where
  new s new := by
    obtain ⟨row, _, _, accepted, record⟩ := new.rows
    rw [record]
    exact ⟨.nil, .nil, by simp [acceptedRecord], rfl,
      fun _ => ⟨by simp [acceptedRecord], by simp [acceptedRecord]⟩,
      fun _ lease member => absurd member List.not_mem_nil, fun _ named => by cases named⟩
  step _ _ _ step owned := owned.step (step.owns owned)

/-- Every operation has at most one running attempt and one held lease, and its last attempt runs. -/
theorem single_live_owner {db : Db} {operation : String} (reached : db.Reachable H)
    (found : db.lookup operation = some record) :
    record.attempts.countP (fun row => decide (row.state = runningAttempt)) ≤ 1 ∧
      record.leases.countP (fun row => decide (row.releasedAtUnixMs = none)) ≤ 1 ∧
      (∀ row ∈ record.attempts, row.state = runningAttempt →
        ∀ other ∈ record.attempts, other.attemptNo ≤ row.attemptNo) ∧
      record.attempts.map AttemptRow.attemptNo = List.range' 1 record.attempts.length ∧
      ∀ lease ∈ record.leases, ∀ later ∈ record.leases, lease.attemptNo < later.attemptNo →
        lease.leaseEpoch < later.leaseEpoch := by
  have owned : Owned record := owned_invariant.reachable reached operation record found
  refine ⟨owned.attempts.countP_le_one, owned.leases.countP_le_one, ?_, owned.attempts.numbered, ?_⟩
  · intro row member runs other stored
    rw [owned.attempts.latest row member runs]
    exact (owned.attempts.bounds stored).2
  · intro lease member later stored before
    rwa [owned.epochs lease member, owned.epochs later stored]

/-- The claimed job of a run has one running attempt. -/
theorem single_live_owner_sample :
    ∃ record, (Sample.db (Sample.running "op" .callerDelegated)).lookup "op" = some record ∧
      record.attempts.countP (fun row => decide (row.state = runningAttempt)) = 1 ∧
      record.leases.countP (fun row => decide (row.releasedAtUnixMs = none)) ≤ 1 := by
  obtain ⟨record, found, one⟩ : ∃ record,
      (Sample.db (Sample.running "op" .callerDelegated)).lookup "op" = some record ∧
        record.attempts.countP (fun row => decide (row.state = runningAttempt)) = 1 := by
    have there : ((Sample.db (Sample.running "op" .callerDelegated)).lookup "op").any
        fun record => record.attempts.countP (fun row => decide (row.state = runningAttempt)) = 1 := by
      decide +kernel
    simpa only [Option.any_eq_true, decide_eq_true_eq] using there
  exact ⟨record, found, one, (single_live_owner (Sample.reachable _) found).2.1⟩

end Invariant

end Aar
