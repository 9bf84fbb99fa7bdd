import Aar.Proofs.Jobs
import Aar.Proofs.Runs

/-! Successor admission: which recovery decisions a policy-bound operation may record. -/

namespace Aar

open Guarded Table Registry

section Steps

/-- The recorded decisions that admitted a successor. -/
def OpRecord.successors (record : OpRecord) : List DecisionRow :=
  record.decisions.filter fun row => row.decision ∈ successorDecisions

/-- Cancellation of an operation has been requested. -/
abbrev OpRecord.CancelRequested (record : OpRecord) : Prop :=
  record.control.any ControlRow.cancellationRequested

/-- A successor decision stays within a policy, a cancellation and the deadline of its request. -/
structure Within (binding : RecoveryPolicyBinding) (decision : RecoveryDecision) (now : Nat)
    (record : OpRecord) : Prop where
  allowed : decision ∈ binding.policy.allowedDecisions
  bounded : record.successors.length < binding.policy.maxSuccessorAttempts
  uncancelled : ¬ record.CancelRequested
  early : now < record.row.request.deadlineUnixMs

/-- What a step does to the policy, the dispatch row and the successor decisions of an operation. -/
inductive RecoveryStep (now : Nat) (declared : Prop) (s s' : Scope) : Prop where
  | kept (policy : s'.policy = s.policy) (successors : s'.successors = s.successors)
      (dispatched : s.dispatch.isSome → s'.dispatch.isSome)
  | bound {binding : RecoveryPolicyBinding} (unbound : s.policy = none)
      (undispatched : s.dispatch = none) (policy : s'.policy = some binding)
      (successors : s'.successors = s.successors)
  | decided {row : DecisionRow} (policy : s'.policy = s.policy)
      (recorded : s'.successors = s.successors ++ [row]) (dispatched : s'.dispatch.isSome)
      (within : declared → ∀ binding ∈ s.policy, Within binding row.decision now s.toOpRecord)

/-- A successor decision is recorded after the earlier ones. -/
theorem filter_successor {decisions : List DecisionRow} {row : DecisionRow}
    (successor : row.decision ∈ successorDecisions) :
    (decisions ++ [row]).filter (fun row => row.decision ∈ successorDecisions) =
      decisions.filter (fun row => row.decision ∈ successorDecisions) ++ [row] := by
  rw [List.filter_append, List.filter_cons_of_pos (by simpa using successor), List.filter_nil]

theorem RecoveryStep.still {now : Nat} {declared : Prop} {s s' : Scope}
    (policy : s'.policy = s.policy) (decisions : s'.decisions = s.decisions)
    (dispatch : s'.dispatch = s.dispatch) : RecoveryStep now declared s s' :=
  .kept policy (by rw [OpRecord.successors, decisions]; rfl) (by rw [dispatch]; exact id)

theorem RecoveryStep.moved {now : Nat} {declared : Prop} {s s' : Scope}
    (policy : s'.policy = s.policy) (decisions : s'.decisions = s.decisions)
    (dispatch : s.dispatch.isSome → s'.dispatch.isSome) : RecoveryStep now declared s s' :=
  .kept policy (by rw [OpRecord.successors, decisions]; rfl) dispatch

end Steps

end Aar

namespace Aar.Registry

open Guarded Table

section Calls

variable {H : Hashing} {clock : Clock} {s s' : Scope} {declared : Prop}

/-- A policy is bound to an operation that has no dispatch row, or repeats the stored one. -/
theorem bindRecoveryPolicy_recovery {kind : DispatchKind} {policy : RecoveryPolicy}
    {environment : Digest}
    (ran : bindRecoveryPolicy H clock kind policy environment s = .ok s') :
    RecoveryStep (clock 0) declared s s' := by
  simp only [bindRecoveryPolicy, bind_ok] at ran
  obtain ⟨_, -, ran⟩ := ran
  cases stored : s.policy with
  | some existing =>
    simp only [stored, bind_ok, pure_ok] at ran
    obtain ⟨_, -, rfl⟩ := ran
    exact .still rfl rfl rfl
  | none =>
    simp only [stored, bind_ok, require_ok, pure_ok] at ran
    obtain ⟨_, ⟨-, undispatched, -⟩, rfl⟩ := ran
    exact .bound stored undispatched rfl rfl

/-- A claimed outcome rewrites the dispatch row. -/
theorem transitionClaimed_recovery {fence : AttemptFence} {generation : Nat}
    {state : OperationState} {resultJson : Option String} {failure : Option FailureEnvelope}
    {note : String}
    (ran : transitionClaimed fence generation state resultJson failure note clock s = .ok s') :
    RecoveryStep (clock 0) declared s s' := by
  simp only [transitionClaimed, bind_ok, require_ok, pure_ok] at ran
  obtain ⟨_, -, _, -, _, -, _, -, rfl⟩ := ran
  exact .moved rfl rfl fun some => by simpa [insertEvent, patchWhere] using some

/-- A decision that admits no successor binds nothing. -/
theorem admitSuccessor_within {request : RequeueDecision} {inputDigest : Digest} {now : Nat}
    {result : Scope × BoundaryEvidence} (checked : checkPolicy request s = .ok ())
    (admitted : admitSuccessor request inputDigest now s = .ok result)
    (admits : request.decision ∈ successorDecisions)
    (declares : s.policy.isSome → request.policyBinding.isSome) :
    ∀ binding ∈ s.policy, Within binding request.decision now s.toOpRecord := by
  intro binding stored
  obtain ⟨given, named⟩ := Option.isSome_iff_exists.mp
    (declares (Option.isSome_iff_exists.mpr ⟨binding, stored⟩))
  simp only [checkPolicy, named, bind_ok, orRaise_ok, require_ok] at checked
  obtain ⟨same, found, _, rfl, allowed⟩ := checked
  cases (show s.policy = some binding from stored).symm.trans found
  simp only [admitSuccessor, named, if_pos admits, bind_ok, orRaise_ok, require_ok] at admitted
  obtain ⟨boundary, -, prior, -, _, repeats, _, bounds, -⟩ := admitted
  simp only [checkSuccessorBounds, bind_ok, require_ok] at bounds
  obtain ⟨_, -, _, uncancelled, _, early, bounded⟩ := bounds
  -- The boundary repeats the deadline of the request.
  obtain ⟨-, -, -, -, -, -, deadline⟩ := repeats
  exact ⟨allowed, bounded, uncancelled, deadline ▸ early⟩

/-- A decision is appended to the recorded ones, under the policy it declares. -/
theorem requeueIndeterminate_recovery {generation : Nat} {request : RequeueDecision}
    (ran : requeueIndeterminate generation request clock s = .ok s')
    (declares : declared → request.decision ∈ successorDecisions → s.policy.isSome →
      request.policyBinding.isSome) :
    RecoveryStep (clock 0) declared s s' := by
  simp only [requeueIndeterminate, bind_ok, require_ok, ite_ok, pure_ok] at ran
  obtain ⟨_, -, _, -, _, -, _, -, _, checked, admitted, admits, ran⟩ := ran
  obtain ⟨rlmBoundaries, workspaceBoundaries, same⟩ := admitSuccessor_effect admits
  have closes : ∃ attempts leases, closePrior request.reasonCode (clock 0) admitted.1 =
      { s with attempts, leases, rlmBoundaries, workspaceBoundaries } := by
    rw [same]
    unfold closePrior
    split <;> exact ⟨_, _, rfl⟩
  obtain ⟨attempts, leases, closed⟩ := closes
  rw [closed] at ran
  rcases ran with ⟨successor, _, requeued, rfl⟩ | ⟨parks, rfl⟩
  · simp only [requeue, bind_ok, pure_ok] at requeued
    obtain ⟨dispatch, -, rfl⟩ := requeued
    have within : declared → ∀ binding ∈ s.policy,
        Within binding request.decision (clock 0) s.toOpRecord :=
      fun holds => admitSuccessor_within checked admits successor (declares holds successor)
    exact .decided rfl (filter_successor successor) rfl within
  · -- A decision that keeps the operation parked is no successor decision.
    refine .kept rfl ?_ fun some => ?_
    · simp [OpRecord.successors, insertEvent, keepParked, decisionRow, parks]
    · simpa [insertEvent, keepParked] using some

/-- A receipt records a decision that admits no successor. -/
theorem recoverTerminalFromReceipt_recovery {generation : Nat} {state : OperationState}
    {resultJson reasonCode : String} {inputDigest : Digest}
    (ran : recoverTerminalFromReceipt generation state resultJson reasonCode inputDigest clock s
      = .ok s') : RecoveryStep (clock 0) declared s s' := by
  simp only [recoverTerminalFromReceipt, bind_ok, require_ok, orRaise_ok, pure_ok] at ran
  obtain ⟨_, -, _, -, _, -, _, -, _, -, dispatch, -, _, -, rfl⟩ := ran
  refine .kept rfl ?_ fun _ => rfl
  simp [OpRecord.successors, insertEvent, successorDecisions]

/-- A finished attempt rewrites the dispatch row, if anything. -/
theorem finishAttempt_recovery {fence : AttemptFence} {generation : Nat}
    (ran : finishAttempt fence generation clock s = .ok s') :
    RecoveryStep (clock 0) declared s s' := by
  simp only [finishAttempt, bind_ok, ite_ok, require_ok, pure_ok] at ran
  obtain ⟨stored, -, ⟨-, _, -, rfl⟩ | ⟨-, owner, -, _, closed, rfl⟩⟩ := ran
  · exact .still rfl rfl rfl
  · exact .moved rfl rfl fun some => by simpa [patchWhere] using some

/-- A cancelled queue entry rewrites the dispatch row, if anything. -/
theorem cancelQueuedDispatch_recovery {generation : Nat} {resultJson : Option String}
    {result : Scope × Bool}
    (ran : cancelQueuedDispatch generation resultJson clock s = .ok result) :
    RecoveryStep (clock 0) declared s result.1 := by
  simp only [cancelQueuedDispatch, bind_ok, ite_ok, pure_ok, Except.ok.injEq] at ran
  obtain ⟨_, -, ⟨-, rfl⟩ | ⟨-, s₁, ended, rfl⟩⟩ := ran
  · exact .still rfl rfl rfl
  · rcases ended with ⟨-, cancelled⟩ | ⟨-, rfl⟩
    · obtain ⟨_, _, _, _, -, rfl⟩ := cancelJob_ok cancelled
      exact .moved rfl rfl fun some => by
        simpa [jobCancelled, insertEvent, patchWhere] using some
    · exact .moved rfl rfl fun some => by simpa [insertEvent, patchWhere] using some

/-- An attempt that is given up leaves a dispatch row behind. -/
theorem GivesUp.recovery {fence : AttemptFence} {state : OperationState}
    {attempt : AttemptState} {dispatch : DispatchState}
    {now : Nat} (gives : GivesUp fence state attempt dispatch s s')
    (policy : s'.policy = s.policy) (decisions : s'.decisions = s.decisions) :
    RecoveryStep now declared s s' := by
  obtain ⟨_, _, -, -, left⟩ := gives.dispatch
  exact .moved policy decisions fun _ => by rw [left]; rfl

end Calls

end Aar.Registry

namespace Aar

open Guarded Table Registry

section Families

variable {H : Hashing} {clock : Clock} {s s' : Scope} {declared : Prop}

/-- A requeue that admits a successor of a policy-bound operation names the policy. -/
def RegistryCall.Declares (s : Scope) : RegistryCall → Prop
  | requeueIndeterminate _ request =>
    request.decision ∈ successorDecisions → s.policy.isSome → request.policyBinding.isSome
  | _ => True

/-- A registry transaction makes one recovery step. -/
theorem RegistryCall.recovery {call : RegistryCall} (ran : call.run H clock s = .ok s')
    (declares : declared → call.Declares s) : RecoveryStep (clock 0) declared s s' := by
  cases call <;> simp only [RegistryCall.run, map_ok] at ran
  case bindRecoveryPolicy => exact bindRecoveryPolicy_recovery ran
  case begin | succeed | fail | cancel | timeOut | markIndeterminate =>
    obtain ⟨-, -, _, _, rfl⟩ := transition_ok ran
    exact .still rfl rfl rfl
  case requestDispatch =>
    rcases requestDispatch_ok ran with rfl | ⟨-, _, _, _, -, -, rfl⟩
    · exact .still rfl rfl rfl
    · exact .moved rfl rfl fun _ => rfl
  case requestCancel =>
    rcases requestCancel_ok ran with ⟨rfl, -⟩ | ⟨_, _, _, -, -, -, rfl⟩ <;>
      exact .still rfl rfl rfl
  case heartbeat =>
    obtain ⟨-, rfl⟩ := heartbeat_ok ran
    exact .still rfl rfl rfl
  case transitionClaimed | parkAttempt => exact transitionClaimed_recovery ran
  case bindCheckpoint =>
    obtain ⟨-, rfl | ⟨_, _, _, rfl⟩⟩ := bindCheckpoint_ok ran <;> exact .still rfl rfl rfl
  case finishAttempt => exact finishAttempt_recovery ran
  case suspendPlannerAttempt =>
    obtain ⟨gives, _, _, _, _, _, _, _, _, _, _, -, rfl⟩ := suspendPlannerAttempt_ok ran
    exact gives.recovery rfl rfl
  case suspendWorkbenchAttempt =>
    obtain ⟨gives, _, _, _, _, _, _, _, _, _, _, -, rfl⟩ := suspendWorkbenchAttempt_ok ran
    exact gives.recovery rfl rfl
  case consumePlannerSuccessor =>
    obtain ⟨read, -, ⟨state, -, _, _, ran⟩ | ⟨_, _, -, ran⟩ | ⟨-, _, _, _, -, ran⟩⟩ :=
      consumePlannerSuccessor_cases ran
    · obtain ⟨gives, _, _, _, _, _, _, _, _, _, _, _, -, -, -, -, rfl⟩ :=
        projectPlannerTerminal_ok ran
      exact gives.of_outbox.recovery rfl rfl
    · obtain ⟨gives, _, _, _, _, _, _, _, _, _, _, -, -, -, -, -, rfl⟩ := projectCorrection_ok ran
      exact gives.of_outbox.recovery rfl rfl
    · obtain ⟨_, _, _, _, _, _, -, -, -, -, rfl⟩ := projectDirective_ok ran
      exact .still rfl rfl rfl
  case commitWorkbenchRebind =>
    obtain ⟨result, ran, rfl⟩ := ran
    obtain ⟨_, _, _, _, _, _, _, _, same⟩ := commitWorkbenchRebind_effect ran
    rw [same]
    exact .still rfl rfl rfl
  case acknowledgeWorkbenchRebind =>
    obtain ⟨_, _, _, -, rfl⟩ := acknowledgeWorkbenchRebind_effect ran
    exact .still rfl rfl rfl
  case markWorkbenchRebindWorkerLost =>
    obtain ⟨_, _, _, _, _, _, rfl⟩ := markWorkbenchRebindWorkerLost_effect ran
    exact .still rfl rfl rfl
  case bindWorkbenchRecoveryAuthority =>
    obtain ⟨_, _, _, rfl⟩ := bindWorkbenchRecoveryAuthority_effect ran
    exact .still rfl rfl rfl
  case cancelQueuedDispatch =>
    obtain ⟨result, ran, rfl⟩ := ran
    exact cancelQueuedDispatch_recovery ran
  case requeueIndeterminate => exact requeueIndeterminate_recovery ran declares
  case recoverTerminalFromReceipt => exact recoverTerminalFromReceipt_recovery ran
  case succeedWorkspaceCheckpoint =>
    obtain ⟨-, _, _, _, -, rfl⟩ := succeedWorkspaceCheckpoint_ok ran
    exact .still rfl rfl rfl
  case recordWorkspaceCheckpoint =>
    obtain rfl := recordWorkspaceCheckpoint_effect ran
    exact .still rfl rfl rfl
  case selectWorkspaceCheckpoint =>
    obtain ⟨_, _, _, rfl⟩ := selectWorkspaceCheckpoint_effect ran
    exact .still rfl rfl rfl
  case markWorkspaceCheckpointRestored =>
    obtain ⟨_, _, _, rfl⟩ := markWorkspaceCheckpointRestored_effect ran
    exact .still rfl rfl rfl

/-- What a transaction on an operation declares when it admits a successor. -/
def OpCall.Declares (s : Scope) : OpCall → Prop
  | registry call => call.Declares s
  | _ => True

/-- Every transaction on an operation makes one recovery step. -/
theorem OpCall.recovery {call : OpCall} (ran : call.run H clock s = .ok s')
    (declares : declared → call.Declares s) : RecoveryStep (clock 0) declared s s' := by
  cases call with
  | registry call => exact RegistryCall.recovery ran declares
  | ticket call => cases TicketCall.written ran <;> exact .still rfl rfl rfl
  | workbench call =>
    obtain ⟨_, _, _, _, _, _, _, _, _, _, -, -, rfl⟩ := WorkbenchCall.effect ran
    exact .still rfl rfl rfl

/-- Every requeue that admits a successor of a policy-bound operation names the policy. -/
def DeclaresPolicy : Rules where
  call _ call s := call.Declares s
  visit _ _ := True
  expiry _ := True

/-- A local step makes one recovery step. -/
theorem LocalStep.recovery (step : LocalStep H DeclaresPolicy clock s s') :
    RecoveryStep (clock 0) True s s' := by
  cases step with
  | call call declares ran =>
    have recovery := @OpCall.recovery H clock s _ True call ran fun _ => declares
    cases recovery with
    | kept policy successors dispatched => exact .kept policy successors dispatched
    | bound unbound undispatched policy successors =>
      exact .bound unbound undispatched policy successors
    | decided policy recorded dispatched within =>
      exact .decided policy recorded dispatched within
  | admitted binding ran =>
    obtain ⟨-, rfl⟩ := CallerWork.bindOperation_ok.mp ran
    exact .still rfl rfl rfl
  | visited _ _ ran _ =>
    rcases visitQueued_cases ran with ⟨-, -, same⟩ | ⟨-, rfl⟩ | ⟨claimed, claims, rfl⟩
    · rw [same]
      exact .moved rfl rfl fun some => by simpa [Scope.settle] using some
    · exact .moved rfl rfl fun some => by
        simpa [Scope.settle, expireQueued, insertEvent] using some
    · obtain ⟨-, -, dispatch, prepared, _, _, stored, prepares, rfl⟩ := claimQueued_ok claims
      have kept : prepared.policy = s.policy ∧ prepared.decisions = s.decisions := by
        cases prepares <;> exact ⟨rfl, rfl⟩
      exact .moved kept.1 kept.2 fun some => by simpa [Scope.settle, patchWhere] using some
  | expired => simp only [fenceExpired, insertEvent]; exact .still rfl rfl rfl
  | restarted =>
    unfold Aar.restarted
    dsimp only
    split
    · exact .still rfl rfl rfl
    · split
      · simp only [fenceRunning, insertEvent]
        cases latestRunning _ <;> exact .still rfl rfl rfl
      · exact .still rfl rfl rfl
  | elsewhere record =>
    exact .still (congrArg OpRecord.policy record) (congrArg OpRecord.decisions record)
      (congrArg OpRecord.dispatch record)

end Families

section Runs

variable {H : Hashing} {db : Db}

/-- The successors of an operation were requeued, and stay within its policy. -/
structure Scope.SuccessorsBounded (s : Scope) : Prop where
  dispatched : s.successors ≠ [] → s.dispatch.isSome
  within : ∀ binding ∈ s.policy,
    s.successors.length ≤ binding.policy.maxSuccessorAttempts ∧
      ∀ row ∈ s.successors, row.decision ∈ binding.policy.allowedDecisions

/-- Every declared step keeps the successors of an operation within its policy. -/
theorem bounded_invariant : Invariant H DeclaresPolicy Scope.SuccessorsBounded where
  new s new := by
    obtain ⟨row, events, routeBinding, -, record⟩ := new.rows
    have policy : s.policy = none := congrArg OpRecord.policy record
    have decisions : s.decisions = [] := congrArg OpRecord.decisions record
    refine ⟨fun some => absurd ?_ some, ?_⟩
    · simp only [OpRecord.successors, decisions, List.filter_nil]
    · simp [policy]
  step clock s s' step bounded := by
    obtain ⟨dispatched, within⟩ := bounded
    cases step.recovery with
    | kept policy successors kept =>
      refine ⟨fun some => kept (dispatched (successors ▸ some)), ?_⟩
      rw [policy, successors]
      exact within
    | bound unbound undispatched policy successors =>
      -- Nothing was recorded before the policy was bound, as nothing had been dispatched.
      have empty : s'.successors = [] := by
        rw [successors]
        refine Classical.byContradiction fun some => ?_
        rw [undispatched] at dispatched
        exact absurd (dispatched some) (by simp)
      exact ⟨fun some => absurd empty some, fun _ _ => by simp [empty]⟩
    | @decided decision policy recorded dispatched' now =>
      refine ⟨fun _ => dispatched', fun binding stored => ?_⟩
      rw [policy] at stored
      obtain ⟨-, allowed⟩ := within binding stored
      have here := now trivial binding stored
      rw [recorded]
      constructor
      · rw [List.length_append, List.length_singleton]
        exact here.bounded
      · intro row member
        rcases List.mem_append.mp member with old | new
        · exact allowed row old
        · rw [List.mem_singleton.mp new]
          exact here.allowed

/-- What may lie between two states of an operation: what was cancelled stays so, and a successor is
recorded under a policy only while it is uncancelled and early. -/
structure Recovered (now : Nat) (s s' : Scope) : Prop where
  request : s'.row.request = s.row.request
  cancelled : s.CancelRequested → s'.CancelRequested
  grown : s.successors <+: s'.successors
  policy : s'.policy = s.policy ∨ s.successors = []
  timely : s'.policy.isSome → s'.successors ≠ s.successors →
    now < s.row.request.deadlineUnixMs ∧ ¬ s.CancelRequested

/-- A requested cancellation is never taken back. -/
theorem JobStep.keeps_request {call : OpCall} {s s' : Scope} (step : JobStep H call s s')
    (requested : s.CancelRequested) : s'.CancelRequested := by
  obtain ⟨control, stored, asked⟩ := (Option.any_eq_true _ _).mp requested
  cases step with
  | still _ same => rwa [OpRecord.CancelRequested, same]
  | lost _ _ _ _ _ same => rwa [OpRecord.CancelRequested, same]
  | restored _ _ same => rwa [OpRecord.CancelRequested, same]
  | cancelled _ _ _ same => rwa [OpRecord.CancelRequested, same]
  | requested _ _ _ new _ same => simp [OpRecord.CancelRequested, same, new]
  | admitted _ _ _ _ uncancelled =>
    simp [Workbench.openControl, stored, asked] at uncancelled
  | advanced _ _ kept _ _ _ same =>
    cases stored.symm.trans kept
    simp [OpRecord.CancelRequested, same, asked]
  | ended _ _ _ kept _ _ same =>
    cases stored.symm.trans kept
    simp [OpRecord.CancelRequested, same, asked]
  | directed _ _ _ _ kept _ _ _ same =>
    cases stored.symm.trans kept
    simp [OpRecord.CancelRequested, same, asked]
  | overwritten _ _ _ _ same => simp [OpRecord.CancelRequested, same, stored, asked]
  | preparing _ _ _ _ _ same =>
    simp only [OpRecord.CancelRequested, same, stored, patchWhere, Option.map_some]
    split <;> simpa using asked
  | bound _ _ _ _ same =>
    simp only [OpRecord.CancelRequested, same, stored, patchWhere, Option.map_some]
    split <;> simpa using asked

theorem LocalStep.keeps_request {rules : Rules} {clock : Clock} {s s' : Scope}
    (step : LocalStep H rules clock s s') (requested : s.CancelRequested) :
    s'.CancelRequested := by
  rcases step.call_or_untouched with ⟨call, r, -, ran, rfl⟩ | untouched
  · exact (OpCall.jobs ran).keeps_request requested
  · rwa [OpRecord.CancelRequested, untouched.control]

/-- A declared step at one instant recovers an operation in time. -/
theorem LocalStep.recovered {clock : Clock} {s s' : Scope}
    (step : LocalStep H DeclaresPolicy clock s s') (bounded : s.SuccessorsBounded) :
    Recovered (clock 0) s s' := by
  have request : s'.row.request = s.row.request := congrArg Intent.request step.keeps.2
  cases step.recovery with
  | kept policy successors _ =>
    exact ⟨request, step.keeps_request, successors ▸ List.prefix_rfl, .inl policy,
      fun _ differ => absurd successors differ⟩
  | bound unbound undispatched policy successors =>
    have empty : s.successors = [] := by
      refine Classical.byContradiction fun some => ?_
      have dispatched := bounded.dispatched some
      rw [undispatched] at dispatched
      cases dispatched
    exact ⟨request, step.keeps_request, successors ▸ List.prefix_rfl, .inr empty,
      fun _ differ => absurd successors differ⟩
  | decided policy recorded _ within =>
    refine ⟨request, step.keeps_request, by rw [recorded]; exact List.prefix_append _ _,
      .inl policy, fun some _ => ?_⟩
    obtain ⟨binding, stored⟩ := Option.isSome_iff_exists.mp some
    have here := within trivial binding (policy ▸ stored)
    exact ⟨here.early, here.uncancelled⟩

/-- Two stretches at one instant recover an operation in time when each does. -/
theorem Recovered.trans {now : Nat} {s m s' : Scope} (first : Recovered now s m)
    (second : Recovered now m s') : Recovered now s s' where
  request := second.request.trans first.request
  cancelled := second.cancelled ∘ first.cancelled
  grown := first.grown.trans second.grown
  policy := by
    rcases second.policy with same | empty
    · rcases first.policy with before | none
      · exact .inl (same.trans before)
      · exact .inr none
    · exact .inr (List.prefix_nil.mp (empty ▸ first.grown))
  timely some differ := by
    by_cases early : m.successors = s.successors
    · -- The successor was recorded in the second stretch, which an earlier cancellation prevents.
      obtain ⟨time, uncancelled⟩ := second.timely some (by rwa [early])
      exact ⟨first.request ▸ time, uncancelled ∘ first.cancelled⟩
    · refine first.timely ?_ early
      rcases second.policy with same | empty
      · rwa [← same]
      · -- Had the policy been bound later, nothing would have been recorded before.
        have none := List.prefix_nil.mp (empty ▸ first.grown)
        exact absurd (empty.trans none.symm) early

theorem recovered_progress (now : Nat) :
    Progress H DeclaresPolicy (fun clock => clock 0 = now) Scope.SuccessorsBounded
      (Recovered now) where
  refl _ := ⟨rfl, id, List.prefix_rfl, .inl rfl, fun _ differ => absurd rfl differ⟩
  trans _ _ _ first second := first.trans second
  step _ _ _ tick step bounded := tick ▸ step.recovered bounded

theorem requested_progress : Progress H Unrestricted (fun _ => True) (fun _ => True)
    fun s s' => s.CancelRequested → s'.CancelRequested where
  refl _ := id
  trans _ _ _ first second := second ∘ first
  step _ _ _ _ step _ := step.keeps_request

/-- The recorded successor decisions of an operation, if it exists. -/
def Db.successors (db : Db) (operation : String) : List DecisionRow :=
  (db.lookup operation).elim [] OpRecord.successors

/-- Cancellation of an operation has been requested. -/
def Db.CancelRequested (db : Db) (operation : String) : Prop :=
  ∃ record, db.lookup operation = some record ∧ record.CancelRequested

/-- A run from the empty database respects the recovery policies it binds: an operation never has
more successor decisions than its policy allows, nor one its policy forbids, and none is recorded
after a cancellation was requested, or at or after the deadline. -/
structure RespectsPolicies (H : Hashing) (events : List Event) : Prop where
  bounded : ∀ operation record binding,
    (Runs.run (Event.step H) events Db.empty).lookup operation = some record →
    record.policy = some binding →
    record.successors.length ≤ binding.policy.maxSuccessorAttempts ∧
      ∀ row ∈ record.successors, row.decision ∈ binding.policy.allowedDecisions
  timely : ∀ before event after operation record, events = before ++ event :: after →
    (event.step H (Runs.run (Event.step H) before Db.empty)).lookup operation = some record →
    record.policy.isSome →
    record.successors ≠ (Runs.run (Event.step H) before Db.empty).successors operation →
    event.clock 0 < record.row.request.deadlineUnixMs ∧
      ∀ earlier rest, before = earlier ++ rest →
        ¬ (Runs.run (Event.step H) earlier Db.empty).CancelRequested operation

/-- Successor admission respects the bound policies in every run whose requeues declare them. -/
theorem successor_admission_exact {H : Hashing} {events : List Event}
    (declares : AllowedRun H DeclaresPolicy events Db.empty) : RespectsPolicies H events := by
  constructor
  · intro operation record binding found bound
    exact (bounded_invariant.run declares Db.each_empty operation record found).within binding bound
  · rintro before event after operation record rfl found some differ
    obtain ⟨first, later⟩ := declares.append
    obtain ⟨here, -⟩ := later.cons
    have each := bounded_invariant.run first Db.each_empty
    cases known : (Runs.run (Event.step H) before Db.empty).lookup operation with
    | none =>
      -- A new operation has no decision at all.
      obtain ⟨row, events, routeBinding, -, fresh⟩ :=
        ((Event.evolves here).created operation record known found).rows
      have decisions : record.decisions = [] := congrArg OpRecord.decisions fresh
      refine absurd ?_ differ
      simp only [Db.successors, known, OpRecord.successors, decisions, List.filter_nil,
        Option.elim_none]
    | some old =>
      have single : AllowedRun H DeclaresPolicy [event]
          (Runs.run (Event.step H) before Db.empty) := (AllowedRun.nil).snoc here
      obtain ⟨record', found', recovered⟩ := (recovered_progress (event.clock 0)).along
        bounded_invariant single (fun _ member => by rw [List.mem_singleton.mp member]) each known
      cases found.symm.trans found'
      rw [Db.successors, known] at differ
      obtain ⟨early, uncancelled⟩ := recovered.timely some differ
      refine ⟨recovered.request ▸ early, ?_⟩
      rintro earlier rest rfl ⟨was, there, requested⟩
      -- What was requested earlier would still be requested now.
      have anything : Invariant H Unrestricted fun _ => True :=
        ⟨fun _ _ => trivial, fun _ _ _ _ _ => trivial⟩
      have ticking : ∀ event ∈ rest, (fun _ : Clock => True) event.clock := fun _ _ => trivial
      obtain ⟨still, found'', kept⟩ :=
        requested_progress.run anything ticking (fun _ _ _ => trivial) there
      rw [← Runs.run_append, known] at found''
      cases found''
      exact uncancelled (kept requested)

/-- A policy that allows one start of a successor. -/
def Sample.recoveryPolicy : RecoveryPolicy :=
  { operationKind := .rlmExecute, policyVersion := 1, policyId := "policy"
    allowedDecisions := [.startSuccessor], maxSuccessorAttempts := 1 }

/-- A policy-bound operation is claimed, and the runtime restarts. -/
def Sample.interrupted : List Event :=
  [Call.startRuntime.atTime 1,
    (Call.accept (Sample.envelope "op" 5000) "payload" none).atTime 1,
    (Call.on "op" (.registry (.bindRecoveryPolicy .rlmExecute Sample.recoveryPolicy
      "environment"))).atTime 1,
    (Call.on "op" (.registry (.requestDispatch .rlmExecute))).atTime 1,
    (Call.claimNext Sample.claim).atTime 2, Call.startRuntime.atTime 3]

/-- A successor decision with or without the policy it is taken under. -/
def Sample.requeue (generation : Nat) (policyBinding : Option RecoveryPolicyBinding)
    (continuationBoundary : Option ContinuationBoundary) : Call :=
  .on "op" (.registry (.requeueIndeterminate generation
    { decision := .startSuccessor, reasonCode := "explicit_recovery", inputDigest := ""
      policyBinding, continuationBoundary }))

/-- The boundary of the first attempt. -/
def Sample.boundary : ContinuationBoundary :=
  .rlmStep
    { priorAttempt := (Sample.fence "op").attempt, runtimeGeneration := 1
      dispatcherGeneration := 1, leaseEpoch := 1, policyDigest := "policy"
      inputDigest := "input", environmentDigest := "environment", deadlineUnixMs := 5000
      boundaryDigest := "boundary" }

/-- The interrupted operation is requeued once under its policy. -/
def Sample.requeued : List Event :=
  Sample.interrupted ++
    [(Sample.requeue 2
      (some ⟨.rlmExecute, Sample.recoveryPolicy, "policy", "environment"⟩)
      (some Sample.boundary)).atTime 4]

/-- A requeue that declares its policy is recorded, and the run respects the policy. -/
theorem successor_admission_exact_sample :
    ((Sample.db Sample.requeued).successors "op").length = 1 ∧
      RespectsPolicies .readable Sample.requeued := by
  refine ⟨by decide +kernel, successor_admission_exact (.of_each ?_)⟩
  intro event member db
  refine ⟨?_, fun _ _ _ _ _ _ => trivial, fun _ _ => .of_all (fun _ => trivial) _ _ _⟩
  rintro operation call record r called - -
  simp only [Sample.requeued, Sample.interrupted, List.cons_append, List.nil_append,
    List.mem_cons, List.not_mem_nil, or_false] at member
  -- Only the last event requeues, and it names the policy.
  rcases member with rfl | rfl | rfl | rfl | rfl | rfl | rfl <;> cases called <;>
    first | trivial | exact fun _ _ => rfl

/-- The operation is requeued twice without its policy, the second time when it was cancelled and
late. -/
def Sample.unbounded : List Event :=
  Sample.interrupted ++
    [(Sample.requeue 2 none none).atTime 4,
      (Call.claimNext { Sample.claim with
        runtimeGeneration := 2, dispatcherGeneration := 2 }).atTime 5,
      Call.startRuntime.atTime 6,
      (Call.on "op" (.registry (.requestCancel "caller" "stop"))).atTime 7,
      (Sample.requeue 3 none none).atTime 6000]

/-- Requeues that declare no policy exceed the policy of their operation. -/
theorem successor_admission_exact_not : ¬ ∀ events, RespectsPolicies .readable events := by
  intro respects
  have shown : ((Sample.db Sample.unbounded).lookup "op").any fun record =>
      record.policy.any fun binding =>
        decide (binding.policy.maxSuccessorAttempts < record.successors.length) := by
    decide +kernel
  simp only [Option.any_eq_true, decide_eq_true_eq] at shown
  obtain ⟨record, found, binding, bound, exceeded⟩ := shown
  obtain ⟨within, -⟩ := (respects Sample.unbounded).bounded "op" record binding found bound
  exact absurd within (Nat.not_le_of_lt exceeded)

end Runs

end Aar
