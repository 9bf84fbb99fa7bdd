import Aar.Lib.Accumulation
import Aar.Proofs.RlmRuns
import Aar.Rlm.Recovery

/-! A recovery plan starts a successor exactly at a certain boundary, and runs leave such a one. -/

namespace Aar.Rlm

open Guarded Table Broker BrokerJournal Scripts Accumulation

namespace RecoveryObservation

variable {H : Hashing} {D : BoundaryDigests} {table : RlmStrategyName → RlmStrategy}
  {o : RecoveryObservation} {action : RlmAction} {trace : BrokerCallTrace} {step : RlmStep}

@[simp] theorem demand_ok {condition : Prop} [Decidable condition] {decision : RecoveryDecision}
    {reasonCode : String} {passed : Unit} :
    demand condition decision reasonCode = .ok passed ↔ condition :=
  require_ok

/-- What the policy, the digests, the clock and the controls must say for a successor. -/
structure Authority (H : Hashing) (o : RecoveryObservation) : Prop where
  bound : o.policyOperation = o.operation
  attempted : o.priorAttempt.operation = o.operation
  policy : o.policyBinding.policy.policyId = "rlm.step-boundary.v1"
  version : o.policyBinding.policy.policyVersion = 1
  kind : o.policyBinding.policy.operationKind = .rlmExecute
  allowed : .startSuccessor ∈ o.policyBinding.policy.allowedDecisions
  input : o.inputDigest = o.envelope.inputDigest
  payload : H.text o.spec.json = o.inputDigest
  capability : o.envelope.capabilityDigest = o.currentCapabilityDigest
  environment : o.environmentDigest H = o.policyBinding.environmentDigest
  wanted : ¬ o.cancellationRequested
  early : o.nowUnixMs < o.envelope.deadlineUnixMs
  resolved : ¬ o.unresolvedCalls
  within : Broker.Within o.envelope.budget o.usage

/-- The checks of authority are passed exactly under it. -/
theorem checkAuthority_ok {passed : Unit} :
    checkAuthority H o = .ok passed ↔ Authority H o := by
  simp only [checkAuthority, bind_ok, demand_ok, exists_const]
  constructor
  · rintro ⟨⟨bound, attempted⟩, ⟨policy, version⟩, kind, allowed, input, payload, capability,
      environment, wanted, early, resolved, within⟩
    exact ⟨bound, attempted, policy, version, kind, allowed, input, payload, capability,
      environment, wanted, early, resolved, within⟩
  · rintro ⟨bound, attempted, policy, version, kind, allowed, input, payload, capability,
      environment, wanted, early, resolved, within⟩
    exact ⟨⟨bound, attempted⟩, ⟨policy, version⟩, kind, allowed, input, payload, capability,
      environment, wanted, early, resolved, within⟩

/-- A trace shows the authorised success of an action's call. -/
structure Shows (H : Hashing) (o : RecoveryObservation) (action : RlmAction)
    (trace : BrokerCallTrace) : Prop where
  parent : trace.parentOperation = o.operation
  method : trace.method = action.kind.method
  authorized : o.Authorized trace action
  request : ∃ request, brokerRequest action = .ok request ∧ trace.requestDigest = H.text request
  succeeded : trace.state = .succeeded

/-- The check of a call passes exactly for its authorised success. -/
theorem checkCall_ok {granted : Prop} [Decidable granted] {reasonCode : String} {passed : Unit} :
    checkCall H o action trace granted reasonCode = .ok passed ↔
      granted ∧ Shows H o action trace := by
  have digests : ∀ digest, requestDigest H action = .ok digest ↔
      ∃ request, brokerRequest action = .ok request ∧ digest = H.text request := by
    intro digest
    unfold requestDigest
    cases brokerRequest action <;> simp [eq_comm]
  simp only [checkCall, bind_ok, demand_ok, exists_const, digests]
  constructor
  · rintro ⟨⟨parent, method, granted, authorized⟩, _, ⟨request, built, rfl⟩, same, succeeded⟩
    exact ⟨granted, parent, method, authorized, ⟨request, built, same⟩, succeeded⟩
  · rintro ⟨granted, parent, method, authorized, ⟨request, built, same⟩, succeeded⟩
    exact ⟨⟨parent, method, granted, authorized⟩, _, ⟨request, built, rfl⟩, same, succeeded⟩

/-- A step is what its strategy asked for, and one of the calls shows how it was answered. -/
structure Backed (H : Hashing) (o : RecoveryObservation) (action : RlmAction) (step : RlmStep) :
    Prop where
  kind : step.action = action.kind
  request : step.requestDigest = H.text action.json
  call : ∃ trace ∈ o.traces, trace.sequence = step.brokerCallSequence ∧
    trace.grantId = step.grantId ∧ Shows H o action trace ∧
    trace.responseDigest = some (H.text step.receipt.json)

/-- Some step refers to a call. -/
def Referred (o : RecoveryObservation) (trace : BrokerCallTrace) : Prop :=
  trace.sequence ∈ o.steps.map (·.brokerCallSequence)

/-- The steps are their strategy's, each with its own call, and at most the call of the next action
has not become a step yet. -/
structure InOrder (H : Hashing) (table : RlmStrategyName → RlmStrategy) (o : RecoveryObservation) :
    Prop where
  authority : Authority H o
  indexed : o.steps.map (·.index) = List.range o.steps.length
  numbered : o.traces.map (·.sequence) = List.range' 1 o.traces.length
  script : Follows (nextRlmAction table o.spec) (fun _ => Backed H o) o.steps
  distinct : (o.steps.map (·.brokerCallSequence)).Nodup
  single : ∀ first ∈ o.traces, ∀ second ∈ o.traces, ¬ o.Referred first → ¬ o.Referred second →
    first = second
  uncommitted : ∀ trace ∈ o.traces, ¬ o.Referred trace →
    ∃ action, nextRlmAction table o.spec o.steps = some action ∧ Shows H o action trace ∧
      trace.responseDigest.isSome

/-- What is in order has room for the next action, and a budget unless its call was made already. -/
structure Certain (H : Hashing) (table : RlmStrategyName → RlmStrategy) (o : RecoveryObservation) :
    Prop extends InOrder H table o where
  bounded : (nextRlmAction table o.spec o.steps).isSome → o.steps.length < o.spec.maxSteps
  afforded : (∀ trace ∈ o.traces, o.Referred trace) →
    ¬ o.Spent (nextRlmAction table o.spec o.steps)

/-- The check of a step passes exactly when it is backed by a call that no step has referred to. -/
theorem checkStep_ok (numbered : (o.traces.map (·.sequence)).Nodup) {referenced after : List Nat}
    {index : Nat} :
    checkStep H table o referenced index step = .ok after ↔
      (∃ action, nextRlmAction table o.spec (o.steps.take index) = some action ∧
        Backed H o action step) ∧
      step.brokerCallSequence ∉ referenced ∧ after = step.brokerCallSequence :: referenced := by
  simp only [checkStep, bind_ok, orRaise_ok, demand_ok, checkCall_ok, pure_ok, exists_const]
  constructor
  · rintro ⟨action, next, ⟨same, request⟩, trace, found, fresh, ⟨granted, shows⟩, response, rfl⟩
    obtain ⟨member, named⟩ := fetchOne_some found
    refine ⟨⟨action, next, same, request, trace, member, named, granted, shows, response⟩, ?_, ?_⟩
    · rw [← named]
      exact fresh
    · rw [← named]
  · rintro ⟨⟨action, next, same, request, trace, member, named, granted, shows, response⟩, fresh,
      rfl⟩
    -- The call is found under its number, which no other call has.
    have found : o.traces.find? (fun other => other.sequence = step.brokerCallSequence) =
        some trace := by
      have keyed : Keyed BrokerCallTrace.sequence o.traces := numbered
      exact keyed.fetch_iff.mpr ⟨member, named⟩
    exact ⟨action, next, ⟨same, request⟩, trace, found, named ▸ fresh, ⟨granted, shows⟩, response,
      by rw [named]⟩

/-- The checks of all steps pass exactly when they follow their strategy, each with its own call. -/
theorem checkSteps_ok {referenced : List Nat} :
    checkSteps H table o = .ok referenced ↔
      o.steps.map (·.index) = List.range o.steps.length ∧
      o.traces.map (·.sequence) = List.range' 1 o.traces.length ∧
      Follows (nextRlmAction table o.spec) (fun _ => Backed H o) o.steps ∧
      (o.steps.map (·.brokerCallSequence)).Nodup ∧
      referenced = (o.steps.map (·.brokerCallSequence)).reverse := by
  simp only [checkSteps, bind_ok, demand_ok, exists_const]
  refine and_congr_right fun _ => and_congr_right fun numbered => ?_
  have unique : (o.traces.map (·.sequence)).Nodup := numbered ▸ List.nodup_range'
  have names : o.steps.zipIdx.map (fun entry => entry.1.brokerCallSequence) =
      o.steps.map (·.brokerCallSequence) := by
    rw [← List.zipIdx_map_fst 0 o.steps, List.map_map, List.zipIdx_map_fst]
    rfl
  have collects : ∀ entry ∈ o.steps.zipIdx, ∀ seen after,
      checkStep H table o seen entry.2 entry.1 = .ok after ↔
        (∃ action, nextRlmAction table o.spec (o.steps.take entry.2) = some action ∧
          Backed H o action entry.1) ∧
        entry.1.brokerCallSequence ∉ seen ∧ after = entry.1.brokerCallSequence :: seen :=
    fun entry _ seen after => checkStep_ok unique
  rw [foldlM_collects collects, names, List.append_nil]
  have all : (∀ entry ∈ o.steps.zipIdx, ∃ action,
      nextRlmAction table o.spec (o.steps.take entry.2) = some action ∧
        Backed H o action entry.1) ↔
      Follows (nextRlmAction table o.spec) (fun _ => Backed H o) o.steps := by
    constructor
    · intro each index step found
      exact each (step, index) (List.mk_mem_zipIdx_iff_getElem?.mpr found)
    · rintro follows ⟨step, index⟩ member
      exact follows index step (List.mk_mem_zipIdx_iff_getElem?.mp member)
  rw [all]
  simp

/-- The calls that no step refers to pass exactly when there is at most one, of the next action. -/
theorem checkExtra_ok {next : Option RlmAction} {extra : List BrokerCallTrace} {passed : Unit} :
    checkExtra H o next extra = .ok passed ↔ extra.length ≤ 1 ∧
      ∀ trace ∈ extra, ∃ action, next = some action ∧ Shows H o action trace ∧
        trace.responseDigest.isSome := by
  rcases extra with _ | ⟨trace, _ | ⟨second, rest⟩⟩
  · simp [checkExtra]
  · simp [checkExtra, checkCall_ok]
  · simp [checkExtra]

theorem length_le_one {extra : List BrokerCallTrace} (distinct : extra.Nodup) :
    extra.length ≤ 1 ↔ ∀ first ∈ extra, ∀ second ∈ extra, first = second := by
  rcases extra with _ | ⟨trace, _ | ⟨second, rest⟩⟩
  · simp
  · simp
  · refine ⟨fun short => by simp at short, fun same => ?_⟩
    have equal := same trace (by simp) second (by simp)
    simp [equal] at distinct

/-- The calls that no step refers to, as the planner filters them. -/
def extra (o : RecoveryObservation) : List BrokerCallTrace :=
  o.traces.filter fun trace =>
    trace.sequence ∉ (o.steps.map (·.brokerCallSequence)).reverse

theorem mem_extra : trace ∈ o.extra ↔ trace ∈ o.traces ∧ ¬ o.Referred trace := by
  simp [extra, Referred]

theorem extra_nil : o.extra = [] ↔ ∀ trace ∈ o.traces, o.Referred trace := by
  rw [List.eq_nil_iff_forall_not_mem]
  refine forall_congr' fun trace => ?_
  rw [mem_extra]
  exact ⟨fun absent member => not_not.mp fun free => absent ⟨member, free⟩,
    fun referred there => there.2 (referred there.1)⟩

/-- The checks before the last two pass exactly when all is in order. -/
theorem checks_ok : (checkAuthority H o = .ok () ∧
      checkSteps H table o = .ok (o.steps.map (·.brokerCallSequence)).reverse ∧
      checkExtra H o (nextRlmAction table o.spec o.steps) o.extra = .ok ()) ↔
    InOrder H table o := by
  rw [checkAuthority_ok, checkSteps_ok, checkExtra_ok]
  constructor
  · rintro ⟨authority, ⟨indexed, numbered, script, distinct, -⟩, few, uncommitted⟩
    have unique : o.traces.Nodup := .of_map (·.sequence) (numbered ▸ List.nodup_range')
    have single := (length_le_one (unique.filter _)).mp few
    exact {
      authority, indexed, numbered, script, distinct
      single := fun first here second there free free' =>
        single first (mem_extra.mpr ⟨here, free⟩) second (mem_extra.mpr ⟨there, free'⟩)
      uncommitted := fun trace here free => uncommitted trace (mem_extra.mpr ⟨here, free⟩) }
  · intro order
    have unique : o.traces.Nodup := .of_map (·.sequence) (order.numbered ▸ List.nodup_range')
    refine ⟨order.authority, ⟨order.indexed, order.numbered, order.script, order.distinct, rfl⟩,
      (length_le_one (unique.filter _)).mpr ?_, ?_⟩
    · intro first here second there
      obtain ⟨member, free⟩ := mem_extra.mp here
      obtain ⟨member', free'⟩ := mem_extra.mp there
      exact order.single first member second member' free free'
    · intro trace here
      obtain ⟨member, free⟩ := mem_extra.mp here
      exact order.uncommitted trace member free

/-- Where all is in order only the bound of steps and the budget are checked. -/
theorem InOrder.check (order : InOrder H table o) : check H table o = (do
    let next := nextRlmAction table o.spec o.steps
    demand (next.isSome → o.steps.length < o.spec.maxSteps) .needsUser "rlm_step_bound_exhausted"
    demand (o.extra = [] → ¬ o.Spent next) .needsUser "cumulative_budget_exhausted") := by
  obtain ⟨authority, steps, passed⟩ := checks_ok.mpr order
  unfold RecoveryObservation.extra at passed
  rw [RecoveryObservation.check, authority, ok_bind, steps, ok_bind]
  simp only
  rw [passed, ok_bind]
  rfl

/-- All checks pass exactly at a certain boundary. -/
theorem check_ok {passed : Unit} : check H table o = .ok passed ↔ Certain H table o := by
  constructor
  · intro ran
    have order : InOrder H table o := by
      simp only [RecoveryObservation.check, bind_ok] at ran
      obtain ⟨_, authority, referenced, steps, _, extra, -⟩ := ran
      obtain rfl := (checkSteps_ok.mp steps).2.2.2.2
      exact checks_ok.mp ⟨authority, steps, extra⟩
    rw [order.check] at ran
    simp only [bind_ok, demand_ok, exists_const, extra_nil] at ran
    exact { order with bounded := ran.1, afforded := ran.2 }
  · intro certain
    rw [certain.toInOrder.check]
    simp only [bind_ok, demand_ok, exists_const, extra_nil]
    exact ⟨certain.bounded, certain.afforded⟩

/-- A check stops with something else than a successor. -/
def Stops {α : Type} (result : Except Block α) : Prop :=
  ∀ reasonCode, result ≠ .error (.blocked .startSuccessor reasonCode)

theorem Stops.ok {α : Type} (value : α) : Stops (.ok value) := by
  intro reasonCode impossible
  cases impossible

theorem Stops.bind {α β : Type} {first : Except Block α} {rest : α → Except Block β}
    (stops : Stops first) (later : ∀ value, first = .ok value → Stops (rest value)) :
    Stops (first >>= rest) := by
  cases ran : first with
  | ok value => exact later value ran
  | error block =>
    intro reasonCode same
    refine stops reasonCode ?_
    cases same
    exact ran

theorem Stops.demand {condition : Prop} [Decidable condition] {decision : RecoveryDecision}
    {reasonCode : String} (other : decision ≠ .startSuccessor) :
    Stops (demand condition decision reasonCode) := by
  intro code
  unfold RecoveryObservation.demand require
  split
  · simp
  · intro same
    cases same
    exact other rfl

theorem Stops.orRaise {α : Type} {value : Option α} {decision : RecoveryDecision}
    {reasonCode : String} (other : decision ≠ .startSuccessor) :
    Stops (orRaise value (.blocked decision reasonCode)) := by
  intro code
  cases value with
  | some found => simp [Guarded.orRaise]
  | none =>
    intro same
    cases same
    exact other rfl

theorem Stops.foldlM {α σ : Type} {step : σ → α → Except Block σ}
    (stops : ∀ state item, Stops (step state item)) (items : List α) (state : σ) :
    Stops (items.foldlM step state) := by
  induction items generalizing state with
  | nil => exact .ok state
  | cons item rest ih =>
    rw [List.foldlM_cons]
    exact (stops state item).bind fun next _ => ih next

/-- The check of a call quarantines. -/
theorem Stops.checkCall {granted : Prop} [Decidable granted] {reasonCode : String} :
    Stops (checkCall H o action trace granted reasonCode) := by
  have digests : Stops (requestDigest H action) := by
    intro code
    unfold requestDigest
    cases brokerRequest action <;> simp
  exact (Stops.demand (by decide)).bind fun _ _ => digests.bind fun _ _ => .demand (by decide)

/-- No check decides for a successor. -/
theorem check_stops : Stops (check H table o) := by
  have authority : Stops (checkAuthority H o) := by
    unfold checkAuthority
    repeat' first
      | exact .demand (by decide)
      | refine .bind (.demand (by decide)) fun _ _ => ?_
  have steps : Stops (checkSteps H table o) := by
    unfold checkSteps
    refine .bind (.demand (by decide)) fun _ _ => .bind (.demand (by decide)) fun _ _ =>
      .foldlM (fun referenced entry => ?_) _ _
    exact .bind (.orRaise (by decide)) fun _ _ => .bind (.demand (by decide)) fun _ _ =>
      .bind (.orRaise (by decide)) fun _ _ => .bind (.demand (by decide)) fun _ _ =>
      .bind .checkCall fun _ _ => .bind (.demand (by decide)) fun _ _ => .ok _
  have extra : ∀ next extra, Stops (checkExtra H o next extra) := by
    intro next extra
    rcases extra with _ | ⟨trace, _ | ⟨second, rest⟩⟩
    · exact .ok _
    · exact .bind (.orRaise (by decide)) fun _ _ => .bind .checkCall fun _ _ => .demand (by decide)
    · intro code same
      cases same
  exact .bind authority fun _ _ => .bind steps fun _ _ => .bind (extra _ _) fun _ _ =>
    .bind (.demand (by decide)) fun _ _ => .demand (by decide)

/-- The plan that starts a successor. -/
def started (H : Hashing) (D : BoundaryDigests) (o : RecoveryObservation) : RlmRecoveryPlan where
  decision := .startSuccessor
  reasonCode := "rlm_certain_step_boundary"
  boundary := some (o.boundary H D)

theorem plan_blocked {decision : RecoveryDecision} {reasonCode : String}
    (blocked : check H table o = .error (.blocked decision reasonCode)) :
    o.plan H D table = .ok ⟨decision, reasonCode, none⟩ := by
  rw [RecoveryObservation.plan, blocked]

theorem Certain.plan (certain : Certain H table o) : o.plan H D table = .ok (started H D o) := by
  have passed : check H table o = .ok () := check_ok.mpr certain
  rw [RecoveryObservation.plan, passed]
  rfl

/-- A plan starts a successor exactly at a certain boundary, which it then binds: the steps are the
strategy's, each is backed by its own authorised success, at most the call of the next action is not
a step yet, and neither a control nor the clock nor a budget is in the way. -/
theorem plan_exact (H : Hashing) (D : BoundaryDigests) (table : RlmStrategyName → RlmStrategy)
    (o : RecoveryObservation) :
    (Certain H table o → o.plan H D table = .ok (started H D o)) ∧
      ∀ plan, o.plan H D table = .ok plan → plan.decision = .startSuccessor →
        Certain H table o ∧ plan = started H D o := by
  constructor
  · intro certain
    exact certain.plan
  · intro plan planned successor
    simp only [RecoveryObservation.plan] at planned
    split at planned
    · next passed =>
      cases planned
      exact ⟨check_ok.mp passed, rfl⟩
    · next decision reasonCode blocked =>
      cases planned
      have other : decision = .startSuccessor := successor
      rw [other] at blocked
      exact absurd blocked (check_stops reasonCode)
    · cases planned

end RecoveryObservation

section Observed

variable {H : Hashing} {D : BoundaryDigests} {table : RlmStrategyName → RlmStrategy}
  {scope : RlmScope} {spec : RlmJobSpec} {s : RlmSystem} {o : RecoveryObservation} {index : Nat}
  {row : BrokerCall}

/-- What a recovery observes of an operation as its runs have left it. -/
structure Observes (H : Hashing) (scope : RlmScope) (spec : RlmJobSpec) (s : RlmSystem)
    (o : RecoveryObservation) : Prop where
  operation : o.operation = scope.operation
  envelope : o.envelope = scope.envelope
  spec : o.spec = spec
  steps : o.steps = s.tables.steps
  traces : o.traces = traces H scope.operation s.broker.calls
  usage : BrokerJournal.usage s.broker.calls = .ok o.usage
  unresolved : o.unresolvedCalls = hasUnresolvedCalls s.broker.calls

/-- What is granted is authorised. -/
theorem authorized_of_grant {action : RlmAction} {grant : Grant} {trace : BrokerCallTrace}
    (envelope : o.envelope = scope.envelope) (granted : grantFor scope action.kind = .ok grant)
    (same : trace.grantId = grant.grantId) : o.Authorized trace action := by
  rw [grantFor, orRaise_ok] at granted
  have member := List.mem_of_find?_eq_some granted
  have holds := List.find?_some granted
  rw [← envelope] at member holds
  exact ⟨grant, member, same.symm, of_decide_eq_true holds⟩

/-- A call that has succeeded shows the action it was made for, with the digest of its receipt. -/
theorem InStep.shows (inStep : InStep H table scope spec s) (operation : o.operation = scope.operation)
    (envelope : o.envelope = scope.envelope) (found : s.broker.calls[index]? = some row)
    (succeeded : row.state = .succeeded) :
    ∃ action, nextRlmAction table spec (s.tables.stepRows.take index) = some action ∧
      RecoveryObservation.Shows H o action (traceOf H scope.operation row) ∧
      (traceOf H scope.operation row).grantId = row.grantId ∧
      ∃ receipt, row.responseJson = some receipt ∧
        (traceOf H scope.operation row).responseDigest = some (H.text receipt.json) := by
  obtain ⟨-, action, next, -, asked, ⟨request, grant, built, granted, rfl⟩, same⟩ :=
    inStep.calls index row found
  have sealed := (inStep.sound row (List.mem_of_getElem? found)).sealed succeeded
  obtain ⟨receipt, stored⟩ := Option.isSome_iff_exists.mp sealed.2
  have method := congrArg CallIdentity.method same
  have under := congrArg CallIdentity.grantId same
  have digest := congrArg CallIdentity.requestDigest same
  simp only [identity, startedCall, invocation_method, invocation_grant,
    invocation_request built] at method under digest
  refine ⟨action, next, ⟨operation.symm, method, authorized_of_grant envelope granted under,
    ⟨request, built, digest⟩, ?_⟩, rfl, receipt, stored, ?_⟩
  · simp [traceOf, succeeded, sealed]
  · have kept := sealed.1
    rw [stored] at kept
    exact kept.symm

theorem resolved_calls {calls : List BrokerCall} (resolved : hasUnresolvedCalls calls = false)
    (member : row ∈ calls) : row.state = .succeeded := by
  by_contra other
  have found : hasUnresolvedCalls calls = true :=
    List.any_eq_true.mpr ⟨row, member, decide_eq_true other⟩
  rw [resolved] at found
  cases found

theorem InStep.observed_steps (inStep : InStep H table scope spec s)
    (observes : Observes H scope spec s o) : o.steps = s.tables.stepRows :=
  observes.steps.trans inStep.steps

theorem InStep.observed_calls (inStep : InStep H table scope spec s)
    (observes : Observes H scope spec s o) :
    o.traces = s.broker.calls.map (traceOf H scope.operation) :=
  observes.traces.trans inStep.traces

theorem InStep.observed_numbers (inStep : InStep H table scope spec s)
    (observes : Observes H scope spec s o) :
    o.steps.map (·.brokerCallSequence) = List.range' 1 o.steps.length := by
  rw [inStep.observed_steps observes]
  exact map_eq_range' fun index step found => by rw [(inStep.placed found).2, Nat.add_comm]

/-- A step refers to a call exactly when there are more steps than calls before it. -/
theorem InStep.referred_iff (inStep : InStep H table scope spec s)
    (observes : Observes H scope spec s o) (found : s.broker.calls[index]? = some row) :
    o.Referred (traceOf H scope.operation row) ↔ index < s.tables.stepRows.length := by
  have sequence : (traceOf H scope.operation row).sequence = index + 1 := inStep.numbered found
  rw [RecoveryObservation.Referred, inStep.observed_numbers observes, List.mem_range'_1,
    inStep.observed_steps observes, sequence]
  omega

/-- Where the runs of a job have left no unresolved call, its steps and calls are in order for a
recovery: only the bound of steps and the budget are left to check. -/
theorem InStep.inOrder (inStep : InStep H table scope spec s) (observes : Observes H scope spec s o)
    (authority : RecoveryObservation.Authority H o) : RecoveryObservation.InOrder H table o := by
  have steps := inStep.observed_steps observes
  have traces := inStep.observed_calls observes
  have all : ∀ row ∈ s.broker.calls, row.state = .succeeded := fun row member =>
    resolved_calls (by simpa [observes.unresolved] using authority.resolved) member
  -- A call that no step refers to is the one after all steps.
  have beyond : ∀ trace ∈ o.traces, ¬ o.Referred trace →
      ∃ row, s.broker.calls[o.steps.length]? = some row ∧ trace = traceOf H scope.operation row := by
    intro trace member free
    rw [traces] at member
    obtain ⟨row, stored, rfl⟩ := List.mem_map.mp member
    obtain ⟨index, found⟩ := List.mem_iff_getElem?.mp stored
    have within := (inStep.calls index row found).1
    rw [inStep.referred_iff observes found] at free
    have last : index = o.steps.length := by
      rw [steps]
      omega
    exact ⟨row, last ▸ found, rfl⟩
  refine {
    authority
    indexed := ?_
    numbered := ?_
    script := ?_
    distinct := inStep.observed_numbers observes ▸ List.nodup_range'
    single := fun first here second there free free' => ?_
    uncommitted := fun trace member free => ?_ }
  · rw [steps, List.range_eq_range']
    exact map_eq_range' fun index step found => by rw [(inStep.placed found).1, Nat.zero_add]
  · rw [traces, List.map_map, List.length_map]
    exact inStep.succession.numbered
  · rw [observes.spec, steps]
    intro index step found
    obtain ⟨action, next, grant, granted, same, row, there, -, stored⟩ :=
      inStep.script index step found
    obtain ⟨action', next', shows, under, receipt, stored', digest⟩ :=
      inStep.shows observes.operation observes.envelope there (all row (List.mem_of_getElem? there))
    cases next.symm.trans next'
    cases stored.symm.trans stored'
    obtain ⟨-, action', next', -, asked, ⟨request, grant', -, granted', rfl⟩, call⟩ :=
      inStep.calls index row there
    cases next.symm.trans next'
    cases granted.symm.trans granted'
    have given := congrArg CallIdentity.grantId call
    simp only [identity, startedCall, invocation_grant] at given
    refine ⟨action, next, ?_, ?_, traceOf H scope.operation row, ?_, ?_, ?_, shows, digest⟩
    · rw [same]
      rfl
    · rw [same]
      rfl
    · rw [traces]
      exact List.mem_map_of_mem (List.mem_of_getElem? there)
    · rw [(inStep.placed found).2]
      exact inStep.numbered there
    · rw [under, given, same]
      rfl
  · obtain ⟨row, found, rfl⟩ := beyond first here free
    obtain ⟨row', found', rfl⟩ := beyond second there free'
    cases found.symm.trans found'
    rfl
  · obtain ⟨row, found, rfl⟩ := beyond trace member free
    obtain ⟨action, next, shows, -, receipt, -, digest⟩ :=
      inStep.shows observes.operation observes.envelope found (all row (List.mem_of_getElem? found))
    refine ⟨action, ?_, shows, by rw [digest]; rfl⟩
    rw [← next, observes.spec, steps, List.take_length]

/-- Steps refer to all calls exactly when there are as many of both. -/
theorem InStep.all_referred (inStep : InStep H table scope spec s)
    (observes : Observes H scope spec s o) :
    (∀ trace ∈ o.traces, o.Referred trace) ↔
      s.broker.calls.length = s.tables.steps.length := by
  rw [inStep.steps, inStep.observed_calls observes]
  constructor
  · intro all
    refine Nat.le_antisymm ?_ inStep.longer
    by_contra more
    have found := List.getElem?_eq_getElem (Nat.lt_of_not_le more)
    have referred := all _ (List.mem_map_of_mem (List.mem_of_getElem? found))
    exact Nat.lt_irrefl _ ((inStep.referred_iff observes found).mp referred)
  · intro same trace member
    obtain ⟨row, stored, rfl⟩ := List.mem_map.mp member
    obtain ⟨index, found⟩ := List.mem_iff_getElem?.mp stored
    exact (inStep.referred_iff observes found).mpr (same ▸ (List.getElem?_eq_some_iff.mp found).1)

/-- What engine runs, lost processes and passes have left of an operation is never quarantined for
its steps or its calls: under the authority to go on, and without an unresolved call, a plan starts
a successor, unless the steps are used up or the budget of the next call is. -/
theorem plan_after_runs {events : List RlmEvent} (separated : Separated H scope spec)
    (punctual : Punctual H table scope spec events)
    (observes : Observes H scope spec (after H table scope spec events) o)
    (authority : RecoveryObservation.Authority H o) :
    let s := after H table scope spec events
    let next := nextRlmAction table spec s.tables.steps
    let bounded := next.isSome → s.tables.steps.length < spec.maxSteps
    let afforded := s.broker.calls.length = s.tables.steps.length → ¬ o.Spent next
    (bounded → afforded → o.plan H D table = .ok (RecoveryObservation.started H D o)) ∧
      (¬ bounded →
        o.plan H D table = .ok ⟨.needsUser, "rlm_step_bound_exhausted", none⟩) ∧
      (bounded → ¬ afforded →
        o.plan H D table = .ok ⟨.needsUser, "cumulative_budget_exhausted", none⟩) := by
  have inStep := InStep.after separated punctual
  have order := inStep.inOrder observes authority
  have all := inStep.all_referred observes
  intro s next bounded afforded
  have room : ((nextRlmAction table o.spec o.steps).isSome →
      o.steps.length < o.spec.maxSteps) ↔ bounded := by
    rw [observes.spec, observes.steps]
  have budget : (o.extra = [] → ¬ o.Spent (nextRlmAction table o.spec o.steps)) ↔ afforded := by
    rw [RecoveryObservation.extra_nil, all, observes.spec, observes.steps]
  refine ⟨fun bounded afforded => ?_, fun full => ?_, fun bounded spent => ?_⟩
  · have spare := budget.mpr afforded
    rw [RecoveryObservation.extra_nil] at spare
    exact RecoveryObservation.Certain.plan
      { order with bounded := room.mpr bounded, afforded := spare }
  · refine RecoveryObservation.plan_blocked ?_
    rw [order.check]
    simp only [RecoveryObservation.demand, require]
    rw [if_neg (mt room.mp full)]
    rfl
  · refine RecoveryObservation.plan_blocked ?_
    rw [order.check]
    simp only [RecoveryObservation.demand, require]
    rw [if_pos (room.mpr bounded), ok_bind, if_neg (mt budget.mp spent)]

end Observed

/-- The policy of the sample's recovery. -/
def Sample.policy : RecoveryPolicy where
  operationKind := .rlmExecute
  policyVersion := 1
  policyId := "rlm.step-boundary.v1"
  allowedDecisions := [.startSuccessor]
  maxSuccessorAttempts := 1

/-- What a recovery of the question observes. -/
def Sample.observation (s : RlmSystem) (usage : BrokerUsage) : RecoveryObservation where
  operation := "op"
  inputDigest := Sample.scope.envelope.inputDigest
  envelope := Sample.scope.envelope
  spec := Sample.question
  priorAttempt := ⟨"op", 1, "attempt"⟩
  priorRuntimeGeneration := 1
  priorDispatcherGeneration := 1
  priorLeaseEpoch := 1
  policyOperation := "op"
  policyBinding :=
    { operationKind := .rlmExecute
      policy := Sample.policy
      policyDigest := "policy"
      environmentDigest :=
        rlmRecoveryEnvironmentDigest Sample.hashing Sample.question "capability" Sample.policy }
  currentCapabilityDigest := "capability"
  steps := s.tables.steps
  traces := traces Sample.hashing "op" s.broker.calls
  usage
  cancellationRequested := false
  unresolvedCalls := hasUnresolvedCalls s.broker.calls
  nowUnixMs := 2000

theorem Sample.observes {s : RlmSystem} {usage : BrokerUsage}
    (used : BrokerJournal.usage s.broker.calls = .ok usage) :
    Observes Sample.hashing Sample.scope Sample.question s (Sample.observation s usage) :=
  ⟨rfl, rfl, rfl, rfl, rfl, used, rfl⟩

/-- What a recovery observes after the question's run was lost. -/
def Sample.observed : RecoveryObservation :=
  Sample.observation Sample.left { modelRequests := 1, inputTokens := 4, outputTokens := 1 }

theorem Sample.authority : RecoveryObservation.Authority Sample.hashing Sample.observed :=
  RecoveryObservation.checkAuthority_ok.mp
    (show RecoveryObservation.checkAuthority Sample.hashing Sample.observed = .ok () by
      decide +kernel)

/-- The lost run leaves the receipt of its last call to a successor. -/
theorem plan_after_runs_sample :
    Sample.observed.plan Sample.hashing ⟨fun _ => "", fun _ => "", fun _ => "", fun _ => ""⟩
        Sample.table =
      .ok (RecoveryObservation.started Sample.hashing
        ⟨fun _ => "", fun _ => "", fun _ => "", fun _ => ""⟩ Sample.observed) := by
  refine (plan_after_runs Sample.separated (Runs.allowed_append.mp Sample.punctual).1 ?_
    Sample.authority).1 ?_ ?_
  · rw [Sample.after_lost]
    exact Sample.observes (by decide +kernel)
  · rw [Sample.after_lost]
    decide +kernel
  · rw [Sample.after_lost]
    decide +kernel

end Aar.Rlm
