import Aar.Proofs.RlmRecovery

/-! Successors repeat what was received: steps and answers do not depend on how runs interleave. -/

namespace Aar.Rlm

open Guarded Table Broker BrokerJournal Scripts

section Answers

variable {H : Hashing} {table : RlmStrategyName → RlmStrategy} {scope : RlmScope}
  {spec : RlmJobSpec} {s : RlmSystem} {b : BrokerSystem} {budget : Budget}
  {answers : Digest → BrokerResponse} {calls calls' : List BrokerCall} {row : BrokerCall}
  {event : BrokerEvent} {run : EngineRun}

/-- A call has the response that the providers give to its request, if it has one. -/
def Spoken (answers : Digest → BrokerResponse) (call : BrokerCall) : Prop :=
  ∀ response, call.responseJson = some response → response = answers call.requestDigest

/-- A pass has found the response that the providers give. -/
def Finds (answers : Digest → BrokerResponse) : BrokerFlight → Prop
  | .deciding row (.resolve response _ _ _) _ => response = answers row.requestDigest
  | _ => True

/-- What a finding tells is the response that the providers give. -/
def Tells (answers : Digest → BrokerResponse) (request : Digest) : Finding → Prop
  | .recovered response | .routed response _ _ _ => response = answers request
  | .unresolved _ _ _ => True

/-- An event brings in the response that the providers give. -/
def Gives (H : Hashing) (answers : Digest → BrokerResponse) : BrokerEvent → Prop
  | .answer call (.responded response _) => response = answers (H.text call.invocation.requestJson)
  | .decide row _ finding => Tells answers row.requestDigest finding
  | _ => True

instance (answers : Digest → BrokerResponse) (request : Digest) (finding : Finding) :
    Decidable (Tells answers request finding) := by
  cases finding <;> unfold Tells <;> infer_instance

instance (H : Hashing) (answers : Digest → BrokerResponse) (event : BrokerEvent) :
    Decidable (Gives H answers event) := by
  unfold Gives
  split <;> infer_instance

/-- The rows of an answered call have the request that it sends. -/
def Matches (H : Hashing) (calls : List BrokerCall) : BrokerEvent → Prop
  | .answer call _ => ∀ row ∈ calls, row.sequence = call.sequence →
    row.requestDigest = H.text call.invocation.requestJson
  | _ => True

/-- All responses of a journal, and those that its passes have found, are the providers'. -/
structure Speaks (answers : Digest → BrokerResponse) (b : BrokerSystem) : Prop where
  rows : ∀ row ∈ b.calls, Spoken answers row
  passes : ∀ flight ∈ b.flights, Finds answers flight

/-- Rows that stay in place keep their responses or get those of the providers. -/
theorem spoken_inPlace (rows : ∀ row ∈ calls, Spoken answers row)
    (stays : InPlace (fun row row' => Spoken answers row → Spoken answers row') calls calls') :
    ∀ row ∈ calls', Spoken answers row := by
  intro row' member
  obtain ⟨index, found⟩ := List.mem_iff_getElem?.mp member
  obtain ⟨row, before, kept⟩ := stays.back found
  exact kept (rows row (List.mem_of_getElem? before))

/-- What a pass carries out keeps the responses of the providers. -/
theorem apply_spoken {decision : Decision} {authorityDigest : Digest} {now : Nat}
    {others : List BrokerCall} (keyed : Keyed BrokerCall.sequence calls)
    (rows : ∀ row ∈ calls, Spoken answers row)
    (finds : Finds answers (.deciding row decision others))
    (ran : BrokerJournal.apply H row authorityDigest now calls decision = .ok calls') :
    ∀ row ∈ calls', Spoken answers row := by
  refine spoken_inPlace rows ?_
  cases decision with
  | resolve response committedUsage action reasonCode =>
    simp only [BrokerJournal.apply, resolveStartedCall, bind_ok, orRaise_ok, require_ok] at ran
    obtain ⟨stored, there, _, digest, _, -, ran⟩ := ran
    split at ran
    · simp only [bind_ok, require_ok, pure_ok] at ran
      obtain ⟨_, -, rfl⟩ := ran
      exact .refl (fun _ => id) calls
    · simp only [bind_ok, require_ok, updateCell_ok] at ran
      obtain ⟨_, -, -, rfl⟩ := ran
      refine .patch (fun _ => id) fun other member named _ _ found same => ?_
      cases same
      -- The row that is resolved has the request that the pass has read.
      obtain ⟨here, sequence⟩ := cell_some there
      obtain rfl := keyed.unique member here (named.trans sequence.symm)
      exact (show response = answers row.requestDigest from finds).trans
        (congrArg answers digest.symm)
  | unresolved action reasonCode compensation committedUsage =>
    simp only [BrokerJournal.apply, recordUnresolvedReconciliation, bind_ok, orRaise_ok,
      require_ok] at ran
    obtain ⟨stored, -, _, -, ran⟩ := ran
    split at ran
    · simp only [bind_ok, require_ok, pure_ok] at ran
      obtain ⟨_, -, rfl⟩ := ran
      exact .refl (fun _ => id) calls
    · obtain ⟨-, rfl⟩ := updateCell_ok.mp ran
      exact .patch (fun _ => id) fun _ _ _ _ spoken => spoken

/-- A pass decides by the response that it has found. -/
theorem decide_finds {method : BrokerMethodName} {finding : Finding} {decision : Decision}
    {others : List BrokerCall} (told : Tells answers row.requestDigest finding)
    (decided : BrokerJournal.decide budget calls method finding = some decision) :
    Finds answers (.deciding row decision others) := by
  cases finding with
  | unresolved => cases decided; trivial
  | recovered response =>
    simp only [BrokerJournal.decide, Option.map_eq_some_iff] at decided
    obtain ⟨way, -, rfl⟩ := decided
    exact told
  | routed response committedUsage maxOutputTokens compensation =>
    simp only [BrokerJournal.decide] at decided
    split at decided
    · cases decided
      simp only [decideRouted]
      -- Only a routed response within all limits resolves the call.
      repeat' split
      · trivial
      · trivial
      · trivial
      · exact told
    · cases decided

/-- An event that brings in what the providers give keeps a journal of their responses. -/
theorem Speaks.step (speaks : Speaks answers b) (keyed : Keyed BrokerCall.sequence b.calls)
    (plain : Plain event) (digests : Matches H b.calls event) (gives : Gives H answers event) :
    Speaks answers (BrokerSystem.step H budget event b) := by
  have left : ∀ flight, Speaks answers (b.leave flight) := fun flight =>
    { speaks with passes := fun other member => speaks.passes other (List.mem_of_mem_erase member) }
  have enters : ∀ {after : BrokerSystem} (flight : BrokerFlight), Speaks answers after →
      Finds answers flight → Speaks answers (after.enter flight) := fun _ keeps finds =>
    { keeps with passes := List.forall_mem_cons.mpr ⟨finds, keeps.passes⟩ }
  have patches : ∀ {sequence : Nat} {change : BrokerCall → BrokerCall}
      {guard : BrokerCall → Prop} [DecidablePred guard] (flight : BrokerFlight),
      (∀ call ∈ b.calls, call.sequence = sequence → Spoken answers call →
        Spoken answers (change call)) →
      Speaks answers ((b.leave flight).store
        (patchCell BrokerCall.sequence b.calls sequence guard change)) :=
    fun flight changes =>
      { left flight with
        rows := spoken_inPlace speaks.rows (.patch (fun _ => id) fun call member named _ =>
          changes call member named) }
  have placed : ∀ (flight : BrokerFlight) (act : BrokerSystem → BrokerSystem),
      Speaks answers (act (b.leave flight)) → Speaks answers (b.from_ flight act) :=
    fun flight act acts => @BrokerSystem.from_holds b flight (Speaks answers) act speaks fun _ => acts
  cases event <;> simp only [BrokerSystem.step]
  case admitCall => exact plain.elim
  case recheck call authority =>
    refine placed _ _ ?_
    rw [show authority = .ok () from plain]
    exact { enters (.calling call) (left (.admitted call)) trivial with }
  case answer call answer =>
    refine placed _ _ ?_
    cases answer with
    | indeterminate => exact left _
    | quarantined reasonCode => exact patches _ fun _ _ _ spoken => spoken
    | raised code => exact patches _ fun _ _ _ spoken => spoken
    | responded response committedUsage =>
      simp only [BrokerSystem.answer]
      split
      · refine { enters (.settling call response _)
          (patches (.calling call) fun stored member named _ found same => ?_) trivial with }
        cases same
        exact (show response = answers (H.text call.invocation.requestJson) from gives).trans
          (congrArg answers (digests stored member named).symm)
      · exact patches _ fun _ _ _ spoken => spoken
  case settle call response usage postCheck =>
    refine placed _ _ ?_
    simp only [BrokerSystem.settle]
    split
    · exact patches _ fun _ _ _ spoken => spoken
    · exact { left _ with }
  case startPass => exact enters _ speaks trivial
  case decide row rows finding =>
    refine placed _ _ ?_
    split
    · exact left _
    · next decided => exact enters _ (left _) (decide_finds gives decided)
  case apply row decision rows authorityDigest now =>
    by_cases member : .deciding row decision rows ∈ b.flights
    · rw [BrokerSystem.from_, if_pos member]
      simp only [BrokerSystem.apply]
      split
      · exact left _
      · next calls ran =>
        have stored : Speaks answers ((b.leave (.deciding row decision rows)).store calls) :=
          { left _ with rows := apply_spoken keyed speaks.rows (speaks.passes _ member) ran }
        exact enters _ stored trivial
    · rw [BrokerSystem.from_, if_neg member]
      exact speaks
  case stop flight => exact left flight

/-- An admission brings in no response. -/
theorem Speaks.admitCall {asked : Invocation} {control : OperationControl}
    (speaks : Speaks answers b) (keyed : Keyed BrokerCall.sequence b.calls) :
    Speaks answers (b.admitCall H budget asked (.ok ()) control) := by
  simp only [BrokerSystem.admitCall]
  split
  next => exact speaks
  next => exact { speaks with }
  next sequence used calls ran =>
    have rows : ∀ row ∈ calls, Spoken answers row := by
      cases BrokerJournal.admit_ok keyed ran with
      | @reopened row _ _ _ _ _ unanswered _ _ replaces =>
        intro other member
        rcases replaces.mem.mp member with rfl | ⟨before, -⟩
        · intro response found
          cases unanswered.symm.trans found
        · exact speaks.rows other before
      | inserted =>
        intro other member
        rcases List.mem_append.mp member with before | new
        · exact speaks.rows other before
        · rw [List.mem_singleton.mp new]
          intro response found
          cases found
    exact ⟨rows, List.forall_mem_cons.mpr ⟨trivial, speaks.passes⟩⟩

/-- The rows of a run's call have its request. -/
theorem InStep.matches (inStep : InStep H table scope spec s) (member : run ∈ s.runs)
    {action : RlmAction} {call : AdmittedCall} (place : run.place = .invoking action (.calling call))
    {answer : CallAnswer} : Matches H s.broker.calls (.answer call answer) := by
  intro row stored named
  obtain ⟨-, first, at_⟩ := inStep.runs run member
  rw [place] at at_
  obtain ⟨next, -, call', about, sequence, asks⟩ := at_
  cases about
  have found := inStep.located stored (named.trans sequence)
  exact congrArg CallIdentity.requestDigest (inStep.next_call first next found asks)

/-- What an event brings to the journal from the providers. -/
def RlmEvent.brings : RlmEvent → Option BrokerEvent
  | .pass event => some event.broker
  | event => event.answers

/-- The providers answer equal requests with equal responses, to calls and to passes. -/
def Consistent (H : Hashing) (answers : Digest → BrokerResponse) (event : RlmEvent) : Prop :=
  ∀ brought ∈ event.brings, Gives H answers brought

/-- A consistent event keeps a journal of the providers' responses. -/
theorem InStep.speaks {event : RlmEvent} (inStep : InStep H table scope spec s)
    (consistent : Consistent H answers event) (speaks : Speaks answers s.broker) :
    Speaks answers (RlmSystem.step H table scope event s).broker := by
  have stores : ∀ change, Speaks answers (s.store change).broker := by
    intro change
    simp only [RlmSystem.store]
    split <;> exact speaks
  have journals : ∀ event, Plain event → Matches H s.broker.calls event → Gives H answers event →
      Speaks answers (s.journal H scope event).broker := fun _ plain digests gives =>
    speaks.step inStep.orderly.keyed plain digests gives
  have admits : ∀ asked control, Speaks answers
      (s.journal H scope (.admitCall asked (.ok ()) control)).broker := fun _ _ =>
    speaks.admitCall inStep.orderly.keyed
  cases event with
  | ensure | mark | resume => exact stores _
  | start cancelled =>
    simp only [RlmSystem.step, RlmSystem.start]
    split <;> exact speaks
  | pass pass =>
    refine journals pass.broker ?_ ?_ (consistent _ rfl) <;> cases pass <;> trivial
  | lose run =>
    simp only [RlmSystem.step, RlmSystem.lose]
    repeat' split
    · exact journals (.stop _) trivial trivial trivial
    · exact speaks
    · exact speaks
  | act run act =>
    simp only [RlmSystem.step]
    split
    case isFalse => exact speaks
    next member =>
      unfold RlmSystem.act
      split
      next => exact speaks
      next =>
        unfold RlmSystem.turn
        repeat' split
        · exact speaks
        · exact speaks
        · exact speaks
        · exact speaks
        · simp only [RlmSystem.admitCall]
          split
          · exact speaks
          · exact admits _ _
          · exact admits _ _
      next action call place => exact journals (.recheck call (.ok ())) rfl trivial trivial
      next action call answer place =>
        have moved := journals (.answer call answer) trivial (inStep.matches member place)
          (consistent _ (by simp [RlmEvent.brings, RlmEvent.answers, place]))
        simp only [RlmSystem.answer]
        split <;> exact moved
      next action call response usage place =>
        have moved := journals (.settle call response usage
          (RlmSystem.postCheck scope call usage)) trivial trivial trivial
        simp only [RlmSystem.settle]
        split <;> exact moved
      next => unfold RlmSystem.readTrace; split <;> exact speaks
      next => unfold RlmSystem.recordStep; split <;> exact speaks
      next => exact speaks
      next => simp only [RlmSystem.complete]; split <;> exact speaks
      next => exact speaks

end Answers

section Replay

variable {H : Hashing} {table : RlmStrategyName → RlmStrategy} {scope : RlmScope}
  {spec : RlmJobSpec} {s s' : RlmSystem} {answers : Digest → BrokerResponse}
  {index : Nat} {action : RlmAction}

/-- A step is what an action at an index leaves with the providers' response to its request. -/
def Replayed (H : Hashing) (scope : RlmScope) (answers : Digest → BrokerResponse) (index : Nat)
    (action : RlmAction) (step : RlmStep) : Prop :=
  ∃ request grant, brokerRequest action = .ok request ∧ grantFor scope action.kind = .ok grant ∧
    step = stepOf H action index grant (answers (H.text request))

/-- An action at an index leaves one step. -/
theorem Replayed.unique {first second : RlmStep}
    (replayed : Replayed H scope answers index action first)
    (replayed' : Replayed H scope answers index action second) : first = second := by
  obtain ⟨request, grant, built, granted, rfl⟩ := replayed
  obtain ⟨request', grant', built', granted', rfl⟩ := replayed'
  cases built.symm.trans built'
  cases granted.symm.trans granted'
  rfl

/-- Steps with the responses of the providers follow from the actions alone. -/
theorem InStep.replayed (inStep : InStep H table scope spec s)
    (speaks : Speaks answers s.broker) :
    Follows (nextRlmAction table spec) (Replayed H scope answers) s.tables.stepRows := by
  intro index step found
  obtain ⟨action, next, grant, granted, same, row, there, -, stored⟩ :=
    inStep.script index step found
  obtain ⟨-, action', next', -, asked, ⟨request, grant', built, -, rfl⟩, call⟩ :=
    inStep.calls index row there
  cases next.symm.trans next'
  have digest := congrArg CallIdentity.requestDigest call
  simp only [identity, startedCall, invocation_request built] at digest
  have given := speaks.rows row (List.mem_of_getElem? there) _ stored
  rw [digest] at given
  exact ⟨action, next, request, grant, built, granted, by rw [← given]; exact same⟩

/-- Two calls of one index were admitted for the same request after the same steps. -/
theorem InStep.same_call (inStep : InStep H table scope spec s)
    (inStep' : InStep H table scope spec s') {row row' : BrokerCall}
    (found : s.broker.calls[index]? = some row) (found' : s'.broker.calls[index]? = some row')
    (same : s.tables.stepRows.take index = s'.tables.stepRows.take index) :
    identity row = identity row' := by
  obtain ⟨-, action, next, -, asked, asks, call⟩ := inStep.calls index row found
  obtain ⟨-, action', next', -, asked', asks', call'⟩ := inStep'.calls index row' found'
  rw [same, next'] at next
  cases next
  cases asks.unique asks'
  exact call.trans call'.symm

/-- What two operations agree on: steps as far as both go, calls of the same requests, and results. -/
structure Agreed (s s' : RlmSystem) : Prop where
  steps : s.tables.steps <+: s'.tables.steps ∨ s'.tables.steps <+: s.tables.steps
  calls : ∀ (index : Nat) row row', s.broker.calls[index]? = some row →
    s'.broker.calls[index]? = some row' → identity row = identity row'
  results : ∀ job job' result result', s.tables.job = some job → s'.tables.job = some job' →
    job.result = some result → job'.result = some result' →
    result.steps = result'.steps ∧ result.answer = result'.answer

/-- Operations in step with the same providers agree. -/
theorem InStep.agreed (inStep : InStep H table scope spec s)
    (inStep' : InStep H table scope spec s') (speaks : Speaks answers s.broker)
    (speaks' : Speaks answers s'.broker) : Agreed s s' := by
  have replayed := inStep.replayed speaks
  have replayed' := inStep'.replayed speaks'
  have unique : ∀ index action first second, Replayed H scope answers index action first →
      Replayed H scope answers index action second → first = second :=
    fun _ _ _ _ => Replayed.unique
  have agree : ∀ {count}, count ≤ s.tables.stepRows.length → count ≤ s'.tables.stepRows.length →
      s.tables.stepRows.take count = s'.tables.stepRows.take count := fun within within' =>
    replayed.agrees unique replayed' within within'
  refine ⟨?_, fun index row row' found found' => ?_, fun job job' result result' stored stored'
    kept kept' => ?_⟩
  · rw [inStep.steps, inStep'.steps]
    rcases Nat.le_total s.tables.stepRows.length s'.tables.stepRows.length with shorter | shorter
    · have same := agree le_rfl shorter
      rw [List.take_length] at same
      exact .inl (List.prefix_iff_eq_take.mpr same)
    · have same := agree shorter le_rfl
      rw [List.take_length] at same
      exact .inr (List.prefix_iff_eq_take.mpr same.symm)
  · exact inStep.same_call inStep' found found'
      (agree (inStep.calls index row found).1 (inStep'.calls index row' found').1)
  · have finishes := inStep.exact.result job result stored kept
    have finishes' := inStep'.exact.result job' result' stored' kept'
    have same : s.tables.steps = s'.tables.steps := by
      rw [inStep.steps, inStep'.steps]
      exact replayed.unique unique replayed' (inStep.steps ▸ finishes.ended)
        (inStep'.steps ▸ finishes'.ended)
    have answer := finishes.answer
    rw [same, finishes'.answer] at answer
    exact ⟨by rw [finishes.recorded, finishes'.recorded, same], (Option.some.inj answer).symm⟩

/-- What is in step, with a journal of the providers' responses. -/
structure Truthful (H : Hashing) (table : RlmStrategyName → RlmStrategy) (scope : RlmScope)
    (spec : RlmJobSpec) (answers : Digest → BrokerResponse) (s : RlmSystem) : Prop where
  inStep : InStep H table scope spec s
  speaks : Speaks answers s.broker

/-- A run of timely and consistent events leaves a journal of the providers' responses. -/
theorem spoken_after {events : List RlmEvent} (separated : Separated H scope spec)
    (punctual : Punctual H table scope spec events)
    (consistent : ∀ event ∈ events, Consistent H answers event) :
    Speaks answers (after H table scope spec events).broker := by
  have started : Speaks answers
      (RlmSystem.step H table scope (.ensure spec) RlmSystem.empty).broker :=
    ⟨fun _ member => absurd member List.not_mem_nil, fun _ member => absurd member List.not_mem_nil⟩
  have kept : Truthful H table scope spec answers (after H table scope spec events) :=
    (punctual.with consistent).invariant
      (fun _ _ both kept => ⟨kept.inStep.step separated both.1, kept.inStep.speaks both.2 kept.speaks⟩)
      ⟨.ensured, started⟩
  exact kept.speaks

/-- Under providers that answer equal requests equally, what a job does is the same in every
interleaving of its runs, losses and passes: of the steps of any two histories one list begins the
other, calls of one index carry the same request under the same key, and finished jobs have the same
steps and the same answer. -/
theorem replay_exact {events events' : List RlmEvent} (separated : Separated H scope spec)
    (punctual : Punctual H table scope spec events)
    (punctual' : Punctual H table scope spec events')
    (consistent : ∀ event ∈ events, Consistent H answers event)
    (consistent' : ∀ event ∈ events', Consistent H answers event) :
    Agreed (after H table scope spec events) (after H table scope spec events') :=
  (InStep.after separated punctual).agreed (InStep.after separated punctual')
    (spoken_after separated punctual consistent) (spoken_after separated punctual' consistent')

end Replay

section Successor

variable {H : Hashing} {table : RlmStrategyName → RlmStrategy} {scope : RlmScope}
  {spec : RlmJobSpec} {s : RlmSystem} {row : BrokerCall} {calls : List BrokerCall}
  {asked : Invocation} {run : EngineRun} {action : RlmAction} {receipt : BrokerResponse}

/-- A call that has succeeded is repeated under its key, whatever the budget. -/
theorem replays_call (named : Keyed BrokerCall.idempotencyKey calls) (member : row ∈ calls)
    (sound : Sound H row) (succeeded : row.state = .succeeded) {sequence : Nat}
    (same : identity row = identity (startedCall H asked sequence))
    (unchecked : asked.checked = false) (free : asked.expectedControlRevision = none)
    (unguarded : asked.requireNotCancelled = false) :
    ∃ receipt, row.responseJson = some receipt ∧ ∀ budget control,
      BrokerJournal.admitCall H budget asked (.ok ()) control calls =
        .ok (.replayed receipt, calls) := by
  have sealed := sound.sealed succeeded
  obtain ⟨receipt, stored⟩ := Option.isSome_iff_exists.mp sealed.2
  have digest : row.responseDigest = some (H.text receipt.json) := by
    simpa [stored] using sealed.1.symm
  have key : row.idempotencyKey = asked.idempotencyKey :=
    congrArg CallIdentity.idempotencyKey same
  have request : row.requestDigest = H.text asked.requestJson :=
    congrArg CallIdentity.requestDigest same
  have model : receipt.model = asked.responseModel :=
    (sound.typed receipt stored).trans (congrArg CallIdentity.responseModel same)
  have found : fetchOne calls (fun call => call.idempotencyKey = asked.idempotencyKey) =
      some row := key ▸ named.fetch member
  refine ⟨receipt, stored, fun budget control => ?_⟩
  have existing : existingCall H asked calls = .ok (some receipt, none) := by
    simp [existingCall, found, request, succeeded, stored, model, digest]
  have open_ : checkControl asked control = .ok () := by
    simp [checkControl, free, unguarded]
  simp only [BrokerJournal.admitCall, bind_ok]
  exact ⟨(), by simp [unchecked], (), open_, _, existing, rfl⟩

theorem step_head {act : EngineAct} : RlmSystem.step H table scope (.act run act) (s.enter run) =
    (s.enter run).act H table scope run run.place act :=
  if_pos List.mem_cons_self

theorem leave_enter : (s.enter run).leave run = s := by
  simp [RlmSystem.leave, RlmSystem.enter]

section Heads

variable {steps : List RlmStep} {step : RlmStep}

theorem reads_head : RlmSystem.step H table scope (.act ⟨spec, [], .begun⟩ .readSteps)
    (s.enter ⟨spec, [], .begun⟩) = s.enter ⟨spec, s.tables.steps, .looping⟩ := by
  rw [step_head]
  simp only [RlmSystem.act, leave_enter]
  rfl

/-- A run that has just gone on to the loop takes a turn. -/
theorem turn_head {cancelled stillCancelled : Bool} {now callNow : Nat} :
    RlmSystem.step H table scope
        (.act ⟨spec, steps, .looping⟩ (.turn cancelled now callNow stillCancelled))
        (s.enter ⟨spec, steps, .looping⟩) =
      s.turn H table scope ⟨spec, steps, .looping⟩ cancelled now callNow stillCancelled := by
  rw [step_head]
  simp only [RlmSystem.act, leave_enter]

theorem trace_head :
    RlmSystem.step H table scope (.act ⟨spec, steps, .received action receipt⟩ .readTrace)
        (s.enter ⟨spec, steps, .received action receipt⟩) =
      s.readTrace H scope ⟨spec, steps, .received action receipt⟩ action receipt := by
  rw [step_head]
  simp only [RlmSystem.act, leave_enter]

theorem record_head :
    RlmSystem.step H table scope (.act ⟨spec, steps, .recording step⟩ .recordStep)
        (s.enter ⟨spec, steps, .recording step⟩) =
      s.recordStep scope ⟨spec, steps, .recording step⟩ step := by
  rw [step_head]
  simp only [RlmSystem.act, leave_enter]

end Heads

/-- What a successor does with a receipt that no step has recorded: it resumes the job, begins it,
reads the steps, asks for the next call again, and records the step of the receipt. -/
def successor (spec : RlmJobSpec) (steps : List RlmStep) (action : RlmAction)
    (receipt : BrokerResponse) (step : RlmStep) (now callNow : Nat) : List RlmEvent :=
  [.resume, .start false, .act ⟨spec, [], .begun⟩ .readSteps,
    .act ⟨spec, steps, .looping⟩ (.turn false now callNow false),
    .act ⟨spec, steps, .received action receipt⟩ .readTrace,
    .act ⟨spec, steps, .recording step⟩ .recordStep]

/-- A job that may be replayed begins again. -/
theorem begins {job : RlmJob} (stored : s.tables.job = some job)
    (open_ : job.state ∈ [.accepted, .running, .indeterminate]) :
    Runs.run (RlmSystem.step H table scope) [.resume, .start false] s =
      ({ s with tables := { s.tables with job := some { job with state := .running } } } :
        RlmSystem).enter ⟨job.spec, [], .begun⟩ := by
  have resumed : s.tables.resume scope.operation =
      .ok { s.tables with job := some { job with state := .accepted } } := by
    simp only [RlmTables.resume, RlmTables.jobRow, stored, orRaise, ok_bind]
    by_cases accepted : job.state = .accepted
    · rw [if_pos accepted, ← accepted, ← stored]
      rfl
    · have listed : job.state ∈ [OperationState.running, .indeterminate] := by
        simpa [accepted] using open_
      rw [if_neg accepted, require, if_pos listed]
      rfl
  simp only [Runs.run_cons, Runs.run_nil, RlmSystem.step, RlmSystem.store, resumed,
    RlmSystem.start, RlmTables.jobRow, RlmTables.begin_, orRaise, ok_bind, require,
    Bool.false_eq_true, not_false_iff, if_true]
  rfl

/-- A turn with a call that has succeeded goes on with its receipt. -/
theorem turn_replays {steps : List RlmStep} {place : EnginePlace} {now callNow : Nat}
    (next : nextRlmAction table spec steps = some action) (within : steps.length < spec.maxSteps)
    (early : now < scope.envelope.deadlineUnixMs)
    (prepared : prepare H scope callNow action steps.length = .ok asked)
    (admitted : ∀ budget control, BrokerJournal.admitCall H budget asked (.ok ()) control
      s.broker.calls = .ok (.replayed receipt, s.broker.calls)) :
    s.turn H table scope ⟨spec, steps, place⟩ false now callNow false =
      ({ s with broker := s.broker.return_ asked.idempotencyKey receipt } : RlmSystem).enter
        ⟨spec, steps, .received action receipt⟩ := by
  have turned : RlmSystem.nextTurn table scope ⟨spec, steps, place⟩ false now =
      .ok (some action) := by
    simp [RlmSystem.nextTurn, within, early, next]
  simp only [RlmSystem.turn, turned, prepared, RlmSystem.admitCall, admitted, RlmSystem.journal,
    BrokerSystem.step, BrokerSystem.admitCall]

/-- The receipt of the last call becomes the step of its run. -/
theorem trace_records (shown : (Rlm.traces H scope.operation s.broker.calls).getLast? =
    some (traceOf H scope.operation row)) :
    s.readTrace H scope run action receipt =
      s.enter { run with
        place := .recording
          { index := run.steps.length
            action := action.kind
            requestDigest := H.text action.json
            brokerCallSequence := row.sequence
            grantId := row.grantId
            receipt } } := by
  simp only [RlmSystem.readTrace, shown, traceOf]

/-- A step of a new index is recorded. -/
theorem step_records {step : RlmStep} {job : RlmJob} (stored : s.tables.job = some job)
    (fresh : ∀ other ∈ s.tables.stepRows, other.index ≠ step.index) :
    s.recordStep scope run step =
      ({ s with tables := { s.tables with stepRows := s.tables.stepRows ++ [step] } } :
        RlmSystem).enter { run with steps := run.steps ++ [step], place := .looping } := by
  have absent : s.tables.stepRows.find? (fun other => other.index = step.index) = none :=
    List.find?_eq_none.mpr fun other member => by simpa using fresh other member
  simp only [RlmSystem.recordStep, RlmTables.recordStep, absent, RlmTables.jobRow, stored, orRaise,
    ok_bind]
  rfl

/-- What is in step at a call that has succeeded without a step goes on to the state with its step. -/
theorem InStep.resumes (inStep : InStep H table scope spec s) {job : RlmJob} {now callNow : Nat}
    (stored : s.tables.job = some job) (open_ : job.state ∈ [.accepted, .running, .indeterminate])
    (uncommitted : s.broker.calls[s.tables.stepRows.length]? = some row)
    (succeeded : row.state = .succeeded) (early : now < scope.envelope.deadlineUnixMs)
    (early' : callNow < scope.envelope.deadlineUnixMs) :
    ∃ action grant receipt, nextRlmAction table spec s.tables.stepRows = some action ∧
      grantFor scope action.kind = .ok grant ∧ row.responseJson = some receipt ∧
      Runs.run (RlmSystem.step H table scope)
        (successor spec s.tables.stepRows action receipt
          (stepOf H action s.tables.stepRows.length grant receipt) now callNow) s =
        ({ s with
          tables :=
            { job := some { job with state := .running }
              stepRows := s.tables.stepRows ++
                [stepOf H action s.tables.stepRows.length grant receipt] }
          broker := s.broker.return_ row.idempotencyKey receipt } : RlmSystem).enter
          ⟨spec, s.tables.stepRows ++ [stepOf H action s.tables.stepRows.length grant receipt],
            .looping⟩ := by
  obtain ⟨-, action, next, within, asked, asks, same⟩ := inStep.calls _ row uncommitted
  rw [List.take_length] at next
  obtain ⟨request, grant, built, granted, rfl⟩ := asks
  obtain ⟨receipt, answered, admitted⟩ := replays_call inStep.orderly.named
    (List.mem_of_getElem? uncommitted) (inStep.sound row (List.mem_of_getElem? uncommitted)) succeeded
    same invocation_checked invocation_revision invocation_cancelled
  obtain rfl : job.spec = spec := by
    obtain ⟨job', stored', kept⟩ := inStep.job
    cases stored.symm.trans stored'
    exact kept.bound
  have prepared : prepare H scope callNow action s.tables.stepRows.length =
      .ok (invocation H scope action s.tables.stepRows.length request grant) :=
    prepare_ok.mpr ⟨request, grant, built, early', granted, rfl⟩
  -- The call without a step is the last one of the journal.
  have last : s.broker.calls.getLast? = some row := by
    have length : s.broker.calls.length = s.tables.stepRows.length + 1 := by
      refine Nat.le_antisymm ?_ (List.getElem?_eq_some_iff.mp uncommitted).1
      by_contra more
      have there := (inStep.calls _ _ (List.getElem?_eq_getElem (Nat.lt_of_not_le more))).1
      omega
    rw [List.getLast?_eq_getElem?, length, Nat.add_sub_cancel, uncommitted]
  have shown : (Rlm.traces H scope.operation s.broker.calls).getLast? =
      some (traceOf H scope.operation row) := by
    rw [inStep.traces, List.getLast?_map, last, Option.map_some]
  have recorded : (⟨s.tables.stepRows.length, action.kind, H.text action.json, row.sequence,
      row.grantId, receipt⟩ : RlmStep) = stepOf H action s.tables.stepRows.length grant receipt := by
    have sequence := congrArg CallIdentity.sequence same
    have under := congrArg CallIdentity.grantId same
    simp only [identity, startedCall, invocation_grant] at sequence under
    rw [sequence, under]
    rfl
  have fresh : ∀ other ∈ s.tables.stepRows,
      other.index ≠ (stepOf H action s.tables.stepRows.length grant receipt).index := by
    intro other member index
    have found := inStep.indexed member index
    rw [show (stepOf H action s.tables.stepRows.length grant receipt).index =
      s.tables.stepRows.length from rfl, List.getElem?_eq_none le_rfl] at found
    cases found
  refine ⟨action, grant, receipt, next, granted, answered, ?_⟩
  change Runs.run (RlmSystem.step H table scope) ([.resume, .start false] ++ [_, _, _, _]) s = _
  rw [Runs.run_append, begins stored open_]
  generalize named : ({ s with
    tables := { s.tables with job := some { job with state := .running } } } : RlmSystem) = begun
  have known : begun.tables.steps = s.tables.stepRows := named ▸ inStep.steps
  have rows : begun.tables.stepRows = s.tables.stepRows := named ▸ rfl
  have held : begun.tables.job = some { job with state := .running } := named ▸ rfl
  have journal : begun.broker = s.broker := named ▸ rfl
  have key : row.idempotencyKey =
      (invocation H scope action s.tables.stepRows.length request grant).idempotencyKey :=
    congrArg CallIdentity.idempotencyKey same
  simp only [Runs.run_cons, Runs.run_nil]
  rw [reads_head, known, turn_head,
    turn_replays next within early prepared (by rw [journal]; exact admitted), trace_head,
    trace_records (by rw [journal]; exact shown), recorded, record_head, step_records]
  · rw [key]
    subst named
    rfl
  · exact held
  · change ∀ other ∈ begun.tables.stepRows, _
    rw [rows]
    exact fresh

/-- Events that bring in no answer keep everything in step. -/
theorem InStep.silent {events : List RlmEvent} (inStep : InStep H table scope spec s)
    (separated : Separated H scope spec) (silent : ∀ event ∈ events, event.answers = none) :
    InStep H table scope spec (Runs.run (RlmSystem.step H table scope) events s) := by
  induction events generalizing s with
  | nil => exact inStep
  | cons event rest ih =>
    have timely : Timely event s := by simp [Timely, silent event List.mem_cons_self]
    exact ih (inStep.step separated timely) fun later member =>
      silent later (List.mem_cons_of_mem _ member)

/-- From whatever runs, losses and passes have left, a successor records the receipt of a call that
has succeeded and has no step yet as the next step of the strategy: the journal keeps its calls, and
no request enters the provider again. -/
theorem successor_replays {events : List RlmEvent} {job : RlmJob} {now callNow : Nat}
    (separated : Separated H scope spec) (punctual : Punctual H table scope spec events)
    (stored : (after H table scope spec events).tables.job = some job)
    (open_ : job.state ∈ [.accepted, .running, .indeterminate])
    (uncommitted : (after H table scope spec events).broker.calls[
      (after H table scope spec events).tables.steps.length]? = some row)
    (succeeded : row.state = .succeeded)
    (early : now < scope.envelope.deadlineUnixMs) (early' : callNow < scope.envelope.deadlineUnixMs) :
    let s := after H table scope spec events
    let steps := s.tables.steps
    ∃ action grant receipt, nextRlmAction table spec steps = some action ∧
      grantFor scope action.kind = .ok grant ∧ row.responseJson = some receipt ∧
      let step := stepOf H action steps.length grant receipt
      let s' := Runs.run (RlmSystem.step H table scope)
        (successor spec steps action receipt step now callNow) s
      s'.tables.steps = steps ++ [step] ∧ s'.broker.calls = s.broker.calls ∧
        s'.broker.entered = s.broker.entered ∧ s'.broker.flights = s.broker.flights ∧
        ⟨spec, steps ++ [step], .looping⟩ ∈ s'.runs := by
  have inStep := InStep.after separated punctual
  generalize after H table scope spec events = s at *
  rw [inStep.steps] at uncommitted
  obtain ⟨action, grant, receipt, next, granted, answered, ran⟩ :=
    inStep.resumes stored open_ uncommitted succeeded early early'
  intro s₀ steps
  have known : steps = s.tables.stepRows := inStep.steps
  refine ⟨action, grant, receipt, known ▸ next, granted, answered, ?_⟩
  rw [known]
  intro step s'
  -- None of these events brings in an answer, so all stays in step.
  have reached : InStep H table scope spec s' := by
    refine inStep.silent separated fun event member => ?_
    simp only [successor, List.mem_cons, List.not_mem_nil, or_false] at member
    rcases member with rfl | rfl | rfl | rfl | rfl | rfl <;> rfl
  rw [reached.steps, show s' = _ from ran]
  exact ⟨rfl, rfl, rfl, rfl, List.mem_cons_self⟩

end Successor

section Samples

/-- The providers of the sample: the query finds something, and the model answers. -/
def Sample.provided (request : Digest) : BrokerResponse :=
  Sample.response
    (if request = Sample.hashing.text Sample.firstRequest then Sample.first else Sample.second)

/-- All that the question's runs bring in comes from these providers. -/
theorem Sample.consistent (event : RlmEvent) (member : event ∈ Sample.lost ++ Sample.resumed) :
    Consistent Sample.hashing Sample.provided event := by
  have all : ∀ event ∈ Sample.lost ++ Sample.resumed, ∀ brought ∈ event.brings.toList,
      Gives Sample.hashing Sample.provided brought := by decide +kernel
  exact fun brought here => all event member brought (Option.mem_toList.mpr here)

/-- The lost run has done what it and its successor do. -/
theorem replay_exact_sample :
    Agreed (after Sample.hashing Sample.table Sample.scope Sample.question Sample.lost)
      (after Sample.hashing Sample.table Sample.scope Sample.question
        (Sample.lost ++ Sample.resumed)) :=
  replay_exact Sample.separated (Runs.allowed_append.mp Sample.punctual).1 Sample.punctual
    (fun event member => Sample.consistent event (List.mem_append_left _ member)) Sample.consistent

theorem Sample.uncommitted :
    (after Sample.hashing Sample.table Sample.scope Sample.question Sample.lost).broker.calls[
      (after Sample.hashing Sample.table Sample.scope Sample.question
        Sample.lost).tables.steps.length]? =
      some (Sample.row Sample.second 1 Sample.secondRequest) := by
  rw [Sample.after_lost]
  rfl

/-- A successor of the lost run records the model's answer. -/
theorem successor_replays_sample :
    ∃ action grant receipt,
      (Sample.row Sample.second 1 Sample.secondRequest).responseJson = some receipt ∧
      let s := after Sample.hashing Sample.table Sample.scope Sample.question Sample.lost
      let step := stepOf Sample.hashing action s.tables.steps.length grant receipt
      (Runs.run (RlmSystem.step Sample.hashing Sample.table Sample.scope)
        (successor Sample.question s.tables.steps action receipt step 2000 2000) s).tables.steps =
          s.tables.steps ++ [step] := by
  have stored : (after Sample.hashing Sample.table Sample.scope Sample.question
      Sample.lost).tables.job = some ⟨.running, Sample.question, none⟩ := by
    rw [Sample.after_lost]
    rfl
  obtain ⟨action, grant, receipt, -, -, answered, grown, -⟩ :=
    successor_replays Sample.separated (Runs.allowed_append.mp Sample.punctual).1 stored (by decide)
      Sample.uncommitted rfl (show 2000 < 9000 by decide) (show 2000 < 9000 by decide)
  exact ⟨action, grant, receipt, answered, grown⟩

end Samples

end Aar.Rlm
