import Aar.Proofs.RlmJournal

/-! Engine runs over one operation, in any interleaving, record the steps of its strategy. -/

namespace Aar.Rlm

open Guarded Table Broker BrokerJournal Scripts Flights Sorting

section Calls

variable {H : Hashing} {scope : RlmScope} {action : RlmAction} {index : Nat} {request : String}
  {grant : Grant}

@[simp] theorem invocation_method :
    (invocation H scope action index request grant).method = action.kind.method := by
  unfold invocation
  cases action.kind <;> cases scope.route <;> rfl

@[simp] theorem invocation_grant :
    (invocation H scope action index request grant).grantId = grant.grantId := by
  unfold invocation
  cases action.kind <;> cases scope.route <;> rfl

@[simp] theorem invocation_key :
    (invocation H scope action index request grant).idempotencyKey =
      callKey H scope action.kind index := by
  unfold invocation
  cases action.kind <;> cases scope.route <;> rfl

@[simp] theorem invocation_checked :
    (invocation H scope action index request grant).checked = false := by
  unfold invocation
  cases action.kind <;> cases scope.route <;> rfl

@[simp] theorem invocation_revision :
    (invocation H scope action index request grant).expectedControlRevision = none := by
  unfold invocation
  cases action.kind <;> cases scope.route <;> rfl

@[simp] theorem invocation_cancelled :
    (invocation H scope action index request grant).requireNotCancelled = false := by
  unfold invocation
  cases action.kind <;> cases scope.route <;> rfl

/-- The call of a step sends the request that was built. -/
theorem invocation_request (built : brokerRequest action = .ok request) :
    (invocation H scope action index request grant).requestJson = request := by
  unfold invocation
  unfold brokerRequest at built
  cases kind : action.kind with
  | evidenceQuery => simp only
  | modelRequest =>
    -- A routed call spells its request again.
    simp only [kind, bind_ok, require_ok, pure_ok] at built
    obtain ⟨_, -, rfl⟩ := built
    cases scope.route <;> rfl

theorem prepare_ok {now : Nat} {asked : Invocation} :
    prepare H scope now action index = .ok asked ↔
      ∃ request grant, brokerRequest action = .ok request ∧
        now < scope.envelope.deadlineUnixMs ∧ grantFor scope action.kind = .ok grant ∧
        invocation H scope action index request grant = asked := by
  simp [prepare]

end Calls

section Invariant

variable (H : Hashing) (table : RlmStrategyName → RlmStrategy) (scope : RlmScope)
  (spec : RlmJobSpec)

/-- The step that an action at an index leaves with its receipt. -/
def stepOf (action : RlmAction) (index : Nat) (grant : Grant) (receipt : BrokerResponse) :
    RlmStep where
  index
  action := action.kind
  requestDigest := H.text action.json
  brokerCallSequence := index + 1
  grantId := grant.grantId
  receipt

/-- The call at an index has ended with a receipt. -/
def Answered (calls : List BrokerCall) (index : Nat) (receipt : BrokerResponse) : Prop :=
  ∃ row, calls[index]? = some row ∧ row.Ended ∧ row.responseJson = some receipt

/-- A step is what an action at an index leaves with the receipt of the call at that index. -/
def Fulfils (calls : List BrokerCall) (index : Nat) (action : RlmAction) (step : RlmStep) : Prop :=
  ∃ grant, grantFor scope action.kind = .ok grant ∧ step = stepOf H action index grant step.receipt ∧
    Answered calls index step.receipt

/-- An invocation is the call of an action at an index. -/
def Asks (index : Nat) (action : RlmAction) (asked : Invocation) : Prop :=
  ∃ request grant, brokerRequest action = .ok request ∧ grantFor scope action.kind = .ok grant ∧
    asked = invocation H scope action index request grant

/-- A row was admitted for the action at an index, within the bound of its job. -/
def Called (index : Nat) (action : RlmAction) (row : BrokerCall) : Prop :=
  index < spec.maxSteps ∧ ∃ asked, Asks H scope index action asked ∧
    identity row = identity (startedCall H asked (index + 1))

/-- A result says what the steps say, and lists their calls. -/
structure Finishes (steps : List RlmStep) (result : RlmResult) : Prop where
  operation : result.operation = scope.operation
  strategy : result.strategy = spec.strategy
  recorded : result.steps = steps
  ended : nextRlmAction table spec steps = none
  answer : (table spec.strategy).answer steps = some result.answer
  listed : result.brokerTrace.map (fun trace => (trace.sequence, trace.grantId)) =
    steps.map fun step => (step.brokerCallSequence, step.grantId)

/-- What holds of a run at its place, after the steps it knows. -/
def At (s : RlmSystem) (known : List RlmStep) : EnginePlace → Prop
  | .begun | .looping => True
  | .invoking action flight => nextRlmAction table spec known = some action ∧
      known.length < spec.maxSteps ∧ ∃ call, flight.call = some call ∧
        call.sequence = known.length + 1 ∧ Asks H scope known.length action call.invocation
  | .received action receipt => nextRlmAction table spec known = some action ∧
      Answered s.broker.calls known.length receipt
  | .recording step => ∃ action grant, nextRlmAction table spec known = some action ∧
      grantFor scope action.kind = .ok grant ∧ Answered s.broker.calls known.length step.receipt ∧
      step.index = known.length ∧ (known.length < s.tables.stepRows.length ∨
        step = stepOf H action known.length grant step.receipt)
  | .issuing answer _ => nextRlmAction table spec known = none ∧
      (table spec.strategy).answer known = some answer
  | .completing result => Finishes table scope spec known result

/-- What holds of the job: only a success has a result, and the result finishes the steps. -/
structure JobKept (steps : List RlmStep) (job : RlmJob) : Prop where
  bound : job.spec = spec
  open_ : job.state ≠ .succeeded → job.result = none
  ended : job.state = .succeeded → ∃ result, job.result = some result ∧
    Finishes table scope spec steps result

/-- What holds of an operation whose job has a spec, whatever its runs have done. -/
structure InStep (s : RlmSystem) : Prop where
  orderly : s.broker.Orderly
  sound : ∀ row ∈ s.broker.calls, Sound H row
  held : Held EngineRun.flight s.runs s.broker.flights
  script : Follows (nextRlmAction table spec) (Fulfils H scope s.broker.calls) s.tables.stepRows
  calls : ∀ index row, s.broker.calls[index]? = some row → index ≤ s.tables.stepRows.length ∧
    ∃ action, nextRlmAction table spec (s.tables.stepRows.take index) = some action ∧
      Called H scope spec index action row
  runs : ∀ run ∈ s.runs, run.spec = spec ∧ run.steps <+: s.tables.stepRows ∧
    At H table scope spec s run.steps run.place
  job : ∃ job, s.tables.job = some job ∧ JobKept table scope spec s.tables.stepRows job
  returned : ∀ result, .ok result ∈ s.outcomes → ∃ job, s.tables.job = some job ∧
    job.result = some result
  unconflicted : ∀ message, .error (.broker (.callConflict message)) ∉ s.outcomes

/-- The keys of a job's calls are different, which their digests leave them. -/
def Separated : Prop :=
  ∀ first < spec.maxSteps, ∀ second < spec.maxSteps, ∀ kind kind',
    callKey H scope kind first = callKey H scope kind' second → first = second

end Invariant

/-- The keys of a job's calls differ exactly when those of each two indices do. -/
theorem separated_iff {H : Hashing} {scope : RlmScope} {spec : RlmJobSpec} :
    Separated H scope spec ↔ (List.range spec.maxSteps).Pairwise fun first second =>
      ∀ kind ∈ [RlmActionKind.evidenceQuery, .modelRequest],
        ∀ kind' ∈ [RlmActionKind.evidenceQuery, .modelRequest],
          callKey H scope kind first ≠ callKey H scope kind' second := by
  have all : ∀ kind, kind ∈ [RlmActionKind.evidenceQuery, .modelRequest] := by
    intro kind
    cases kind <;> decide
  constructor
  · intro separated
    refine List.pairwise_iff_getElem.mpr fun i j within within' less kind _ kind' _ same => ?_
    simp only [List.length_range, List.getElem_range] at within within' same
    exact absurd (separated i within j within' kind kind' same) (Nat.ne_of_lt less)
  · intro apart first within second within' kind kind' same
    have differ : ∀ i j, i < j → j < spec.maxSteps → ∀ kind kind',
        callKey H scope kind i ≠ callKey H scope kind' j := by
      intro i j less bound kind kind'
      have pair := List.pairwise_iff_getElem.mp apart i j (by simpa using less.trans bound)
        (by simpa using bound) less kind (all kind) kind' (all kind')
      simpa only [List.getElem_range] using pair
    rcases Nat.lt_trichotomy first second with less | rfl | less
    · exact absurd same (differ first second less within' kind kind')
    · rfl
    · exact absurd same.symm (differ second first less within kind' kind)

instance (H : Hashing) (scope : RlmScope) (spec : RlmJobSpec) : Decidable (Separated H scope spec) :=
  decidable_of_iff _ separated_iff.symm

section Keeping

variable {H : Hashing} {table : RlmStrategyName → RlmStrategy} {scope : RlmScope}
  {spec : RlmJobSpec} {s s' : RlmSystem} {run : EngineRun} {calls calls' : List BrokerCall}
  {index : Nat} {action : RlmAction} {receipt : BrokerResponse} {known : List RlmStep}
  {place : EnginePlace} {row : BrokerCall} {asked : Invocation} {event : BrokerEvent}

theorem Answered.keeps (answered : Answered calls index receipt)
    (keeps : InPlace (Keeps H) calls calls') : Answered calls' index receipt := by
  obtain ⟨row, found, ended, stored⟩ := answered
  obtain ⟨row', here, kept⟩ := keeps.2 index row found
  obtain ⟨ended', same, -⟩ := kept.later.ended ended
  exact ⟨row', here, ended', same.trans stored⟩

theorem Answered.append (answered : Answered calls index receipt) (row : BrokerCall) :
    Answered (calls ++ [row]) index receipt := by
  obtain ⟨stored, found, ended, response⟩ := answered
  have within := (List.getElem?_eq_some_iff.mp found).1
  exact ⟨stored, by rw [List.getElem?_append_left within, found], ended, response⟩

/-- What holds of a run stays when calls keep their receipts and steps are only added. -/
theorem At.mono (at_ : At H table scope spec s known place)
    (answered : ∀ index receipt, Answered s.broker.calls index receipt →
      Answered s'.broker.calls index receipt)
    (grown : s.tables.stepRows.length ≤ s'.tables.stepRows.length) :
    At H table scope spec s' known place := by
  cases place with
  | begun | looping | invoking | issuing | completing => exact at_
  | received action receipt => exact ⟨at_.1, answered _ _ at_.2⟩
  | recording step =>
    obtain ⟨action, grant, asked, granted, there, named, rest⟩ := at_
    exact ⟨action, grant, asked, granted, answered _ _ there, named,
      rest.imp_left fun fewer => by omega⟩

theorem Asks.unique {other : Invocation} (asks : Asks H scope index action asked)
    (asks' : Asks H scope index action other) : asked = other := by
  obtain ⟨request, grant, built, granted, rfl⟩ := asks
  obtain ⟨request', grant', built', granted', rfl⟩ := asks'
  cases built.symm.trans built'
  cases granted.symm.trans granted'
  rfl

theorem Asks.key (asks : Asks H scope index action asked) :
    asked.idempotencyKey = callKey H scope action.kind index := by
  obtain ⟨request, grant, -, -, rfl⟩ := asks
  exact invocation_key

/-- What storing a step does. -/
theorem recordStep_ok {operation : String} {step : RlmStep} {tables tables' : RlmTables}
    (ran : tables.recordStep operation step = .ok tables') :
    (step ∈ tables.stepRows ∧ tables' = tables) ∨
      ((∀ stored ∈ tables.stepRows, stored.index ≠ step.index) ∧
        tables' = { tables with stepRows := tables.stepRows ++ [step] }) := by
  simp only [RlmTables.recordStep] at ran
  split at ran
  · next stored found =>
    simp only [bind_ok, require_ok, pure_ok] at ran
    obtain ⟨_, rfl, rfl⟩ := ran
    exact .inl ⟨List.mem_of_find?_eq_some found, rfl⟩
  · next absent =>
    simp only [bind_ok, pure_ok] at ran
    obtain ⟨_, -, rfl⟩ := ran
    refine .inr ⟨fun stored member same => ?_, rfl⟩
    have passed := List.find?_eq_none.mp absent stored member
    exact passed (decide_eq_true same)

theorem recordStep_error {operation : String} {step : RlmStep} {tables : RlmTables}
    {error : BrokerError} : tables.recordStep operation step ≠ .error (.broker error) := by
  intro raised
  simp only [RlmTables.recordStep, RlmTables.jobRow, orRaise, require] at raised
  repeat' split at raised
  all_goals cases raised

namespace InStep

theorem leave (inStep : InStep H table scope spec s) (run : EngineRun) :
    InStep H table scope spec (s.leave run) :=
  { inStep with
    held := inStep.held.leave run
    runs := fun other member => inStep.runs other (List.mem_of_mem_erase member) }

/-- A run goes on to a place. -/
theorem enter (inStep : InStep H table scope spec s) (bound : run.spec = spec)
    (first : run.steps <+: s.tables.stepRows)
    (at_ : At H table scope spec s run.steps run.place)
    (held : Held EngineRun.flight (run :: s.runs) s.broker.flights) :
    InStep H table scope spec (s.enter run) := by
  refine { inStep with held := held, runs := fun other member => ?_ }
  rcases List.mem_cons.mp member with rfl | before
  · exact ⟨bound, first, at_⟩
  · exact inStep.runs other before

/-- A run ends with an error that is no conflict. -/
theorem fail (inStep : InStep H table scope spec s) {error : RlmError}
    (plain : ∀ message, error ≠ .broker (.callConflict message)) :
    InStep H table scope spec (s.finish (.error error)) := by
  refine { inStep with returned := fun result member => ?_, unconflicted := fun message member => ?_ }
  · rcases List.mem_cons.mp member with same | before
    · cases same
    · exact inStep.returned result before
  · rcases List.mem_cons.mp member with same | before
    · cases same
      exact plain message rfl
    · exact inStep.unconflicted message before

theorem numbered (inStep : InStep H table scope spec s) {index : Nat} {row : BrokerCall}
    (found : s.broker.calls[index]? = some row) : row.sequence = index + 1 := by
  obtain ⟨-, action, -, -, asked, -, same⟩ := inStep.calls index row found
  exact congrArg CallIdentity.sequence same

theorem located (inStep : InStep H table scope spec s) (member : row ∈ s.broker.calls)
    (named : row.sequence = index + 1) : s.broker.calls[index]? = some row := by
  obtain ⟨place, found⟩ := List.mem_iff_getElem?.mp member
  have same := inStep.numbered found
  obtain rfl : place = index := by omega
  exact found

theorem succession (inStep : InStep H table scope spec s) :
    Succession BrokerCall.sequence (fun _ => False) s.broker.calls where
  numbered := map_eq_range' fun index row found => by
    rw [inStep.numbered found, Nat.add_comm]
  latest _ _ impossible := impossible.elim

theorem traces (inStep : InStep H table scope spec s) :
    Rlm.traces H scope.operation s.broker.calls =
      s.broker.calls.map (traceOf H scope.operation) := by
  have sorted : SortedUnique (s.broker.calls.map BrokerCall.sequence) := by
    rw [inStep.succession.numbered]
    exact List.pairwise_lt_range'
  rw [Rlm.traces, sortedBy_sorted sorted]

theorem placed (inStep : InStep H table scope spec s) {step : RlmStep}
    (found : s.tables.stepRows[index]? = some step) :
    step.index = index ∧ step.brokerCallSequence = index + 1 := by
  obtain ⟨action, -, grant, -, same, -⟩ := inStep.script index step found
  rw [same]
  exact ⟨rfl, rfl⟩

theorem steps (inStep : InStep H table scope spec s) : s.tables.steps = s.tables.stepRows := by
  refine sortedBy_sorted ?_
  have indexed : s.tables.stepRows.map RlmStep.index =
      List.range' 0 s.tables.stepRows.length :=
    map_eq_range' fun index step found => by rw [(inStep.placed found).1, Nat.zero_add]
  rw [indexed]
  exact List.pairwise_lt_range'

/-- Every step has a call. -/
theorem longer (inStep : InStep H table scope spec s) :
    s.tables.stepRows.length ≤ s.broker.calls.length := by
  by_contra fewer
  have within : s.broker.calls.length < s.tables.stepRows.length := by omega
  obtain ⟨action, -, grant, -, -, row, found, -⟩ :=
    inStep.script _ _ (List.getElem?_eq_getElem within)
  rw [List.getElem?_eq_none le_rfl] at found
  cases found

/-- An event on the journal that admits no call keeps everything in step. -/
theorem journal (inStep : InStep H table scope spec s)
    (timely : BrokerSystem.Timely event s.broker) (plain : Plain event)
    (typed : Typed s.broker.calls event)
    (held : Held EngineRun.flight s.runs
      (BrokerSystem.step H scope.envelope.budget event s.broker).flights) :
    InStep H table scope spec (s.journal H scope event) := by
  obtain ⟨orderly, keeps⟩ :=
    step_keeps H scope.envelope.budget inStep.orderly timely plain typed
  have answered : ∀ index receipt, Answered s.broker.calls index receipt →
      Answered (s.journal H scope event).broker.calls index receipt :=
    fun _ _ there => there.keeps keeps
  refine { inStep with
    orderly := orderly, held := held, sound := fun row' member => ?_
    script := inStep.script.imp fun index action step ⟨grant, granted, same, there⟩ =>
      ⟨grant, granted, same, there.keeps keeps⟩
    calls := fun index row' found => ?_
    runs := fun run member => ?_ }
  · obtain ⟨index, found⟩ := List.mem_iff_getElem?.mp member
    obtain ⟨row, before, kept⟩ := keeps.back found
    exact kept.sound (inStep.sound row (List.mem_of_getElem? before))
  · obtain ⟨row, before, kept⟩ := keeps.back found
    obtain ⟨within, action, asks, bound, asked, asking, same⟩ := inStep.calls index row before
    exact ⟨within, action, asks, bound, asked, asking, kept.same.trans same⟩
  · obtain ⟨bound, first, at_⟩ := inStep.runs run member
    exact ⟨bound, first, at_.mono answered le_rfl⟩

/-- A run that knows as many steps as there are calls knows all steps. -/
theorem caught_up (inStep : InStep H table scope spec s) (first : known <+: s.tables.stepRows)
    (none_ : s.broker.calls[known.length]? = none) :
    known = s.tables.stepRows ∧ s.broker.calls.length = known.length := by
  have short : s.broker.calls.length ≤ known.length := List.getElem?_eq_none_iff.mp none_
  have long := inStep.longer
  have length := first.length_le
  exact ⟨first.eq_of_length (by omega), by omega⟩

/-- A call after the steps that a run knows is the call of its next action. -/
theorem next_call (inStep : InStep H table scope spec s) (first : known <+: s.tables.stepRows)
    (next : nextRlmAction table spec known = some action)
    (found : s.broker.calls[known.length]? = some row)
    (asks : Asks H scope known.length action asked) :
    identity row = identity (startedCall H asked (known.length + 1)) := by
  obtain ⟨-, action', next', -, asked', asks', same⟩ := inStep.calls _ row found
  rw [← List.prefix_iff_eq_take.mp first, next] at next'
  cases next'
  rw [asks.unique asks']
  exact same

/-- The rows of a key are the call of its index. -/
theorem keyed (inStep : InStep H table scope spec s) (separated : Separated H scope spec)
    (within : index < spec.maxSteps) (asks : Asks H scope index action asked)
    (member : row ∈ s.broker.calls) (named : row.idempotencyKey = asked.idempotencyKey) :
    s.broker.calls[index]? = some row := by
  obtain ⟨place, found⟩ := List.mem_iff_getElem?.mp member
  obtain ⟨-, action', -, bound, asked', asks', same⟩ := inStep.calls place row found
  have key : row.idempotencyKey = callKey H scope action'.kind place :=
    (congrArg CallIdentity.idempotencyKey same).trans asks'.key
  obtain rfl := separated place bound index within _ _ (key.symm.trans (named.trans asks.key))
  exact found

/-- The call of the next action is added to the journal, and is in flight. -/
theorem insert (inStep : InStep H table scope spec s) {flight : BrokerFlight}
    (orderly : ((s.broker.store (s.broker.calls ++ [row])).enter flight).Orderly)
    (sound : Sound H row) (all : s.broker.calls.length = s.tables.stepRows.length)
    (next : nextRlmAction table spec s.tables.stepRows = some action)
    (called : Called H scope spec s.broker.calls.length action row) :
    InStep H table scope spec
      { s with broker := (s.broker.store (s.broker.calls ++ [row])).enter flight } := by
  refine { inStep with
    orderly := orderly, held := inStep.held.add flight, sound := fun other member => ?_
    script := inStep.script.imp fun index action step ⟨grant, granted, same, there⟩ =>
      ⟨grant, granted, same, there.append row⟩
    calls := fun index other found => ?_
    runs := fun run member => ?_ }
  · rcases List.mem_append.mp member with before | new
    · exact inStep.sound other before
    · rw [List.mem_singleton.mp new]
      exact sound
  · change (s.broker.calls ++ [row])[index]? = some other at found
    rcases Nat.lt_trichotomy index s.broker.calls.length with before | rfl | beyond
    · rw [List.getElem?_append_left before] at found
      exact inStep.calls index other found
    · rw [List.getElem?_concat_length] at found
      cases found
      exact ⟨all.le, action, by rw [all, List.take_length, next], called⟩
    · rw [List.getElem?_eq_none (by rw [List.length_append]; exact beyond)] at found
      cases found
  · obtain ⟨bound, first, at_⟩ := inStep.runs run member
    exact ⟨bound, first, at_.mono (fun _ _ there => there.append row) le_rfl⟩

/-- A run that asks for its next call stays in step, whatever the journal makes of it. -/
theorem admitCall (inStep : InStep H table scope spec s) (separated : Separated H scope spec)
    (bound : run.spec = spec) (first : run.steps <+: s.tables.stepRows)
    (next : nextRlmAction table spec run.steps = some action)
    (within : run.steps.length < spec.maxSteps)
    (asks : Asks H scope run.steps.length action asked) :
    InStep H table scope spec (s.admitCall H scope run action asked) := by
  have agrees : Agrees H asked s.broker.calls := by
    intro row member named
    have found := inStep.keyed separated within asks member named
    have same := inStep.next_call first next found asks
    exact ⟨congrArg CallIdentity.requestDigest same, congrArg CallIdentity.responseModel same⟩
  have checked : asked.checked = false ∧ asked.expectedControlRevision = none ∧
      asked.requireNotCancelled = false := by
    obtain ⟨request, grant, -, -, rfl⟩ := asks
    simp
  obtain ⟨unchecked, free, unguarded⟩ := checked
  generalize chosen : ({ controlRevision := 0, cancellationRequested := false } :
    OperationControl) = control
  have cases_ := admit_cases scope.envelope.budget control inStep.orderly.keyed inStep.sound agrees
    unchecked free unguarded
  have orderly : (s.broker.admitCall H scope.envelope.budget asked (.ok ()) control).Orderly :=
    inStep.orderly.admitCall.1
  simp only [RlmSystem.admitCall, RlmSystem.journal, BrokerSystem.step, chosen]
  unfold BrokerSystem.admitCall at orderly ⊢
  generalize BrokerJournal.admitCall H scope.envelope.budget asked (.ok ()) control
    s.broker.calls = result at cases_ orderly ⊢
  cases cases_ with
  | refused plain => exact inStep.fail fun message same => plain message (RlmError.broker.inj same)
  | @replayed row response member named succeeded stored =>
    have found := inStep.keyed separated within asks member named
    have kept : InStep H table scope spec
        { s with broker := s.broker.return_ asked.idempotencyKey response } :=
      { inStep with orderly := orderly }
    exact kept.enter bound first ⟨next, row, found, .inl succeeded, stored⟩
      (inStep.held.enter rfl)
  | @started used fresh =>
    -- Without a row under its key the call is the one after all others.
    have absent : s.broker.calls[run.steps.length]? = none := by
      cases found : s.broker.calls[run.steps.length]? with
      | none => rfl
      | some row =>
        have same := inStep.next_call first next found asks
        exact absurd (congrArg CallIdentity.idempotencyKey same)
          (fresh row (List.mem_of_getElem? found))
    obtain ⟨all, length⟩ := inStep.caught_up first absent
    rw [inStep.succession.maxOf, length] at orderly ⊢
    have sound : Sound H (startedCall H asked (run.steps.length + 1)) := .started asked _
    have kept := inStep.insert orderly sound (by rw [length, all]) (all ▸ next)
      ⟨by omega, asked, length.symm ▸ asks, by rw [length]⟩
    exact kept.enter bound first ⟨next, within, _, rfl, rfl, asks⟩ (inStep.held.take rfl)

section Placed

variable {call : AdmittedCall} {response : BrokerResponse} {usage : BrokerUsage}

/-- A run that holds a call goes on with the call in its next place. -/
theorem pass_on (inStep : InStep H table scope spec s) (member : run ∈ s.runs)
    {flight flight' : BrokerFlight} (place : run.place = .invoking action flight)
    (timely : BrokerSystem.Timely event s.broker) (plain : Plain event)
    (typed : Typed s.broker.calls event) (same : flight'.call = flight.call)
    (flights : (BrokerSystem.step H scope.envelope.budget event s.broker).flights =
      flight' :: s.broker.flights.erase flight) :
    InStep H table scope spec (((s.leave run).journal H scope event).enter
      { run with place := .invoking action flight' }) := by
  have holds : run.flight = some flight := by rw [EngineRun.flight, place]
  have rest := inStep.held.drop member holds
  obtain ⟨bound, first, at_⟩ := inStep.runs run member
  have moved := (inStep.leave run).journal (H := H) timely plain typed
    (by change Held _ _ (BrokerSystem.step H scope.envelope.budget event s.broker).flights
        rw [flights]
        exact rest.add flight')
  rw [place] at at_
  obtain ⟨next, within, call, about, rest_⟩ := at_
  refine moved.enter bound first ⟨next, within, call, same.trans about, rest_⟩ ?_
  change Held _ _ (BrokerSystem.step H scope.envelope.budget event s.broker).flights
  rw [flights]
  exact rest.take rfl

/-- A run whose call is over leaves the journal in step. -/
theorem let_go (inStep : InStep H table scope spec s) (member : run ∈ s.runs)
    {flight : BrokerFlight} (place : run.place = .invoking action flight)
    (timely : BrokerSystem.Timely event s.broker) (plain : Plain event)
    (typed : Typed s.broker.calls event)
    (flights : (BrokerSystem.step H scope.envelope.budget event s.broker).flights =
      s.broker.flights.erase flight) :
    InStep H table scope spec ((s.leave run).journal H scope event) := by
  have holds : run.flight = some flight := by rw [EngineRun.flight, place]
  refine (inStep.leave run).journal timely plain typed ?_
  change Held _ _ (BrokerSystem.step H scope.envelope.budget event s.broker).flights
  rw [flights]
  exact inStep.held.drop member holds

/-- The rows of a run's call expect a receipt. -/
theorem typed (inStep : InStep H table scope spec s) (member : run ∈ s.runs)
    {flight : BrokerFlight} (place : run.place = .invoking action flight)
    (about : flight.call = some call) {answer : CallAnswer} :
    Typed s.broker.calls (.answer call answer) := by
  intro row stored named
  obtain ⟨-, first, at_⟩ := inStep.runs run member
  rw [place] at at_
  obtain ⟨next, -, call', about', sequence, asks⟩ := at_
  cases about.symm.trans about'
  have found := inStep.located stored (named.trans sequence)
  exact congrArg CallIdentity.responseModel (inStep.next_call first next found asks)

/-- A success is refused by a limit only. -/
theorem settle_error {error : BrokerError}
    (raised : (do
      BrokerSystem.limits scope.envelope.budget call usage
      RlmSystem.postCheck scope call usage) = .error error) (message : String) :
    error ≠ .callConflict message := by
  cases limits : BrokerSystem.limits scope.envelope.budget call usage with
  | error early =>
    rw [limits] at raised
    cases raised
    exact limit_error limits message
  | ok passed =>
    rw [limits, ok_bind] at raised
    rintro rfl
    simp only [RlmSystem.postCheck, runWhen, require] at raised
    repeat' split at raised
    all_goals cases raised

/-- A call that settles within its limits leaves its receipt to its run. -/
theorem settled (inStep : InStep H table scope spec s) (member : run ∈ s.runs)
    (place : run.place = .invoking action (.settling call response usage)) :
    InStep H table scope spec ((s.leave run).settle H scope run action call response usage) := by
  have holds : run.flight = some (.settling call response usage) := by rw [EngineRun.flight, place]
  have flying := inStep.held.member member holds
  obtain ⟨bound, first, at_⟩ := inStep.runs run member
  rw [place] at at_
  obtain ⟨next, -, call', about, sequence, -⟩ := at_
  cases about
  obtain ⟨row, stored, named, ended, answered, -⟩ := inStep.orderly.settled _ _ _ flying
  have there : Answered s.broker.calls run.steps.length response :=
    ⟨row, inStep.located stored (named.trans sequence), ended, answered⟩
  generalize check : RlmSystem.postCheck scope call usage = postCheck
  have landed := settle_flights H scope.envelope.budget postCheck flying
  have gone : InStep H table scope spec
      ((s.leave run).journal H scope (.settle call response usage postCheck)) :=
    inStep.let_go member place trivial trivial trivial landed
  have keeps : InPlace (Keeps H) s.broker.calls (BrokerSystem.step H scope.envelope.budget
      (.settle call response usage postCheck) s.broker).calls :=
    And.right (step_keeps H scope.envelope.budget inStep.orderly trivial trivial trivial)
  simp only [RlmSystem.settle, check]
  split
  · next error raised =>
    exact gone.fail fun message same =>
      settle_error (check ▸ raised) message (RlmError.broker.inj same)
  · refine gone.enter bound first ⟨next, there.keeps keeps⟩ ?_
    exact gone.held.enter rfl

/-- An answer of the provider keeps the run in step, or ends it. -/
theorem answered (inStep : InStep H table scope spec s) (member : run ∈ s.runs)
    (place : run.place = .invoking action (.calling call)) {answer : CallAnswer}
    (timely : BrokerSystem.Timely (.answer call answer) s.broker) :
    InStep H table scope spec ((s.leave run).answer H scope run action call answer) := by
  have holds : run.flight = some (.calling call) := by rw [EngineRun.flight, place]
  have flying := inStep.held.member member holds
  have typed : Typed s.broker.calls (.answer call answer) := inStep.typed member place rfl
  cases refused : RlmSystem.refusal call answer with
  | some error =>
    have gone := inStep.let_go member place timely trivial typed (refused_flights flying refused)
    simp only [RlmSystem.answer, refused]
    refine gone.fail fun message same => ?_
    subst same
    cases answer <;> simp only [RlmSystem.refusal] at refused
    case responded =>
      split at refused <;> cases refused
    all_goals cases refused
  | none =>
    cases answer with
    | indeterminate | quarantined | raised => cases refused
    | responded response committedUsage =>
      have same : response.model = call.invocation.responseModel := by
        simp only [RlmSystem.refusal] at refused
        split at refused
        · assumption
        · cases refused
      simp only [RlmSystem.answer, refused]
      exact inStep.pass_on member place timely trivial typed rfl (answered_flights flying same)

/-- The receipt of a run becomes its step: the last call of the journal is its call, unless the step
is stored already. -/
theorem traced (inStep : InStep H table scope spec s) (member : run ∈ s.runs)
    (place : run.place = .received action response) :
    InStep H table scope spec ((s.leave run).readTrace H scope run action response) := by
  obtain ⟨bound, first, at_⟩ := inStep.runs run member
  rw [place] at at_
  obtain ⟨next, answered⟩ := at_
  have left := inStep.leave run
  have last : (Rlm.traces H scope.operation (s.leave run).broker.calls).getLast? =
      (s.broker.calls.getLast?).map (traceOf H scope.operation) := by
    rw [left.traces, List.getLast?_map]
    rfl
  obtain ⟨row, found, ended, stored⟩ := answered
  obtain ⟨-, action', next', -, asked, ⟨request, grant, built, granted, rfl⟩, same⟩ :=
    inStep.calls _ row found
  rw [← List.prefix_iff_eq_take.mp first, next] at next'
  cases next'
  have within := (List.getElem?_eq_some_iff.mp found).1
  have latest : s.broker.calls.getLast? = some (s.broker.calls.getLast (by
      rintro empty
      rw [empty] at within
      exact absurd within (Nat.not_lt_zero _))) := List.getLast?_eq_some_getLast _
  rw [latest, Option.map_some] at last
  simp only [RlmSystem.readTrace, last]
  refine left.enter bound first ⟨action, grant, next, granted, ⟨row, found, ended, stored⟩, rfl, ?_⟩
    (left.held.enter rfl)
  rcases Nat.lt_or_ge (run.steps.length + 1) s.broker.calls.length with more | only
  · -- A later call was admitted after this step was stored.
    exact .inl (inStep.calls _ _ (List.getElem?_eq_getElem more)).1
  · -- The call of this run is the last one.
    have mine : s.broker.calls.getLast? = some row := by
      rw [List.getLast?_eq_getElem?, show s.broker.calls.length - 1 = run.steps.length by omega,
        found]
    rw [latest] at mine
    have sequence := congrArg CallIdentity.sequence same
    have under := congrArg CallIdentity.grantId same
    simp only [identity, startedCall, invocation_grant] at sequence under
    refine .inr ?_
    simp only [Option.some.inj mine, traceOf, stepOf, sequence, under]

theorem indexed (inStep : InStep H table scope spec s) {step : RlmStep}
    (stored : step ∈ s.tables.stepRows) (named : step.index = index) :
    s.tables.stepRows[index]? = some step := by
  obtain ⟨place, found⟩ := List.mem_iff_getElem?.mp stored
  obtain rfl : place = index := (inStep.placed found).1.symm.trans named
  exact found

/-- The step of the next action is added to the steps. -/
theorem extend (inStep : InStep H table scope spec s) {step : RlmStep}
    (next : nextRlmAction table spec s.tables.stepRows = some action)
    (fulfils : Fulfils H scope s.broker.calls s.tables.stepRows.length action step) :
    InStep H table scope spec
      { s with tables := { s.tables with stepRows := s.tables.stepRows ++ [step] } } := by
  have longer : s.tables.stepRows.length ≤ (s.tables.stepRows ++ [step]).length := by simp
  refine { inStep with
    script := inStep.script.snoc next fulfils
    calls := fun index row found => ?_
    runs := fun run member => ?_
    job := ?_ }
  · obtain ⟨within, action, asked, called⟩ := inStep.calls index row found
    exact ⟨within.trans longer, action,
      by rw [List.take_append_of_le_length within, asked], called⟩
  · obtain ⟨bound, first, at_⟩ := inStep.runs run member
    exact ⟨bound, first.trans (List.prefix_append _ _), at_.mono (fun _ _ => id) longer⟩
  · obtain ⟨job, stored, kept⟩ := inStep.job
    refine ⟨job, stored, kept.bound, kept.open_, fun ended => ?_⟩
    -- A job that has succeeded has no next action.
    obtain ⟨result, -, finishes⟩ := kept.ended ended
    cases finishes.ended.symm.trans next

/-- A run records its step, or finds another one in its place. -/
theorem recorded (inStep : InStep H table scope spec s) (member : run ∈ s.runs) {step : RlmStep}
    (place : run.place = .recording step) :
    InStep H table scope spec ((s.leave run).recordStep scope run step) := by
  obtain ⟨bound, first, at_⟩ := inStep.runs run member
  rw [place] at at_
  obtain ⟨action, grant, next, granted, answered, index, known⟩ := at_
  have left := inStep.leave run
  simp only [RlmSystem.recordStep]
  cases ran : RlmTables.recordStep scope.operation step (s.leave run).tables with
  | error error => exact left.fail fun message same => recordStep_error (same ▸ ran)
  | ok tables =>
    rcases recordStep_ok ran with ⟨stored, rfl⟩ | ⟨fresh, rfl⟩
    · -- The same step was stored before.
      have found := inStep.indexed stored index
      refine left.enter bound ?_ trivial (left.held.enter rfl)
      change run.steps ++ [step] <+: s.tables.stepRows
      rw [List.prefix_iff_eq_take, List.length_append, List.length_singleton, List.take_add_one,
        ← List.prefix_iff_eq_take.mp first, found]
      rfl
    · -- The step is the next one of all, so this run has bound it to its own call.
      have all : run.steps = s.tables.stepRows := by
        refine first.eq_of_length (Nat.le_antisymm first.length_le ?_)
        by_contra shorter
        have there := List.getElem?_eq_getElem (Nat.lt_of_not_le shorter)
        exact fresh _ (List.mem_of_getElem? there) ((inStep.placed there).1.trans index.symm)
      have exact_ : step = stepOf H action run.steps.length grant step.receipt :=
        known.resolve_left (by rw [all]; exact Nat.lt_irrefl _)
      have fulfils : Fulfils H scope s.broker.calls s.tables.stepRows.length action step :=
        ⟨grant, granted, all ▸ exact_, all ▸ answered⟩
      have grown := left.extend (all ▸ next) fulfils
      refine grown.enter bound ?_ trivial (left.held.enter rfl)
      change run.steps ++ [step] <+: s.tables.stepRows ++ [step]
      rw [all]

end Placed

/-- What a loop that is left has found. -/
theorem finishLoop_ok {cancelled : Bool}
    (ran : RlmSystem.finishLoop table run cancelled s = .ok place) :
    ∃ answer usage, place = .issuing answer usage ∧ nextRlmAction table run.spec run.steps = none ∧
      (table run.spec.strategy).answer run.steps = some answer := by
  simp only [RlmSystem.finishLoop, bind_ok, require_ok, orRaise_ok] at ran
  obtain ⟨_, -, _, ended, answer, answered, ran⟩ := ran
  split at ran
  · cases ran
    exact ⟨answer, _, rfl, Option.isNone_iff_eq_none.mp ended, answered⟩
  · simp only [throw_ok] at ran

/-- A loop that cannot be left is no conflict. -/
theorem finishLoop_error {cancelled : Bool} {message : String} :
    RlmSystem.finishLoop table run cancelled s ≠ .error (.broker (.callConflict message)) := by
  intro raised
  simp only [RlmSystem.finishLoop, require, orRaise] at raised
  split at raised
  · split at raised
    · split at raised
      · simp only [ok_bind] at raised
        split at raised
        · cases raised
        · next spent =>
          cases raised
          exact usage_error spent message rfl
      · cases raised
    · cases raised
  · cases raised

theorem prepare_error {now : Nat} {message : String} :
    prepare H scope now action index ≠ .error (.broker (.callConflict message)) := by
  intro raised
  simp only [prepare, brokerRequest, grantFor, require, orRaise] at raised
  repeat' split at raised
  all_goals cases raised

/-- A turn of the loop keeps the run in step, or ends it. -/
theorem turned (inStep : InStep H table scope spec s) (separated : Separated H scope spec)
    (member : run ∈ s.runs) {cancelled stillCancelled : Bool} {now callNow : Nat} :
    InStep H table scope spec
      ((s.leave run).turn H table scope run cancelled now callNow stillCancelled) := by
  obtain ⟨bound, first, -⟩ := inStep.runs run member
  have left := inStep.leave run
  simp only [RlmSystem.turn]
  split
  · next error raised =>
    refine left.fail fun message same => ?_
    subst same
    simp only [RlmSystem.nextTurn, require] at raised
    repeat' split at raised
    all_goals cases raised
  · split
    · next error raised =>
      exact left.fail fun message same => finishLoop_error (same ▸ raised)
    · next place ran =>
      obtain ⟨answer, usage, rfl, ended, answered⟩ := finishLoop_ok ran
      rw [bound] at ended answered
      exact left.enter bound first ⟨ended, answered⟩ (left.held.enter rfl)
  · next action ran =>
    have asked : run.steps.length < spec.maxSteps ∧
        nextRlmAction table spec run.steps = some action := by
      simp only [RlmSystem.nextTurn, bound] at ran
      split at ran
      · next within =>
        simp only [bind_ok, require_ok, pure_ok] at ran
        obtain ⟨_, -, _, -, next⟩ := ran
        exact ⟨within, next⟩
      · cases ran
    split
    · next error raised =>
      exact left.fail fun message same => prepare_error (same ▸ raised)
    · next invocation prepared =>
      obtain ⟨request, grant, built, -, granted, same⟩ := prepare_ok.mp prepared
      exact left.admitCall separated bound first asked.2 asked.1
        ⟨request, grant, built, granted, same.symm⟩

/-- The calls of finished steps are listed with their sequences and grants. -/
theorem listed (inStep : InStep H table scope spec s)
    (ended : nextRlmAction table spec s.tables.stepRows = none) :
    (Rlm.traces H scope.operation s.broker.calls).map
        (fun trace => (trace.sequence, trace.grantId)) =
      s.tables.stepRows.map fun step => (step.brokerCallSequence, step.grantId) := by
  have same : s.broker.calls.length = s.tables.stepRows.length := by
    refine Nat.le_antisymm ?_ inStep.longer
    by_contra more
    obtain ⟨-, action, next, -⟩ :=
      inStep.calls _ _ (List.getElem?_eq_getElem (Nat.lt_of_not_le more))
    rw [List.take_length] at next
    cases ended.symm.trans next
  rw [inStep.traces, List.map_map]
  refine List.ext_getElem? fun index => ?_
  rw [List.getElem?_map, List.getElem?_map]
  rcases Nat.lt_or_ge index s.tables.stepRows.length with within | beyond
  · have found := List.getElem?_eq_getElem within
    have row := List.getElem?_eq_getElem (same ▸ within : index < s.broker.calls.length)
    obtain ⟨action, next, grant, granted, step, -⟩ := inStep.script index _ found
    obtain ⟨-, action', next', -, asked, ⟨request, grant', -, granted', rfl⟩, call⟩ :=
      inStep.calls index _ row
    cases next.symm.trans next'
    cases granted.symm.trans granted'
    have sequence := congrArg CallIdentity.sequence call
    have under := congrArg CallIdentity.grantId call
    simp only [identity, startedCall, invocation_grant] at sequence under
    rw [found, row, step]
    simp only [Option.map_some, Function.comp_apply, traceOf, stepOf, sequence, under]
  · rw [List.getElem?_eq_none beyond, List.getElem?_eq_none (same ▸ beyond)]
    rfl

/-- A finished run issues the result of its steps. -/
theorem issued (inStep : InStep H table scope spec s) (member : run ∈ s.runs) {answer : String}
    {usage : BrokerUsage} (place : run.place = .issuing answer usage) :
    InStep H table scope spec ((s.leave run).issue H scope run answer usage) := by
  obtain ⟨bound, first, at_⟩ := inStep.runs run member
  rw [place] at at_
  obtain ⟨ended, answered⟩ := at_
  have all := inStep.script.finished first ended
  have left := inStep.leave run
  refine left.enter bound first ?_ (left.held.enter rfl)
  refine ⟨rfl, congrArg RlmJobSpec.strategy bound, rfl, ended, answered, ?_⟩
  change (Rlm.traces H scope.operation s.broker.calls).map _ = run.steps.map _
  rw [inStep.listed (all ▸ ended), all]

section Jobs

variable {job : RlmJob}

/-- A job that has not succeeded goes on to another state. -/
theorem rejob (inStep : InStep H table scope spec s) (stored : s.tables.job = some job)
    (open_ : job.state ≠ .succeeded) {state : OperationState} (goes : state ≠ .succeeded) :
    InStep H table scope spec
      { s with tables := { s.tables with job := some { job with state } } } := by
  obtain ⟨job', stored', kept⟩ := inStep.job
  cases stored.symm.trans stored'
  refine { inStep with
    job := ⟨_, rfl, kept.bound, fun _ => kept.open_ open_, fun ended => absurd ended goes⟩
    returned := fun result member => ?_ }
  -- Nothing was returned, as the job has no result.
  obtain ⟨job', there, result⟩ := inStep.returned result member
  cases stored.symm.trans there
  cases (kept.open_ open_).symm.trans result

/-- A transaction of the store keeps everything in step. -/
theorem stored (inStep : InStep H table scope spec s)
    {change : RlmTables → Except RlmError RlmTables}
    (changes : ∀ tables, change s.tables = .ok tables → tables = s.tables ∨
      ∃ job state, s.tables.job = some job ∧ job.state ≠ .succeeded ∧ state ≠ .succeeded ∧
        tables = { s.tables with job := some { job with state } }) :
    InStep H table scope spec (s.store change) := by
  simp only [RlmSystem.store]
  split
  · next tables ran =>
    rcases changes tables ran with rfl | ⟨job, state, stored, open_, goes, rfl⟩
    · exact inStep
    · exact inStep.rejob stored open_ goes
  · exact inStep

theorem ensure_ok {given : RlmJobSpec} {tables : RlmTables} (inStep : InStep H table scope spec s)
    (ran : s.tables.ensure given = .ok tables) : tables = s.tables := by
  obtain ⟨job, stored, -⟩ := inStep.job
  simp only [RlmTables.ensure, stored, bind_ok, pure_ok] at ran
  obtain ⟨_, -, same⟩ := ran
  exact same.symm

/-- A mark leaves a success. -/
theorem mark_ok {state : OperationState} {tables tables' : RlmTables}
    (ran : tables.mark scope.operation state = .ok tables') : tables' = tables ∨
      ∃ job state, tables.job = some job ∧ job.state ≠ .succeeded ∧ state ≠ .succeeded ∧
        tables' = { tables with job := some { job with state } } := by
  simp only [RlmTables.mark, RlmTables.jobRow, bind_ok, require_ok, orRaise_ok] at ran
  obtain ⟨_, marker, job, stored, ran⟩ := ran
  split at ran
  · cases ran
    exact .inl rfl
  · next open_ =>
    cases ran
    refine .inr ⟨job, state, stored, fun ended => open_ (by simp [ended]), ?_, rfl⟩
    rintro rfl
    simp [RlmTables.markers] at marker

/-- Only a job that has not succeeded is resumed. -/
theorem resume_ok {tables tables' : RlmTables} (ran : tables.resume scope.operation = .ok tables') :
    tables' = tables ∨
      ∃ job state, tables.job = some job ∧ job.state ≠ .succeeded ∧ state ≠ .succeeded ∧
        tables' = { tables with job := some { job with state } } := by
  simp only [RlmTables.resume, RlmTables.jobRow, bind_ok, orRaise_ok] at ran
  obtain ⟨job, stored, ran⟩ := ran
  split at ran
  · cases ran
    exact .inl rfl
  · simp only [bind_ok, require_ok, pure_ok] at ran
    obtain ⟨_, open_, rfl⟩ := ran
    refine .inr ⟨job, .accepted, stored, fun ended => ?_, by simp, rfl⟩
    simp [ended] at open_

/-- A new run begins the job, or is refused. -/
theorem started (inStep : InStep H table scope spec s) {cancelled : Bool} :
    InStep H table scope spec (s.start scope cancelled) := by
  obtain ⟨job, stored, kept⟩ := inStep.job
  simp only [RlmSystem.start, RlmTables.jobRow, RlmTables.begin_, stored, orRaise, ok_bind]
  split
  · next error raised =>
    refine inStep.fail fun message same => ?_
    subst same
    simp only [require] at raised
    repeat' split at raised
    all_goals cases raised
  · next begun tables ran =>
    simp only [bind_ok, require_ok, pure_ok] at ran
    obtain ⟨_, -, _, ⟨_, accepted, rfl⟩, same⟩ := ran
    cases same
    have apart : OperationState.running ≠ .succeeded := by simp
    have begun := inStep.rejob stored (by simp [accepted]) apart
    exact begun.enter kept.bound List.nil_prefix trivial (begun.held.enter rfl)

/-- A finished run stores its result, or finds another one. -/
theorem completed (inStep : InStep H table scope spec s) (member : run ∈ s.runs)
    {cancelled : Bool} {result : RlmResult} (place : run.place = .completing result) :
    InStep H table scope spec ((s.leave run).complete scope cancelled result) := by
  obtain ⟨-, first, at_⟩ := inStep.runs run member
  rw [place] at at_
  have finishes : Finishes table scope spec run.steps result := at_
  have all := inStep.script.finished first finishes.ended
  rw [all] at finishes
  have left := inStep.leave run
  obtain ⟨job, stored, kept⟩ := left.job
  simp only [RlmSystem.complete, RlmTables.complete, RlmTables.jobRow, stored, orRaise, ok_bind]
  split
  · next error raised =>
    refine left.fail fun message same => ?_
    subst same
    simp only [require] at raised
    repeat' split at raised
    all_goals cases raised
  · next tables ran =>
    simp only [bind_ok, require_ok] at ran
    obtain ⟨_, -, ran⟩ := ran
    split at ran
    · -- The job has this result already.
      simp only [bind_ok, require_ok, pure_ok] at ran
      obtain ⟨_, same, rfl⟩ := ran
      refine { left with
        returned := fun other member => ?_
        unconflicted := fun message member => ?_ }
      · rcases List.mem_cons.mp member with new | before
        · cases new
          exact ⟨job, stored, same⟩
        · exact left.returned other before
      · rcases List.mem_cons.mp member with new | before
        · cases new
        · exact left.unconflicted message before
    · next open_ =>
      simp only [bind_ok, require_ok, pure_ok] at ran
      obtain ⟨_, -, rfl⟩ := ran
      refine { left with
        job := ⟨_, rfl, kept.bound, fun still => absurd rfl still, fun _ => ⟨result, rfl, finishes⟩⟩
        returned := fun other member => ?_
        unconflicted := fun message member => ?_ }
      · rcases List.mem_cons.mp member with new | before
        · cases new
          exact ⟨_, rfl, rfl⟩
        · -- Nothing was returned before, as the job had no result.
          obtain ⟨job', there, earlier⟩ := left.returned other before
          cases stored.symm.trans there
          cases (kept.open_ open_).symm.trans earlier
      · rcases List.mem_cons.mp member with new | before
        · cases new
        · exact left.unconflicted message before

end Jobs

/-- A run that is lost takes its call with it. -/
theorem lost (inStep : InStep H table scope spec s) (member : run ∈ s.runs) :
    InStep H table scope spec (s.lose H scope run) := by
  simp only [RlmSystem.lose]
  split
  · next flight holds =>
    obtain ⟨action, place⟩ : ∃ action, run.place = .invoking action flight := by
      unfold EngineRun.flight at holds
      split at holds
      · next action there place =>
        cases holds
        exact ⟨action, place⟩
      · cases holds
    exact inStep.let_go member place trivial trivial trivial rfl
  · exact inStep.leave run

/-- A pass leaves the calls of the runs in flight. -/
theorem passed (inStep : InStep H table scope spec s) (pass : PassEvent) :
    InStep H table scope spec (s.journal H scope pass.broker) := by
  -- Runs hold calls, and a pass is none.
  have apart : ∀ flight : BrokerFlight, flight.call = none → ∀ run ∈ s.runs,
      run.flight ≠ some flight := by
    intro flight free run member holds
    obtain ⟨-, -, at_⟩ := inStep.runs run member
    unfold EngineRun.flight at holds
    split at holds
    · next action there place =>
      cases holds
      rw [place] at at_
      obtain ⟨-, -, call, about, -⟩ := at_
      cases free.symm.trans about
    · cases holds
  have gone : ∀ flight : BrokerFlight, flight.call = none →
      Held EngineRun.flight s.runs (s.broker.flights.erase flight) := fun flight free =>
    inStep.held.free (apart flight free)
  have placed : ∀ (flight : BrokerFlight) (act : BrokerSystem → BrokerSystem), flight.call = none →
      Held EngineRun.flight s.runs (act (s.broker.leave flight)).flights →
      Held EngineRun.flight s.runs (s.broker.from_ flight act).flights := fun flight act _ acts =>
    @BrokerSystem.from_holds s.broker flight
      (fun after => Held EngineRun.flight s.runs after.flights) act inStep.held fun _ => acts
  cases pass with
  | start =>
    exact inStep.journal trivial trivial trivial (inStep.held.add _)
  | stop rows =>
    exact inStep.journal trivial trivial trivial (gone _ rfl)
  | decide row rows finding =>
    refine inStep.journal trivial trivial trivial (placed _ _ rfl ?_)
    split
    · exact gone _ rfl
    · exact (gone _ rfl).add _
  | apply row decision rows authorityDigest now =>
    refine inStep.journal trivial trivial trivial (placed _ _ rfl ?_)
    simp only [BrokerSystem.apply]
    split
    · exact gone _ rfl
    · exact (gone _ rfl).add _

end InStep

end Keeping

section Runs

variable {H : Hashing} {table : RlmStrategyName → RlmStrategy} {scope : RlmScope}
  {spec : RlmJobSpec} {s : RlmSystem}

/-- The answer that an event brings to the journal. -/
def RlmEvent.answers : RlmEvent → Option BrokerEvent
  | .act run (.answer answer) =>
    match run.place with
    | .invoking _ (.calling call) => some (.answer call answer)
    | _ => none
  | _ => none

/-- An answer of the provider meets a call that is still started. -/
def Timely (event : RlmEvent) (s : RlmSystem) : Prop :=
  ∀ answer ∈ event.answers, BrokerSystem.Timely answer s.broker

instance : ∀ event s, Decidable (Timely event s) := fun event s =>
  match known : event.answers with
  | none => .isTrue (by simp [Timely, known])
  | some answer => decidable_of_iff (BrokerSystem.Timely answer s.broker) (by simp [Timely, known])

/-- The next transaction of a run keeps everything in step. -/
theorem InStep.act {run : EngineRun} {act : EngineAct} (inStep : InStep H table scope spec s)
    (separated : Separated H scope spec) (member : run ∈ s.runs)
    (timely : Timely (.act run act) s) :
    InStep H table scope spec (s.act H table scope run run.place act) := by
  unfold RlmSystem.act
  split
  next place =>
    obtain ⟨bound, -, -⟩ := inStep.runs run member
    have left := inStep.leave run
    refine left.enter bound ?_ trivial (left.held.enter rfl)
    change s.tables.steps <+: s.tables.stepRows
    rw [inStep.steps]
  next => exact inStep.turned separated member
  next action call place =>
    have flying := inStep.held.member member (by rw [EngineRun.flight, place])
    exact inStep.pass_on member place trivial rfl trivial rfl (recheck_flights flying)
  next action call answer place =>
    exact inStep.answered member place (timely _ (by simp [RlmEvent.answers, place]))
  next action call response usage place => exact inStep.settled member place
  next action receipt place => exact inStep.traced member place
  next step place => exact inStep.recorded member place
  next answer usage place => exact inStep.issued member place
  next result cancelled place => exact inStep.completed member place
  next => exact inStep

/-- One timely event keeps everything in step. -/
theorem InStep.step {event : RlmEvent} (inStep : InStep H table scope spec s)
    (separated : Separated H scope spec) (timely : Timely event s) :
    InStep H table scope spec (RlmSystem.step H table scope event s) := by
  cases event with
  | ensure given => exact inStep.stored fun tables ran => .inl (inStep.ensure_ok ran)
  | mark state => exact inStep.stored fun tables ran => mark_ok ran
  | resume => exact inStep.stored fun tables ran => resume_ok ran
  | start cancelled => exact inStep.started
  | pass pass => exact inStep.passed pass
  | lose run =>
    simp only [RlmSystem.step]
    split
    · next member => exact inStep.lost member
    · exact inStep
  | act run act =>
    simp only [RlmSystem.step]
    split
    · next member => exact inStep.act separated member timely
    · exact inStep

/-- A job that was ensured on an operation that nothing has happened on is in step. -/
theorem InStep.ensured : InStep H table scope spec
    (RlmSystem.step H table scope (.ensure spec) RlmSystem.empty) where
  orderly := .empty
  sound _ member := absurd member List.not_mem_nil
  held := List.Subperm.refl []
  script := .nil
  calls index row found := by
    have none_ : ([] : List BrokerCall)[index]? = some row := found
    simp at none_
  runs _ member := absurd member List.not_mem_nil
  job := ⟨_, rfl, rfl, fun _ => rfl, fun ended => by cases ended⟩
  returned _ member := absurd member List.not_mem_nil
  unconflicted _ := List.not_mem_nil

/-- An operation whose job was ensured first, after any further events. -/
def after (H : Hashing) (table : RlmStrategyName → RlmStrategy) (scope : RlmScope)
    (spec : RlmJobSpec) (events : List RlmEvent) : RlmSystem :=
  Runs.run (RlmSystem.step H table scope) events
    (RlmSystem.step H table scope (.ensure spec) RlmSystem.empty)

/-- Every answer meets a call that is still started. -/
def Punctual (H : Hashing) (table : RlmStrategyName → RlmStrategy) (scope : RlmScope)
    (spec : RlmJobSpec) (events : List RlmEvent) : Prop :=
  Runs.Allowed (RlmSystem.step H table scope) Timely events
    (RlmSystem.step H table scope (.ensure spec) RlmSystem.empty)

instance (H : Hashing) (table : RlmStrategyName → RlmStrategy) (scope : RlmScope)
    (spec : RlmJobSpec) (events : List RlmEvent) : Decidable (Punctual H table scope spec events) :=
  inferInstanceAs (Decidable (Runs.Allowed _ _ _ _))

theorem InStep.after {events : List RlmEvent} (separated : Separated H scope spec)
    (punctual : Punctual H table scope spec events) :
    InStep H table scope spec (after H table scope spec events) :=
  punctual.invariant (fun _ _ timely inStep => inStep.step separated timely) .ensured

/-- What the runs of a job have left: its strategy's steps, their calls, and their result. -/
structure EngineExact (H : Hashing) (table : RlmStrategyName → RlmStrategy) (scope : RlmScope)
    (spec : RlmJobSpec) (s : RlmSystem) : Prop where
  script : Follows (nextRlmAction table spec) (Fulfils H scope s.broker.calls) s.tables.steps
  calls : ∀ index row, s.broker.calls[index]? = some row → index ≤ s.tables.steps.length ∧
    ∃ action, nextRlmAction table spec (s.tables.steps.take index) = some action ∧
      Called H scope spec index action row
  once : ∀ key, s.broker.entered.count key ≤ 1
  result : ∀ job result, s.tables.job = some job → job.result = some result →
    Finishes table scope spec s.tables.steps result
  returned : ∀ result, .ok result ∈ s.outcomes → ∃ job, s.tables.job = some job ∧
    job.result = some result
  unconflicted : ∀ message, .error (.broker (.callConflict message)) ∉ s.outcomes

/-- What is in step is exact. -/
theorem InStep.exact (inStep : InStep H table scope spec s) :
    EngineExact H table scope spec s where
  script := inStep.steps ▸ inStep.script
  calls := inStep.steps ▸ inStep.calls
  once key := by
    by_cases never : key ∈ s.broker.entered
    · obtain ⟨row, stored, rfl⟩ := inStep.orderly.known key never
      exact Nat.le_trans (Nat.le_add_left _ _) (inStep.orderly.sent row stored)
    · rw [List.count_eq_zero.mpr never]
      exact Nat.zero_le _
  result job result stored found := by
    obtain ⟨job', stored', kept⟩ := inStep.job
    cases stored.symm.trans stored'
    by_cases ended : job.state = .succeeded
    · obtain ⟨result', found', finishes⟩ := kept.ended ended
      cases found.symm.trans found'
      rw [inStep.steps]
      exact finishes
    · cases found.symm.trans (kept.open_ ended)
  returned := inStep.returned
  unconflicted := inStep.unconflicted

/-- Steps are only added, and a result stays. -/
structure TablesLater (tables tables' : RlmTables) : Prop where
  steps : tables.stepRows <+: tables'.stepRows
  result : ∀ job result, tables.job = some job → job.result = some result →
    ∃ job', tables'.job = some job' ∧ job'.result = some result

theorem TablesLater.refl (tables : RlmTables) : TablesLater tables tables where
  steps := List.prefix_refl _
  result job _ stored found := ⟨job, stored, found⟩

theorem TablesLater.trans {first second third : RlmTables} (left : TablesLater first second)
    (right : TablesLater second third) : TablesLater first third where
  steps := left.steps.trans right.steps
  result job result stored found := by
    obtain ⟨job', stored', found'⟩ := left.result job result stored found
    exact right.result job' result stored' found'

/-- A job that goes on to another state keeps its result. -/
theorem TablesLater.rejob {tables tables' : RlmTables}
    (changes : tables' = tables ∨ ∃ job state, tables.job = some job ∧ job.state ≠ .succeeded ∧
      state ≠ .succeeded ∧ tables' = { tables with job := some { job with state } }) :
    TablesLater tables tables' := by
  rcases changes with rfl | ⟨job, state, stored, -, -, rfl⟩
  · exact .refl _
  · refine ⟨List.prefix_refl _, fun job' result stored' found => ?_⟩
    cases stored.symm.trans stored'
    exact ⟨_, rfl, found⟩

theorem admitCall_tables {run : EngineRun} {action : RlmAction} {asked : Invocation} :
    (s.admitCall H scope run action asked).tables = s.tables := by
  simp only [RlmSystem.admitCall]
  split <;> rfl

theorem turn_tables {run : EngineRun} {cancelled stillCancelled : Bool} {now callNow : Nat} :
    (s.turn H table scope run cancelled now callNow stillCancelled).tables = s.tables := by
  unfold RlmSystem.turn
  split
  · rfl
  · split <;> rfl
  · split
    · rfl
    · exact admitCall_tables

/-- A transaction of a run adds at most its step, and stores a result only where there is none. -/
theorem InStep.act_later {run : EngineRun} {act : EngineAct} (inStep : InStep H table scope spec s) :
    TablesLater s.tables (s.act H table scope run run.place act).tables := by
  have same : ∀ {s' : RlmSystem}, s'.tables = s.tables → TablesLater s.tables s'.tables :=
    fun kept => kept ▸ .refl _
  unfold RlmSystem.act
  split
  case h_2 => exact same turn_tables
  case h_4 => unfold RlmSystem.answer; exact same (by repeat' split <;> rfl)
  case h_5 => unfold RlmSystem.settle; exact same (by split <;> rfl)
  case h_6 => unfold RlmSystem.readTrace; exact same (by split <;> rfl)
  case h_7 step place =>
    unfold RlmSystem.recordStep
    split
    · exact .refl _
    · next tables ran =>
      rcases recordStep_ok ran with ⟨-, rfl⟩ | ⟨-, rfl⟩
      · exact .refl _
      · exact ⟨List.prefix_append _ _, fun job result stored found => ⟨job, stored, found⟩⟩
  case h_9 result cancelled place =>
    obtain ⟨job, stored, kept⟩ := inStep.job
    simp only [RlmSystem.complete]
    split
    · exact .refl _
    · next tables ran =>
      simp only [RlmTables.complete, RlmTables.jobRow, RlmSystem.leave, stored, orRaise, bind_ok,
        require_ok, ok_bind] at ran
      obtain ⟨_, -, ran⟩ := ran
      split at ran
      · simp only [bind_ok, require_ok, pure_ok] at ran
        obtain ⟨_, -, rfl⟩ := ran
        exact .refl _
      · next open_ =>
        simp only [bind_ok, require_ok, pure_ok] at ran
        obtain ⟨_, -, rfl⟩ := ran
        refine ⟨List.prefix_refl _, fun job' earlier there found => ?_⟩
        cases stored.symm.trans there
        cases (kept.open_ open_).symm.trans found
  all_goals exact .refl _

/-- One event adds at most one step, and stores a result only where there is none. -/
theorem InStep.later {event : RlmEvent} (inStep : InStep H table scope spec s) :
    TablesLater s.tables (RlmSystem.step H table scope event s).tables := by
  have stores : ∀ change : RlmTables → Except RlmError RlmTables,
      (∀ tables, change s.tables = .ok tables → TablesLater s.tables tables) →
        TablesLater s.tables (s.store change).tables := by
    intro change changes
    simp only [RlmSystem.store]
    split
    · next tables ran => exact changes tables ran
    · exact .refl _
  cases event with
  | ensure given => exact stores _ fun tables ran => inStep.ensure_ok ran ▸ .refl _
  | mark state => exact stores _ fun tables ran => .rejob (mark_ok ran)
  | resume => exact stores _ fun tables ran => .rejob (resume_ok ran)
  | start cancelled =>
    simp only [RlmSystem.step, RlmSystem.start]
    split
    · exact .refl _
    · next job tables ran =>
      simp only [RlmTables.jobRow, RlmTables.begin_, bind_ok, orRaise_ok, require_ok, pure_ok] at ran
      obtain ⟨job', stored, _, -, tables', ⟨job'', stored', _, accepted, rfl⟩, same⟩ := ran
      cases same
      exact .rejob (.inr ⟨job'', .running, stored', by simp [accepted], by simp, rfl⟩)
  | pass pass => exact .refl _
  | lose run =>
    simp only [RlmSystem.step, RlmSystem.lose]
    repeat' split
    all_goals exact .refl _
  | act run act =>
    simp only [RlmSystem.step]
    split
    · exact inStep.act_later
    · exact .refl _

/-- In any interleaving of engine runs, lost processes, marks, resumptions and passes in which no
answer comes too late, the steps are those that the strategy asks for, each with the receipt of its
own call; no call enters the provider twice or meets another request under its key; steps are never
taken back, and the one result that is stored and returned is the answer to all steps. -/
theorem engine_exact {events later : List RlmEvent} (separated : Separated H scope spec)
    (punctual : Punctual H table scope spec (events ++ later)) :
    EngineExact H table scope spec (after H table scope spec (events ++ later)) ∧
      (after H table scope spec events).tables.steps <+:
        (after H table scope spec (events ++ later)).tables.steps ∧
      ∀ job result, (after H table scope spec events).tables.job = some job →
        job.result = some result →
        ∃ job', (after H table scope spec (events ++ later)).tables.job = some job' ∧
          job'.result = some result := by
  obtain ⟨early, late⟩ := Runs.allowed_append.mp punctual
  have before := InStep.after separated early
  have whole := InStep.after separated punctual
  have grown : TablesLater (after H table scope spec events).tables
      (after H table scope spec (events ++ later)).tables := by
    rw [after, after, Runs.run_append]
    exact late.related (fun s s' => TablesLater s.tables s'.tables) (fun _ => .refl _)
      (fun _ _ _ => .trans) (fun _ _ timely inStep => inStep.step separated timely)
      (fun _ _ _ inStep => inStep.later) before
  refine ⟨whole.exact, ?_, grown.result⟩
  rw [before.steps, whole.steps]
  exact grown.steps

end Runs

section Samples

/-- Texts whose digest is a small polynomial in their bytes. -/
def Sample.hashing : Hashing :=
  { Hashing.readable with
    text := fun value =>
      let bytes := value.toByteArray.data.toList
      toString (bytes.foldl (fun sum byte => (sum * 31 + byte.toNat) % 1000003) 0) }

/-- A question that evidence is looked up for. -/
def Sample.question : RlmJobSpec where
  query := "why"
  strategy := .evidenceSynthesis
  maxSteps := 2
  bounded := by decide +kernel
  limited := by decide
  fits := by decide

/-- The grant of each kind. -/
def Sample.grant (kind : RlmActionKind) : Grant where
  grantId := "grant-" ++ kind.wire
  capability := kind.wire
  issuedTo := (Sample.envelope "key" 9000).principal
  expiresAtUnixMs := 9000

/-- The operation of the question. -/
def Sample.scope : RlmScope where
  operation := "op"
  envelope :=
    { Sample.envelope "key" 9000 with
      inputDigest := "471005"
      grants := [Sample.grant .evidenceQuery, Sample.grant .modelRequest]
      budget := { wallTimeMs := 1000, modelRequests := 2, inputTokens := 100, outputTokens := 100 }
      capabilityDigest := "capability" }
  route := none

/-- The strategies, for receipts whose value is all there is to them. -/
def Sample.table : RlmStrategyName → RlmStrategy := strategies (·.json)

/-- The query for evidence. -/
def Sample.first : RlmAction := ⟨.evidenceQuery, "why"⟩

/-- The model request with what was found. -/
def Sample.second : RlmAction := ⟨.modelRequest, "Question: why\nEvidence:\nbecause"⟩

/-- The response to each request. -/
def Sample.response (action : RlmAction) : BrokerResponse :=
  ⟨"BrokerReceipt", if action.kind = .evidenceQuery then "because" else "answer"⟩

/-- The call of an action as it is admitted. -/
def Sample.call (action : RlmAction) (index : Nat) (request : String) : AdmittedCall :=
  { invocation :=
      invocation Sample.hashing Sample.scope action index request (Sample.grant action.kind)
    sequence := index + 1
    currentUsage := {} }

/-- The step of an action. -/
def Sample.stepOf (action : RlmAction) (index : Nat) : RlmStep :=
  Rlm.stepOf Sample.hashing action index (Sample.grant action.kind) (Sample.response action)

/-- A run makes the call of an action, whose response is stored. -/
def Sample.calls (steps : List RlmStep) (action : RlmAction) (request : String) : List RlmEvent :=
  let call := Sample.call action steps.length request
  [.act ⟨Sample.question, steps, .looping⟩ (.turn false 1000 1000 false),
    .act ⟨Sample.question, steps, .invoking action (.admitted call)⟩ .enterProvider,
    .act ⟨Sample.question, steps, .invoking action (.calling call)⟩
      (.answer (.responded (Sample.response action) {}))]

/-- A run records the step of a receipt. -/
def Sample.records (steps : List RlmStep) (action : RlmAction) : List RlmEvent :=
  [.act ⟨Sample.question, steps, .received action (Sample.response action)⟩ .readTrace,
    .act ⟨Sample.question, steps, .recording (Sample.stepOf action steps.length)⟩ .recordStep]

/-- A call that settles. -/
def Sample.settling (action : RlmAction) (index : Nat) (request : String) : EnginePlace :=
  let call := Sample.call action index request
  .invoking action (.settling call (Sample.response action) call.invocation.usage)

/-- The canonical request of the query. -/
def Sample.firstRequest : String :=
  "\x7b\"schema_version\":\"aar.broker.v1\",\"text\":\"why\"\x7d"

/-- The canonical request to the model. -/
def Sample.secondRequest : String := (ModelRequest.mk Sample.second.text).json

/-- A run begins, and records the answer to its query. -/
def Sample.begun : List RlmEvent :=
  [.start false, .act ⟨Sample.question, [], .begun⟩ .readSteps] ++
    Sample.calls [] Sample.first Sample.firstRequest ++
    [.act ⟨Sample.question, [], Sample.settling Sample.first 0 Sample.firstRequest⟩ .settle] ++
    Sample.records [] Sample.first

/-- The step of the query. -/
def Sample.known : List RlmStep := [Sample.stepOf Sample.first 0]

/-- The model answers, and the process of the run is lost before the step of the answer. -/
def Sample.lost : List RlmEvent :=
  Sample.begun ++ Sample.calls Sample.known Sample.second Sample.secondRequest ++
    [.lose ⟨Sample.question, Sample.known, Sample.settling Sample.second 1 Sample.secondRequest⟩]

/-- A successor records the step of the answer, and leaves the loop. -/
def Sample.resumed : List RlmEvent :=
  [.resume, .start false, .act ⟨Sample.question, [], .begun⟩ .readSteps,
    .act ⟨Sample.question, Sample.known, .looping⟩ (.turn false 2000 2000 false)] ++
    Sample.records Sample.known Sample.second ++
    [.act ⟨Sample.question, Sample.known ++ [Sample.stepOf Sample.second 1], .looping⟩
      (.turn false 2000 2000 false)]

theorem Sample.separated : Separated Sample.hashing Sample.scope Sample.question := by
  decide +kernel

theorem Sample.punctual : Punctual Sample.hashing Sample.table Sample.scope Sample.question
    (Sample.lost ++ Sample.resumed) := by
  decide +kernel

/-- The row of a sample's call that has succeeded. -/
def Sample.row (action : RlmAction) (index : Nat) (request : String) : BrokerCall :=
  let asked := (Sample.call action index request).invocation
  succeeded Sample.hashing (Sample.response action) asked.usage
    (startedCall Sample.hashing asked (index + 1))

/-- What the lost run has left. -/
def Sample.left : RlmSystem :=
  let key action index := callKey Sample.hashing Sample.scope action index
  { tables := ⟨some { state := .running, spec := Sample.question, result := none }, Sample.known⟩
    broker :=
      { calls := [Sample.row Sample.first 0 Sample.firstRequest,
          Sample.row Sample.second 1 Sample.secondRequest]
        flights := []
        entered := [key .modelRequest 1, key .evidenceQuery 0]
        returned := [(key .evidenceQuery 0, Sample.response Sample.first)]
        exceeded := [] }
    runs := []
    outcomes := [] }

theorem Sample.after_lost :
    after Sample.hashing Sample.table Sample.scope Sample.question Sample.lost = Sample.left := by
  decide +kernel

/-- A lost run and its successor leave exact steps. -/
theorem engine_exact_sample :
    EngineExact Sample.hashing Sample.table Sample.scope Sample.question
        (after Sample.hashing Sample.table Sample.scope Sample.question
          (Sample.lost ++ Sample.resumed)) ∧
      (after Sample.hashing Sample.table Sample.scope Sample.question Sample.lost).tables.steps <+:
        (after Sample.hashing Sample.table Sample.scope Sample.question
          (Sample.lost ++ Sample.resumed)).tables.steps :=
  have exact_ := engine_exact Sample.separated Sample.punctual
  ⟨exact_.1, exact_.2.1⟩

end Samples

end Aar.Rlm
