import Aar.Rlm.Models

/-! The persisted RLM engine: its store, its runs between their transactions, and what meets them. -/

namespace Aar.Rlm

open Guarded Broker Sorting

/-- The row of `rlm_jobs` of one operation. -/
structure RlmJob where
  state : OperationState
  spec : RlmJobSpec
  result : Option RlmResult
  deriving DecidableEq

/-- The rows of one operation in `rlm_jobs` and `rlm_steps`. -/
structure RlmTables where
  job : Option RlmJob
  stepRows : List RlmStep
  deriving DecidableEq

namespace RlmTables

variable (operation : String)

/-- Tables without a row. -/
def empty : RlmTables := ⟨none, []⟩

/-- The row of the job, which must be there. -/
def jobRow (tables : RlmTables) : Except RlmError RlmJob :=
  orRaise tables.job (.unknownOperation operation)

/-- `ensure`: a job keeps the bytes of its first spec. -/
def ensure (spec : RlmJobSpec) (tables : RlmTables) : Except RlmError RlmTables :=
  match tables.job with
  | some job => do
    require (job.spec = spec) (.conflict "RLM operation already binds different spec bytes")
    return tables
  | none => return { tables with job := some { state := .accepted, spec, result := none } }

/-- `begin`: an accepted job runs. -/
def begin_ (tables : RlmTables) : Except RlmError RlmTables := do
  let job ← jobRow operation tables
  require (job.state = .accepted) (.conflict ("cannot transition RLM job from " ++ job.state.wire))
  return { tables with job := some { job with state := .running } }

/-- `record_step`: a step index keeps the bytes of its first step. -/
def recordStep (step : RlmStep) (tables : RlmTables) : Except RlmError RlmTables :=
  match tables.stepRows.find? fun stored => stored.index = step.index with
  | some stored => do
    require (stored = step) (.conflict "RLM step index already binds different receipt bytes")
    return tables
  | none => do
    -- The foreign key of `rlm_steps` refers to the job.
    let _ ← jobRow operation tables
    return { tables with stepRows := tables.stepRows ++ [step] }

/-- `complete`: a running job succeeds with its result, and a success keeps its result. -/
def complete (result : RlmResult) (tables : RlmTables) : Except RlmError RlmTables := do
  let job ← jobRow operation tables
  if job.state = .succeeded then do
    require (job.result = some result) (.conflict "RLM operation already binds a different result")
    return tables
  else do
    require (job.state = .running) (.conflict ("cannot complete RLM job from " ++ job.state.wire))
    return { tables with job := some { job with state := .succeeded, result := some result } }

/-- The states that `mark` writes. -/
def markers : List OperationState := [.cancelled, .failed, .indeterminate, .timedOut]

/-- `mark`: a job that has not ended is marked. -/
def mark (state : OperationState) (tables : RlmTables) : Except RlmError RlmTables := do
  require (state ∈ markers) (.conflict ("unsupported RLM terminal marker: " ++ state.wire))
  let job ← jobRow operation tables
  if job.state ∈ [.succeeded, .cancelled, .failed, .timedOut] then return tables
  else return { tables with job := some { job with state } }

/-- `resume`: a job that may be replayed is accepted again, with all its steps. -/
def resume (tables : RlmTables) : Except RlmError RlmTables := do
  let job ← jobRow operation tables
  if job.state = .accepted then return tables
  else do
    require (job.state ∈ [.running, .indeterminate])
      (.conflict ("cannot resume RLM job from " ++ job.state.wire))
    return { tables with job := some { job with state := .accepted } }

/-- `steps`: the steps by their index. -/
def steps (tables : RlmTables) : List RlmStep := sortedBy RlmStep.index tables.stepRows

end RlmTables

/-- Where a run of the engine stands between two of its transactions. -/
inductive EnginePlace where
  | begun
  | looping
  | invoking (action : RlmAction) (flight : BrokerFlight)
  | received (action : RlmAction) (receipt : BrokerResponse)
  | recording (step : RlmStep)
  | issuing (answer : String) (usage : BrokerUsage)
  | completing (result : RlmResult)
  deriving DecidableEq

/-- One run of the engine: the spec of its snapshot, the steps it knows, and where it stands. -/
structure EngineRun where
  spec : RlmJobSpec
  steps : List RlmStep
  place : EnginePlace
  deriving DecidableEq

/-- What a run does next; what it reads of the clock and of the cancellation control comes with it. -/
inductive EngineAct where
  | readSteps
  | turn (cancelled : Bool) (now callNow : Nat) (stillCancelled : Bool)
  | enterProvider
  | answer (answer : CallAnswer)
  | settle
  | readTrace
  | recordStep
  | issue
  | complete (cancelled : Bool)
  deriving DecidableEq

/-- What a reconciliation pass does that proposes no compensation: a proposal would be a call of its
own. What a pass reads from a provider again is a finding, and enters nothing. -/
inductive PassEvent where
  | start
  | decide (row : BrokerCall) (rows : List BrokerCall) (finding : BrokerJournal.Finding)
  | apply (row : BrokerCall) (decision : BrokerJournal.Decision) (rows : List BrokerCall)
      (authorityDigest : Digest) (now : Nat)
  | stop (rows : List BrokerCall)

/-- A pass as the journal sees it. -/
def PassEvent.broker : PassEvent → BrokerEvent
  | start => .startPass
  | decide row rows finding => .decide row rows finding
  | apply row decision rows authorityDigest now => .apply row decision rows authorityDigest now
  | stop rows => .stop (.passing rows)

/-- The tables and the journal of one operation, the engine runs on it, and what runs ended with. -/
structure RlmSystem where
  tables : RlmTables
  broker : BrokerSystem
  runs : List EngineRun
  outcomes : List (Except RlmError RlmResult)
  deriving DecidableEq

/-- One transaction of the store, of a run or of a pass, or the loss of a run's process. -/
inductive RlmEvent where
  | ensure (spec : RlmJobSpec)
  | mark (state : OperationState)
  | resume
  | start (cancelled : Bool)
  | act (run : EngineRun) (act : EngineAct)
  | lose (run : EngineRun)
  | pass (event : PassEvent)

/-- The broker call that a run has in flight. -/
def EngineRun.flight (run : EngineRun) : Option BrokerFlight :=
  match run.place with
  | .invoking _ flight => some flight
  | _ => none

namespace RlmSystem

variable (H : Hashing) (table : RlmStrategyName → RlmStrategy) (scope : RlmScope)

/-- An operation that nothing has happened on. -/
def empty : RlmSystem := ⟨.empty, .empty, [], []⟩

/-- The system after a run has left its place. -/
def leave (run : EngineRun) (s : RlmSystem) : RlmSystem := { s with runs := s.runs.erase run }

/-- The system after a run has gone on to a place. -/
def enter (run : EngineRun) (s : RlmSystem) : RlmSystem := { s with runs := run :: s.runs }

/-- The system after a run has ended. -/
def finish (outcome : Except RlmError RlmResult) (s : RlmSystem) : RlmSystem :=
  { s with outcomes := outcome :: s.outcomes }

/-- The system after an event on its journal. -/
def journal (event : BrokerEvent) (s : RlmSystem) : RlmSystem :=
  { s with broker := s.broker.step H scope.envelope.budget event }

/-- The system after a transaction of the store, which leaves the tables when it raises. -/
def store (change : RlmTables → Except RlmError RlmTables) (s : RlmSystem) : RlmSystem :=
  match change s.tables with
  | .ok tables => { s with tables }
  | .error _ => s

/-- `run` up to its begun job: the snapshot is read, and the job begins. -/
def start (cancelled : Bool) (s : RlmSystem) : RlmSystem :=
  let begun : Except RlmError (RlmJob × RlmTables) := do
    let job ← s.tables.jobRow scope.operation
    require (¬ cancelled) (.cancelled "cancellation requested before RLM execution")
    let tables ← s.tables.begin_ scope.operation
    return (job, tables)
  match begun with
  | .error error => s.finish (.error error)
  | .ok (job, tables) => ({ s with tables }).enter { spec := job.spec, steps := [], place := .begun }

/-- `invoke` of a step's call, up to its admission. -/
def admitCall (run : EngineRun) (action : RlmAction) (invocation : Invocation) (s : RlmSystem) :
    RlmSystem :=
  let control : OperationControl := { controlRevision := 0, cancellationRequested := false }
  let after := s.journal H scope (.admitCall invocation (.ok ()) control)
  match BrokerJournal.admitCall H scope.envelope.budget invocation (.ok ()) control
    s.broker.calls with
  | .error error => s.finish (.error (.broker error))
  | .ok (.replayed response, _) => after.enter { run with place := .received action response }
  | .ok (.started sequence currentUsage, _) =>
    after.enter { run with
      place := .invoking action (.admitted { invocation, sequence, currentUsage }) }

/-- The loop is left: the strategy must have finished, and the answer and the usage are read. -/
def finishLoop (run : EngineRun) (stillCancelled : Bool) (s : RlmSystem) :
    Except RlmError EnginePlace := do
  require (¬ stillCancelled) (.cancelled "cancellation requested before RLM completion")
  require ((nextRlmAction table run.spec run.steps).isNone)
    (.exhausted "RLM step bound exhausted before strategy completion")
  let answer ← orRaise ((table run.spec.strategy).answer run.steps) .noSteps
  match BrokerJournal.usage s.broker.calls with
  | .ok usage => return .issuing answer usage
  | .error error => throw (.broker error)

/-- The checks at the top of the loop, and the action of this turn. -/
def nextTurn (run : EngineRun) (cancelled : Bool) (now : Nat) :
    Except RlmError (Option RlmAction) :=
  if run.steps.length < run.spec.maxSteps then do
    require (¬ cancelled) (.cancelled "cancellation requested at RLM step boundary")
    require (now < scope.envelope.deadlineUnixMs)
      (.timedOut "RLM request deadline expired during execution")
    return nextRlmAction table run.spec run.steps
  else return none

/-- The loop goes on, or is left. -/
def turn (run : EngineRun) (cancelled : Bool) (now callNow : Nat) (stillCancelled : Bool)
    (s : RlmSystem) : RlmSystem :=
  match nextTurn table scope run cancelled now with
  | .error error => s.finish (.error error)
  | .ok none =>
    match finishLoop table run stillCancelled s with
    | .error error => s.finish (.error error)
    | .ok place => s.enter { run with place }
  | .ok (some action) =>
    match prepare H scope callNow action run.steps.length with
    | .error error => s.finish (.error error)
    | .ok invocation => s.admitCall H scope run action invocation

/-- What `invoke` raises for an answer of the provider, if it does not store it as a success. -/
def refusal (call : AdmittedCall) : CallAnswer → Option RlmError
  | .indeterminate => some (.broker (.callIndeterminate "provider outcome is unknown"))
  | .quarantined reasonCode => some (.broker (.callQuarantined reasonCode))
  | .raised code => some (.provider code)
  | .responded response _ =>
    if response.model = call.invocation.responseModel then none else some (.provider "TypeError")

/-- `invoke` from the answer of the provider to the transaction that stores it. -/
def answer (run : EngineRun) (action : RlmAction) (call : AdmittedCall) (answer : CallAnswer)
    (s : RlmSystem) : RlmSystem :=
  let after := s.journal H scope (.answer call answer)
  match refusal call answer, answer with
  | none, .responded response committedUsage =>
    let usage := BrokerSystem.actualUsage call committedUsage
    after.enter { run with place := .invoking action (.settling call response usage) }
  | some error, _ => after.finish (.error error)
  | none, _ => after

/-- `enforce_route_maximum`: a metered response stays within its route. -/
def postCheck (call : AdmittedCall) (usage : BrokerUsage) : Except BrokerError Unit :=
  match scope.route with
  | none => .ok ()
  | some binding =>
    runWhen call.invocation.metered
      (require (usage.outputTokens ≤ binding.maxOutputTokens)
        (.budgetExceeded "provider output usage exceeded the bound model route maximum"))

/-- `invoke` from its stored success to its end. -/
def settle (run : EngineRun) (action : RlmAction) (call : AdmittedCall) (response : BrokerResponse)
    (usage : BrokerUsage) (s : RlmSystem) : RlmSystem :=
  let after := s.journal H scope (.settle call response usage (postCheck scope call usage))
  match (do BrokerSystem.limits scope.envelope.budget call usage; postCheck scope call usage) with
  | .error error => after.finish (.error (.broker error))
  | .ok () => after.enter { run with place := .received action response }

/-- The step of a receipt, bound to the last call of the journal. -/
def readTrace (run : EngineRun) (action : RlmAction) (receipt : BrokerResponse) (s : RlmSystem) :
    RlmSystem :=
  match (traces H scope.operation s.broker.calls).getLast? with
  | none => s.finish (.error .noSteps)
  | some trace =>
    s.enter { run with
      place := .recording
        { index := run.steps.length
          action := action.kind
          requestDigest := H.text action.json
          brokerCallSequence := trace.sequence
          grantId := trace.grantId
          receipt } }

/-- The step is recorded, and the loop starts again. -/
def recordStep (run : EngineRun) (step : RlmStep) (s : RlmSystem) : RlmSystem :=
  match s.tables.recordStep scope.operation step with
  | .error error => s.finish (.error error)
  | .ok tables =>
    ({ s with tables }).enter { run with steps := run.steps ++ [step], place := .looping }

/-- `RlmResult.issue`: the result, with all calls of the journal. -/
def issue (run : EngineRun) (answer : String) (usage : BrokerUsage) (s : RlmSystem) : RlmSystem :=
  s.enter { run with
    place := .completing
      { operation := scope.operation
        strategy := run.spec.strategy
        answer
        steps := run.steps
        usage
        brokerTrace := traces H scope.operation s.broker.calls } }

/-- The result is stored and returned. -/
def complete (cancelled : Bool) (result : RlmResult) (s : RlmSystem) : RlmSystem :=
  let completed : Except RlmError RlmTables := do
    require (¬ cancelled) (.cancelled "cancellation requested before RLM receipt commit")
    s.tables.complete scope.operation result
  match completed with
  | .error error => s.finish (.error error)
  | .ok tables => ({ s with tables }).finish (.ok result)

/-- The next transaction of a run at its place; an act of another place is none. -/
def act (run : EngineRun) (s : RlmSystem) : EnginePlace → EngineAct → RlmSystem
  | .begun, .readSteps =>
    (s.leave run).enter { run with steps := s.tables.steps, place := .looping }
  | .looping, .turn cancelled now callNow stillCancelled =>
    (s.leave run).turn H table scope run cancelled now callNow stillCancelled
  | .invoking action (.admitted call), .enterProvider =>
    ((s.leave run).journal H scope (.recheck call (.ok ()))).enter
      { run with place := .invoking action (.calling call) }
  | .invoking action (.calling call), .answer answer =>
    (s.leave run).answer H scope run action call answer
  | .invoking action (.settling call response usage), .settle =>
    (s.leave run).settle H scope run action call response usage
  | .received action receipt, .readTrace => (s.leave run).readTrace H scope run action receipt
  | .recording step, .recordStep => (s.leave run).recordStep scope run step
  | .issuing answer usage, .issue => (s.leave run).issue H scope run answer usage
  | .completing result, .complete cancelled => (s.leave run).complete scope cancelled result
  | _, _ => s

/-- A run ends between two transactions, at a heartbeat or with its process, and so does its call. -/
def lose (run : EngineRun) (s : RlmSystem) : RlmSystem :=
  match run.flight with
  | some flight => (s.leave run).journal H scope (.stop flight)
  | none => s.leave run

/-- The system after one event; a run that is not there does nothing. -/
def step : RlmEvent → RlmSystem → RlmSystem
  | .ensure spec, s => s.store (·.ensure spec)
  | .mark state, s => s.store (·.mark scope.operation state)
  | .resume, s => s.store (·.resume scope.operation)
  | .start cancelled, s => s.start scope cancelled
  | .act run act, s => if run ∈ s.runs then s.act H table scope run run.place act else s
  | .lose run, s => if run ∈ s.runs then s.lose H scope run else s
  | .pass event, s => s.journal H scope event.broker

end RlmSystem

end Aar.Rlm
