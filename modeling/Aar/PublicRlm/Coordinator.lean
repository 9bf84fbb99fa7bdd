import Aar.Lib.Run
import Aar.Lib.Table
import Aar.PublicRlm.Models

/-! The coordinator of caller-delegated jobs: each command is one transaction on three tables. -/

namespace Aar.PublicRlm

open Guarded Table

variable (H : PublicHashing)

/-- The states of a call row. -/
inductive CallState where
  | pending
  | claimed
  | committed
  | observed
  | cancelled
  deriving DecidableEq

/-- The commands that a job keeps a history of. -/
inductive CommandKind where
  | claim
  | commit
  | cancel
  deriving DecidableEq

/-- A row of `public_rlm_jobs`. -/
structure JobRow where
  jobId : Token
  principalId : String
  startIdempotencyKey : Token
  startRequestDigest : Digest
  spec : JobSpec
  phase : Phase
  certainty : OutcomeCertainty
  revision : Nat
  terminalResult : Option (TerminalResult H) := none
  failureCode : Option String := none
  failureMessage : Option String := none
  deriving DecidableEq

/-- A row of `public_rlm_calls`. -/
structure CallRow where
  jobId : Token
  stepIndex : Nat
  callId : Token
  state : CallState
  callSpec : CallSpec H
  ticket : Option (Ticket H) := none
  callerReceipt : Option (Receipt H) := none
  stepSummary : Option Step := none
  deriving DecidableEq

/-- A row of `public_rlm_commands`. -/
structure CommandRow where
  jobId : Token
  commandKind : CommandKind
  idempotencyKey : Token
  requestDigest : Digest
  deriving DecidableEq

/-- The tables of the coordinator. -/
structure Tables where
  jobs : List (JobRow H) := []
  calls : List (CallRow H) := []
  commands : List CommandRow := []
  deriving DecidableEq

/-- What a command returns: the view after its change, or the present view of a repeated one. -/
inductive Answer where
  | accepted (view : JobView H)
  | replayed (view : JobView H)
  deriving DecidableEq

/-- `_validate_identity`. -/
def validateIdentity (value label : String) : Except RlmError Token :=
  if bounded : IsToken value then .ok ⟨value, bounded⟩
  else .error (.value (label ++ " is not a bounded public identity"))

/-- `_prompt`: what a step asks, given the output of the step before it. -/
def prompt (spec : JobSpec) (stepIndex : Nat) (previousOutput : Option String) :
    Except RlmError String :=
  match spec.val.strategy with
  | .singleCall => do
    require (stepIndex = 0 ∧ previousOutput = none)
      (.invalidTransition "single-call strategy is already complete")
    return spec.val.query
  | .iterativeRefinement =>
    if stepIndex = 0 then
      .ok ("Task:\n" ++ spec.val.query ++
        "\n\nProduce a complete draft answer. Return only the answer.")
    else do
      let previous ← orRaise previousOutput
        (.invalidTransition "iterative refinement requires the previous committed model output")
      return "Task:\n" ++ spec.val.query ++ "\n\nPrevious answer:\n" ++ previous ++
        "\n\nImprove correctness, completeness, and clarity. Return only the revised answer."

/-- `_call_spec`. -/
def callSpec (jobId : Token) (spec : JobSpec) (stepIndex : Nat) (previousOutput : Option String) :
    Except RlmError (CallSpec H) := do
  let text ← prompt spec stepIndex previousOutput
  CallSpec.issue H jobId stepIndex spec.val.strategy text spec.val.maxOutputTokensPerCall
    spec.val.maxResultBytesPerCall

variable {H}

namespace Tables

/-- `_job_row`: the job of a tenant. -/
def jobRow (t : Tables H) (principalId : String) (jobId : Token) : Except RlmError (JobRow H) :=
  orRaise (fetchOne t.jobs fun job => job.jobId = jobId ∧ job.principalId = principalId)
    (.notFound "public RLM job was not found for this tenant")

/-- The calls of a job, as they were inserted. -/
def callsOf (t : Tables H) (jobId : Token) : List (CallRow H) :=
  t.calls.filter fun call => call.jobId = jobId

/-- The command history of a job. -/
def commandsOf (t : Tables H) (jobId : Token) : List CommandRow :=
  t.commands.filter fun command => command.jobId = jobId

/-- `_call_rows`: the calls of a job, in step order. -/
def callRows (t : Tables H) (jobId : Token) : List (CallRow H) :=
  (t.callsOf jobId).mergeSort fun first second => first.stepIndex ≤ second.stepIndex

/-- The summaries of the committed steps among some calls. -/
def summaries (calls : List (CallRow H)) : List StepFields :=
  (calls.filterMap (·.stepSummary)).map Subtype.val

/-- What a job and its calls show. -/
def viewFields (job : JobRow H) (calls : List (CallRow H)) : ViewFields H where
  jobId := job.jobId
  phase := job.phase
  certainty := job.certainty
  revision := job.revision
  spec := job.spec
  callsCommitted := (summaries calls).length
  pendingCall := (calls.filter fun call => call.state = .pending).getLast?.map (·.callSpec)
  activeTicket :=
    if job.phase ∈ [.awaitingCallerResult, .cancelRequested, .indeterminate] then
      (calls.filterMap (·.ticket)).getLast?
    else none
  steps := summaries calls
  result := job.terminalResult
  failureCode := job.failureCode
  failureMessage := job.failureMessage

/-- `_view`: the validated view of a job of a tenant. -/
def view (t : Tables H) (principalId : String) (jobId : Token) : Except RlmError (JobView H) := do
  let job ← t.jobRow principalId jobId
  build (viewFields job (t.callRows job.jobId)) "PublicRlmJobView"

/-- `_assert_revision`. -/
def assertRevision (job : JobRow H) (expectedRevision : Nat) : Except RlmError Unit :=
  require (job.revision = expectedRevision)
    (.conflict "public RLM job revision changed; read status before retrying")

/-- `_command_replay`: the present view, when the same command was accepted before. -/
def commandReplay (t : Tables H) (principalId : String) (jobId : Token) (commandKind : CommandKind)
    (idempotencyKey : Token) (requestDigest : Digest) : Except RlmError (Option (JobView H)) :=
  match fetchOne t.commands fun command => command.jobId = jobId ∧
      command.commandKind = commandKind ∧ command.idempotencyKey = idempotencyKey with
  | none => .ok none
  | some command => do
    require (command.requestDigest = requestDigest)
      (.conflict "public RLM idempotency key is already bound to different request bytes")
    let shown ← t.view principalId jobId
    return some shown

/-- The refusal of a command beyond the history bound of its job. -/
def historyFull : RlmError :=
  .capacityExceeded "public RLM command history reached the job bound"

/-- `_save_command`. -/
def saveCommand (t : Tables H) (principalId : String) (row : CommandRow) :
    Except RlmError (Tables H) := do
  let job ← t.jobRow principalId row.jobId
  require ((t.commandsOf row.jobId).length < 2 * job.spec.val.maxModelCalls + 1) historyFull
  let commands ← insertUnique t.commands
    (fun stored => stored.jobId = row.jobId ∧ stored.commandKind = row.commandKind ∧
      stored.idempotencyKey = row.idempotencyKey)
    row (.integrity "public_rlm_commands")
  return { t with commands }

/-- The end of a command: its view, and its row in the history. -/
def conclude (t : Tables H) (principalId : String) (row : CommandRow) :
    Except RlmError (Answer H × Tables H) := do
  let shown ← t.view principalId row.jobId
  let saved ← t.saveCommand principalId row
  return (.accepted shown, saved)

/-- The guarded update of a job that ends every command. -/
def advance (t : Tables H) (principalId : String) (jobId : Token) (expectedRevision : Nat)
    (phase : Phase) (change : JobRow H → JobRow H) (lost : String) :
    Except RlmError (Tables H) := do
  let jobs ← updateOne t.jobs
    (fun job => job.jobId = jobId ∧ job.principalId = principalId ∧
      job.revision = expectedRevision ∧ job.phase = phase)
    (fun job => { change job with revision := job.revision + 1 }) (.conflict lost)
  return { t with jobs }

end Tables

/-- `start`: a new job with its first call pending. -/
def start (principalId : String) (maxJobs : Nat) (spec : JobSpec) (idempotencyKey : String)
    (t : Tables H) : Except RlmError (Answer H × Tables H) := do
  let key ← validateIdentity idempotencyKey "idempotency_key"
  require (spec.val.query.utf8ByteSize ≤ 16384)
    (.value "public RLM query exceeds the fixed UTF-8 byte bound")
  require (spec.val.strategy = .iterativeRefinement → spec.val.maxResultBytesPerCall ≤ 32768)
    (.value "iterative refinement result bytes cannot exceed 32768")
  let jobId := H.jobId principalId key
  let requestDigest := H.start key spec.val
  match fetchOne t.jobs fun job =>
      job.principalId = principalId ∧ job.startIdempotencyKey = key with
  | some existing =>
    require (existing.startRequestDigest = requestDigest)
      (.conflict "public RLM start idempotency key is bound to different job bytes")
    let shown ← t.view principalId existing.jobId
    return (.replayed shown, t)
  | none =>
    require (t.jobs.countP (fun job => job.principalId = principalId) < maxJobs)
      (.capacityExceeded "tenant retained RLM job count reached the configured limit")
    let call ← callSpec H jobId spec 0 none
    let job : JobRow H :=
      { jobId, principalId, startIdempotencyKey := key, startRequestDigest := requestDigest, spec
        phase := .pendingModelCall, certainty := .certain, revision := 0 }
    let row : CallRow H :=
      { jobId, stepIndex := call.val.stepIndex, callId := call.val.callId, state := .pending
        callSpec := call }
    let shown ← build (Tables.viewFields job [row]) "PublicRlmJobView"
    let jobs ← insertUnique t.jobs
      (fun stored => stored.jobId = jobId ∨
        (stored.principalId = principalId ∧ stored.startIdempotencyKey = key))
      job (.integrity "public_rlm_jobs")
    let calls ← insertUnique t.calls
      (fun stored => (stored.jobId = jobId ∧ stored.stepIndex = row.stepIndex) ∨
        stored.callId = row.callId)
      row (.integrity "public_rlm_calls")
    return (.accepted shown, { t with jobs, calls })

/-- `status`: the view of a job of a tenant. -/
def status (principalId : String) (jobId : String) (t : Tables H) :
    Except RlmError (JobView H) := do
  let identity ← validateIdentity jobId "job_id"
  t.view principalId identity

/-- The call row under an identity of a job. -/
def Tables.callAt (t : Tables H) (jobId callId : Token) : Option (CallRow H) :=
  fetchOne t.calls fun call => call.jobId = jobId ∧ call.callId = callId

/-- `claim`: a ticket for the pending call. -/
def claim (principalId : String) (request : ClaimRequest) (t : Tables H) :
    Except RlmError (Answer H × Tables H) := do
  let requestDigest := H.claim request
  let job ← t.jobRow principalId request.jobId
  match ← t.commandReplay principalId request.jobId .claim request.idempotencyKey requestDigest with
  | some shown => return (.replayed shown, t)
  | none =>
    let call ← orRaise (t.callAt request.jobId request.callId)
      (.conflict "model-call identity is not pending for this RLM job")
    require (call.ticket = none)
      (.conflict "model call is already claimed by an execution ticket")
    Tables.assertRevision job request.expectedRevision
    require (job.phase = .pendingModelCall ∧ call.state = .pending)
      (.invalidTransition "public RLM job does not have an unclaimed pending model call")
    let ticket ← (Ticket.issue H call.callSpec job.spec request).mapError RlmError.asConflict
    let calls := updateWhere t.calls
      (fun stored => stored.jobId = request.jobId ∧ stored.callId = request.callId ∧
        stored.state = .pending)
      fun stored => { stored with state := .claimed, ticket := some ticket }
    let moved ← { t with calls }.advance principalId request.jobId request.expectedRevision
      .pendingModelCall (fun stored => { stored with phase := .awaitingCallerResult })
      "public RLM claim lost its revision compare-and-set"
    moved.conclude principalId
      { jobId := request.jobId, commandKind := .claim, idempotencyKey := request.idempotencyKey
        requestDigest }

/-- What a commit leaves of a job, and the call it opens. -/
structure Settlement (H : PublicHashing) where
  phase : Phase
  certainty : OutcomeCertainty := .certain
  failureCode : Option String := none
  failureMessage : Option String := none
  terminal : Option (TerminalResult H) := none
  deriving DecidableEq

/-- The ends of a commit that opens no call and commits no step, where there is one. -/
def stopped (phase : Phase) (request : CommitFields) (receipt : ReceiptFields)
    (requestedMaxOutputTokens : Nat) : Option (Settlement H) :=
  if phase = .cancelRequested then
    some { phase, certainty := .indeterminate
           failureCode := some "RLM_CANCEL_REQUESTED_AFTER_CLAIM"
           failureMessage := some ("caller observation was retained after cancellation, but AAR " ++
             "cannot prove that the host-side model execution stopped") }
  else if request.outcome = .outcomeUnknown then
    some { phase := .indeterminate, certainty := .indeterminate
           failureCode := some (request.failureCode.getD "RLM_CALL_OUTCOME_UNKNOWN")
           failureMessage := some (request.failureMessage.getD
             "the caller could not prove a terminal host-side model outcome") }
  else if request.outcome = .failedCertain then
    some { phase := .failed, failureCode := request.failureCode
           failureMessage := some (request.failureMessage.getD
             "the caller reported a certain host-side model failure") }
  else if ¬ receipt.withinOutputBound then
    some { phase := .failed, failureCode := some "RLM_RESULT_TOO_LARGE"
           failureMessage := some
             "the model result exceeded the bound; only its digest and byte count were retained" }
  else if receipt.routeMatched = some false then
    some { phase := .failed, failureCode := some "RLM_ROUTE_MISMATCH"
           failureMessage := some
             "the caller-reported effective model route differs from the bound ticket" }
  else if receipt.outputTokens.any fun tokens => requestedMaxOutputTokens < tokens then
    some { phase := .failed, failureCode := some "RLM_REPORTED_USAGE_EXCEEDS_TICKET"
           failureMessage := some
             "caller-reported output usage exceeds the ticketed output-token bound" }
  else none

/-- The step a commit completes: the job ends with it, or its next call is opened. -/
def proceed (job : JobRow H) (call : CallRow H) (ticket : Ticket H) (receipt : Receipt H)
    (t : Tables H) : Except RlmError (Settlement H × Tables H) := do
  let step ← Step.fromCommitted H call.callSpec ticket receipt
  let calls := updateWhere t.calls
    (fun stored => stored.jobId = job.jobId ∧ stored.callId = call.callId)
    fun stored => { stored with stepSummary := some step }
  let t := { t with calls }
  let steps := Tables.summaries (t.callRows job.jobId)
  let output ← orRaise receipt.val.outputText .assertion
  if job.spec.val.maxModelCalls ≤ steps.length then
    let terminal ← TerminalResult.issue H job.jobId job.spec.val.strategy output steps
    return ({ phase := .succeeded, terminal := some terminal }, t)
  else
    let next ← callSpec H job.jobId job.spec steps.length (some output)
    let row : CallRow H :=
      { jobId := job.jobId, stepIndex := next.val.stepIndex, callId := next.val.callId
        state := .pending, callSpec := next }
    let calls ← insertUnique t.calls
      (fun stored => (stored.jobId = job.jobId ∧ stored.stepIndex = row.stepIndex) ∨
        stored.callId = row.callId)
      row (.integrity "public_rlm_calls")
    return ({ phase := .pendingModelCall }, { t with calls })

/-- What a commit makes of its job once the receipt is stored. -/
def settle (job : JobRow H) (call : CallRow H) (ticket : Ticket H) (receipt : Receipt H)
    (request : CommitRequest) (t : Tables H) : Except RlmError (Settlement H × Tables H) :=
  match stopped job.phase request.val receipt.val ticket.val.requestedMaxOutputTokens with
  | some settlement => .ok (settlement, t)
  | none => proceed job call ticket receipt t

/-- The checks of a commit: its job, and the claimed call with its ticket and the receipt of what
the caller reports. -/
def observe (job : JobRow H) (request : CommitRequest) (t : Tables H) :
    Except RlmError (CallRow H × Ticket H × Receipt H) := do
  let absent : RlmError := .conflict "model call has no claimed execution ticket"
  let call ← orRaise (t.callAt request.val.jobId request.val.callId) absent
  let ticket ← orRaise call.ticket absent
  require (ticket.val.ticketDigest = request.val.ticketDigest)
    (.conflict "execution ticket digest does not match the claimed call")
  let receipt ← (Receipt.issue H ticket request job.spec.val.maxResultBytesPerCall).mapError
    RlmError.asConflict
  match call.callerReceipt with
  | some existing =>
    .error (.conflict (if existing = receipt then
      "model call is already committed; replay the original idempotency key"
      else "model call already binds a different caller observation"))
  | none => return (call, ticket, receipt)

/-- `commit`: what the caller observed, and the step of the job that follows from it. -/
def commit (principalId : String) (request : CommitRequest) (t : Tables H) :
    Except RlmError (Answer H × Tables H) := do
  let requestDigest := H.commit request.val
  let job ← t.jobRow principalId request.val.jobId
  match ← t.commandReplay principalId request.val.jobId .commit request.val.idempotencyKey
    requestDigest with
  | some shown => return (.replayed shown, t)
  | none =>
    let (call, ticket, receipt) ← observe job request t
    Tables.assertRevision job request.val.expectedRevision
    require (job.phase = .awaitingCallerResult ∨ job.phase = .cancelRequested)
      (.invalidTransition "public RLM job is not awaiting this caller result")
    let calls := updateWhere t.calls
      (fun stored => stored.jobId = request.val.jobId ∧ stored.callId = request.val.callId ∧
        stored.callerReceipt = none)
      fun stored => { stored with
        state := if job.phase = .cancelRequested then .observed else .committed
        callerReceipt := some receipt }
    let (settlement, t) ← settle job call ticket receipt request { t with calls }
    let moved ← t.advance principalId request.val.jobId request.val.expectedRevision job.phase
      (fun stored => { stored with
        phase := settlement.phase, certainty := settlement.certainty
        terminalResult := settlement.terminal, failureCode := settlement.failureCode
        failureMessage := settlement.failureMessage })
      "public RLM commit lost its revision compare-and-set"
    moved.conclude principalId
      { jobId := request.val.jobId, commandKind := .commit
        idempotencyKey := request.val.idempotencyKey, requestDigest }

/-- `cancel`: certain before the call is claimed, recorded as a request after that. -/
def cancel (principalId jobId : String) (expectedRevision : Nat) (idempotencyKey : String)
    (t : Tables H) : Except RlmError (Answer H × Tables H) := do
  let identity ← validateIdentity jobId "job_id"
  let key ← validateIdentity idempotencyKey "idempotency_key"
  let requestDigest := H.cancel identity expectedRevision key
  let job ← t.jobRow principalId identity
  match ← t.commandReplay principalId identity .cancel key requestDigest with
  | some shown => return (.replayed shown, t)
  | none =>
    require (job.phase ∉ [.succeeded, .failed, .cancelled, .indeterminate, .cancelRequested])
      (.conflict ("public RLM job is already terminal or cancellation is already recorded; " ++
        "replay the original idempotency key"))
    Tables.assertRevision job expectedRevision
    let calls := updateWhere t.calls
      (fun stored => job.phase = .pendingModelCall ∧ stored.jobId = identity ∧
        stored.state = .pending)
      fun stored => { stored with state := .cancelled }
    let settlement : Settlement H :=
      if job.phase = .pendingModelCall then { phase := .cancelled }
      else
        { phase := .cancelRequested, certainty := .indeterminate
          failureCode := some "RLM_CANCEL_REQUESTED_AFTER_CLAIM"
          failureMessage := some
            "AAR recorded cancellation but cannot stop or prove the host-side model call" }
    let moved ← { t with calls }.advance principalId identity expectedRevision job.phase
      (fun stored => { stored with
        phase := settlement.phase, certainty := settlement.certainty
        failureCode := settlement.failureCode, failureMessage := settlement.failureMessage })
      "public RLM cancel lost its revision compare-and-set"
    moved.conclude principalId
      { jobId := identity, commandKind := .cancel, idempotencyKey := key, requestDigest }

/-- A command as it reaches the coordinator. -/
inductive Command where
  | start (spec : JobSpec) (idempotencyKey : String)
  | claim (request : ClaimRequest)
  | commit (request : CommitRequest)
  | cancel (jobId : String) (expectedRevision : Nat) (idempotencyKey : String)
  deriving DecidableEq

/-- A command of a tenant, at a coordinator with its configured capacity. -/
structure Event where
  principalId : String
  maxJobs : Nat
  command : Command
  deriving DecidableEq

namespace Tables

/-- What a command returns, with the tables it commits. -/
def perform (event : Event) (t : Tables H) : Except RlmError (Answer H × Tables H) :=
  match event.command with
  | .start spec idempotencyKey =>
    PublicRlm.start event.principalId event.maxJobs spec idempotencyKey t
  | .claim request => PublicRlm.claim event.principalId request t
  | .commit request => PublicRlm.commit event.principalId request t
  | .cancel jobId expectedRevision idempotencyKey =>
    PublicRlm.cancel event.principalId jobId expectedRevision idempotencyKey t

/-- `_write`: a command that raises is rolled back. -/
def step (event : Event) (t : Tables H) : Tables H :=
  match t.perform event with
  | .ok (_, written) => written
  | .error _ => t

end Tables

end Aar.PublicRlm
