import Aar.Lib.Guarded
import Aar.Schema.States
import Aar.Schema.Texts

/-! The public contract of caller-delegated jobs: each value with the checks it is built under. -/

namespace Aar.PublicRlm

open Guarded

/-- The errors of the public coordinator and of the values it builds. -/
inductive RlmError where
  | notFound (message : String)
  | conflict (message : String)
  | invalidTransition (message : String)
  | capacityExceeded (message : String)
  | value (message : String)
  | validation (model : String)
  | integrity (constraint : String)
  | assertion
  deriving DecidableEq

/-- A `ValueError`, raised on as a conflict. -/
def RlmError.asConflict : RlmError → RlmError
  | value message | validation message => .conflict message
  | error => error

/-- The strategies of a public job. -/
inductive Strategy where
  | singleCall
  | iterativeRefinement
  deriving DecidableEq

/-- The phases of a public job. -/
inductive Phase where
  | pendingModelCall
  | awaitingCallerResult
  | cancelRequested
  | succeeded
  | failed
  | cancelled
  | indeterminate
  deriving DecidableEq

/-- The outcomes a caller may report. -/
inductive CallOutcome where
  | succeeded
  | failedCertain
  | outcomeUnknown
  deriving DecidableEq

/-- How an observation is backed. -/
inductive ProvenanceAssurance where
  | callerReported
  | hostReceiptBound
  deriving DecidableEq

/-- The largest revision. -/
def revisionLimit : Nat := 9223372036854775807

/-- The fields of a job specification. -/
structure JobSpecFields where
  query : String
  strategy : Strategy
  executorKind : String
  requestedModel : String
  requestedReasoningEffort : Option String
  maxModelCalls : Nat
  maxOutputTokensPerCall : Nat
  maxResultBytesPerCall : Nat
  deriving DecidableEq

/-- The bounds on the route of a job or of one of its calls. -/
def RouteBounded (executorKind requestedModel : String) (requestedReasoningEffort : Option String) :
    Prop :=
  Bounded 64 executorKind ∧ Bounded 128 requestedModel ∧
    (∀ effort ∈ requestedReasoningEffort, Bounded 64 effort) ∧
    Stripped executorKind ∧ Stripped requestedModel ∧
    ∀ effort ∈ requestedReasoningEffort, Stripped effort

instance (executorKind requestedModel : String) (requestedReasoningEffort : Option String) :
    Decidable (RouteBounded executorKind requestedModel requestedReasoningEffort) :=
  inferInstanceAs (Decidable (_ ∧ _))

/-- The checks of a job specification. -/
def JobSpecFields.Valid (spec : JobSpecFields) : Prop :=
  Bounded 16384 spec.query ∧ 1 ≤ spec.maxModelCalls ∧ spec.maxModelCalls ≤ 8 ∧
    1 ≤ spec.maxOutputTokensPerCall ∧ spec.maxOutputTokensPerCall ≤ 32768 ∧
    1 ≤ spec.maxResultBytesPerCall ∧ spec.maxResultBytesPerCall ≤ 262144 ∧
    (spec.strategy = .singleCall → spec.maxModelCalls = 1) ∧
    (spec.strategy = .iterativeRefinement → 2 ≤ spec.maxModelCalls) ∧
    RouteBounded spec.executorKind spec.requestedModel spec.requestedReasoningEffort

instance (spec : JobSpecFields) : Decidable spec.Valid :=
  inferInstanceAs (Decidable (_ ∧ _))

/-- `PublicRlmJobSpec`. -/
abbrev JobSpec := { spec : JobSpecFields // spec.Valid }

/-- The content of a call specification. -/
structure CallSpecMaterial where
  jobId : Token
  stepIndex : Nat
  callId : Token
  strategy : Strategy
  prompt : String
  promptDigest : Digest
  maxOutputTokens : Nat
  maxResultBytes : Nat
  deriving DecidableEq

/-- A claim of a model call. -/
structure ClaimRequest where
  jobId : Token
  callId : Token
  expectedRevision : Nat
  callSpecDigest : Digest
  idempotencyKey : Token
  deriving DecidableEq

/-- The content a ticket identity is derived from. -/
structure TicketMaterial where
  jobId : Token
  callId : Token
  stepIndex : Nat
  callSpecDigest : Digest
  jobSpecDigest : Digest
  executorKind : String
  requestedModel : String
  requestedReasoningEffort : Option String
  requestedMaxOutputTokens : Nat
  claimIdempotencyKey : Token
  deriving DecidableEq

/-- The fields of a commit of what the caller observed. -/
structure CommitFields where
  jobId : Token
  callId : Token
  expectedRevision : Nat
  ticketDigest : Digest
  outcome : CallOutcome
  outputText : Option String
  effectiveModel : Option String
  effectiveReasoningEffort : Option String
  inputTokens : Option Nat
  outputTokens : Option Nat
  failureCode : Option String
  failureMessage : Option String
  hostReceiptId : Option String
  hostReceiptDigest : Option Digest
  idempotencyKey : Token
  deriving DecidableEq

/-- The bounds on what a caller reports about the call it made. -/
def ReportBounded (effectiveModel effectiveReasoningEffort : Option String)
    (inputTokens outputTokens : Option Nat)
    (failureCode failureMessage hostReceiptId : Option String)
    (hostReceiptDigest : Option Digest) : Prop :=
  (∀ model ∈ effectiveModel, Bounded 128 model ∧ Stripped model) ∧
    (∀ effort ∈ effectiveReasoningEffort, Bounded 64 effort ∧ Stripped effort) ∧
    (effectiveReasoningEffort ≠ none → effectiveModel ≠ none) ∧
    (∀ tokens ∈ inputTokens, tokens ≤ 100000000) ∧
    (∀ tokens ∈ outputTokens, tokens ≤ 100000000) ∧
    (∀ code ∈ failureCode, Bounded 64 code) ∧ (∀ message ∈ failureMessage, Bounded 512 message) ∧
    (∀ identity ∈ hostReceiptId, Bounded 256 identity) ∧
    (hostReceiptId = none ↔ hostReceiptDigest = none)

instance (effectiveModel effectiveReasoningEffort : Option String)
    (inputTokens outputTokens : Option Nat)
    (failureCode failureMessage hostReceiptId : Option String)
    (hostReceiptDigest : Option Digest) :
    Decidable (ReportBounded effectiveModel effectiveReasoningEffort inputTokens outputTokens
      failureCode failureMessage hostReceiptId hostReceiptDigest) :=
  inferInstanceAs (Decidable (_ ∧ _))

/-- The checks of a commit. -/
def CommitFields.Valid (request : CommitFields) : Prop :=
  (∀ text ∈ request.outputText, Bounded 1048576 text) ∧
    (request.outcome = .succeeded → request.outputText ≠ none ∧ request.failureCode = none ∧
      request.failureMessage = none) ∧
    (request.outcome ≠ .succeeded → request.outputText = none) ∧
    (request.outcome = .failedCertain → request.failureCode ≠ none) ∧
    ReportBounded request.effectiveModel request.effectiveReasoningEffort request.inputTokens
      request.outputTokens request.failureCode request.failureMessage request.hostReceiptId
      request.hostReceiptDigest

instance (request : CommitFields) : Decidable request.Valid :=
  inferInstanceAs (Decidable (_ ∧ _))

/-- `PublicRlmCommitRequest`. -/
abbrev CommitRequest := { request : CommitFields // request.Valid }

/-- The content of a caller receipt. -/
structure ReceiptMaterial where
  ticketDigest : Digest
  outcome : CallOutcome
  outputText : Option String
  outputDigest : Option Digest
  outputSizeBytes : Nat
  requestedModel : String
  requestedReasoningEffort : Option String
  effectiveModel : Option String
  effectiveReasoningEffort : Option String
  inputTokens : Option Nat
  outputTokens : Option Nat
  failureCode : Option String
  failureMessage : Option String
  hostReceiptId : Option String
  hostReceiptDigest : Option Digest
  provenanceAssurance : ProvenanceAssurance
  routeMatched : Option Bool
  withinOutputBound : Bool
  deriving DecidableEq

/-- The fields of the summary of a committed step. -/
structure StepFields where
  stepIndex : Nat
  callId : Token
  promptDigest : Digest
  ticketDigest : Digest
  resultDigest : Digest
  resultSizeBytes : Nat
  requestedModel : String
  requestedReasoningEffort : Option String
  effectiveModel : Option String
  effectiveReasoningEffort : Option String
  provenanceAssurance : ProvenanceAssurance
  inputTokens : Option Nat
  outputTokens : Option Nat
  deriving DecidableEq

/-- The content of a terminal result. -/
structure ResultMaterial where
  jobId : Token
  strategy : Strategy
  answer : String
  steps : List StepFields
  deriving DecidableEq

/-- The digests and identifiers of public values; identifiers are bounded identities. -/
structure PublicHashing where
  text (value : String) : Digest
  jobId (principalId : String) (idempotencyKey : Token) : Token
  callId (jobId : Token) (stepIndex : Nat) (prompt : String) : Token
  callSpec (material : CallSpecMaterial) : Digest
  jobSpec (spec : JobSpecFields) : Digest
  ticketId (material : TicketMaterial) : Token
  ticket (material : TicketMaterial) (ticketId : Token) : Digest
  receipt (material : ReceiptMaterial) : Digest
  result (material : ResultMaterial) : Digest
  start (idempotencyKey : Token) (spec : JobSpecFields) : Digest
  claim (request : ClaimRequest) : Digest
  commit (request : CommitFields) : Digest
  cancel (jobId : Token) (expectedRevision : Nat) (idempotencyKey : Token) : Digest

variable (H : PublicHashing)

/-- The fields of a call specification. -/
structure CallSpecFields extends CallSpecMaterial where
  specDigest : Digest
  deriving DecidableEq

/-- The checks of a call specification. -/
def CallSpecFields.Valid (spec : CallSpecFields) : Prop :=
  spec.stepIndex ≤ revisionLimit ∧ Bounded 65536 spec.prompt ∧
    1 ≤ spec.maxOutputTokens ∧ spec.maxOutputTokens ≤ 32768 ∧
    1 ≤ spec.maxResultBytes ∧ spec.maxResultBytes ≤ 262144 ∧
    spec.promptDigest = H.text spec.prompt ∧
    spec.callId = H.callId spec.jobId spec.stepIndex spec.prompt ∧
    spec.specDigest = H.callSpec spec.toCallSpecMaterial

instance (spec : CallSpecFields) : Decidable (spec.Valid H) :=
  inferInstanceAs (Decidable (_ ∧ _))

/-- `PublicRlmCallSpec`. -/
abbrev CallSpec := { spec : CallSpecFields // spec.Valid H }

/-- Build a value under its checks. -/
def build {α : Type} {holds : α → Prop} [DecidablePred holds] (fields : α) (model : String) :
    Except RlmError { value : α // holds value } :=
  if valid : holds fields then .ok ⟨fields, valid⟩ else .error (.validation model)

/-- `PublicRlmCallSpec.issue`. -/
def CallSpec.issue (jobId : Token) (stepIndex : Nat) (strategy : Strategy) (prompt : String)
    (maxOutputTokens maxResultBytes : Nat) : Except RlmError (CallSpec H) :=
  let material : CallSpecMaterial :=
    { jobId, stepIndex, callId := H.callId jobId stepIndex prompt, strategy, prompt
      promptDigest := H.text prompt, maxOutputTokens, maxResultBytes }
  build { material with specDigest := H.callSpec material } "PublicRlmCallSpec"

/-- The fields of an execution ticket. -/
structure TicketFields extends TicketMaterial where
  ticketId : Token
  ticketDigest : Digest
  deriving DecidableEq

/-- The checks of an execution ticket. -/
def TicketFields.Valid (ticket : TicketFields) : Prop :=
  ticket.stepIndex ≤ revisionLimit ∧ 1 ≤ ticket.requestedMaxOutputTokens ∧
    ticket.requestedMaxOutputTokens ≤ 32768 ∧
    RouteBounded ticket.executorKind ticket.requestedModel ticket.requestedReasoningEffort ∧
    ticket.ticketId = H.ticketId ticket.toTicketMaterial ∧
    ticket.ticketDigest = H.ticket ticket.toTicketMaterial ticket.ticketId

instance (ticket : TicketFields) : Decidable (ticket.Valid H) :=
  inferInstanceAs (Decidable (_ ∧ _))

/-- `PublicRlmExecutionTicket`. -/
abbrev Ticket := { ticket : TicketFields // ticket.Valid H }

/-- `PublicRlmExecutionTicket.issue`. -/
def Ticket.issue (callSpec : CallSpec H) (jobSpec : JobSpec) (request : ClaimRequest) :
    Except RlmError (Ticket H) := do
  require (request.jobId = callSpec.val.jobId)
    (.value "claim request job id does not match call specification")
  require (request.callId = callSpec.val.callId)
    (.value "claim request call id does not match call specification")
  require (request.callSpecDigest = callSpec.val.specDigest)
    (.value "claim request call specification digest does not match")
  require (callSpec.val.strategy = jobSpec.val.strategy ∧
      callSpec.val.maxOutputTokens = jobSpec.val.maxOutputTokensPerCall ∧
      callSpec.val.maxResultBytes = jobSpec.val.maxResultBytesPerCall)
    (.value "call specification does not inherit the fixed job bounds")
  let material : TicketMaterial :=
    { jobId := callSpec.val.jobId, callId := callSpec.val.callId
      stepIndex := callSpec.val.stepIndex, callSpecDigest := callSpec.val.specDigest
      jobSpecDigest := H.jobSpec jobSpec.val, executorKind := jobSpec.val.executorKind
      requestedModel := jobSpec.val.requestedModel
      requestedReasoningEffort := jobSpec.val.requestedReasoningEffort
      requestedMaxOutputTokens := jobSpec.val.maxOutputTokensPerCall
      claimIdempotencyKey := request.idempotencyKey }
  let ticketId := H.ticketId material
  build { material with ticketId, ticketDigest := H.ticket material ticketId }
    "PublicRlmExecutionTicket"

/-- The fields of a caller receipt. -/
structure ReceiptFields extends ReceiptMaterial where
  receiptDigest : Digest
  deriving DecidableEq

/-- How an observation with these host fields is backed. -/
def assuranceOf (hostReceiptId : Option String) (hostReceiptDigest : Option Digest) :
    ProvenanceAssurance :=
  if hostReceiptId ≠ none ∧ hostReceiptDigest ≠ none then .hostReceiptBound else .callerReported

/-- Whether the effective route is the requested one; nothing is said without an effective model. -/
def routeOf (requestedModel : String) (requestedReasoningEffort effectiveModel
    effectiveReasoningEffort : Option String) : Option Bool :=
  effectiveModel.map fun model =>
    decide (model = requestedModel ∧ effectiveReasoningEffort = requestedReasoningEffort)

/-- The checks on the output that a receipt keeps, or of which it keeps digest and size. -/
def ReceiptFields.OutputValid (receipt : ReceiptFields) : Prop :=
  match receipt.outputText with
  | some text => receipt.outputSizeBytes = text.utf8ByteSize ∧
    receipt.outputDigest = some (H.text text) ∧ receipt.withinOutputBound
  | none =>
    if receipt.outcome = .succeeded then
      receipt.outputDigest ≠ none ∧ 0 < receipt.outputSizeBytes ∧ ¬ receipt.withinOutputBound
    else receipt.outputDigest = none ∧ receipt.outputSizeBytes = 0 ∧ receipt.withinOutputBound

instance (receipt : ReceiptFields) : Decidable (receipt.OutputValid H) := by
  unfold ReceiptFields.OutputValid
  cases receipt.outputText <;> infer_instance

/-- The checks of a caller receipt. -/
def ReceiptFields.Valid (receipt : ReceiptFields) : Prop :=
  (∀ text ∈ receipt.outputText, Bounded 1048576 text) ∧
    Bounded 128 receipt.requestedModel ∧ Stripped receipt.requestedModel ∧
    (∀ effort ∈ receipt.requestedReasoningEffort, Bounded 64 effort ∧ Stripped effort) ∧
    ReportBounded receipt.effectiveModel receipt.effectiveReasoningEffort receipt.inputTokens
      receipt.outputTokens receipt.failureCode receipt.failureMessage receipt.hostReceiptId
      receipt.hostReceiptDigest ∧
    receipt.provenanceAssurance = assuranceOf receipt.hostReceiptId receipt.hostReceiptDigest ∧
    receipt.routeMatched = routeOf receipt.requestedModel receipt.requestedReasoningEffort
      receipt.effectiveModel receipt.effectiveReasoningEffort ∧
    receipt.OutputValid H ∧
    (receipt.outcome = .succeeded → receipt.failureCode = none ∧ receipt.failureMessage = none) ∧
    (receipt.outcome = .failedCertain → receipt.failureCode ≠ none) ∧
    receipt.receiptDigest = H.receipt receipt.toReceiptMaterial

instance (receipt : ReceiptFields) : Decidable (receipt.Valid H) :=
  inferInstanceAs (Decidable (_ ∧ _))

/-- `PublicRlmCallerReceipt`. -/
abbrev Receipt := { receipt : ReceiptFields // receipt.Valid H }

/-- `PublicRlmCallerReceipt.issue`: output beyond the bound is kept as its digest and size only. -/
def Receipt.issue (ticket : Ticket H) (request : CommitRequest) (maxResultBytes : Nat) :
    Except RlmError (Receipt H) := do
  require (request.val.jobId = ticket.val.jobId ∧ request.val.callId = ticket.val.callId)
    (.value "commit request does not target the exact execution ticket")
  require (request.val.ticketDigest = ticket.val.ticketDigest)
    (.value "commit request ticket digest does not match execution ticket")
  require (1 ≤ maxResultBytes) (.value "max_result_bytes must be positive")
  let size := (request.val.outputText.map String.utf8ByteSize).getD 0
  let within : Bool := request.val.outputText = none ∨ size ≤ maxResultBytes
  let material : ReceiptMaterial :=
    { ticketDigest := ticket.val.ticketDigest, outcome := request.val.outcome
      outputText := if within then request.val.outputText else none
      outputDigest := request.val.outputText.map H.text, outputSizeBytes := size
      requestedModel := ticket.val.requestedModel
      requestedReasoningEffort := ticket.val.requestedReasoningEffort
      effectiveModel := request.val.effectiveModel
      effectiveReasoningEffort := request.val.effectiveReasoningEffort
      inputTokens := request.val.inputTokens, outputTokens := request.val.outputTokens
      failureCode := request.val.failureCode, failureMessage := request.val.failureMessage
      hostReceiptId := request.val.hostReceiptId
      hostReceiptDigest := request.val.hostReceiptDigest
      provenanceAssurance := assuranceOf request.val.hostReceiptId request.val.hostReceiptDigest
      routeMatched := routeOf ticket.val.requestedModel ticket.val.requestedReasoningEffort
        request.val.effectiveModel request.val.effectiveReasoningEffort
      withinOutputBound := within }
  build { material with receiptDigest := H.receipt material } "PublicRlmCallerReceipt"

/-- The checks of a step summary. -/
def StepFields.Valid (step : StepFields) : Prop :=
  step.stepIndex ≤ revisionLimit ∧ Bounded 128 step.requestedModel ∧ Stripped step.requestedModel ∧
    (∀ effort ∈ step.requestedReasoningEffort, Bounded 64 effort ∧ Stripped effort) ∧
    ReportBounded step.effectiveModel step.effectiveReasoningEffort step.inputTokens
      step.outputTokens none none none none

instance (step : StepFields) : Decidable step.Valid :=
  inferInstanceAs (Decidable (_ ∧ _))

/-- `PublicRlmStepSummary`. -/
abbrev Step := { step : StepFields // step.Valid }

/-- `PublicRlmStepSummary.from_committed`. -/
def Step.fromCommitted (callSpec : CallSpec H) (ticket : Ticket H) (receipt : Receipt H) :
    Except RlmError Step := do
  require (ticket.val.jobId = callSpec.val.jobId ∧ ticket.val.callId = callSpec.val.callId ∧
      ticket.val.stepIndex = callSpec.val.stepIndex ∧
      ticket.val.callSpecDigest = callSpec.val.specDigest)
    (.value "execution ticket is not bound to the committed call specification")
  require (receipt.val.ticketDigest = ticket.val.ticketDigest)
    (.value "caller receipt is not bound to the execution ticket")
  let error : RlmError := .value "step summary requires a successful in-bound caller receipt"
  require (receipt.val.outcome = .succeeded ∧ receipt.val.outputText ≠ none ∧
      receipt.val.withinOutputBound ∧ receipt.val.outputSizeBytes ≤ callSpec.val.maxResultBytes)
    error
  let resultDigest ← orRaise receipt.val.outputDigest error
  require (receipt.val.requestedModel = ticket.val.requestedModel ∧
      receipt.val.requestedReasoningEffort = ticket.val.requestedReasoningEffort)
    (.value "caller receipt route does not match the execution ticket")
  build
    { stepIndex := callSpec.val.stepIndex, callId := callSpec.val.callId
      promptDigest := callSpec.val.promptDigest, ticketDigest := ticket.val.ticketDigest
      resultDigest, resultSizeBytes := receipt.val.outputSizeBytes
      requestedModel := receipt.val.requestedModel
      requestedReasoningEffort := receipt.val.requestedReasoningEffort
      effectiveModel := receipt.val.effectiveModel
      effectiveReasoningEffort := receipt.val.effectiveReasoningEffort
      provenanceAssurance := receipt.val.provenanceAssurance
      inputTokens := receipt.val.inputTokens, outputTokens := receipt.val.outputTokens }
    "PublicRlmStepSummary"

/-- `_validate_step_sequence`: the steps count from zero, under distinct calls. -/
def Contiguous (steps : List StepFields) : Prop :=
  steps.map (·.stepIndex) = List.range steps.length ∧ (steps.map (·.callId)).Nodup

instance (steps : List StepFields) : Decidable (Contiguous steps) :=
  inferInstanceAs (Decidable (_ ∧ _))

/-- The fields of a terminal result. -/
structure ResultFields extends ResultMaterial where
  traceDigest : Digest
  deriving DecidableEq

/-- The checks of a terminal result. -/
def ResultFields.Valid (result : ResultFields) : Prop :=
  Bounded 262144 result.answer ∧ result.steps.length ≤ 8 ∧ Contiguous result.steps ∧
    result.traceDigest = H.result result.toResultMaterial

instance (result : ResultFields) : Decidable (result.Valid H) :=
  inferInstanceAs (Decidable (_ ∧ _))

/-- `PublicRlmTerminalResult`. -/
abbrev TerminalResult := { result : ResultFields // result.Valid H }

/-- `PublicRlmTerminalResult.issue`. -/
def TerminalResult.issue (jobId : Token) (strategy : Strategy) (answer : String)
    (steps : List StepFields) : Except RlmError (TerminalResult H) :=
  let material : ResultMaterial := { jobId, strategy, answer, steps }
  build { material with traceDigest := H.result material } "PublicRlmTerminalResult"

/-- The fields of a job view. Its own digest is left out: it covers all of them. -/
structure ViewFields where
  jobId : Token
  phase : Phase
  certainty : OutcomeCertainty
  revision : Nat
  spec : JobSpec
  callsCommitted : Nat
  pendingCall : Option (CallSpec H)
  activeTicket : Option (Ticket H)
  steps : List StepFields
  result : Option (TerminalResult H)
  failureCode : Option String
  failureMessage : Option String
  deriving DecidableEq

/-- What a phase says about the other fields of a view. -/
def ViewFields.Coherent (view : ViewFields H) : Prop :=
  match view.phase with
  | .pendingModelCall => view.pendingCall ≠ none ∧ view.activeTicket = none ∧ view.result = none ∧
    view.failureCode = none ∧ view.failureMessage = none
  | .awaitingCallerResult => view.activeTicket ≠ none ∧ view.pendingCall = none ∧
    view.result = none ∧ view.failureCode = none ∧ view.failureMessage = none
  | .succeeded => view.result ≠ none ∧ view.pendingCall = none ∧ view.activeTicket = none ∧
    view.failureCode = none ∧ view.failureMessage = none
  | .failed => view.failureCode ≠ none ∧ view.pendingCall = none ∧ view.activeTicket = none ∧
    view.result = none
  | .cancelled => view.pendingCall = none ∧ view.activeTicket = none ∧ view.result = none
  | .cancelRequested | .indeterminate => view.activeTicket ≠ none ∧ view.pendingCall = none ∧
    view.result = none ∧ view.failureCode ≠ none

instance (view : ViewFields H) : Decidable (view.Coherent H) := by
  unfold ViewFields.Coherent
  cases view.phase <;> infer_instance

/-- The checks of a job view. -/
def ViewFields.Valid (view : ViewFields H) : Prop :=
  view.revision ≤ revisionLimit ∧ view.callsCommitted ≤ 8 ∧ view.steps.length ≤ 8 ∧
    (∀ code ∈ view.failureCode, Bounded 64 code) ∧
    (∀ message ∈ view.failureMessage, Bounded 512 message) ∧
    (view.certainty = .indeterminate ↔
      view.phase = .cancelRequested ∨ view.phase = .indeterminate) ∧
    view.Coherent H ∧ Contiguous view.steps ∧ view.callsCommitted = view.steps.length ∧
    view.callsCommitted ≤ view.spec.val.maxModelCalls ∧
    (∀ call ∈ view.pendingCall, call.val.stepIndex = view.callsCommitted) ∧
    (∀ ticket ∈ view.activeTicket, ticket.val.stepIndex = view.callsCommitted) ∧
    (∀ result ∈ view.result, result.val.steps = view.steps) ∧
    (∀ call ∈ view.pendingCall, call.val.jobId = view.jobId) ∧
    (∀ ticket ∈ view.activeTicket, ticket.val.jobId = view.jobId) ∧
    ∀ result ∈ view.result, result.val.jobId = view.jobId ∧
      result.val.strategy = view.spec.val.strategy

instance (view : ViewFields H) : Decidable (view.Valid H) :=
  inferInstanceAs (Decidable (_ ∧ _))

/-- `PublicRlmJobView`. -/
abbrev JobView := { view : ViewFields H // view.Valid H }

end Aar.PublicRlm
