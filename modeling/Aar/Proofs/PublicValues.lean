import Aar.Lib.Ends
import Aar.Proofs.PublicViews

/-! Every value that a command builds from checked parts passes its own checks. -/

namespace Aar.PublicRlm

open Guarded Table

variable {H : PublicHashing}

theorem build_ok {α : Type} {holds : α → Prop} [DecidablePred holds] {fields : α} {model : String}
    (valid : holds fields) :
    (build fields model : Except RlmError { value // holds value }) = .ok ⟨fields, valid⟩ := by
  simp [build, valid]

section Prompts

variable {spec : JobSpec} {stepIndex : Nat} {previous : Option String}

/-- The prompt of a step that the strategy asks for is built, and is within its bound. -/
theorem prompt_ok (query : spec.val.query.utf8ByteSize ≤ 16384)
    (single : spec.val.strategy = .singleCall → stepIndex = 0)
    (given : previous ≠ none ↔ stepIndex ≠ 0)
    (short : ∀ output ∈ previous, output.utf8ByteSize ≤ 32768) :
    ∃ text, prompt spec stepIndex previous = .ok text ∧ Bounded 65536 text := by
  have characters := length_le_utf8ByteSize spec.val.query
  have asked : 1 ≤ spec.val.query.length := spec.property.1.1
  unfold prompt
  cases strategy : spec.val.strategy with
  | singleCall =>
    have first := single strategy
    have absent : previous = none := by
      by_contra there
      exact given.mp there first
    refine ⟨spec.val.query, ?_, asked, by omega⟩
    simp [first, absent, Guarded.require]
  | iterativeRefinement =>
    by_cases first : stepIndex = 0
    · refine ⟨_, if_pos first, ?_⟩
      -- The texts around the query take fewer characters than the bound leaves.
      unfold Bounded
      simp only [String.length_append, show "Task:\n".length = 6 from rfl,
        show "\n\nProduce a complete draft answer. Return only the answer.".length = 58 from rfl]
      omega
    · obtain ⟨output, there⟩ := Option.ne_none_iff_exists'.mp (given.mpr first)
      have small := short output there
      have fewer := length_le_utf8ByteSize output
      subst there
      refine ⟨_, if_neg first, ?_⟩
      · have closing :
            "\n\nImprove correctness, completeness, and clarity. Return only the revised answer.".length
              = 81 := rfl
        unfold Bounded
        simp only [String.length_append, show "Task:\n".length = 6 from rfl,
          show "\n\nPrevious answer:\n".length = 19 from rfl,
          closing]
        omega

/-- What a call specification says about its job and its step. -/
structure CallFor (jobId : Token) (spec : JobSpec) (stepIndex : Nat) (call : CallSpec H) :
    Prop where
  jobId : call.val.jobId = jobId
  stepIndex : call.val.stepIndex = stepIndex
  strategy : call.val.strategy = spec.val.strategy
  tokens : call.val.maxOutputTokens = spec.val.maxOutputTokensPerCall
  bytes : call.val.maxResultBytes = spec.val.maxResultBytesPerCall

/-- The call of a step that the strategy asks for is always specified. -/
theorem callSpec_ends {jobId : Token} {allowed : RlmError → Prop}
    (query : spec.val.query.utf8ByteSize ≤ 16384)
    (single : spec.val.strategy = .singleCall → stepIndex = 0) (few : stepIndex ≤ 8)
    (given : previous ≠ none ↔ stepIndex ≠ 0)
    (short : ∀ output ∈ previous, output.utf8ByteSize ≤ 32768) :
    Ends allowed (CallFor jobId spec stepIndex) (callSpec H jobId spec stepIndex previous) := by
  obtain ⟨text, asked, bounded⟩ := prompt_ok query single given short
  obtain ⟨-, -, -, tokens, tokensMax, bytes, bytesMax, -⟩ := spec.property
  have small : stepIndex ≤ revisionLimit := by unfold revisionLimit; omega
  rw [callSpec, asked, ok_bind, CallSpec.issue,
    build_ok ⟨small, bounded, tokens, tokensMax, bytes, bytesMax, rfl, rfl, rfl⟩]
  exact ⟨rfl, rfl, rfl, rfl, rfl⟩

end Prompts

section Rounds

variable {callSpec : CallSpec H} {jobSpec : JobSpec} {ticket : Ticket H} {receipt : Receipt H}

/-- What a ticket says about the call it was issued for. -/
structure TicketFor (callSpec : CallSpec H) (jobSpec : JobSpec) (ticket : Ticket H) : Prop where
  jobId : ticket.val.jobId = callSpec.val.jobId
  callId : ticket.val.callId = callSpec.val.callId
  stepIndex : ticket.val.stepIndex = callSpec.val.stepIndex
  callSpecDigest : ticket.val.callSpecDigest = callSpec.val.specDigest

/-- A claim of a call of the job is refused for its digest only. -/
theorem issue_ticket_ends (jobSpec : JobSpec) (request : ClaimRequest)
    (job : request.jobId = callSpec.val.jobId)
    (call : request.callId = callSpec.val.callId)
    (strategy : callSpec.val.strategy = jobSpec.val.strategy)
    (tokens : callSpec.val.maxOutputTokens = jobSpec.val.maxOutputTokensPerCall)
    (bytes : callSpec.val.maxResultBytes = jobSpec.val.maxResultBytesPerCall) :
    Ends (· = .value "claim request call specification digest does not match")
      (TicketFor callSpec jobSpec) (Ticket.issue H callSpec jobSpec request) := by
  obtain ⟨-, -, -, one, limit, -, -, -, -, route⟩ := jobSpec.property
  unfold Ticket.issue
  refine .require (fun other => absurd job other) fun _ => ?_
  refine .require (fun other => absurd call other) fun _ => ?_
  refine .require (fun _ => rfl) fun _ => ?_
  refine .require (fun other => absurd ⟨strategy, tokens, bytes⟩ other) fun _ => ?_
  rw [build_ok ⟨callSpec.property.1, one, limit, route, rfl, rfl⟩]
  exact ⟨rfl, rfl, rfl, rfl⟩

/-- What a receipt says about the ticket it answers and about what the caller reports. -/
structure ReceiptFor (ticket : Ticket H) (request : CommitFields) (maxResultBytes : Nat)
    (receipt : Receipt H) : Prop where
  ticketDigest : receipt.val.ticketDigest = ticket.val.ticketDigest
  outcome : receipt.val.outcome = request.outcome
  requestedModel : receipt.val.requestedModel = ticket.val.requestedModel
  requestedEffort : receipt.val.requestedReasoningEffort = ticket.val.requestedReasoningEffort
  within : receipt.val.withinOutputBound → receipt.val.outputText = request.outputText ∧
    ∀ output ∈ request.outputText, receipt.val.outputSizeBytes = output.utf8ByteSize ∧
      output.utf8ByteSize ≤ maxResultBytes

/-- The output that a receipt keeps, or the digest and size that it keeps of it, are coherent. -/
theorem outputValid {receipt : ReceiptFields} {request : CommitRequest} {maxResultBytes : Nat}
    {within : Bool}
    (some_ : 1 ≤ maxResultBytes) (outcome : receipt.outcome = request.val.outcome)
    (size : receipt.outputSizeBytes = (request.val.outputText.map String.utf8ByteSize).getD 0)
    (bound : within = decide (request.val.outputText = none ∨
      receipt.outputSizeBytes ≤ maxResultBytes))
    (kept : receipt.outputText = if within then request.val.outputText else none)
    (digest : receipt.outputDigest = request.val.outputText.map H.text)
    (marked : receipt.withinOutputBound = within) : receipt.OutputValid H := by
  obtain ⟨-, succeeded, otherwise, -, -⟩ := request.property
  rw [← outcome] at succeeded otherwise
  cases output : request.val.outputText with
  | none =>
    simp only [output, Option.map_none, Option.getD_none, true_or, decide_true] at *
    subst bound
    have other : receipt.outcome ≠ .succeeded := fun same => (succeeded same).1 rfl
    simp [ReceiptFields.OutputValid, kept, other, digest, size, marked]
  | some text =>
    have good : receipt.outcome = .succeeded := by
      by_contra other
      exact absurd (otherwise other) (by simp [output])
    simp only [output, Option.map_some, Option.getD_some, reduceCtorEq, false_or]
      at size bound kept digest
    by_cases fits : receipt.outputSizeBytes ≤ maxResultBytes
    · simp only [fits, decide_true] at bound
      subst bound
      simp [ReceiptFields.OutputValid, kept, digest, size, marked]
    · simp only [fits, decide_false] at bound
      subst bound
      simp only [ReceiptFields.OutputValid, kept, good, digest, marked]
      simp
      omega

/-- A report on the claimed call is always received. -/
theorem issue_receipt_ends {request : CommitRequest} {maxResultBytes : Nat}
    {allowed : RlmError → Prop}
    (job : request.val.jobId = ticket.val.jobId) (call : request.val.callId = ticket.val.callId)
    (digest : request.val.ticketDigest = ticket.val.ticketDigest) (some_ : 1 ≤ maxResultBytes) :
    Ends allowed (ReceiptFor ticket request.val maxResultBytes)
      (Receipt.issue H ticket request maxResultBytes) := by
  obtain ⟨output, succeeded, otherwise, failed, report⟩ := request.property
  obtain ⟨-, -, -, ⟨-, model, effort, -, bareModel, bareEffort⟩, -⟩ := ticket.property
  unfold Receipt.issue
  refine .require (fun other => absurd ⟨job, call⟩ other) fun _ => ?_
  refine .require (fun other => absurd digest other) fun _ => ?_
  refine .require (fun other => absurd some_ other) fun _ => ?_
  have bounded : ∀ text, (if decide (request.val.outputText = none ∨
      (request.val.outputText.map String.utf8ByteSize).getD 0 ≤ maxResultBytes)
      then request.val.outputText else none) = some text → Bounded 1048576 text := by
    intro text kept
    split at kept
    · exact output text kept
    · cases kept
  rw [build_ok ⟨bounded, model, bareModel,
    fun value asked => ⟨effort value asked, bareEffort value asked⟩, report, rfl, rfl,
    outputValid some_ rfl rfl rfl rfl rfl rfl, fun good => (succeeded good).2, failed, rfl⟩]
  refine ⟨rfl, rfl, rfl, rfl, fun within => ⟨if_pos within, fun text reported => ?_⟩⟩
  have present : request.val.outputText = some text := reported
  simp only [present, Option.map_some, Option.getD_some, reduceCtorEq, false_or,
    decide_eq_true_eq] at within ⊢
  exact ⟨trivial, within⟩

/-- A receipt within its bound keeps the output of a successful call, with its digest and size. -/
theorem ReceiptFor.output {request : CommitRequest} {maxResultBytes : Nat}
    (received : ReceiptFor ticket request.val maxResultBytes receipt)
    (succeeded : request.val.outcome = .succeeded) (within : receipt.val.withinOutputBound) :
    ∃ text, receipt.val.outputText = some text ∧ receipt.val.outputDigest = some (H.text text) ∧
      receipt.val.outputSizeBytes = text.utf8ByteSize ∧ text.utf8ByteSize ≤ maxResultBytes := by
  obtain ⟨text, reported⟩ :=
    Option.ne_none_iff_exists'.mp (request.property.2.1 succeeded).1
  obtain ⟨kept, sized⟩ := received.within within
  have whole : receipt.val.outputText = some text := kept.trans reported
  obtain ⟨-, -, -, -, -, -, -, valid, -⟩ := receipt.property
  simp only [ReceiptFields.OutputValid, whole] at valid
  exact ⟨text, whole, valid.2.1, sized text reported⟩

/-- A successful call within its bound always has its step summarised. -/
theorem fromCommitted_ends {request : CommitRequest} {allowed : RlmError → Prop}
    (claimed : TicketFor callSpec jobSpec ticket)
    (received : ReceiptFor ticket request.val callSpec.val.maxResultBytes receipt)
    (succeeded : request.val.outcome = .succeeded) (within : receipt.val.withinOutputBound) :
    Ends allowed (fun step => step.val.stepIndex = callSpec.val.stepIndex ∧
        step.val.callId = callSpec.val.callId)
      (Step.fromCommitted H callSpec ticket receipt) := by
  obtain ⟨text, kept, digest, size, small⟩ := received.output succeeded within
  obtain ⟨-, requested, bare, effort, report, -⟩ := receipt.property
  unfold Step.fromCommitted
  refine .require (fun other => absurd
    ⟨claimed.jobId, claimed.callId, claimed.stepIndex, claimed.callSpecDigest⟩ other) fun _ => ?_
  refine .require (fun other => absurd received.ticketDigest other) fun _ => ?_
  refine .require (fun other => absurd ⟨received.outcome.trans succeeded, by simp [kept], within,
    size ▸ small⟩ other) fun _ => ?_
  refine .orRaise (fun absent => absurd (digest.symm.trans absent) nofun) fun found _ => ?_
  refine .require (fun other => absurd
    ⟨received.requestedModel, received.requestedEffort⟩ other) fun _ => ?_
  obtain ⟨model, effective, paired, input, output, -⟩ := report
  rw [build_ok ⟨callSpec.property.1, requested, bare, effort, model, effective, paired, input,
    output, nofun, nofun, nofun, Iff.rfl⟩]
  exact ⟨rfl, rfl⟩

end Rounds

/-- The result of a job whose steps are all committed is always issued. -/
theorem issue_result_ends {jobId : Token} {strategy : Strategy} {answer : String}
    {steps : List StepFields} {allowed : RlmError → Prop} (some_ : 1 ≤ answer.length)
    (small : answer.utf8ByteSize ≤ 262144) (few : steps.length ≤ 8)
    (contiguous : Contiguous steps) :
    Ends allowed (fun result => result.val.steps = steps ∧ result.val.jobId = jobId ∧
      result.val.strategy = strategy) (TerminalResult.issue H jobId strategy answer steps) := by
  have characters := length_le_utf8ByteSize answer
  have bounded : Bounded 262144 answer := ⟨some_, by omega⟩
  rw [TerminalResult.issue, build_ok ⟨bounded, few, contiguous, rfl⟩]
  exact ⟨rfl, rfl, rfl⟩

end Aar.PublicRlm
