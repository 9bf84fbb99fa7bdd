import Aar.Registry.Suspension

/-! How the owner of a prepared planner successor consumes it, once, into exactly one outcome. -/

namespace Aar.Registry

open Guarded Table CallerWork ModelBroker

section Authority

/-- What the owner of a prepared planner successor repeats about it. -/
structure PlannerToken where
  operation : String
  suspensionRevision : Nat
  settlementDigest : Digest
  outboxDigest : Digest
  rebindGeneration : Nat
  ticketId : String
  requestDigest : Digest
  logicalOwner : LogicalOwner
  deriving DecidableEq

/-- A prepared outbox row joined with everything a consumption reads. -/
structure PlannerRow where
  outbox : OutboxRow
  suspension : SuspensionRow
  job : JobRow
  control : ControlRow
  dispatch : DispatchRow
  ticket : TicketRow

/-- The row is the outbox row prepared for one attempt. -/
def PreparedFor (attemptId : String) (row : OutboxRow) : Prop :=
  row.state = .prepared ∧ row.successorAttemptId = some attemptId

instance (attemptId : String) : DecidablePred (PreparedFor attemptId) :=
  fun _ => inferInstanceAs (Decidable (_ ∧ _))

/-- The planner row prepared for one attempt. -/
def plannerRow (attemptId : String) (s : Scope) : Option PlannerRow :=
  s.outbox.findSome? fun outbox =>
    if PreparedFor attemptId outbox then do
      let suspension ← outboxSuspension outbox s
      let job ← s.job
      let control ← s.control
      let dispatch ← s.dispatch
      let ticket ← suspensionTicket suspension s
      return { outbox, suspension, job, control, dispatch, ticket }
    else none

/-- The control is in step with the job, or one cancellation request ahead of it. -/
def InStep (job : JobRow) (control : ControlRow) : Prop :=
  job.controlRevision = control.controlRevision ∨
    (control.cancellationRequested = true ∧ control.controlRevision = job.controlRevision + 1)

instance (job : JobRow) (control : ControlRow) : Decidable (InStep job control) :=
  inferInstanceAs (Decidable (_ ∨ _))

/-- The token and the fence still own the prepared row of a running operation. -/
def PlannerRow.Owned (read : PlannerRow) (token : PlannerToken) (fence : Digest)
    (attemptNo : Nat) (s : Scope) : Prop :=
  read.outbox.outboxDigest = token.outboxDigest ∧ token.operation = s.operation ∧
    token.suspensionRevision = read.outbox.suspensionRevision ∧
    token.ticketId = read.suspension.ticketId ∧
    token.requestDigest = read.suspension.requestDigest ∧
    token.logicalOwner = read.suspension.logicalOwner ∧
    read.outbox.rebindGeneration = token.rebindGeneration ∧
    read.outbox.successorAttemptFence = some fence ∧
    read.outbox.settlementDigest = token.settlementDigest ∧ read.job.phase = .accepted ∧
    InStep read.job read.control ∧ s.row.state = .running ∧ RunsAs attemptNo read.dispatch

instance (read : PlannerRow) (token : PlannerToken) (fence : Digest) (attemptNo : Nat)
    (s : Scope) : Decidable (read.Owned token fence attemptNo s) :=
  inferInstanceAs (Decidable (_ ∧ _))

/-- The receipt is the one the current claimant reported for the successful model call. -/
def CandidateCurrent (ticket : TicketRow) (candidate : CandidateReceipt) : Prop :=
  candidate.ticketId = ticket.ticketId ∧
    some candidate.physicalAttemptId = ticket.physicalAttemptId ∧
    some candidate.sentRequestDigest = ticket.sentRequestDigest ∧
    some candidate.callbackAdapterId = ticket.adapterId ∧
    some candidate.callbackAdapterGeneration = ticket.adapterGeneration ∧
    candidate.observation.ModelSucceeded

instance (ticket : TicketRow) (candidate : CandidateReceipt) :
    Decidable (CandidateCurrent ticket candidate) :=
  inferInstanceAs (Decidable (_ ∧ _))

/-- The journalled call is the one the ticket asked for and the observation describes. -/
def JournalCurrent (H : Hashing) (read : PlannerRow) (observation : CallerWorkObservation)
    (journal : ModelExecutionRow) : Prop :=
  journal.requestDigest = read.ticket.requestDigest ∧
    H.request journal.request = read.ticket.requestDigest ∧
    journal.request = read.ticket.request ∧
    some journal.binding = read.ticket.request.routeBinding ∧
    H.binding journal.binding = read.job.routeBindingDigest ∧
    journal.response.routeReceipt.requested = journal.binding ∧
    journal.response.usage = journal.usage ∧
    journal.responseDigest = H.response journal.response ∧
    ResponseMatches H journal.response observation

instance (H : Hashing) (read : PlannerRow) (observation : CallerWorkObservation)
    (journal : ModelExecutionRow) : Decidable (JournalCurrent H read observation journal) :=
  inferInstanceAs (Decidable (_ ∧ _))

/-- The evidence behind a directive or a correction: a settled, journalled model success. -/
def checkEvidence (H : Hashing) (read : PlannerRow) (s : Scope) : Except Err Unit := do
  require (read.ticket.state = .settledSuccess)
    (.invalidTransition "planner directive or correction requires settled success")
  let candidate ← orRaise (storedReceiptAt read.ticket read.outbox.settlementDigest s)
    (.invalidTransition "planner settlement candidate receipt is absent")
  require (CandidateCurrent read.ticket candidate)
    (.invalidTransition "planner candidate lineage is stale")
  let absent := Err.invalidTransition "planner model journal result is absent"
  let key ← orRaise read.ticket.externalIdempotencyKey absent
  let journal ← orRaise (journalled key s) absent
  require (JournalCurrent H read candidate.observation journal)
    (.invalidTransition "planner model journal lineage is stale")
where
  /-- The receipt stored for a ticket's physical attempt under one digest. -/
  storedReceiptAt (ticket : TicketRow) (receiptDigest : Digest) (s : Scope) :
      Option CandidateReceipt :=
    (fetchOne s.candidates fun stored => stored.ticketId = ticket.ticketId ∧
      some stored.physicalAttemptId = ticket.physicalAttemptId ∧
      stored.receiptDigest = receiptDigest).map CandidateRow.receipt

end Authority

section Outcomes

/-- What the owner of a planner successor says about the cell a directive starts. -/
structure CellProjection where
  cellIndex : Nat
  cellExecutionId : String
  source : RlmDirective
  sourceDigest : Digest
  checkpoint : WorkspaceCheckpointManifest
  preCheckpointDigest : Digest
  workspaceId : String
  workspaceGeneration : Nat
  workspaceRevision : Nat
  backendCapabilityDigest : Digest
  environmentDigest : Digest
  workerOwnerGeneration : Nat
  workerProcessIdentityDigest : Digest
  deriving DecidableEq

/-- The outcome arguments of a planner consumption, of which exactly one may be given. -/
structure PlannerOutcome where
  directive : Option RlmDirective
  cellProjection : Option CellProjection
  terminalState : Option OperationState
  failure : Option FailureEnvelope
  correctionTicket : Option CallerWorkTicket

/-- The terminal states a planner consumption may project. -/
def plannerTerminals : List OperationState := [.failed, .cancelled, .timedOut]

/-- The number of outcomes that are given. -/
def PlannerOutcome.count (outcome : PlannerOutcome) : Nat :=
  outcome.directive.toList.length + outcome.terminalState.toList.length +
    outcome.correctionTicket.toList.length

/-- The shape checks on the arguments, made before the transaction starts. -/
def PlannerOutcome.check (outcome : PlannerOutcome) : Except Err Unit := do
  require (outcome.count = 1) (.valueError
    "planner consumption requires exactly one directive, terminal state, or correction")
  require (outcome.directive.any RlmDirective.isExecuteCell = outcome.cellProjection.isSome)
    (.valueError "execute_cell planner consumption requires one cell projection")
  require (∀ state ∈ outcome.terminalState, state ∈ plannerTerminals)
    (.valueError "planner terminal state is unsupported")

/-- Mark the prepared row as consumed by its owner. -/
def consumeOutbox (read : OutboxRow) (attemptId : String) (fence : Digest) (s : Scope) :
    Except Err Scope := do
  let outbox ← updateOne s.outbox
    (fun row => row.suspensionRevision = read.suspensionRevision ∧ row.state = .prepared ∧
      row.rebindGeneration = read.rebindGeneration ∧ row.successorAttemptId = some attemptId ∧
      row.successorAttemptFence = some fence)
    (fun row => { row with state := .consumed })
    (Err.staleAttemptFence "planner successor changed during consumption")
  return { s with outbox }

/-- The phase a terminal outer state projects to. -/
def terminalPhase : OperationState → JobPhase
  | .cancelled => .cancelled
  | .timedOut => .timedOut
  | _ => .failed

/-- The failure a terminal projection stores when its caller gives none. -/
def plannerFailure (state : OperationState) (operation : String) : FailureEnvelope :=
  { category := match state with
      | .cancelled => "cancelled"
      | .timedOut => "deadline"
      | _ => "validation"
    code := match state with
      | .timedOut => "DEADLINE_EXCEEDED"
      | .cancelled => "CONFLICT"
      | _ => "INVALID_ARGUMENT"
    message := match state with
      | .cancelled => "planner consumption lost to cancellation"
      | .timedOut => "planner consumption reached its cumulative deadline"
      | _ => "planner terminal settlement failed"
    retryable := false, certainty := .certain, operation := some operation, details := [] }

/-- The terminal state that wins: a cancellation, then a passed deadline, then the caller's. -/
def selectTerminal (read : PlannerRow) (terminalState : Option OperationState) (now : Nat) :
    Option OperationState :=
  if read.control.cancellationRequested = true then some .cancelled
  else if read.job.cumulativeDeadlineUnixMs ≤ now then some .timedOut
  else terminalState

/-- Discard every artifact that is only staged. -/
def discardStaged (stages : List StageRow) : List StageRow :=
  updateWhere stages (·.state = .staged) fun row => { row with state := .discarded }

/-- The evidence every event of a consumption repeats. -/
def settlementPayload (read : PlannerRow) : Payload :=
  [("ticket_id", .text read.suspension.ticketId),
    ("request_digest", .text read.suspension.requestDigest),
    ("logical_owner", .owner read.suspension.logicalOwner)]

/-- Project a terminal outcome: the job, its control, the operation and its attempt all end. -/
def projectPlannerTerminal (read : PlannerRow) (fence : AttemptFence) (state : OperationState)
    (failure : Option FailureEnvelope) (now : Nat) (s : Scope) : Except Err Scope := do
  let attemptNo := fence.attempt.attemptNo
  let failure := failure.getD (plannerFailure state s.operation)
  let next := read.control.controlRevision + 1
  let recordRevision := s.row.recordRevision
  let job ← patchOne s.job (JobAt .accepted read.job.controlRevision)
    (fun row => { row with
      phase := terminalPhase state, controlRevision := next, failure := some failure
      certainty := .certain })
    (Err.staleAttemptFence "workbench changed during planner terminal projection")
  let control ← patchOne s.control (·.controlRevision = read.control.controlRevision)
    (fun row => { row with controlRevision := next })
    (Err.staleAttemptFence "operation control changed during planner terminal")
  let s ← closeOuter recordRevision state (fun _ => some failure)
    "outer operation changed during planner terminal" { s with job, control }
  let s ← closeAttempt fence.attempt (.outer state) AttemptRow.recoveryReason now
    "planner terminal attempt changed" s
  let s ← releaseLease attemptNo fence.leaseEpoch now "planner terminal lease changed" s
  let s ← closeRunningDispatch attemptNo .completed now "planner terminal dispatch changed" s
  return insertEvent { s with stages := discardStaged s.stages } state .certain
    (recordRevision + 1) now "planner_successor_terminal" (some attemptNo)
    ([("outbox_digest", .text read.outbox.outboxDigest),
      ("settlement_digest", .text read.outbox.settlementDigest),
      ("rebind_generation", .int read.outbox.rebindGeneration),
      ("terminal_state", .text state.wire)] ++ settlementPayload read)

/-- The planner step index of an owner. -/
def stepIndex : LogicalOwner → Nat
  | .planner _ stepIndex => stepIndex
  | .cell _ ordinal => ordinal

/-- Project a correction: the planner asks its caller again and waits for the next ticket. -/
def projectCorrection (H : Hashing) (read : PlannerRow) (fence : AttemptFence)
    (ticket : CallerWorkTicket) (now : Nat) (s : Scope) : Except Err Scope := do
  require (ticket.operation = s.operation)
    (.invalidTransition "planner correction ticket operation does not match the attempt")
  require (ticket.owner = .planner .correction (stepIndex read.suspension.logicalOwner + 1))
    (.invalidTransition "planner correction owner is not the exact successor")
  require (ticket.suspensionRevision = read.outbox.suspensionRevision + 1)
    (.invalidTransition "planner correction suspension revision is stale")
  require (ticket.request.method = .modelRequest)
    (.invalidTransition "planner correction method must be model.request")
  require (ticket.requestDigest = H.request ticket.request)
    (.idempotencyConflict "planner correction request digest is stale")
  let texts : WaitTexts :=
    { phase := "workbench changed during planner correction"
      control := "operation control changed during planner correction"
      attempt := "attempt changed during planner correction"
      lease := "lease changed during planner correction"
      outer := "outer operation changed during planner correction"
      dispatch := "dispatch changed during planner correction" }
  let recordRevision := s.row.recordRevision
  let attemptNo := fence.attempt.attemptNo
  let s ← openSuspension ticket (read.control.controlRevision + 1) none none
    "planner correction ticket changed during projection" s
  let s ← waitExternally texts
    ⟨.accepted, read.job.controlRevision, read.control.controlRevision⟩ s
  let s ← suspendAttempt texts fence recordRevision "planner_correction_wait" now s
  let s := recordWait ticket none attemptNo (recordRevision + 1) now s
  return insertEvent s .accepted .certain (recordRevision + 1) now
    "planner_correction_requested" (some attemptNo)
    [("consumed_outbox_digest", .text read.outbox.outboxDigest),
      ("settlement_digest", .text read.outbox.settlementDigest),
      ("prior_ticket_id", .text read.suspension.ticketId),
      ("suspension_revision", .int ticket.suspensionRevision),
      ("ticket_id", .text ticket.ticketId),
      ("request_digest", .text ticket.requestDigest), ("logical_owner", .owner ticket.owner)]

end Outcomes

section Directives

/-- The projected cell names the workspace and the checkpoint the job is at. -/
def CellProjection.AtWorkspace (cell : CellProjection) (job : JobRow) : Prop :=
  cell.checkpoint.contentDigest = cell.preCheckpointDigest ∧
    job.workspaceId = some cell.workspaceId ∧
    job.workspaceGeneration = cell.workspaceGeneration ∧
    job.workspaceRevision = cell.workspaceRevision ∧
    cell.checkpoint.sourceHandle.workspace = cell.workspaceId ∧
    cell.checkpoint.sourceHandle.generation = cell.workspaceGeneration ∧
    cell.checkpoint.sourceHandle.revision = cell.workspaceRevision

instance (cell : CellProjection) (job : JobRow) : Decidable (cell.AtWorkspace job) :=
  inferInstanceAs (Decidable (_ ∧ _))

/-- The checks on a projected cell. -/
def checkProjection (H : Hashing) (directive : RlmDirective) (job : JobRow)
    (cell : CellProjection) (s : Scope) : Except Err Unit := do
  require (cell.source = directive ∧ H.directive cell.source = cell.sourceDigest)
    (.invalidTransition "planner cell source binding is stale")
  require (cell.cellExecutionId =
        H.cellExecutionId s.operation cell.cellIndex cell.sourceDigest ∧
      cell.AtWorkspace job)
    (.invalidTransition "planner cell workspace/checkpoint binding is stale")
  require (cell.cellIndex = s.cells.length)
    (.invalidTransition "planner cell index is not the durable next index")
  require (0 < cell.workerOwnerGeneration)
    (.invalidTransition "planner worker owner generation is invalid")
  require (cell.workerProcessIdentityDigest ≠ "")
    (.invalidTransition "planner worker identity is invalid")

/-- Add a manifest to the shared catalog unless its digest is already there. -/
def insertCatalog (row : CatalogRow) (catalog : List CatalogRow) : List CatalogRow :=
  if ∃ stored ∈ catalog, stored.manifestDigest = row.manifestDigest then catalog
  else catalog ++ [row]

/-- The catalog row of the checkpoint a projected cell starts from. -/
def CellProjection.catalogRow (cell : CellProjection) (operation : String) : CatalogRow :=
  { manifestDigest := cell.preCheckpointDigest, workspaceId := cell.workspaceId
    sourceGeneration := cell.workspaceGeneration, sourceRevision := cell.workspaceRevision
    backendCapabilityDigest := cell.backendCapabilityDigest
    environmentDigest := cell.environmentDigest, creationOperationId := operation
    manifest := cell.checkpoint }

/-- The cell identifiers of an operation. -/
def cellIds (record : OpRecord) : List String := record.cells.map CellRow.cellExecutionId

/-- Store a new cell, raising when its identifier or its index is taken. -/
def insertCell (row : CellRow) (s : Scope) : Except Err Scope := do
  require (s.Fresh cellIds row.cellExecutionId)
    (.integrityError "UNIQUE constraint failed: rlm_workbench_cells.cell_execution_id")
  let cells ← insertUnique s.cells (·.cellIndex = row.cellIndex) row
    (Err.integrityError "UNIQUE constraint failed: rlm_workbench_cells.cell_index")
  return { s with cells }

/-- Give the new cell's attempt the authority, which its committed predecessor hands on. -/
def advanceAuthority (cell : CellProjection) (attemptId : String) (fence : Digest) (s : Scope) :
    Except Err Scope :=
  let next (authorityGeneration : Nat) : AuthorityRow :=
    { attemptId, attemptFence := fence, authorityGeneration
      workerOwnerGeneration := cell.workerOwnerGeneration
      workerProcessIdentityDigest := cell.workerProcessIdentityDigest
      workspaceId := cell.workspaceId, workspaceGeneration := cell.workspaceGeneration
      workspaceRevision := cell.workspaceRevision, cellExecutionId := cell.cellExecutionId
      rebindTokenDigest := none }
  match s.authority with
  | none => do
    require (cell.cellIndex = 0)
      (.invalidTransition "planner cell lacks predecessor authority")
    return { s with authority := some (next 1) }
  | some prior => do
    let uncommitted :=
      Err.invalidTransition "planner predecessor cell authority is not committed"
    let predecessor ← orRaise
      (fetchOne s.cells (·.cellExecutionId = prior.cellExecutionId)) uncommitted
    require (predecessor.cellIndex + 1 = cell.cellIndex ∧ predecessor.state = .committed)
      uncommitted
    return { s with authority := some (next (prior.authorityGeneration + 1)) }

/-- Store the cell that a directive starts, with its checkpoint and its authority. -/
def projectCell (H : Hashing) (directive : RlmDirective) (read : PlannerRow)
    (attemptId : String) (fence : Digest) (cell : CellProjection) (s : Scope) :
    Except Err Scope := do
  checkProjection H directive read.job cell s
  let catalog := insertCatalog (cell.catalogRow s.operation) s.catalog
  require ((fetchOne catalog (·.manifestDigest = cell.preCheckpointDigest)).any
      fun row => row.manifest = cell.checkpoint)
    (.invalidTransition "planner checkpoint digest conflicts with existing bytes")
  let s ← insertCell
    { cellExecutionId := cell.cellExecutionId, cellIndex := cell.cellIndex
      source := cell.source, sourceDigest := cell.sourceDigest
      preCheckpointDigest := cell.preCheckpointDigest, postCheckpointDigest := none
      state := .prepared, attemptId, attemptFence := fence, workspaceId := cell.workspaceId
      workspaceGeneration := cell.workspaceGeneration
      preWorkspaceRevision := cell.workspaceRevision, postWorkspaceRevision := none
      resultJson := none, resultDigest := none } { s with catalog }
  advanceAuthority cell attemptId fence s

/-- Project a directive: the job runs again, and a cell directive leaves a prepared cell. -/
def projectDirective (H : Hashing) (read : PlannerRow) (fence : AttemptFence)
    (digest : Digest) (directive : RlmDirective) (projection : Option CellProjection)
    (now : Nat) (s : Scope) : Except Err Scope := do
  let attemptNo := fence.attempt.attemptNo
  let s ← match projection with
    | some cell => projectCell H directive read fence.attempt.attemptId digest cell s
    | none => .ok s
  let job ← patchOne s.job
    (fun row => JobAt .accepted read.job.controlRevision row ∧
      row.cancellationRequested = false)
    (fun row => { row with phase := .running })
    (Err.staleAttemptFence "workbench changed during planner consumption")
  return insertEvent { s with job } .running .certain s.row.recordRevision now
    "planner_successor_consumed" (some attemptNo)
    ([("outbox_digest", .text read.outbox.outboxDigest),
      ("settlement_digest", .text read.outbox.settlementDigest),
      ("rebind_generation", .int read.outbox.rebindGeneration),
      ("directive", .directive directive), ("directive_digest", .text (H.directive directive)),
      ("cell_execution_id",
        projection.elim .null fun cell => .text cell.cellExecutionId),
      ("pre_checkpoint_digest",
        projection.elim .null fun cell => .text cell.preCheckpointDigest)] ++
      settlementPayload read)

end Directives

section Consume

/-- The row a consumption acts on, once its authority and evidence have been checked. -/
def checkConsumption (H : Hashing) (fence : AttemptFence) (token : PlannerToken)
    (outcome : PlannerOutcome) (s : Scope) : Except Err PlannerRow := do
  let digest := H.attemptFence fence.dispatcherGeneration fence.leaseEpoch fence.ownerDigest
  let read ← orRaise (plannerRow fence.attempt.attemptId s)
    (.invalidTransition "prepared planner successor does not exist")
  require (read.Owned token digest fence.attempt.attemptNo s)
    (.staleAttemptFence "planner successor consumption authority is stale")
  require (IsPlanner read.suspension.logicalOwner)
    (.invalidTransition "planner successor owner is invalid")
  require (PlannerBound read.outbox read.suspension read.ticket)
    (.invalidTransition "planner successor settlement binding is stale")
  runWhen (outcome.directive.isSome ∨ outcome.correctionTicket.isSome) (checkEvidence H read s)
  return read

/-- `consume_planner_successor`: consume one prepared row and project exactly one outcome. -/
def consumePlannerSuccessor (H : Hashing) (fence : AttemptFence) (token : PlannerToken)
    (outcome : PlannerOutcome) (clock : Clock) (s : Scope) : Except Err Scope := do
  outcome.check
  let _ ← validateFence (clock 0) fence s.generation s
  let read ← checkConsumption H fence token outcome s
  let digest := H.attemptFence fence.dispatcherGeneration fence.leaseEpoch fence.ownerDigest
  let now := clock 1
  let s ← consumeOutbox read.outbox fence.attempt.attemptId digest s
  match selectTerminal read outcome.terminalState now with
  | some state => projectPlannerTerminal read fence state outcome.failure now s
  | none =>
    match outcome.correctionTicket, outcome.directive with
    | some ticket, _ => projectCorrection H read fence ticket now s
    | none, some directive =>
      projectDirective H read fence digest directive outcome.cellProjection now s
    | none, none => .error (.valueError
      "planner consumption requires exactly one directive, terminal state, or correction")

end Consume

end Aar.Registry
