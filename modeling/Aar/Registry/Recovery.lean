import Aar.Registry.Attempt
import Aar.Registry.Consumption

/-! Recovery decisions on indeterminate operations, and the checkpoints they may restore. -/

namespace Aar.Registry

open Guarded Table

section Requeue

/-- What a recovery pass decides about one indeterminate operation. -/
structure RequeueDecision where
  decision : RecoveryDecision
  reasonCode : String
  inputDigest : Digest
  policyBinding : Option RecoveryPolicyBinding
  continuationBoundary : Option ContinuationBoundary

/-- The decisions that return an operation to the queue. -/
def successorDecisions : List RecoveryDecision := [.startSuccessor, .restoreCheckpoint]

/-- The decision as it is stored. -/
def decisionWire : RecoveryDecision → String
  | .needsUser => "needs_user"
  | .quarantine => "quarantine"
  | .reconcileEffect => "reconcile_effect"
  | .restoreCheckpoint => "restore_checkpoint"
  | .resumeNative => "resume_native"
  | .startSuccessor => "start_successor"
  | .terminalFromReceipt => "terminal_from_receipt"

/-- The attempt a recovery decision is about. -/
def priorAttempt (s : Scope) : Option AttemptRow :=
  match s.dispatch.bind DispatchRow.currentAttemptNo with
  | some attemptNo => fetchOne s.attempts (·.attemptNo = attemptNo)
  | none => fetchMax s.attempts (fun _ => True) AttemptRow.attemptNo

/-- The number of the attempt a recovery decision is about. -/
def priorAttemptNo (s : Scope) : Option Nat :=
  ((priorAttempt s).map AttemptRow.attemptNo).or (s.dispatch.bind DispatchRow.currentAttemptNo)

/-- Close the predecessor attempt and release the leases it still holds. -/
def closePrior (reasonCode : String) (now : Nat) (s : Scope) : Scope :=
  match priorAttempt s with
  | none => s
  | some prior =>
    let attempts := if prior.state = runningAttempt then
      updateWhere s.attempts (·.attemptNo = prior.attemptNo) fun row => { row with
        state := .outer .indeterminate, certainty := .indeterminate
        recoveryReason := some reasonCode, endedAtUnixMs := some now }
      else s.attempts
    { s with
      attempts
      leases := updateWhere s.leases (HeldBy prior.attemptNo) fun row => { row with
        releasedAtUnixMs := some now } }

/-- The highest lease epoch of one attempt. -/
def latestLease (attemptNo : Nat) (s : Scope) : Option LeaseRow :=
  fetchMax s.leases (·.attemptNo = attemptNo) LeaseRow.leaseEpoch

/-- The policy binding a decision repeats is the admitted one and allows the decision. -/
def checkPolicy (request : RequeueDecision) (s : Scope) : Except Err Unit :=
  match request.policyBinding with
  | none => require (request.continuationBoundary = none)
      (.invalidTransition "continuation boundary requires a bound recovery policy")
  | some binding => do
    let stored ← orRaise s.policy
      (.invalidTransition "operation has no admission-bound recovery policy")
    require (stored = binding)
      (.idempotencyConflict "recovery policy binding does not match admission")
    require (request.decision ∈ binding.policy.allowedDecisions)
      (.invalidTransition "recovery decision is not allowed by bound policy")

/-- The boundary repeats the authority of the predecessor attempt. -/
def RepeatsPrior (authority : BoundaryAuthority) (prior : AttemptRow)
    (binding : RecoveryPolicyBinding) (inputDigest : Digest) (s : Scope) : Prop :=
  authority.priorAttempt = ⟨s.operation, prior.attemptNo, prior.attemptId⟩ ∧
    authority.runtimeGeneration = prior.runtimeGeneration ∧
    authority.dispatcherGeneration = prior.dispatcherGeneration ∧
    authority.policyDigest = binding.policyDigest ∧ authority.inputDigest = inputDigest ∧
    authority.environmentDigest = binding.environmentDigest ∧
    authority.deadlineUnixMs = s.row.request.deadlineUnixMs

instance (authority : BoundaryAuthority) (prior : AttemptRow) (binding : RecoveryPolicyBinding)
    (inputDigest : Digest) (s : Scope) :
    Decidable (RepeatsPrior authority prior binding inputDigest s) :=
  inferInstanceAs (Decidable (_ ∧ _))

/-- The selection repeats the authority and the checkpoint of a workspace boundary. -/
def SelectedAs (authority : BoundaryAuthority) (choice : CheckpointChoice)
    (selection : CheckpointSelection) : Prop :=
  selection.priorAttempt = authority.priorAttempt ∧
    selection.runtimeGeneration = authority.runtimeGeneration ∧
    selection.dispatcherGeneration = authority.dispatcherGeneration ∧
    selection.leaseEpoch = authority.leaseEpoch ∧
    selection.policyDigest = authority.policyDigest ∧
    selection.inputDigest = authority.inputDigest ∧
    selection.environmentDigest = authority.environmentDigest ∧
    selection.deadlineUnixMs = authority.deadlineUnixMs ∧ selection.choice = choice

instance (authority : BoundaryAuthority) (choice : CheckpointChoice) :
    DecidablePred (SelectedAs authority choice) :=
  fun _ => inferInstanceAs (Decidable (_ ∧ _))

/-- The limits on a policy-bound successor: its lease, a cancellation, the deadline, the policy. -/
def checkSuccessorBounds (authority : BoundaryAuthority) (prior : AttemptRow)
    (policy : RecoveryPolicy) (now : Nat) (s : Scope) : Except Err Unit := do
  require ((latestLease prior.attemptNo s).any fun lease =>
      lease.leaseEpoch = authority.leaseEpoch)
    (.staleAttemptFence "continuation boundary lease epoch is stale")
  require (¬ s.control.any ControlRow.cancellationRequested)
    (.invalidTransition "cancellation prevents successor recovery")
  require (now < authority.deadlineUnixMs)
    (.invalidTransition "deadline prevents successor recovery")
  require ((s.decisions.filter fun row => row.decision ∈ successorDecisions).length
      < policy.maxSuccessorAttempts)
    (.invalidTransition "successor recovery bound is exhausted")

/-- The boundary digests of one table. -/
def boundaryDigests (table : OpRecord → List BoundaryRow) (record : OpRecord) : List Digest :=
  (table record).map fun row => row.boundary.authority.boundaryDigest

/-- Bind a boundary to its predecessor attempt, or recognise the stored one. -/
def bindBoundary (table : OpRecord → List BoundaryRow) (attemptNo : Nat)
    (boundary : ContinuationBoundary) (s : Scope) : Except Err (List BoundaryRow) :=
  match fetchOne (table s.toOpRecord) (·.priorAttemptNo = attemptNo) with
  | some existing => do
    require (existing.boundary = boundary)
      (.idempotencyConflict
        "predecessor attempt already binds a different continuation boundary")
    return table s.toOpRecord
  | none => do
    require (s.Fresh (boundaryDigests table) boundary.authority.boundaryDigest)
      (.integrityError "UNIQUE constraint failed: boundary_digest")
    return table s.toOpRecord ++ [{ priorAttemptNo := attemptNo, boundary }]

/-- Store the boundary of a policy-bound successor; the result is the checkpoint it restores. -/
def storeBoundary (decision : RecoveryDecision) (prior : AttemptRow)
    (boundary : ContinuationBoundary) (s : Scope) : Except Err (Scope × Option Digest) :=
  match boundary with
  | .rlmStep _ => do
    require (decision = .startSuccessor)
      (.invalidTransition "workspace restore requires a workspace checkpoint boundary")
    let rlmBoundaries ← bindBoundary OpRecord.rlmBoundaries prior.attemptNo boundary s
    return ({ s with rlmBoundaries }, none)
  | .workspaceCheckpoint authority choice restoredHandle => do
    require (decision ≠ .startSuccessor)
      (.invalidTransition "RLM successor requires an RLM step boundary")
    let unverified :=
      Err.invalidTransition "workspace successor requires a verified restored selection"
    let row ← orRaise (fetchOne s.selections (·.priorAttemptNo = prior.attemptNo)) unverified
    let restored ← orRaise row.restoredHandle unverified
    require (SelectedAs authority choice row.selection ∧ restored = restoredHandle)
      (.idempotencyConflict "workspace boundary does not match the restored selection")
    let workspaceBoundaries ←
      bindBoundary OpRecord.workspaceBoundaries prior.attemptNo boundary s
    return ({ s with workspaceBoundaries }, some choice.checkpointManifestDigest)

/-- What a successor decision stores about its boundary. -/
structure BoundaryEvidence where
  boundaryDigest : Option Digest
  checkpointDigest : Option Digest

/-- Check and store the exact predecessor boundary of a policy-bound successor. -/
def admitSuccessor (request : RequeueDecision) (inputDigest : Digest) (now : Nat) (s : Scope) :
    Except Err (Scope × BoundaryEvidence) :=
  match request.policyBinding with
  | some binding =>
    if request.decision ∈ successorDecisions then do
      let inexact := Err.invalidTransition
        "policy-bound successor requires an exact predecessor boundary"
      let boundary ← orRaise request.continuationBoundary inexact
      let prior ← orRaise (priorAttempt s) inexact
      require (RepeatsPrior boundary.authority prior binding inputDigest s)
        (.staleAttemptFence "continuation boundary does not match predecessor authority")
      checkSuccessorBounds boundary.authority prior binding.policy now s
      let stored ← storeBoundary request.decision prior boundary s
      return (stored.1,
        { boundaryDigest := some boundary.authority.boundaryDigest
          checkpointDigest := stored.2 })
    else .ok (s, { boundaryDigest := none, checkpointDigest := none })
  | none => .ok (s, { boundaryDigest := none, checkpointDigest := none })

/-- The next decision number of an operation. -/
def nextDecision (s : Scope) : Nat := maxOf s.decisions DecisionRow.decisionNo + 1

/-- The queued dispatch row of an operation that returns to the queue. -/
def requeuedDispatch (binding : Option RecoveryPolicyBinding) (prior : Option Nat) (now : Nat)
    (dispatch : Option DispatchRow) : Except Err DispatchRow :=
  match dispatch with
  | none => .ok
      { kind := binding.elim .rlmExecute RecoveryPolicyBinding.operationKind
        state := .queued, queuedAtUnixMs := some now, runningAtUnixMs := none
        finishedAtUnixMs := none, currentAttemptNo := prior }
  | some stored => do
    require (∀ bound ∈ binding, stored.kind = bound.operationKind)
      (.idempotencyConflict "dispatch kind does not match the recovery policy")
    return { stored with
      state := .queued, queuedAtUnixMs := some now, runningAtUnixMs := none
      finishedAtUnixMs := none }

/-- Return an indeterminate operation to the queue. -/
def requeue (binding : Option RecoveryPolicyBinding) (prior : Option Nat)
    (runtimeGeneration now : Nat) (s : Scope) : Except Err Scope := do
  let dispatch ← requeuedDispatch binding prior now s.dispatch
  return { s with
    dispatch := some dispatch
    row := { s.row with
      state := .accepted, certainty := .certain, runtimeGeneration
      recordRevision := s.row.recordRevision + 1, reconciliationRequired := false } }

/-- Keep an indeterminate operation out of the queue. -/
def keepParked (now : Nat) (s : Scope) : Scope :=
  { s with dispatch := s.dispatch.map fun row => { row with
    state := .parked, finishedAtUnixMs := some now } }

/-- The event of one recovery decision. -/
def decisionPayload (row : DecisionRow) : Payload :=
  [("decision", .text (decisionWire row.decision)), ("decision_no", .int row.decisionNo),
    ("reason_code", .text row.reasonCode),
    ("policy_digest", row.policyDigest.elim .null .text),
    ("continuation_boundary_digest", row.continuationBoundaryDigest.elim .null .text),
    ("successor_attempt_no", row.successorAttemptNo.elim .null .int)]

/-- The row one decision is stored as. -/
def decisionRow (request : RequeueDecision) (inputDigest : Digest) (evidence : BoundaryEvidence)
    (prior : Option Nat) (s : Scope) : DecisionRow :=
  { decisionNo := nextDecision s, priorAttemptNo := prior, decision := request.decision
    reasonCode := request.reasonCode, inputDigest
    policyVersion := request.policyBinding.map fun binding => binding.policy.policyVersion
    policyDigest := request.policyBinding.map RecoveryPolicyBinding.policyDigest
    checkpointDigest := evidence.checkpointDigest
    continuationBoundaryDigest := evidence.boundaryDigest
    successorAttemptNo := if request.decision ∈ successorDecisions then prior.map (· + 1)
      else none }

/-- `requeue_indeterminate`: store a recovery decision, and requeue when it admits a successor. -/
def requeueIndeterminate (runtimeGeneration : Nat) (request : RequeueDecision) (clock : Clock)
    (s : Scope) : Except Err Scope := do
  require (request.reasonCode ≠ "") (.valueError "reason_code must not be empty")
  requireCurrentRuntime runtimeGeneration s
  require (s.row.state = .indeterminate)
    (.invalidTransition "only indeterminate operations can be requeued")
  require (request.inputDigest = "" ∨ request.inputDigest = s.row.inputDigest)
    (.idempotencyConflict "recovery input digest does not match accepted intent")
  let inputDigest := s.row.inputDigest
  let prior := priorAttemptNo s
  let now := clock 0
  checkPolicy request s
  let admitted ← admitSuccessor request inputDigest now s
  let s := closePrior request.reasonCode now admitted.1
  let decision := decisionRow request inputDigest admitted.2 prior s
  let s := { s with decisions := s.decisions ++ [decision] }
  if request.decision ∈ successorDecisions then do
    let s ← requeue request.policyBinding prior runtimeGeneration now s
    return insertEvent s .accepted .certain s.row.recordRevision now "recovery_decision" prior
      (decisionPayload decision)
  else
    let s := keepParked now s
    return insertEvent s .indeterminate .indeterminate s.row.recordRevision now
      "recovery_decision" prior (decisionPayload decision)

end Requeue

section Receipt

/-- The terminal states a receipt may prove. -/
def receiptStates : List OperationState := [.succeeded, .cancelled, .timedOut]

/-- `recover_terminal_from_receipt`: commit a terminal state from an authoritative receipt. -/
def recoverTerminalFromReceipt (runtimeGeneration : Nat) (state : OperationState)
    (resultJson reasonCode : String) (inputDigest : Digest) (clock : Clock) (s : Scope) :
    Except Err Scope := do
  require (state ∈ receiptStates)
    (.valueError "receipt recovery supports succeeded, cancelled, or timed_out")
  require (reasonCode ≠ "") (.valueError "reason_code must not be empty")
  requireCurrentRuntime runtimeGeneration s
  require (s.row.state = .indeterminate)
    (.invalidTransition "receipt recovery requires an indeterminate operation")
  require (inputDigest = s.row.inputDigest)
    (.idempotencyConflict "recovery input digest does not match accepted intent")
  let undispatched :=
    Err.invalidTransition "receipt recovery requires a parked or running dispatch"
  let dispatch ← orRaise s.dispatch undispatched
  require (dispatch.state = .running ∨ dispatch.state = .parked) undispatched
  let now := clock 0
  let decision : DecisionRow :=
    { decisionNo := nextDecision s, priorAttemptNo := dispatch.currentAttemptNo
      decision := .terminalFromReceipt, reasonCode, inputDigest, policyVersion := none
      policyDigest := none, checkpointDigest := none, continuationBoundaryDigest := none
      successorAttemptNo := none }
  let revision := s.row.recordRevision + 1
  let s := { s with
    decisions := s.decisions ++ [decision]
    row := { s.row with
      state, certainty := .certain, runtimeGeneration, recordRevision := revision
      reconciliationRequired := false, resultJson := some resultJson, failure := none }
    attempts := updateWhere s.attempts
      (fun row => some row.attemptNo = dispatch.currentAttemptNo) fun row => { row with
        state := .outer state, certainty := .certain, recoveryReason := some reasonCode
        endedAtUnixMs := row.endedAtUnixMs.or (some now) }
    dispatch := some { dispatch with state := .completed, finishedAtUnixMs := some now } }
  return insertEvent s state .certain revision now "terminal_from_receipt"
    dispatch.currentAttemptNo
    [("decision_no", .int decision.decisionNo), ("reason_code", .text reasonCode),
      ("state", .text state.wire)]

end Receipt

section Checkpoints

/-- The catalog row of one completed checkpoint. -/
def manifestRow (manifest : WorkspaceCheckpointManifest) : CatalogRow :=
  { manifestDigest := manifest.contentDigest, workspaceId := manifest.sourceHandle.workspace
    sourceGeneration := manifest.sourceHandle.generation
    sourceRevision := manifest.sourceHandle.revision
    backendCapabilityDigest := manifest.sourceHandle.backendCapabilityDigest
    environmentDigest := manifest.environmentDigest
    creationOperationId := manifest.creationOperation, manifest }

/-- The catalogued manifest under one digest. -/
def workspaceCheckpointManifest (manifestDigest : Digest) (s : Scope) :
    Option WorkspaceCheckpointManifest :=
  (fetchOne s.catalog (·.manifestDigest = manifestDigest)).map CatalogRow.manifest

/-- Catalog a manifest, raising when its digest is bound to different bytes. -/
def catalogManifest (manifest : WorkspaceCheckpointManifest) (s : Scope) : Except Err Scope := do
  require (∀ stored ∈ workspaceCheckpointManifest manifest.contentDigest s, stored = manifest)
    (.idempotencyConflict "checkpoint digest is bound to different bytes")
  return { s with catalog := insertCatalog (manifestRow manifest) s.catalog }

/-- `succeed_workspace_checkpoint`: publish a completed checkpoint with its catalog row. -/
def succeedWorkspaceCheckpoint (H : Hashing) (manifest : WorkspaceCheckpointManifest)
    (runtimeGeneration : Nat) (clock : Clock) (s : Scope) : Except Err Scope := do
  require (manifest.creationOperation = s.operation) (.idempotencyConflict
    "checkpoint creation operation does not match the published operation")
  requireCurrentRuntime runtimeGeneration s
  require (s.row.state = .running)
    (.invalidTransition "checkpoint publication requires a running operation")
  require (s.row.runtimeGeneration = runtimeGeneration) (.staleRuntimeGeneration
    "checkpoint operation belongs to a stale runtime generation")
  let revision := s.row.recordRevision + 1
  let s ← catalogManifest manifest s
  let row := { s.row with
    state := .succeeded, certainty := .certain, recordRevision := revision
    reconciliationRequired := false, resultJson := some (H.manifestJson manifest)
    failure := none }
  return insertEvent { s with row } .succeeded .certain revision (clock 0) "succeeded" none
    [("note", .text "succeeded")]

/-- `record_workspace_checkpoint`: catalog a manifest that its operation has published. -/
def recordWorkspaceCheckpoint (H : Hashing) (manifest : WorkspaceCheckpointManifest)
    (s : Scope) : Except Err Scope := do
  require (s.row.state = .succeeded)
    (.invalidTransition "checkpoint creation operation is not succeeded")
  require (s.row.resultJson = some (H.manifestJson manifest)) (.idempotencyConflict
    "checkpoint manifest does not match the authoritative operation result")
  catalogManifest manifest s

/-- The predecessor a selection names is the attempt its dispatch row last ran. -/
def checkSelectionFence (selection : CheckpointSelection) (s : Scope) : Except Err Unit := do
  let prior := selection.priorAttempt
  require (∃ row ∈ s.attempts, row.attemptNo = prior.attemptNo ∧
      row.attemptId = prior.attemptId ∧
      row.runtimeGeneration = selection.runtimeGeneration ∧
      row.dispatcherGeneration = selection.dispatcherGeneration)
    (.staleAttemptFence "checkpoint selection attempt fence is stale")
  require (s.dispatch.any fun row => row.currentAttemptNo = some prior.attemptNo ∧
      (row.state = .running ∨ row.state = .parked))
    (.staleAttemptFence "checkpoint selection dispatch fence is stale")
  require ((latestLease prior.attemptNo s).any fun lease =>
      lease.leaseEpoch = selection.leaseEpoch)
    (.staleAttemptFence "checkpoint selection lease epoch is stale")

/-- The manifest is the one a checkpoint choice describes. -/
def Chosen (choice : CheckpointChoice) (manifest : WorkspaceCheckpointManifest) : Prop :=
  manifest.creationOperation = choice.checkpointOperation ∧
    manifest.sourceHandle = choice.sourceHandle ∧
    manifest.exclusionCount = choice.exclusionCount ∧
    manifest.exclusionsDigest = choice.exclusionsDigest ∧
    manifest.artifactsDigest = choice.artifactsDigest

instance (choice : CheckpointChoice) : DecidablePred (Chosen choice) :=
  fun _ => inferInstanceAs (Decidable (_ ∧ _))

/-- The policy and the manifest a selection names are the stored ones. -/
def checkSelectionBinding (selection : CheckpointSelection) (s : Scope) : Except Err Unit := do
  let policy ← orRaise s.policy
    (.invalidTransition "checkpoint selection requires a recovery policy")
  require (policy.policyDigest = selection.policyDigest ∧
      policy.environmentDigest = selection.environmentDigest)
    (.idempotencyConflict "checkpoint selection policy binding is stale")
  let manifest ← orRaise
    (workspaceCheckpointManifest selection.choice.checkpointManifestDigest s)
    (.invalidTransition "selected checkpoint is not in the durable catalog")
  require (Chosen selection.choice manifest)
    (.idempotencyConflict "selected checkpoint manifest binding is inconsistent")

/-- The selection digests of an operation. -/
def selectionDigests (record : OpRecord) : List Digest :=
  record.selections.map fun row => row.selection.selectionDigest

/-- `select_workspace_checkpoint`: persist one checkpoint choice before a restore begins. -/
def selectWorkspaceCheckpoint (selection : CheckpointSelection) (runtimeGeneration : Nat)
    (clock : Clock) (s : Scope) : Except Err Scope := do
  let attemptNo := selection.priorAttempt.attemptNo
  requireCurrentRuntime runtimeGeneration s
  require (s.row.state = .indeterminate)
    (.invalidTransition "checkpoint selection requires an indeterminate operation")
  require (s.row.inputDigest = selection.inputDigest)
    (.idempotencyConflict "checkpoint selection input digest is stale")
  checkSelectionFence selection s
  checkSelectionBinding selection s
  require (¬ s.control.any ControlRow.cancellationRequested)
    (.invalidTransition "cancellation prevents checkpoint selection")
  require (clock 0 < selection.deadlineUnixMs)
    (.invalidTransition "deadline prevents checkpoint selection")
  require (∀ row ∈ s.decisions, row.priorAttemptNo ≠ some attemptNo)
    (.invalidTransition "predecessor attempt already has a recovery decision")
  match fetchOne s.selections (·.priorAttemptNo = attemptNo) with
  | some existing => do
    require (existing.selection = selection)
      (.idempotencyConflict "predecessor attempt already selected a different checkpoint")
    return s
  | none => do
    require (s.Fresh selectionDigests selection.selectionDigest)
      (.integrityError "UNIQUE constraint failed: selection_digest")
    let row : SelectionRow := { priorAttemptNo := attemptNo, selection, restoredHandle := none }
    return insertEvent { s with selections := s.selections ++ [row] } .indeterminate
      .indeterminate s.row.recordRevision (clock 0) "checkpoint_selected" (some attemptNo)
      [("checkpoint_manifest_digest", .text selection.choice.checkpointManifestDigest),
        ("selection_digest", .text selection.selectionDigest)]

/-- The restored handle starts the generation after the selected checkpoint's. -/
def RestoredFrom (source restored : ProgrammableWorkspaceHandle) : Prop :=
  restored.workspace = source.workspace ∧
    restored.backendCapabilityDigest = source.backendCapabilityDigest ∧
    restored.generation = source.generation + 1 ∧ restored.revision = 0

instance (source : ProgrammableWorkspaceHandle) : DecidablePred (RestoredFrom source) :=
  fun _ => inferInstanceAs (Decidable (_ ∧ _))

/-- `mark_workspace_checkpoint_restored`: persist a verified restore before a successor. -/
def markWorkspaceCheckpointRestored (selection : CheckpointSelection)
    (restored : ProgrammableWorkspaceHandle) (runtimeGeneration : Nat) (clock : Clock)
    (s : Scope) : Except Err Scope := do
  let attemptNo := selection.priorAttempt.attemptNo
  require (RestoredFrom selection.choice.sourceHandle restored)
    (.idempotencyConflict "restored handle does not match checkpoint selection")
  requireCurrentRuntime runtimeGeneration s
  require (s.row.state = .indeterminate)
    (.invalidTransition "restore binding requires an indeterminate operation")
  let stored ← orRaise (fetchOne s.selections (·.priorAttemptNo = attemptNo))
    (.invalidTransition "checkpoint restore requires a persisted selection")
  require (stored.selection = selection)
    (.idempotencyConflict "checkpoint restore selection is inconsistent")
  match stored.restoredHandle with
  | some handle => do
    require (handle = restored)
      (.idempotencyConflict "checkpoint selection restored a different handle")
    return s
  | none => do
    let selections ← updateOne s.selections
      (fun row => row.priorAttemptNo = attemptNo ∧ row.restoredHandle = none)
      (fun row => { row with restoredHandle := some restored })
      (Err.staleAttemptFence "checkpoint selection changed during restore binding")
    return insertEvent { s with selections } .indeterminate .indeterminate
      s.row.recordRevision (clock 0) "checkpoint_restored" (some attemptNo)
      [("restored_generation", .int restored.generation),
        ("selection_digest", .text selection.selectionDigest)]

end Checkpoints

end Aar.Registry
