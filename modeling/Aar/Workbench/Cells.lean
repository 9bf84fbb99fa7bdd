import Aar.Registry.Rebind
import Aar.Registry.Consumption
import Aar.Workbench.Admission

/-! How the owner of a running job starts cells, commits them, and commits resumed ones. -/

namespace Aar.Workbench

open Guarded Table Registry

section Broker

/-- The first half of a broker frame: the call is stored before it is dispatched. -/
def openBrokerCall (sequence : Nat) (s : Scope) : Except Err Scope := do
  let brokerCalls ← insertUnique s.brokerCalls (·.sequence = sequence)
    { sequence, succeeded := false }
    (Err.integrityError "UNIQUE constraint failed: broker_calls")
  return { s with brokerCalls }

/-- Store the response of an open broker call. -/
def answerBrokerCall (sequence : Nat) (message : String) (s : Scope) : Except Err Scope := do
  let brokerCalls ← updateOne s.brokerCalls
    (fun row => row.sequence = sequence ∧ row.succeeded = false)
    (fun row => { row with succeeded := true }) (Err.rlmWorkbenchConflict message)
  return { s with brokerCalls }

/-- The stage identifiers of an operation. -/
def stageIds (record : OpRecord) : List String := record.stages.map StageRow.stageId

/-- `stage`: keep one artifact of a cell until the cell commits. -/
def stageArtifact (stageId cellExecutionId logicalName : String)
    (handle : ProgrammableWorkspaceHandle) (s : Scope) : Except Err Scope :=
  if ∃ row ∈ s.stages, row.stageId = stageId then do
    require (∃ row ∈ s.stages, row.stageId = stageId ∧
        row.cellExecutionId = cellExecutionId ∧ row.logicalName = logicalName)
      (.rlmWorkbenchConflict "stage id already binds different artifact bytes")
    return s
  else do
    require (∃ cell ∈ s.cells, cell.cellExecutionId = cellExecutionId)
      (.rlmWorkbenchConflict "artifact cell identity is unknown")
    require (s.job.any fun job => job.workspaceId = some handle.workspace ∧
        job.workspaceGeneration = handle.generation)
      (.rlmWorkbenchConflict "artifact workspace identity mismatch")
    require (s.Fresh stageIds stageId)
      (.integrityError "UNIQUE constraint failed: rlm_workbench_artifact_stages.stage_id")
    let stages ← insertUnique s.stages
      (fun row => row.cellExecutionId = cellExecutionId ∧ row.logicalName = logicalName)
      { stageId, cellExecutionId, logicalName, state := .staged }
      (Err.integrityError "UNIQUE constraint failed: rlm_workbench_artifact_stages")
    return { s with stages }

end Broker

section Start

/-- A new cell of a service-managed job, as its owner starts it. -/
structure CellStart where
  cellIndex : Nat
  directive : RlmDirective
  checkpoint : WorkspaceCheckpointManifest
  handle : ProgrammableWorkspaceHandle
  worker : WorkerIdentity

/-- The catalog row of the checkpoint a new cell starts from. -/
def CellStart.catalogRow (start : CellStart) (operation : String) : CatalogRow :=
  { manifestDigest := start.checkpoint.contentDigest, workspaceId := start.handle.workspace
    sourceGeneration := start.handle.generation, sourceRevision := start.handle.revision
    backendCapabilityDigest := start.handle.backendCapabilityDigest
    environmentDigest := start.checkpoint.environmentDigest
    creationOperationId := operation, manifest := start.checkpoint }

/-- The authority row under which the first attempt starts a cell. -/
def CellStart.authority (start : CellStart) (cellExecutionId attemptId : String)
    (digest : Digest) : AuthorityRow :=
  { attemptId, attemptFence := digest, authorityGeneration := 1
    workerOwnerGeneration := start.worker.ownerGeneration
    workerProcessIdentityDigest := start.worker.processIdentityDigest
    workspaceId := start.handle.workspace, workspaceGeneration := start.handle.generation
    workspaceRevision := start.handle.revision, cellExecutionId, rebindTokenDigest := none }

/-- Give a new cell to the attempt that already has the authority, or that is the first one. -/
def upsertAuthority (start : CellStart) (cellExecutionId attemptId : String) (digest : Digest)
    (s : Scope) : Except Err Scope :=
  let first := start.authority cellExecutionId attemptId digest
  match s.authority with
  | none => .ok { s with authority := some first }
  | some row => do
    require (row.attemptId = attemptId ∧ row.attemptFence = digest)
      (.rlmWorkbenchConflict "workbench attempt authority changed before cell start")
    -- The generation and the rebind token of the stored row are kept.
    return { s with authority := some { first with
      authorityGeneration := row.authorityGeneration
      rebindTokenDigest := row.rebindTokenDigest } }

/-- `_execute_cell`, start of an unprepared cell: catalog its checkpoint and run it. -/
def executeCellStart (H : Hashing) (fence : AttemptFence) (start : CellStart) (clock : Clock)
    (s : Scope) : Except Err Scope := do
  assertAttemptFence fence (clock 0) s
  let sourceDigest := H.directive start.directive
  let cellExecutionId := H.cellExecutionId s.operation start.cellIndex sourceDigest
  let digest := attemptFenceDigest H fence
  let catalog := insertCatalog (start.catalogRow s.operation) s.catalog
  let s ← insertCell
    { cellExecutionId, cellIndex := start.cellIndex, source := start.directive, sourceDigest
      preCheckpointDigest := start.checkpoint.contentDigest, postCheckpointDigest := none
      state := .running, attemptId := fence.attempt.attemptId, attemptFence := digest
      workspaceId := start.handle.workspace
      workspaceGeneration := start.handle.generation
      preWorkspaceRevision := start.handle.revision, postWorkspaceRevision := none
      resultJson := none, resultDigest := none } { s with catalog }
  upsertAuthority start cellExecutionId fence.attempt.attemptId digest s

/-- The row is a cell in one state that one attempt owns. -/
def OwnedCell (cellExecutionId : String) (state : CellState) (attemptId : String)
    (digest : Digest) (row : CellRow) : Prop :=
  row.cellExecutionId = cellExecutionId ∧ row.state = state ∧ row.attemptId = attemptId ∧
    row.attemptFence = digest

instance (cellExecutionId : String) (state : CellState) (attemptId : String) (digest : Digest) :
    DecidablePred (OwnedCell cellExecutionId state attemptId digest) :=
  fun _ => inferInstanceAs (Decidable (_ ∧ _))

/-- `_execute_cell`, start of a cell that a consumed directive prepared. -/
def executeCellPrepared (H : Hashing) (fence : AttemptFence) (cellExecutionId : String)
    (clock : Clock) (s : Scope) : Except Err Scope := do
  assertAttemptFence fence (clock 0) s
  let cells ← updateOne s.cells
    (OwnedCell cellExecutionId .prepared fence.attempt.attemptId (attemptFenceDigest H fence))
    (fun row => { row with state := .running })
    (Err.rlmWorkbenchConflict "prepared planner cell lost start authority")
  return { s with cells }

end Start

section Commit

/-- What the worker produced for one cell, and the checkpoint taken after it. -/
structure CellOutcome where
  cellExecutionId : String
  revisionAfter : Nat
  resultJson : String
  resultDigest : Digest
  checkpoint : WorkspaceCheckpointManifest
  manifestDigest : Digest
  stagedCount : Nat

/-- The row is a staged artifact of one cell. -/
def StagedBy (cellExecutionId : String) (row : StageRow) : Prop :=
  row.cellExecutionId = cellExecutionId ∧ row.state = .staged

instance (cellExecutionId : String) : DecidablePred (StagedBy cellExecutionId) :=
  fun _ => inferInstanceAs (Decidable (_ ∧ _))

/-- Commit the running cells that match, with the outcome's result and checkpoint. -/
def commitCells (outcome : CellOutcome) (matching : CellRow → Prop) [DecidablePred matching]
    (message : String) (s : Scope) : Except Err Scope := do
  require (∀ row ∈ s.cells, matching row → row.preWorkspaceRevision < outcome.revisionAfter)
    (.integrityError "CHECK constraint failed: rlm_workbench_cells")
  let cells ← updateOne s.cells matching
    (fun row => { row with
      state := .committed, postCheckpointDigest := some outcome.checkpoint.contentDigest
      postWorkspaceRevision := some outcome.revisionAfter
      resultJson := some outcome.resultJson, resultDigest := some outcome.resultDigest })
    (Err.rlmWorkbenchConflict message)
  return { s with cells }

/-- Store the manifest of a committed cell and commit the artifacts it staged. -/
def commitArtifacts (outcome : CellOutcome) (message : String) (s : Scope) :
    Except Err Scope := do
  let cellManifests ← insertUnique s.cellManifests
    (·.cellExecutionId = outcome.cellExecutionId)
    { cellExecutionId := outcome.cellExecutionId, manifestDigest := outcome.manifestDigest }
    (Err.integrityError "UNIQUE constraint failed: rlm_workbench_cell_manifests")
  require (s.stages.countP (fun row => decide (StagedBy outcome.cellExecutionId row)) =
      outcome.stagedCount) (.rlmWorkbenchConflict message)
  return { s with
    cellManifests
    stages := updateWhere s.stages (StagedBy outcome.cellExecutionId) fun row => { row with
      state := .committed } }

/-- The running job of an operation. -/
def runningJob (message : String) (s : Scope) : Except Err JobRow := do
  let job ← orRaise s.job (.rlmWorkbenchConflict message)
  require (job.phase = .running) (.rlmWorkbenchConflict message)
  return job

/-- Move the running job to the workspace revision and checkpoint after a cell. -/
def advanceJob (outcome : CellOutcome) (controlRevision : Nat) (s : Scope) : Scope :=
  let job := patchWhere s.job (·.phase = .running) fun row => { row with
    workspaceRevision := outcome.revisionAfter
    checkpointDigest := some outcome.checkpoint.contentDigest, controlRevision }
  overwriteControl controlRevision { s with job }

/-- The row is a running cell. -/
def RunningCell (cellExecutionId : String) (row : CellRow) : Prop :=
  row.cellExecutionId = cellExecutionId ∧ row.state = .running

instance (cellExecutionId : String) : DecidablePred (RunningCell cellExecutionId) :=
  fun _ => inferInstanceAs (Decidable (_ ∧ _))

/-- `_execute_cell`, commit: the cell and the job take the checkpoint after the cell. -/
def executeCellCommit (fence : AttemptFence) (outcome : CellOutcome) (clock : Clock)
    (s : Scope) : Except Err Scope := do
  assertAttemptFence fence (clock 0) s
  let job ← runningJob "workbench left running phase during cell commit" s
  let s ← commitCells outcome (RunningCell outcome.cellExecutionId)
    "workbench cell commit lost its CAS" s
  let s ← commitArtifacts outcome "cell artifact stages changed before commit" s
  return advanceJob outcome (job.controlRevision + 1) s

/-- The catalog row of the checkpoint after a resumed cell. -/
def CellOutcome.catalogRow (outcome : CellOutcome) (operation : String) : CatalogRow :=
  { manifestDigest := outcome.checkpoint.contentDigest
    workspaceId := outcome.checkpoint.sourceHandle.workspace
    sourceGeneration := outcome.checkpoint.sourceHandle.generation
    sourceRevision := outcome.checkpoint.sourceHandle.revision
    backendCapabilityDigest := outcome.checkpoint.sourceHandle.backendCapabilityDigest
    environmentDigest := outcome.checkpoint.environmentDigest
    creationOperationId := operation, manifest := outcome.checkpoint }

/-- The row is the authority that one rebind token gave to an attempt. -/
def ReboundAuthority (attemptId : String) (digest tokenDigest : Digest) (row : AuthorityRow) :
    Prop :=
  row.attemptId = attemptId ∧ row.attemptFence = digest ∧
    row.rebindTokenDigest = some tokenDigest

instance (attemptId : String) (digest tokenDigest : Digest) :
    DecidablePred (ReboundAuthority attemptId digest tokenDigest) :=
  fun _ => inferInstanceAs (Decidable (_ ∧ _))

/-- What a successor repeats about the cell it resumed. -/
structure ResumedCell where
  tokenDigest : Digest
  successorAttemptId : String
  ordinal : Nat

/-- `_resume_successor_cell`, commit: like a direct commit, with its checkpoint catalogued. -/
def resumeSuccessorCommit (H : Hashing) (fence : AttemptFence) (resumed : ResumedCell)
    (outcome : CellOutcome) (clock : Clock) (s : Scope) : Except Err Scope := do
  assertAttemptFence fence (clock 0) s
  let digest := attemptFenceDigest H fence
  let job ← runningJob "workbench left running phase during successor commit" s
  let s ← answerBrokerCall resumed.ordinal "successor broker receipt lost commit authority" s
  let catalog := insertCatalog (outcome.catalogRow s.operation) s.catalog
  let s ← commitCells outcome
    (OwnedCell outcome.cellExecutionId .running resumed.successorAttemptId digest)
    "successor cell lost commit authority" { s with catalog }
  let s ← commitArtifacts outcome "successor artifact stages changed before commit" s
  let authority ← patchOne s.authority
    (ReboundAuthority resumed.successorAttemptId digest resumed.tokenDigest)
    (fun row => { row with workspaceRevision := outcome.revisionAfter })
    (Err.rlmWorkbenchConflict "successor authority lost cell commit")
  return advanceJob outcome (job.controlRevision + 1) { s with authority }

end Commit

end Aar.Workbench
