import Aar.Registry.Recovery
import Aar.Workbench.Finalization

/-! How jobs whose supervisor vanished are recovered from their durable checkpoints. -/

namespace Aar.Workbench

open Guarded Table Registry

section Restore

/-- A prepared cell joined with the checkpoint and the authority its recovery reads. -/
structure PreparedCellRecovery where
  cell : CellRow
  manifest : WorkspaceCheckpointManifest
  authority : AuthorityRow

/-- A prepared planner successor joined with the job and the checkpoint its recovery reads. -/
structure PlannerRecovery where
  outbox : OutboxRow
  job : JobRow
  manifest : Option WorkspaceCheckpointManifest

/-- A transfer whose worker was lost, with the checkpoint before its cell. -/
structure WorkerLossRecovery where
  transfer : TransferRow
  cell : CellRow
  manifest : WorkspaceCheckpointManifest

/-- `recover_indeterminate`, write for a prepared cell: rebind it to the restored workspace. -/
def recoverPreparedCell (read : PreparedCellRecovery) (restored : ProgrammableWorkspaceHandle)
    (worker : WorkerIdentity) (s : Scope) : Except Err Scope := do
  let cells ← updateOne s.cells (SameCell read.cell)
    (fun row => { row with
      workspaceGeneration := restored.generation, preWorkspaceRevision := restored.revision })
    (Err.rlmWorkbenchConflict "prepared planner cell changed during restore")
  let authority ← patchOne s.authority (SameAuthority read.authority)
    (fun row => { row with
      authorityGeneration := row.authorityGeneration + 1
      workerOwnerGeneration := worker.ownerGeneration
      workerProcessIdentityDigest := worker.processIdentityDigest
      workspaceGeneration := restored.generation, workspaceRevision := restored.revision })
    (Err.rlmWorkbenchConflict "prepared planner authority changed during restore")
  return { s with
    cells, authority
    job := s.job.map fun row => { row with
      workspaceGeneration := restored.generation, workspaceRevision := restored.revision } }

/-- `recover_indeterminate`, write for a prepared planner: rebind the job to its workspace. -/
def recoverPlanner (read : OutboxRow) (restored : ProgrammableWorkspaceHandle) (s : Scope) :
    Except Err Scope := do
  let changed := Err.rlmWorkbenchConflict "prepared planner changed during workspace recovery"
  require (∃ row ∈ s.outbox, row.state = .prepared ∧ row.outboxDigest = read.outboxDigest ∧
      row.rebindGeneration = read.rebindGeneration ∧
      row.successorAttemptId = read.successorAttemptId ∧
      row.successorAttemptFence = read.successorAttemptFence) changed
  let job ← patchOne s.job (·.phase = .accepted)
    (fun row => { row with
      workspaceGeneration := restored.generation, workspaceRevision := restored.revision })
    changed
  return { s with job }

end Restore

end Aar.Workbench
