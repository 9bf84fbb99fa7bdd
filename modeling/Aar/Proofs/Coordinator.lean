import Aar.Proofs.Effects
import Aar.Workbench.Recovery

/-! What a coordinator transaction has read and written when it succeeds. -/

namespace Aar.Workbench

open Guarded Table CallerWork Registry

section Starting

variable {H : Hashing} {clock : Clock} {s s' : Scope}

/-- An admission repeats the stored job, or stores a new job in step with its open control. -/
theorem admitJob_ok {spec : RlmWorkbenchJobSpec} {context : AdmissionContext}
    (ran : admitJob H spec context s = .ok s') :
    s' = s ∨ s.job = none ∧ (openControl s).cancellationRequested = false ∧
      spec.seedCheckpoint = none ∧ ∃ deadline,
        deriveCumulativeDeadlineUnixMs s.row.createdAtUnixMs context.deadlineUnixMs
          spec.totalWallTimeMs = .ok deadline ∧
        s' = { s with
          control := some (openControl s)
          job := some (admittedJob H spec context (openControl s).controlRevision deadline) } := by
  simp only [admitJob, bind_ok, require_ok] at ran
  obtain ⟨_, seedless, deadline, due, ran⟩ := ran
  cases stored : s.job with
  | some job =>
    simp only [stored, bind_ok, pure_ok] at ran
    obtain ⟨_, -, rfl⟩ := ran
    exact .inl rfl
  | none =>
    simp only [stored, bind_ok, require_ok, pure_ok] at ran
    obtain ⟨_, uncancelled, rfl⟩ := ran
    exact .inr ⟨rfl, uncancelled, seedless, deadline, due, rfl⟩

theorem patchWhere_stored {ρ : Type} {row : Option ρ} {stored : ρ} {matching : ρ → Prop}
    [DecidablePred matching] {change : ρ → ρ} (read : row = some stored)
    (matched : matching stored) : patchWhere row matching change = some (change stored) := by
  simp [patchWhere, read, matched]

/-- Starting a preparation claims an accepted job, or changes nothing. -/
theorem prepareWorkspaceStart_ok {result : Scope × Option BoundWorkspace}
    (ran : prepareWorkspaceStart s = .ok result) :
    result.1 = s ∨ ∃ job, s.job = some job ∧ job.phase = .accepted ∧ job.workspaceId = none ∧
      result.1 = { s with
        job := some { job with
          phase := .preparingWorkspace, controlRevision := job.controlRevision + 1 }
        control := patchWhere s.control (·.controlRevision = job.controlRevision) fun row =>
          { row with controlRevision := job.controlRevision + 1 } } := by
  simp only [prepareWorkspaceStart, jobRow, bind_ok, orRaise_ok] at ran
  obtain ⟨job, stored, _, -, ran⟩ := ran
  cases bound : job.workspaceId with
  | some workspace =>
    simp only [bound, pure_ok] at ran
    exact .inl (by rw [← ran])
  | none =>
    simp only [bound, ite_ok, pure_ok, bind_ok, require_ok] at ran
    rcases ran with ⟨accepted, rfl⟩ | ⟨-, _, -, rfl⟩
    · refine .inr ⟨job, stored, accepted, bound, ?_⟩
      rw [patchWhere_stored stored ⟨accepted, rfl⟩]
    · exact .inl rfl

/-- Binding a workspace moves a preparing job, and the control that is still in step with it. -/
theorem prepareWorkspaceBind_ok {handle : ProgrammableWorkspaceHandle}
    (ran : prepareWorkspaceBind handle s = .ok s') :
    s' = s ∨ ∃ job, s.job = some job ∧ job.workspaceId = none ∧
      s' = { s with
        job := patchWhere s.job (PreparingAt job.controlRevision) fun row => { row with
          workspaceId := some handle.workspace, workspaceGeneration := handle.generation
          workspaceRevision := handle.revision, controlRevision := job.controlRevision + 1 }
        control := patchWhere s.control (·.controlRevision = job.controlRevision) fun row =>
          { row with controlRevision := job.controlRevision + 1 } } := by
  simp only [prepareWorkspaceBind, jobRow, bind_ok, orRaise_ok] at ran
  obtain ⟨job, stored, ran⟩ := ran
  cases bound : job.workspaceId with
  | some workspace =>
    simp only [bound, bind_ok, pure_ok] at ran
    obtain ⟨_, -, rfl⟩ := ran
    exact .inl rfl
  | none =>
    simp only [bound, pure_ok] at ran
    exact .inr ⟨job, stored, bound, ran.symm⟩

/-- Beginning to run moves a preparing job, and overwrites its control. -/
theorem beginRunning_ok {fence : AttemptFence} (ran : beginRunning fence clock s = .ok s') :
    s' = s ∨ ∃ job, s.job = some job ∧ job.phase = .preparingWorkspace ∧
      job.cancellationRequested = false ∧
      s' = overwriteControl (job.controlRevision + 1) { s with
        job := some { job with phase := .running, controlRevision := job.controlRevision + 1 } } := by
  simp only [beginRunning, jobRow, bind_ok, orRaise_ok, require_ok, ite_ok, patchOne_ok,
    pure_ok] at ran
  obtain ⟨_, -, job, stored, _, uncancelled, _, -, ⟨preparing, _, ⟨job', same, -, rfl⟩, rfl⟩ |
    ⟨-, _, -, rfl⟩⟩ := ran
  · cases stored.symm.trans same
    exact .inr ⟨job, stored, preparing, uncancelled, rfl⟩
  · exact .inl rfl

/-- A broker call and a staged artifact leave everything but their own tables alone. -/
theorem brokerage_effect {call : Scope → Except Err Scope}
    (among : (∃ sequence, call = openBrokerCall sequence) ∨
      (∃ sequence message, call = answerBrokerCall sequence message) ∨
      ∃ stageId cellExecutionId logicalName handle,
        call = stageArtifact stageId cellExecutionId logicalName handle)
    (ran : call s = .ok s') : ∃ brokerCalls stages, s' = { s with brokerCalls, stages } := by
  rcases among with ⟨sequence, rfl⟩ | ⟨sequence, message, rfl⟩ | ⟨stageId, cell, name, handle, rfl⟩
  · simp only [openBrokerCall, bind_ok, pure_ok] at ran
    obtain ⟨_, -, rfl⟩ := ran
    exact ⟨_, _, rfl⟩
  · simp only [answerBrokerCall, bind_ok, pure_ok] at ran
    obtain ⟨_, -, rfl⟩ := ran
    exact ⟨_, _, rfl⟩
  · simp only [stageArtifact, ite_ok, bind_ok, pure_ok] at ran
    obtain ⟨-, _, -, rfl⟩ | ⟨-, _, -, _, -, _, -, _, -, rfl⟩ := ran
    · exact ⟨_, _, rfl⟩
    · exact ⟨_, _, rfl⟩

end Starting

section Cells

variable {H : Hashing} {clock : Clock} {s s' : Scope}

/-- Starting a cell appends it running, at a checkpoint the catalog then holds. -/
theorem executeCellStart_ok {fence : AttemptFence} {start : CellStart}
    (ran : executeCellStart H fence start clock s = .ok s') :
    ∃ row entry authority, row.state = .running ∧ row.preCheckpointDigest = entry.manifestDigest ∧
      row.postCheckpointDigest = none ∧
      row.cellExecutionId ∉ s.cells.map CellRow.cellExecutionId ∧
      s' = { s with
        catalog := insertCatalog entry s.catalog, cells := s.cells ++ [row], authority } := by
  simp only [executeCellStart, bind_ok] at ran
  obtain ⟨_, -, _, inserted, upserted⟩ := ran
  obtain ⟨fresh, -, rfl⟩ := insertCell_ok inserted
  unfold upsertAuthority at upserted
  cases stored : s.authority with
  | none =>
    simp only [stored, Except.ok.injEq] at upserted
    refine ⟨_, _, _, ?_, ?_, ?_, ?_, upserted.symm⟩ <;> first | rfl | exact fresh
  | some prior =>
    simp only [stored, bind_ok, pure_ok] at upserted
    obtain ⟨_, -, rfl⟩ := upserted
    refine ⟨_, _, _, ?_, ?_, ?_, ?_, rfl⟩ <;> first | rfl | exact fresh

/-- Starting a prepared cell runs it. -/
theorem executeCellPrepared_ok {fence : AttemptFence} {cellExecutionId : String}
    (ran : executeCellPrepared H fence cellExecutionId clock s = .ok s') :
    s' = { s with
      cells := updateWhere s.cells
        (OwnedCell cellExecutionId .prepared fence.attempt.attemptId (attemptFenceDigest H fence))
        fun row => { row with state := .running } } := by
  simp only [executeCellPrepared, bind_ok, updateOne_ok, pure_ok] at ran
  obtain ⟨_, -, _, ⟨-, rfl⟩, rfl⟩ := ran
  rfl

/-- The cells after the matching ones were committed with an outcome. -/
abbrev committedCells (outcome : CellOutcome) (matching : CellRow → Prop)
    [DecidablePred matching] (cells : List CellRow) : List CellRow :=
  updateWhere cells matching fun row => { row with
    state := .committed, postCheckpointDigest := some outcome.checkpoint.contentDigest
    postWorkspaceRevision := some outcome.revisionAfter
    resultJson := some outcome.resultJson, resultDigest := some outcome.resultDigest }

/-- The job after a cell was committed with an outcome. -/
abbrev advancedJob (outcome : CellOutcome) (job : JobRow) : JobRow :=
  { job with
    workspaceRevision := outcome.revisionAfter
    checkpointDigest := some outcome.checkpoint.contentDigest
    controlRevision := job.controlRevision + 1 }

theorem advanceJob_running {outcome : CellOutcome} {job : JobRow} (stored : s.job = some job)
    (running : job.phase = .running) :
    advanceJob outcome (job.controlRevision + 1) s =
      overwriteControl (job.controlRevision + 1)
        { s with job := some (advancedJob outcome job) } := by
  unfold advanceJob
  rw [patchWhere_stored stored running]

/-- A direct commit moves the running job to the outcome's checkpoint, uncatalogued. -/
theorem executeCellCommit_ok {fence : AttemptFence} {outcome : CellOutcome}
    (ran : executeCellCommit fence outcome clock s = .ok s') :
    ∃ job cellManifests stages, s.job = some job ∧ job.phase = .running ∧
      s' = overwriteControl (job.controlRevision + 1) { s with
        cells := committedCells outcome (RunningCell outcome.cellExecutionId) s.cells
        job := some (advancedJob outcome job), cellManifests, stages } := by
  simp only [executeCellCommit, runningJob, commitCells, commitArtifacts, bind_ok, orRaise_ok,
    require_ok, updateOne_ok, pure_ok] at ran
  obtain ⟨_, -, _, ⟨job, stored, _, running, rfl⟩, _, ⟨_, -, _, ⟨-, rfl⟩, rfl⟩, _,
    ⟨_, -, _, -, rfl⟩, rfl⟩ := ran
  exact ⟨job, _, _, stored, running, advanceJob_running (by exact stored) running⟩

/-- A resumed commit moves the running job to the outcome's checkpoint, which it catalogues. -/
theorem resumeSuccessorCommit_ok {fence : AttemptFence} {resumed : ResumedCell}
    {outcome : CellOutcome} (ran : resumeSuccessorCommit H fence resumed outcome clock s = .ok s') :
    ∃ job authority brokerCalls cellManifests stages, s.job = some job ∧ job.phase = .running ∧
      s' = overwriteControl (job.controlRevision + 1) { s with
        catalog := insertCatalog (outcome.catalogRow s.operation) s.catalog
        cells := committedCells outcome (OwnedCell outcome.cellExecutionId .running
          resumed.successorAttemptId (attemptFenceDigest H fence)) s.cells
        job := some (advancedJob outcome job), authority, brokerCalls, cellManifests, stages } := by
  simp only [resumeSuccessorCommit, runningJob, answerBrokerCall, commitCells, commitArtifacts,
    bind_ok, orRaise_ok, require_ok, updateOne_ok, pure_ok] at ran
  obtain ⟨_, -, _, ⟨job, stored, _, running, rfl⟩, _, ⟨_, -, rfl⟩, _, ⟨_, -, _, ⟨-, rfl⟩, rfl⟩, _,
    ⟨_, -, _, -, rfl⟩, _, -, rfl⟩ := ran
  exact ⟨job, _, _, _, _, stored, running, advanceJob_running (by exact stored) running⟩

end Cells

section Ending

variable {H : Hashing} {clock : Clock} {s s' : Scope}

/-- Starting to finalize moves the running job, and overwrites its control. -/
theorem finalizeStart_ok {fence : AttemptFence} {artifacts : List String}
    {result : Scope × FinalizationPlan}
    (ran : finalizeStart fence artifacts clock s = .ok result) :
    ∃ job, s.job = some job ∧ job.phase = .running ∧
      result.1 = overwriteControl (job.controlRevision + 1) { s with
        job := some { job with
          phase := .finalizing, controlRevision := job.controlRevision + 1 } } ∧
      result.2.cancellationRevision = job.cancellationRevision := by
  simp only [finalizeStart, runningJob, bind_ok, orRaise_ok, require_ok, pure_ok] at ran
  obtain ⟨_, -, _, -, _, -, _, ⟨job, stored, _, running, rfl⟩, rfl⟩ := ran
  refine ⟨job, stored, running, ?_, rfl⟩
  rw [patchWhere_stored stored running]

/-- Committing a finalization stores its manifest with the job's success. -/
theorem finalizeCommit_ok {fence : AttemptFence} {plan : FinalizationPlan} {result : FinalResult}
    (ran : finalizeCommit H fence plan result clock s = .ok s') :
    ∃ job manifest, s.job = some job ∧ job.phase = .finalizing ∧
      job.cancellationRevision = plan.cancellationRevision ∧
      s' = overwriteControl (job.controlRevision + 1) { s with
        finalization := some manifest
        job := some { job with
          phase := .succeeded, controlRevision := job.controlRevision + 1
          resultJson := some result.resultJson, resultDigest := some result.resultDigest
          checkpointDigest := some result.checkpointDigest } } := by
  simp only [finalizeCommit, bind_ok, orRaise_ok, require_ok, pure_ok] at ran
  obtain ⟨_, -, job, stored, _, -, _, ⟨finalizing, revision, -⟩, _, -, rfl⟩ := ran
  rw [patchWhere_stored stored finalizing]
  exact ⟨job, _, stored, finalizing, revision, rfl⟩

/-- Parking a job moves it from an open phase, and overwrites its control. -/
theorem parkClaimed_ok {fence : AttemptFence} {failure : FailureEnvelope}
    (ran : parkClaimed fence failure clock s = .ok s') :
    ∃ job, s.job = some job ∧ job.phase ∉ closedPhases ∧
      s' = overwriteControl (job.controlRevision + 1) { s with
        job := some { job with
          phase := .parked, certainty := .indeterminate, failure := some failure
          controlRevision := job.controlRevision + 1 } } := by
  simp only [parkClaimed, jobRow, bind_ok, orRaise_ok, require_ok, patchOne_ok, pure_ok] at ran
  obtain ⟨_, -, job, stored, _, phase, _, ⟨job', same, -, rfl⟩, rfl⟩ := ran
  cases stored.symm.trans same
  exact ⟨job, stored, phase, rfl⟩

/-- Stopping a job ends it in step with its uncancelled control. -/
theorem stopJob_ok {texts : StopTexts} {origins : List JobPhase} {phase : JobPhase}
    {failure : FailureEnvelope} (ran : stopJob texts origins phase failure s = .ok s') :
    ∃ job control, s.job = some job ∧ job.phase ∈ origins ∧
      s.control = some control ∧ OpenControlAt job.controlRevision control ∧
      s' = { s with
        job := some { job with
          phase, controlRevision := job.controlRevision + 1, certainty := .certain
          failure := some failure }
        control := some { control with controlRevision := job.controlRevision + 1 } } := by
  simp only [stopJob, jobRow, bind_ok, orRaise_ok, require_ok, patchOne_ok, pure_ok] at ran
  obtain ⟨job, stored, _, origin, _, -, _, ⟨job', same, -, rfl⟩, _, ⟨control, kept, uncancelled, rfl⟩,
    rfl⟩ := ran
  cases stored.symm.trans same
  exact ⟨job, control, stored, origin, kept, uncancelled, rfl⟩

/-- A passed deadline leaves an ended job alone, or ends an open one with what it waits for. -/
theorem markDeadlineTerminal_ok (ran : markDeadlineTerminal clock s = .ok s') :
    s' = s ∨ ∃ job control failure, s.job = some job ∧ job.phase ∈ deadlinePhases ∧
      s.control = some control ∧ OpenControlAt job.controlRevision control ∧
      s' = { s with
        job := some { job with
          phase := .timedOut, controlRevision := job.controlRevision + 1, certainty := .certain
          failure := some failure }
        control := some { control with controlRevision := job.controlRevision + 1 }
        suspensions := updateWhere s.suspensions (·.state = .pending) fun row => { row with
          state := .parked, settledAtUnixMs := some (clock 0) }
        cells := updateWhere s.cells (·.state = .running) fun row => { row with
          state := .lostBeforeCommit } } := by
  simp only [markDeadlineTerminal, jobRow, bind_ok, orRaise_ok, ite_ok, pure_ok] at ran
  obtain ⟨job, stored, ⟨-, rfl⟩ | ⟨-, _, stopped, rfl⟩⟩ := ran
  · exact .inl rfl
  · obtain ⟨job, control, stored, origin, kept, uncancelled, rfl⟩ := stopJob_ok stopped
    exact .inr ⟨job, control, _, stored, origin, kept, uncancelled, rfl⟩

/-- A used-up budget leaves a failed job alone, or ends a running one. -/
theorem markModelCallBudgetTerminal_ok {fence : AttemptFence}
    (ran : markModelCallBudgetTerminal fence clock s = .ok s') :
    s' = s ∨ ∃ job control failure, s.job = some job ∧ job.phase = .running ∧
      s.control = some control ∧ OpenControlAt job.controlRevision control ∧
      s' = { s with
        job := some { job with
          phase := .failed, controlRevision := job.controlRevision + 1, certainty := .certain
          failure := some failure }
        control := some { control with controlRevision := job.controlRevision + 1 } } := by
  simp only [markModelCallBudgetTerminal, jobRow, bind_ok, orRaise_ok, ite_ok, pure_ok] at ran
  obtain ⟨_, -, job, stored, ⟨-, rfl⟩ | ⟨-, stopped⟩⟩ := ran
  · exact .inl rfl
  · obtain ⟨job, control, stored, origin, kept, uncancelled, rfl⟩ := stopJob_ok stopped
    exact .inr ⟨job, control, _, stored, List.mem_singleton.mp origin, kept, uncancelled, rfl⟩

/-- A recovered cell moves to the restored workspace with its authority and its job. -/
theorem recoverPreparedCell_ok {read : PreparedCellRecovery}
    {restored : ProgrammableWorkspaceHandle} {worker : WorkerIdentity}
    (ran : recoverPreparedCell read restored worker s = .ok s') :
    ∃ authority, s' = { s with
      cells := updateWhere s.cells (SameCell read.cell) fun row => { row with
        workspaceGeneration := restored.generation, preWorkspaceRevision := restored.revision }
      authority
      job := s.job.map fun row => { row with
        workspaceGeneration := restored.generation, workspaceRevision := restored.revision } } := by
  simp only [recoverPreparedCell, bind_ok, updateOne_ok, pure_ok] at ran
  obtain ⟨_, ⟨-, rfl⟩, authority, -, rfl⟩ := ran
  exact ⟨authority, rfl⟩

/-- A recovered planner moves its job to the restored workspace. -/
theorem recoverPlanner_ok {read : OutboxRow} {restored : ProgrammableWorkspaceHandle}
    (ran : recoverPlanner read restored s = .ok s') :
    ∃ job, s.job = some job ∧ s' = { s with
      job := some { job with
        workspaceGeneration := restored.generation, workspaceRevision := restored.revision } } := by
  simp only [recoverPlanner, bind_ok, patchOne_ok, pure_ok] at ran
  obtain ⟨_, -, _, ⟨job, stored, -, rfl⟩, rfl⟩ := ran
  exact ⟨job, stored, rfl⟩

end Ending

end Aar.Workbench
