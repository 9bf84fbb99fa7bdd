import Aar.Proofs.Calls

/-! What each transaction does to the job of an operation and to the control row beside it. -/

namespace Aar

open Guarded Table CallerWork Registry Workbench

section Steps

/-- The phase changes that are made on a job in step with an uncancelled control. -/
inductive Advance : JobPhase → JobPhase → Prop where
  | suspended : Advance .running .waitingExternal
  | corrected : Advance .accepted .waitingExternal
  | settled : Advance .waitingExternal .accepted
  | rebound : Advance .accepted .running
  | late {phase : JobPhase} (origin : phase ∈ deadlinePhases) : Advance phase .timedOut
  | spent : Advance .running .failed

/-- The phase changes that overwrite the control with the next revision of the job. -/
inductive Overwrite : JobPhase → JobPhase → Prop where
  | begun : Overwrite .preparingWorkspace .running
  | committed : Overwrite .running .running
  | finalizing : Overwrite .running .finalizing
  | succeeded : Overwrite .finalizing .succeeded
  | parked {phase : JobPhase} (origin : phase ∉ closedPhases) : Overwrite phase .parked

theorem Overwrite.of_running {phase : JobPhase} (running : phase = .running) :
    Overwrite phase phase := by
  rw [running]
  exact .committed

/-- The calls that overwrite the control row. -/
def OpCall.Overwrites : OpCall → Prop
  | .workbench (.beginRunning ..) | .workbench (.executeCellCommit ..)
  | .workbench (.resumeSuccessorCommit ..) | .workbench (.finalizeStart ..)
  | .workbench (.finalizeCommit ..) | .workbench (.parkClaimed ..) => True
  | _ => False

/-- What a transaction does to the job of an operation and to its control row. -/
inductive JobStep (H : Hashing) (call : OpCall) (s s' : Scope) : Prop where
  | still (job : s'.job = s.job) (control : s'.control = s.control)
  | requested {requestedBy : Digest} {reasonCode : String} {control : ControlRow}
      (called : call = .registry (.requestCancel requestedBy reasonCode))
      (first : ¬ s.control.any ControlRow.cancellationRequested)
      (revision : control.controlRevision = s.control.elim 1 fun row => row.controlRevision + 1)
      (requested : control.cancellationRequested = true) (job : s'.job = s.job)
      (control' : s'.control = some control)
  | admitted {spec : RlmWorkbenchJobSpec} {context : AdmissionContext} {deadline : Nat}
      (called : call = .workbench (.admitJob spec context))
      (seedless : spec.seedCheckpoint = none)
      (due : deriveCumulativeDeadlineUnixMs s.row.createdAtUnixMs context.deadlineUnixMs
        spec.totalWallTimeMs = .ok deadline)
      (absent : s.job = none) (uncancelled : (openControl s).cancellationRequested = false)
      (job : s'.job =
        some (admittedJob H spec context (openControl s).controlRevision deadline))
      (control : s'.control = some (openControl s))
  | advanced {job : JobRow} {control : ControlRow} {phase : JobPhase}
      {failure : Option FailureEnvelope} {certainty : OutcomeCertainty}
      (advance : Advance job.phase phase) (storedJob : s.job = some job)
      (storedControl : s.control = some control)
      (aligned : job.controlRevision = control.controlRevision)
      (uncancelled : control.cancellationRequested = false)
      (job' : s'.job = some { job with
        phase, controlRevision := job.controlRevision + 1, failure, certainty })
      (control' : s'.control = some { control with controlRevision := job.controlRevision + 1 })
  | ended {job : JobRow} {control : ControlRow} {state : OperationState}
      {failure : Option FailureEnvelope} {certainty : OutcomeCertainty}
      (terminal : state ∈ plannerTerminals) (storedJob : s.job = some job)
      (accepted : job.phase = .accepted) (storedControl : s.control = some control)
      (inStep : InStep job control)
      (job' : s'.job = some { job with
        phase := terminalPhase state, controlRevision := control.controlRevision + 1
        failure, certainty })
      (control' : s'.control = some { control with
        controlRevision := control.controlRevision + 1 })
  | directed {fence : AttemptFence} {token : PlannerToken} {outcome : PlannerOutcome}
      {job : JobRow} {control : ControlRow}
      (called : call = .registry (.consumePlannerSuccessor fence token outcome))
      (directive : outcome.directive.isSome) (storedJob : s.job = some job)
      (accepted : job.phase = .accepted) (storedControl : s.control = some control)
      (inStep : InStep job control) (uncancelled : control.cancellationRequested = false)
      (job' : s'.job = some { job with phase := .running })
      (control' : s'.control = some control)
  | overwritten {job : JobRow} {phase : JobPhase} {workspaceRevision : Nat}
      {checkpointDigest : Option Digest} {resultJson : Option String}
      {resultDigest : Option Digest} {failure : Option FailureEnvelope}
      {certainty : OutcomeCertainty} (called : call.Overwrites)
      (overwrite : Overwrite job.phase phase) (storedJob : s.job = some job)
      (job' : s'.job = some { job with
        phase, controlRevision := job.controlRevision + 1, workspaceRevision, checkpointDigest
        resultJson, resultDigest, failure, certainty })
      (control' : s'.control = s.control.map fun row =>
        { row with controlRevision := job.controlRevision + 1 })
  | preparing {job : JobRow} (called : call = .workbench .prepareWorkspaceStart)
      (storedJob : s.job = some job) (accepted : job.phase = .accepted)
      (unbound : job.workspaceId = none)
      (job' : s'.job = some { job with
        phase := .preparingWorkspace, controlRevision := job.controlRevision + 1 })
      (control' : s'.control = patchWhere s.control (·.controlRevision = job.controlRevision)
        fun row => { row with controlRevision := job.controlRevision + 1 })
  | bound {handle : ProgrammableWorkspaceHandle} {job : JobRow}
      (called : call = .workbench (.prepareWorkspaceBind handle))
      (storedJob : s.job = some job) (unbound : job.workspaceId = none)
      (job' : s'.job = patchWhere s.job (PreparingAt job.controlRevision) fun row => { row with
        workspaceId := some handle.workspace, workspaceGeneration := handle.generation
        workspaceRevision := handle.revision, controlRevision := job.controlRevision + 1 })
      (control' : s'.control = patchWhere s.control (·.controlRevision = job.controlRevision)
        fun row => { row with controlRevision := job.controlRevision + 1 })
  | lost {generation : Nat} {token : Digest} {restored : ProgrammableWorkspaceHandle}
      {job : JobRow} {cell : CellRow}
      (called : call = .registry (.markWorkbenchRebindWorkerLost generation token restored))
      (storedJob : s.job = some job) (resumable : job.phase = .accepted ∨ job.phase = .running)
      (member : cell ∈ s.cells)
      (job' : s'.job = some { job with
        phase := .running, workspaceGeneration := restored.generation
        workspaceRevision := restored.revision
        checkpointDigest := some cell.preCheckpointDigest })
      (control : s'.control = s.control)
  | cancelled {generation : Nat} {resultJson : Option String} {job : JobRow}
      {control : ControlRow} {failure : Option FailureEnvelope} {certainty : OutcomeCertainty}
      (called : call = .registry (.cancelQueuedDispatch generation resultJson))
      (cancellable : Cancellable s control job)
      (job' : s'.job = some { job with
        phase := .cancelled, controlRevision := control.controlRevision
        cancellationRevision := job.cancellationRevision + 1, cancellationRequested := true
        failure, certainty })
      (control' : s'.control = s.control)
  | restored {job : JobRow} {workspaceGeneration workspaceRevision : Nat}
      (storedJob : s.job = some job)
      (job' : s'.job = some { job with workspaceGeneration, workspaceRevision })
      (control : s'.control = s.control)

end Steps

section Calls

variable {H : Hashing} {clock : Clock} {s s' : Scope}

/-- A consumption ends the job, sends it back to wait, or lets it run. -/
theorem consumePlannerSuccessor_jobs {fence : AttemptFence} {token : PlannerToken}
    {outcome : PlannerOutcome}
    (ran : consumePlannerSuccessor H fence token outcome clock s = .ok s') :
    JobStep H (.registry (.consumePlannerSuccessor fence token outcome)) s s' := by
  obtain ⟨read, consumes, projected⟩ := consumePlannerSuccessor_cases ran
  have storedJob := consumes.job
  have storedControl := consumes.control
  rcases projected with ⟨state, terminal, _, _, ran⟩ | ⟨_, _, -, ran⟩ |
    ⟨uncancelled, directive, _, _, asked, ran⟩
  · obtain ⟨-, job, control, _, _, _, _, _, _, _, _, _, sameJob, here, sameControl, -, rfl⟩ :=
      projectPlannerTerminal_ok ran
    cases storedJob.symm.trans sameJob
    cases storedControl.symm.trans sameControl
    exact .ended terminal storedJob here.1 storedControl consumes.inStep rfl rfl
  · obtain ⟨-, _, job, control, _, _, _, _, _, _, _, -, sameJob, here, sameControl, there, rfl⟩ :=
      projectCorrection_ok ran
    cases storedJob.symm.trans sameJob
    cases storedControl.symm.trans sameControl
    -- An uncancelled control is in step only at the job's own revision.
    have aligned : read.job.controlRevision = read.control.controlRevision := by
      rcases consumes.inStep with same | ⟨requested, -⟩
      · exact same
      · rw [there.2] at requested
        cases requested
    have sentBack : Advance read.job.phase .waitingExternal := by
      rw [here.1]
      exact .corrected
    rw [← aligned]
    exact .advanced sentBack storedJob storedControl aligned there.2 rfl rfl
  · obtain ⟨_, _, job, _, _, _, -, sameJob, here, -, rfl⟩ := projectDirective_ok ran
    cases storedJob.symm.trans sameJob
    exact .directed rfl (by rw [asked]; rfl) storedJob here.1 storedControl consumes.inStep
      uncancelled rfl storedControl

/-- A registry transaction makes one step of the job. -/
theorem RegistryCall.jobs {call : RegistryCall} (ran : call.run H clock s = .ok s') :
    JobStep H (.registry call) s s' := by
  by_cases moves : call.MovesJob
  swap
  · obtain ⟨_, _, _, _, _, _, _, _, _, _, _, _, _, _, -, rfl⟩ := RegistryCall.frame ran moves
    exact .still rfl rfl
  cases call <;> simp only [RegistryCall.MovesJob] at moves <;>
    simp only [RegistryCall.run, map_ok] at ran
  case requestCancel =>
    rcases requestCancel_ok ran with ⟨rfl, -⟩ | ⟨control, _, _, first, revision, requested, rfl⟩
    · exact .still rfl rfl
    · exact .requested rfl first revision requested rfl rfl
  case suspendPlannerAttempt =>
    obtain ⟨-, _, _, _, _, _, _, _, _, _, _, suspends, rfl⟩ := suspendPlannerAttempt_ok ran
    exact .advanced (suspends.phase ▸ .suspended) suspends.storedJob suspends.storedControl
      suspends.inStep suspends.uncancelled rfl rfl
  case suspendWorkbenchAttempt =>
    obtain ⟨-, _, _, _, _, _, _, _, _, _, _, suspends, rfl⟩ := suspendWorkbenchAttempt_ok ran
    exact .advanced (suspends.phase ▸ .suspended) suspends.storedJob suspends.storedControl
      suspends.inStep suspends.uncancelled rfl rfl
  case consumePlannerSuccessor => exact consumePlannerSuccessor_jobs ran
  case commitWorkbenchRebind =>
    obtain ⟨result, ran, rfl⟩ := ran
    obtain ⟨-, read, found, ⟨-, same⟩ | commits⟩ := commitWorkbenchRebind_cases ran
    · rw [same]
      exact .still rfl rfl
    · obtain ⟨-, storedJob, storedControl⟩ := rebindRow_some found
      obtain ⟨-, -, accepted, -, ⟨-, -, jobAt, controlAt, -, uncancelled, -⟩, -⟩ :=
        commits.committable
      obtain ⟨_, _, _, _, -, same⟩ := commits.writes
      rw [same, ← jobAt]
      exact .advanced (accepted ▸ .rebound) storedJob storedControl (jobAt.trans controlAt.symm)
        uncancelled rfl rfl
  case acknowledgeWorkbenchRebind =>
    obtain ⟨_, _, _, -, rfl⟩ := acknowledgeWorkbenchRebind_effect ran
    exact .still rfl rfl
  case markWorkbenchRebindWorkerLost =>
    obtain ⟨-, rfl | ⟨_, _, _, _, _, _, _, storedJob, resumable, member, -, -, -, rfl⟩⟩ :=
      markWorkbenchRebindWorkerLost_ok ran
    · exact .still rfl rfl
    · exact .lost rfl storedJob resumable member rfl rfl
  case cancelQueuedDispatch =>
    obtain ⟨result, ran, rfl⟩ := ran
    rcases cancelQueuedDispatch_ok ran with same |
      ⟨-, _, _, _, _, -, -, ⟨_, _, _, _, cancellable, same⟩ | ⟨-, same⟩⟩ <;> rw [same]
    · exact .still rfl rfl
    · exact .cancelled rfl cancellable rfl rfl
    · exact .still rfl rfl

theorem TicketCall.jobs {call : TicketCall} (ran : call.run H clock s = .ok s') :
    JobStep H (.ticket call) s s' := by
  cases TicketCall.written ran with
  | aside => exact .still rfl rfl
  | returned _ _ waits =>
    exact .advanced (waits.waiting ▸ .settled) waits.storedJob waits.storedControl waits.inStep
      waits.uncancelled rfl rfl

/-- A coordinator transaction makes one step of the job. -/
theorem WorkbenchCall.jobs {call : WorkbenchCall} (ran : call.run H clock s = .ok s') :
    JobStep H (.workbench call) s s' := by
  cases call <;> simp only [WorkbenchCall.run, map_ok] at ran
  case admitJob =>
    rcases admitJob_ok ran with rfl | ⟨absent, uncancelled, seedless, _, due, rfl⟩
    · exact .still rfl rfl
    · exact .admitted rfl seedless due absent uncancelled rfl rfl
  case prepareWorkspaceStart =>
    obtain ⟨result, ran, rfl⟩ := ran
    rcases prepareWorkspaceStart_ok ran with same | ⟨_, stored, accepted, unbound, same⟩ <;> rw [same]
    · exact .still rfl rfl
    · exact .preparing rfl stored accepted unbound rfl rfl
  case prepareWorkspaceBind =>
    rcases prepareWorkspaceBind_ok ran with rfl | ⟨_, stored, unbound, rfl⟩
    · exact .still rfl rfl
    · exact .bound rfl stored unbound rfl rfl
  case beginRunning =>
    rcases beginRunning_ok ran with rfl | ⟨_, stored, phase, -, rfl⟩
    · exact .still rfl rfl
    · exact .overwritten trivial (phase ▸ .begun) stored rfl rfl
  case openBrokerCall =>
    obtain ⟨_, _, rfl⟩ := brokerage_effect (.inl ⟨_, rfl⟩) ran
    exact .still rfl rfl
  case answerBrokerCall =>
    obtain ⟨_, _, rfl⟩ := brokerage_effect (.inr (.inl ⟨_, _, rfl⟩)) ran
    exact .still rfl rfl
  case stageArtifact =>
    obtain ⟨_, _, rfl⟩ := brokerage_effect (.inr (.inr ⟨_, _, _, _, rfl⟩)) ran
    exact .still rfl rfl
  case executeCellStart =>
    obtain ⟨_, _, _, -, -, -, -, rfl⟩ := executeCellStart_ok ran
    exact .still rfl rfl
  case executeCellPrepared =>
    obtain rfl := executeCellPrepared_ok ran
    exact .still rfl rfl
  case executeCellCommit =>
    obtain ⟨_, _, _, stored, running, rfl⟩ := executeCellCommit_ok ran
    exact .overwritten trivial (.of_running running) stored rfl rfl
  case resumeSuccessorCommit =>
    obtain ⟨_, _, _, _, _, stored, running, rfl⟩ := resumeSuccessorCommit_ok ran
    exact .overwritten trivial (.of_running running) stored rfl rfl
  case finalizeStart =>
    obtain ⟨result, ran, rfl⟩ := ran
    obtain ⟨_, stored, running, same, -⟩ := finalizeStart_ok ran
    rw [same]
    exact .overwritten trivial (running ▸ .finalizing) stored rfl rfl
  case finalizeCommit =>
    obtain ⟨_, _, stored, finalizing, -, rfl⟩ := finalizeCommit_ok ran
    exact .overwritten trivial (finalizing ▸ .succeeded) stored rfl rfl
  case parkClaimed =>
    obtain ⟨_, stored, phase, rfl⟩ := parkClaimed_ok ran
    exact .overwritten trivial (.parked phase) stored rfl rfl
  case markDeadlineTerminal =>
    rcases markDeadlineTerminal_ok ran with rfl | ⟨_, _, _, stored, origin, kept, control, rfl⟩
    · exact .still rfl rfl
    · exact .advanced (.late origin) stored kept control.1.symm control.2 rfl rfl
  case markModelCallBudgetTerminal =>
    rcases markModelCallBudgetTerminal_ok ran with rfl | ⟨_, _, _, stored, running, kept, control, rfl⟩
    · exact .still rfl rfl
    · exact .advanced (running ▸ .spent) stored kept control.1.symm control.2 rfl rfl
  case recoverPreparedCell =>
    obtain ⟨_, rfl⟩ := recoverPreparedCell_ok ran
    cases stored : s.job with
    | none => exact .still (by simp only [stored, Option.map_none]) rfl
    | some job => exact .restored stored (by simp only [Option.map_some]; rfl) rfl
  case recoverPlanner =>
    obtain ⟨_, stored, rfl⟩ := recoverPlanner_ok ran
    exact .restored stored rfl rfl

theorem OpCall.jobs {call : OpCall} (ran : call.run H clock s = .ok s') : JobStep H call s s' := by
  cases call with
  | registry call => exact RegistryCall.jobs ran
  | ticket call => exact TicketCall.jobs ran
  | workbench call => exact WorkbenchCall.jobs ran

end Calls

end Aar
