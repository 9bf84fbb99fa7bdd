import Aar.Proofs.Claims
import Aar.Proofs.Coordinator

/-! Which tables the calls of one family may change, whichever call of the family it is. -/

namespace Aar

open Guarded Table

section Families

variable {H : Hashing} {clock : Clock} {s s' : Scope}

theorem mem_insertCatalog {row entry : CatalogRow} {catalog : List CatalogRow}
    (member : row ∈ catalog) : row ∈ Registry.insertCatalog entry catalog := by
  unfold Registry.insertCatalog
  split
  · exact member
  · exact List.mem_append_left _ member

/-- A ticket transaction writes its ticket, evidence, and possibly the end of a wait. -/
theorem TicketCall.written {call : TicketCall} (ran : call.run H clock s = .ok s') :
    CallerWork.Written H s s' := by
  cases call <;> simp only [TicketCall.run, map_ok] at ran <;> obtain ⟨result, ran, rfl⟩ := ran
  case create => exact CallerWork.createTicket_written ran
  case claim => exact CallerWork.claim_written ran
  case reclaimExpired => exact CallerWork.reclaimExpired_written ran
  case markSendStarted => exact CallerWork.markSendStarted_written ran
  case cancelBeforeSend => exact CallerWork.cancelBeforeSend_written ran
  case requestCancel => exact CallerWork.requestTicketCancel_written ran
  case markOutcomeUnknown => exact CallerWork.markOutcomeUnknown_written ran
  case commit => exact CallerWork.commit_written ran
  case reconcile => exact CallerWork.reconcile_written ran
  case appendCandidateReceipt => exact CallerWork.appendCandidateReceipt_written ran
  case appendModelCandidateReceipt => exact CallerWork.appendModelCandidateReceipt_written ran
  case settleCandidate => exact CallerWork.settleCandidate_written ran

theorem TicketCall.catalog {call : TicketCall} (ran : call.run H clock s = .ok s') :
    s'.catalog = s.catalog := by
  cases TicketCall.written ran <;> rfl

/-- The registry transactions that move a job, its control, its cells or its settlements. -/
def RegistryCall.MovesJob : RegistryCall → Prop
  | requestCancel .. | suspendPlannerAttempt .. | suspendWorkbenchAttempt ..
  | consumePlannerSuccessor .. | commitWorkbenchRebind .. | acknowledgeWorkbenchRebind ..
  | markWorkbenchRebindWorkerLost .. | cancelQueuedDispatch .. => True
  | _ => False

/-- Every other registry transaction leaves the job and what belongs to it alone. -/
theorem RegistryCall.frame {call : RegistryCall} (ran : call.run H clock s = .ok s')
    (still : ¬ call.MovesJob) :
    ∃ row attempts leases dispatch events checkpoints policy decisions rlmBoundaries
        workspaceBoundaries selections authority lastSequence catalog,
      (catalog = s.catalog ∨ ∃ entry, catalog = Registry.insertCatalog entry s.catalog) ∧
      s' = { s with
        row, attempts, leases, dispatch, events, checkpoints, policy, decisions, rlmBoundaries
        workspaceBoundaries, selections, authority, lastSequence, catalog } := by
  cases call <;> simp only [RegistryCall.run, map_ok] at ran <;>
    simp only [RegistryCall.MovesJob, not_true_eq_false, not_false_eq_true] at still
  case bindRecoveryPolicy =>
    obtain ⟨_, _, _, rfl⟩ := Registry.bindRecoveryPolicy_effect ran
    exact ⟨_, _, _, _, _, _, _, _, _, _, _, _, _, _, .inl rfl, rfl⟩
  case begin | succeed | fail | cancel | timeOut | markIndeterminate =>
    obtain ⟨-, -, _, _, rfl⟩ := Registry.transition_ok ran
    exact ⟨_, _, _, _, _, _, _, _, _, _, _, _, _, _, .inl rfl, rfl⟩
  case requestDispatch =>
    rcases Registry.requestDispatch_ok ran with rfl | ⟨-, _, _, _, -, -, rfl⟩ <;>
      exact ⟨_, _, _, _, _, _, _, _, _, _, _, _, _, _, .inl rfl, rfl⟩
  case heartbeat =>
    obtain ⟨-, rfl⟩ := Registry.heartbeat_ok ran
    exact ⟨_, _, _, _, _, _, _, _, _, _, _, _, _, _, .inl rfl, rfl⟩
  case transitionClaimed | parkAttempt =>
    obtain ⟨-, -, -, _, _, _, _, _, -, -, rfl⟩ := Registry.transitionClaimed_ok ran
    exact ⟨_, _, _, _, _, _, _, _, _, _, _, _, _, _, .inl rfl, rfl⟩
  case bindCheckpoint =>
    obtain ⟨-, rfl | ⟨_, _, _, rfl⟩⟩ := Registry.bindCheckpoint_ok ran <;>
      exact ⟨_, _, _, _, _, _, _, _, _, _, _, _, _, _, .inl rfl, rfl⟩
  case finishAttempt =>
    rcases Registry.finishAttempt_ok ran with rfl | ⟨_, _, _, -, -, -, -, rfl⟩ <;>
      exact ⟨_, _, _, _, _, _, _, _, _, _, _, _, _, _, .inl rfl, rfl⟩
  case bindWorkbenchRecoveryAuthority =>
    obtain ⟨_, _, _, rfl⟩ := Registry.bindWorkbenchRecoveryAuthority_effect ran
    exact ⟨_, _, _, _, _, _, _, _, _, _, _, _, _, _, .inl rfl, rfl⟩
  case requeueIndeterminate =>
    obtain ⟨-, _, _, _, _, _, _, _, -, -, rfl⟩ := Registry.requeueIndeterminate_ok ran
    exact ⟨_, _, _, _, _, _, _, _, _, _, _, _, _, _, .inl rfl, rfl⟩
  case recoverTerminalFromReceipt =>
    obtain ⟨-, -, _, _, _, _, _, _, _, -, -, rfl⟩ := Registry.recoverTerminalFromReceipt_ok ran
    exact ⟨_, _, _, _, _, _, _, _, _, _, _, _, _, _, .inl rfl, rfl⟩
  case succeedWorkspaceCheckpoint =>
    obtain ⟨-, _, _, _, -, rfl⟩ := Registry.succeedWorkspaceCheckpoint_ok ran
    exact ⟨_, _, _, _, _, _, _, _, _, _, _, _, _, _, .inr ⟨_, rfl⟩, rfl⟩
  case recordWorkspaceCheckpoint =>
    obtain rfl := Registry.recordWorkspaceCheckpoint_effect ran
    exact ⟨_, _, _, _, _, _, _, _, _, _, _, _, _, _, .inr ⟨_, rfl⟩, rfl⟩
  case selectWorkspaceCheckpoint =>
    obtain ⟨_, _, _, rfl⟩ := Registry.selectWorkspaceCheckpoint_effect ran
    exact ⟨_, _, _, _, _, _, _, _, _, _, _, _, _, _, .inl rfl, rfl⟩
  case markWorkspaceCheckpointRestored =>
    obtain ⟨_, _, _, rfl⟩ := Registry.markWorkspaceCheckpointRestored_effect ran
    exact ⟨_, _, _, _, _, _, _, _, _, _, _, _, _, _, .inl rfl, rfl⟩

/-- The ticket documents a call asks to be opened. -/
def OpCall.asks : OpCall → Option CallerWorkTicket
  | .registry (.suspendPlannerAttempt _ waitsFor) => some waitsFor
  | .registry (.suspendWorkbenchAttempt _ _ waitsFor) => some waitsFor
  | .registry (.consumePlannerSuccessor _ _ outcome) => outcome.correctionTicket
  | _ => none

/-- The four tables that a ticket move and its projection leave alone. -/
structure CallerWork.SameMemory (s s' : Scope) : Prop where
  operation : s'.operation = s.operation
  commands : s'.commands = s.commands
  candidates : s'.candidates = s.candidates
  executions : s'.modelExecutions = s.modelExecutions
  route : s'.routeBinding = s.routeBinding

/-- A cancellation that is refused changes nothing. -/
theorem Registry.cancelQueuedDispatch_refused {generation : Nat} {resultJson : Option String}
    {result : Scope × Bool}
    (ran : Registry.cancelQueuedDispatch generation resultJson clock s = .ok result)
    (refused : result.2 = false) : result.1 = s := by
  simp only [cancelQueuedDispatch, bind_ok, ite_ok, pure_ok, Except.ok.injEq] at ran
  obtain ⟨_, -, ⟨-, rfl⟩ | ⟨-, _, -, rfl⟩⟩ := ran
  · rfl
  · cases refused

/-- What a registry transaction writes to the tickets and the suspensions of an operation: nothing, the
ticket it asks for with its suspension, or the end of the pending suspensions. -/
inductive RegistryCall.Waits (clock : Clock) (call : RegistryCall) (s : Scope) :
    List TicketRow → List SuspensionRow → Prop where
  | still : Waits clock call s s.tickets s.suspensions
  | opened {ticket : CallerWorkTicket} {tickets : List TicketRow} {suspensions : List SuspensionRow}
      {outbox : List OutboxRow} (asks : OpCall.asks (.registry call) = some ticket)
      (opens : Registry.Opens ticket { s with outbox } suspensions tickets) :
      Waits clock call s tickets suspensions
  | stopped {generation : Nat} {resultJson : Option String} {after : Scope}
      {change : SuspensionRow → SuspensionRow}
      (cancels : call = .cancelQueuedDispatch generation resultJson)
      (ran : Registry.cancelQueuedDispatch generation resultJson clock s = .ok (after, true))
      (kept : ∀ row, (change row).suspensionRevision = row.suspensionRevision) :
      Waits clock call s s.tickets (updateWhere s.suspensions (·.state = .pending) change)

/-- What a registry transaction does beside the job: what its caller waits for, an addition to the
catalog, and nothing to the memory of caller work. -/
structure RegistryCall.Beside (clock : Clock) (call : RegistryCall) (s s' : Scope) : Prop where
  waits : call.Waits clock s s'.tickets s'.suspensions
  catalog : s'.catalog = s.catalog ∨ ∃ entry, s'.catalog = Registry.insertCatalog entry s.catalog
  memory : CallerWork.SameMemory s s'

/-- Every registry transaction does no more than that beside the job. -/
theorem RegistryCall.beside {call : RegistryCall} (ran : call.run H clock s = .ok s') :
    call.Beside clock s s' := by
  have untouched : ∀ {r : Scope}, CallerWork.SameMemory s r → r.tickets = s.tickets →
      r.suspensions = s.suspensions → r.catalog = s.catalog → call.Beside clock s r := by
    intro r same tickets suspensions catalog
    refine ⟨?_, .inl catalog, same⟩
    rw [tickets, suspensions]
    exact .still
  by_cases moves : call.MovesJob
  swap
  · obtain ⟨_, _, _, _, _, _, _, _, _, _, _, _, _, _, grown, rfl⟩ := RegistryCall.frame ran moves
    exact ⟨.still, grown, rfl, rfl, rfl, rfl, rfl⟩
  cases call <;> simp only [RegistryCall.MovesJob] at moves <;>
    simp only [RegistryCall.run, map_ok] at ran
  case requestCancel =>
    rcases Registry.requestCancel_ok ran with ⟨rfl, -⟩ | ⟨_, _, _, -, -, -, rfl⟩ <;>
      exact untouched ⟨rfl, rfl, rfl, rfl, rfl⟩ rfl rfl rfl
  case suspendPlannerAttempt =>
    obtain ⟨-, _, _, _, _, _, _, _, _, _, _, suspends, rfl⟩ := Registry.suspendPlannerAttempt_ok ran
    exact ⟨.opened rfl suspends.opens, .inl rfl, rfl, rfl, rfl, rfl, rfl⟩
  case suspendWorkbenchAttempt =>
    obtain ⟨-, _, _, _, _, _, _, _, _, _, _, suspends, rfl⟩ :=
      Registry.suspendWorkbenchAttempt_ok ran
    exact ⟨.opened rfl suspends.opens, .inl rfl, rfl, rfl, rfl, rfl, rfl⟩
  case consumePlannerSuccessor =>
    obtain ⟨read, -, ⟨state, -, _, _, ran⟩ | ⟨_, _, known, ran⟩ | ⟨-, _, _, _, -, ran⟩⟩ :=
      Registry.consumePlannerSuccessor_cases ran
    · obtain ⟨-, _, _, _, _, _, _, _, _, _, _, _, -, -, -, -, rfl⟩ :=
        Registry.projectPlannerTerminal_ok ran
      exact untouched ⟨rfl, rfl, rfl, rfl, rfl⟩ rfl rfl rfl
    · obtain ⟨-, _, _, _, _, _, _, _, _, _, _, opens, -, -, -, -, rfl⟩ :=
        Registry.projectCorrection_ok ran
      exact ⟨.opened known opens, .inl rfl, rfl, rfl, rfl, rfl, rfl⟩
    · obtain ⟨_, _, _, _, _, _, added, -, -, -, rfl⟩ := Registry.projectDirective_ok ran
      cases added with
      | none => exact untouched ⟨rfl, rfl, rfl, rfl, rfl⟩ rfl rfl rfl
      | prepared => exact ⟨.still, .inr ⟨_, rfl⟩, rfl, rfl, rfl, rfl, rfl⟩
  case commitWorkbenchRebind =>
    obtain ⟨result, ran, rfl⟩ := ran
    obtain ⟨_, _, _, _, _, _, _, _, same⟩ := Registry.commitWorkbenchRebind_effect ran
    rw [same]
    exact untouched ⟨rfl, rfl, rfl, rfl, rfl⟩ rfl rfl rfl
  case acknowledgeWorkbenchRebind =>
    obtain ⟨_, _, _, -, rfl⟩ := Registry.acknowledgeWorkbenchRebind_effect ran
    exact untouched ⟨rfl, rfl, rfl, rfl, rfl⟩ rfl rfl rfl
  case markWorkbenchRebindWorkerLost =>
    obtain ⟨_, _, _, _, _, _, rfl⟩ := Registry.markWorkbenchRebindWorkerLost_effect ran
    exact untouched ⟨rfl, rfl, rfl, rfl, rfl⟩ rfl rfl rfl
  case cancelQueuedDispatch generation resultJson =>
    obtain ⟨⟨after, cancelled⟩, ran, rfl⟩ := ran
    rcases Registry.cancelQueuedDispatch_ok ran with same |
      ⟨-, _, _, _, _, -, -, ⟨_, _, _, _, -, same⟩ | ⟨-, same⟩⟩
    · rw [same]
      exact untouched ⟨rfl, rfl, rfl, rfl, rfl⟩ rfl rfl rfl
    · cases cancelled with
      | false =>
        rw [Registry.cancelQueuedDispatch_refused ran rfl]
        exact untouched ⟨rfl, rfl, rfl, rfl, rfl⟩ rfl rfl rfl
      | true =>
        rw [same]
        exact ⟨.stopped rfl ran fun _ => rfl, .inl rfl, rfl, rfl, rfl, rfl, rfl⟩
    · rw [same]
      exact untouched ⟨rfl, rfl, rfl, rfl, rfl⟩ rfl rfl rfl

/-- A coordinator transaction writes the job, its control, its cells and what belongs to them. -/
theorem WorkbenchCall.effect {call : WorkbenchCall} (ran : call.run H clock s = .ok s') :
    ∃ job control stages suspensions cells cellManifests authority catalog brokerCalls
        finalization,
      (catalog = s.catalog ∨ ∃ entry, catalog = Registry.insertCatalog entry s.catalog) ∧
      (suspensions = s.suspensions ∨ call = .markDeadlineTerminal) ∧
      s' = { s with
        job, control, stages, suspensions, cells, cellManifests, authority, catalog, brokerCalls
        finalization } := by
  cases call <;> simp only [WorkbenchCall.run, map_ok] at ran
  case admitJob =>
    rcases Workbench.admitJob_ok ran with rfl | ⟨-, -, -, _, -, rfl⟩ <;>
      exact ⟨_, _, _, _, _, _, _, _, _, _, .inl rfl, .inl rfl, rfl⟩
  case prepareWorkspaceStart =>
    obtain ⟨result, ran, rfl⟩ := ran
    rcases Workbench.prepareWorkspaceStart_ok ran with same | ⟨_, -, -, -, same⟩ <;> rw [same] <;>
      exact ⟨_, _, _, _, _, _, _, _, _, _, .inl rfl, .inl rfl, rfl⟩
  case prepareWorkspaceBind =>
    rcases Workbench.prepareWorkspaceBind_ok ran with rfl | ⟨_, -, -, rfl⟩ <;>
      exact ⟨_, _, _, _, _, _, _, _, _, _, .inl rfl, .inl rfl, rfl⟩
  case beginRunning =>
    rcases Workbench.beginRunning_ok ran with rfl | ⟨_, -, -, -, rfl⟩ <;>
      exact ⟨_, _, _, _, _, _, _, _, _, _, .inl rfl, .inl rfl, rfl⟩
  case openBrokerCall =>
    obtain ⟨_, _, rfl⟩ := Workbench.brokerage_effect (.inl ⟨_, rfl⟩) ran
    exact ⟨_, _, _, _, _, _, _, _, _, _, .inl rfl, .inl rfl, rfl⟩
  case answerBrokerCall =>
    obtain ⟨_, _, rfl⟩ := Workbench.brokerage_effect (.inr (.inl ⟨_, _, rfl⟩)) ran
    exact ⟨_, _, _, _, _, _, _, _, _, _, .inl rfl, .inl rfl, rfl⟩
  case stageArtifact =>
    obtain ⟨_, _, rfl⟩ := Workbench.brokerage_effect (.inr (.inr ⟨_, _, _, _, rfl⟩)) ran
    exact ⟨_, _, _, _, _, _, _, _, _, _, .inl rfl, .inl rfl, rfl⟩
  case executeCellStart =>
    obtain ⟨_, _, _, -, -, -, -, rfl⟩ := Workbench.executeCellStart_ok ran
    exact ⟨_, _, _, _, _, _, _, _, _, _, .inr ⟨_, rfl⟩, .inl rfl, rfl⟩
  case executeCellPrepared =>
    obtain rfl := Workbench.executeCellPrepared_ok ran
    exact ⟨_, _, _, _, _, _, _, _, _, _, .inl rfl, .inl rfl, rfl⟩
  case executeCellCommit =>
    obtain ⟨_, _, _, -, -, rfl⟩ := Workbench.executeCellCommit_ok ran
    exact ⟨_, _, _, _, _, _, _, _, _, _, .inl rfl, .inl rfl, rfl⟩
  case resumeSuccessorCommit =>
    obtain ⟨_, _, _, _, _, -, -, rfl⟩ := Workbench.resumeSuccessorCommit_ok ran
    exact ⟨_, _, _, _, _, _, _, _, _, _, .inr ⟨_, rfl⟩, .inl rfl, rfl⟩
  case finalizeStart =>
    obtain ⟨result, ran, rfl⟩ := ran
    obtain ⟨_, -, -, same, -⟩ := Workbench.finalizeStart_ok ran
    rw [same]
    exact ⟨_, _, _, _, _, _, _, _, _, _, .inl rfl, .inl rfl, rfl⟩
  case finalizeCommit =>
    obtain ⟨_, _, -, -, -, rfl⟩ := Workbench.finalizeCommit_ok ran
    exact ⟨_, _, _, _, _, _, _, _, _, _, .inl rfl, .inl rfl, rfl⟩
  case parkClaimed =>
    obtain ⟨_, -, -, rfl⟩ := Workbench.parkClaimed_ok ran
    exact ⟨_, _, _, _, _, _, _, _, _, _, .inl rfl, .inl rfl, rfl⟩
  case markDeadlineTerminal =>
    rcases Workbench.markDeadlineTerminal_ok ran with rfl | ⟨_, _, _, -, -, -, -, rfl⟩ <;>
      exact ⟨_, _, _, _, _, _, _, _, _, _, .inl rfl, .inr rfl, rfl⟩
  case markModelCallBudgetTerminal =>
    rcases Workbench.markModelCallBudgetTerminal_ok ran with rfl | ⟨_, _, _, -, -, -, -, rfl⟩ <;>
      exact ⟨_, _, _, _, _, _, _, _, _, _, .inl rfl, .inl rfl, rfl⟩
  case recoverPreparedCell =>
    obtain ⟨_, rfl⟩ := Workbench.recoverPreparedCell_ok ran
    exact ⟨_, _, _, _, _, _, _, _, _, _, .inl rfl, .inl rfl, rfl⟩
  case recoverPlanner =>
    obtain ⟨_, -, rfl⟩ := Workbench.recoverPlanner_ok ran
    exact ⟨_, _, _, _, _, _, _, _, _, _, .inl rfl, .inl rfl, rfl⟩

/-- A transaction on one operation keeps every catalogued manifest. -/
theorem OpCall.catalog_grows {call : OpCall} (ran : call.run H clock s = .ok s') :
    ∀ row ∈ s.catalog, row ∈ s'.catalog := by
  intro row member
  cases call with
  | registry call =>
    rcases (RegistryCall.beside ran).catalog with same | ⟨entry, added⟩
    · rwa [same]
    · rw [added]
      exact mem_insertCatalog member
  | ticket call => rwa [TicketCall.catalog ran]
  | workbench call =>
    obtain ⟨_, _, _, _, _, _, _, catalog, _, _, rfl | ⟨entry, rfl⟩, -, rfl⟩ := WorkbenchCall.effect ran
    · exact member
    · exact mem_insertCatalog member

end Families

end Aar
