import Mathlib.Tactic.Common

/-! The enumerations stored in the registry's state columns, and the errors its methods raise. -/

namespace Aar

/-- A lowercase hexadecimal digest with its algorithm prefix, compared only for equality. -/
abbrev Digest := String

/-- The state of an outer operation. -/
inductive OperationState where
  | accepted
  | running
  | succeeded
  | failed
  | cancelled
  | timedOut
  | indeterminate
  deriving DecidableEq

/-- The state as it is written in messages. -/
def OperationState.wire : OperationState → String
  | accepted => "accepted"
  | running => "running"
  | succeeded => "succeeded"
  | failed => "failed"
  | cancelled => "cancelled"
  | timedOut => "timed_out"
  | indeterminate => "indeterminate"

/-- Whether the stored outcome is known or must be reconciled. -/
inductive OutcomeCertainty where
  | certain
  | indeterminate
  deriving DecidableEq

/-- The states that end an operation for good. -/
def TERMINAL_STATES : List OperationState :=
  [.succeeded, .failed, .cancelled, .timedOut]

/-- An operation that has ended for good. -/
def OperationState.Terminal (state : OperationState) : Prop :=
  state ∈ TERMINAL_STATES

instance (state : OperationState) : Decidable state.Terminal :=
  inferInstanceAs (Decidable (state ∈ TERMINAL_STATES))

/-- The state of one attempt: an outer state, or suspension on external work. -/
inductive AttemptState where
  | outer (state : OperationState)
  | suspendedExternal
  deriving DecidableEq

/-- The state of an operation's dispatch row. -/
inductive DispatchState where
  | queued
  | running
  | parked
  | completed
  deriving DecidableEq

/-- The durable dispatch kinds. -/
inductive DispatchKind where
  | rlmExecute
  | rlmWorkbenchExecute
  | workspaceProgramExecute
  deriving DecidableEq

/-- The dispatch kind as it is stored. -/
def DispatchKind.wire : DispatchKind → String
  | rlmExecute => "rlm.execute"
  | rlmWorkbenchExecute => "rlm.workbench.execute"
  | workspaceProgramExecute => "workspace.program.execute"

/-- The phase of a workbench job. -/
inductive JobPhase where
  | accepted
  | preparingWorkspace
  | running
  | waitingExternal
  | checkpointing
  | finalizing
  | succeeded
  | failed
  | cancelled
  | timedOut
  | indeterminate
  | parked
  deriving DecidableEq

/-- The state of one executed cell. -/
inductive CellState where
  | prepared
  | running
  | suspended
  | lostBeforeCommit
  | committed
  | failed
  | cancelled
  | discarded
  deriving DecidableEq

/-- The state of one suspension on external work. -/
inductive SuspensionState where
  | pending
  | settled
  | cancelled
  | parked
  deriving DecidableEq

/-- The state of one caller-work ticket. -/
inductive TicketState where
  | pending
  | sendReserved
  | sendStarted
  | settledSuccess
  | settledFailure
  | outcomeUnknown
  | cancelRequested
  | cancelledBeforeSend
  | cancelledCertain
  | quarantined
  deriving DecidableEq

/-- The state of one successor outbox row. -/
inductive OutboxState where
  | pending
  | prepared
  | consumed
  deriving DecidableEq

/-- The state of one rebind transfer. -/
inductive TransferState where
  | prepared
  | committed
  | aborted
  | consumed
  deriving DecidableEq

/-- How a committed rebind transfer was used up. -/
inductive ConsumptionKind where
  | workerAck
  | recoveryFencedLoss
  deriving DecidableEq

/-- The state of one staged artifact. -/
inductive StageState where
  | staged
  | committed
  | discarded
  deriving DecidableEq

/-- The method of one broker request. -/
inductive BrokerMethod where
  | modelRequest
  | subagentSubmit
  | subagentResult
  | evidenceQuery
  | effectPropose
  deriving DecidableEq

/-- Who issues the model calls of a workbench job. -/
inductive ExecutionMode where
  | callerDelegated
  | serviceManaged
  deriving DecidableEq

/-- The frozen phases of a root-planner step. -/
inductive PlannerPhase where
  | initial
  | correction
  | recovery
  | finalizer
  deriving DecidableEq

/-- The logical owner of one broker call: a root-planner step, or a call inside a cell. -/
inductive LogicalOwner where
  | planner (phase : PlannerPhase) (stepIndex : Nat)
  | cell (cellExecutionId : String) (brokerCallOrdinal : Nat)
  deriving DecidableEq

/-- The kinds of caller-work command whose results are remembered. -/
inductive CommandKind where
  | claim
  | markSendStarted
  | cancelBeforeSend
  | commit
  | reconcile
  deriving DecidableEq

/-- What a reconciler asks for. -/
inductive ReconciliationAction where
  | lookup
  | retryIfCertainNoSend
  | quarantine
  | settle
  deriving DecidableEq

/-- The decisions a recovery pass may record. -/
inductive RecoveryDecision where
  | needsUser
  | quarantine
  | reconcileEffect
  | restoreCheckpoint
  | resumeNative
  | startSuccessor
  | terminalFromReceipt
  deriving DecidableEq

/-- The exceptions the modelled methods raise, each with its message. -/
inductive Err where
  | keyError (message : String)
  | valueError (message : String)
  | integrityError (message : String)
  | registryError (message : String)
  | idempotencyConflict (message : String)
  | invalidTransition (message : String)
  | staleRuntimeGeneration (message : String)
  | staleAttemptFence (message : String)
  | callerWorkConflict (message : String)
  | callerWorkIdempotencyConflict (message : String)
  | staleTicketRevision (message : String)
  | invalidTicketTransition (message : String)
  | expiredCallerClaim (message : String)
  | rlmWorkbenchConflict (message : String)
  | rlmWorkbenchUnsupported (message : String)
  | rlmWorkbenchDeadlineExceeded (message : String)
  deriving DecidableEq

end Aar
