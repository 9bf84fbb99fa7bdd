import Aar.CallerWork.Commands
import Aar.Registry.Lifecycle

/-! The settlement handler of the coordinator, which queues a job again when its ticket is settled. -/

namespace Aar.Workbench

open Guarded Table

/-- What the settlement handler does after it has read the rows of an operation. -/
inductive Notification where
  | nothing
  | terminalize
  | dispatch
  deriving DecidableEq

/-- The outbox row is the one of a settled ticket. -/
def OutboxOf (ticket : CallerWorkTicket) (row : OutboxRow) : Prop :=
  row.suspensionRevision = ticket.suspensionRevision ∧
    some row.settlementDigest = ticket.settledReceiptDigest

instance (ticket : CallerWorkTicket) : DecidablePred (OutboxOf ticket) :=
  fun _ => inferInstanceAs (Decidable (_ ∧ _))

/-- `notify_caller_settlement`, up to the call it ends with: what a settled ticket asks for. -/
def notifyCallerSettlement (ticket : CallerWorkTicket) (now : Nat) (s : Scope) :
    Except Err Notification :=
  if ticket.state ∉ CallerWork.successorStates then .ok .nothing
  else
    match fetchOne s.outbox (OutboxOf ticket) with
    | none =>
      if s.job.any fun job => job.phase = .timedOut then .ok .terminalize
      -- Late evidence of a send that was given up past the deadline continues nothing.
      else if s.job.any fun job =>
          job.phase = .waitingExternal ∧ job.cumulativeDeadlineUnixMs ≤ now then .ok .nothing
      else .error (.rlmWorkbenchConflict "settled caller ticket has no successor outbox")
    | some outbox => .ok (if outbox.state = .pending then .dispatch else .nothing)

end Aar.Workbench
