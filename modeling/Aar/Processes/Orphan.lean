import Aar.Lib.Run
import Aar.Processes.Identity

/-! How a host recovers the binding of a worker that an earlier host left behind. -/

namespace Aar.Processes

open Utf8 Runs

/-- The signals that are sent to processes. -/
inductive Signal where
  | sigterm
  | sigkill
  deriving DecidableEq

/-- The process of a worker binding: its PID, and its identity as it was written down. -/
structure BoundProcess where
  pid : Nat
  processStartIdentity : Text

/-- A signal through a handle and the wait behind it: what happens before the signal and until the
wait ends, and whether the kernel lets the signal through. -/
structure Attempt where
  before : List MachineEvent
  allowed : Bool
  during : List MachineEvent

/-- What a recovery meets: how the process shows itself before and behind the opening of the handle,
what happens in between, and the two attempts. -/
structure Encounter where
  firstLook : ProcLook
  before : List MachineEvent
  openable : Bool
  between : List MachineEvent
  look : ProcLook
  first : Attempt
  second : Attempt

/-- What a termination leaves: its answer, the signals with whom they reached, and the machine. -/
structure Termination where
  answer : Except OpenError Bool
  delivered : List (ProcessStartIdentity × Signal)
  machine : Machine

/-- The signals of `_terminate_exact`: one is sent when the wait behind the one before it has not
seen the process exit. -/
def attempts (identity handle : ProcessStartIdentity) :
    List (Signal × Attempt) → Machine → Termination
  | [], machine => ⟨.ok false, [], machine⟩
  | (signal, attempt) :: rest, machine =>
    let sending := run MachineEvent.step attempt.before machine
    let waited := run MachineEvent.step attempt.during sending
    if ¬ attempt.allowed then
      ⟨.error (.unavailable (.unavailable
        ("pidfd signal failed for PID " ++ toString identity.pid))), [], sending⟩
    -- A process that was reaped is not signalled, and the handle tells that it has exited.
    else if ¬ sending.Present handle then ⟨.ok (¬ waited.Running handle), [], waited⟩
    else if ¬ waited.Running handle then ⟨.ok true, [(handle, signal)], waited⟩
    else
      let later := attempts identity handle rest waited
      { later with delivered := (handle, signal) :: later.delivered }

/-- `_terminate_exact` on Linux. -/
def terminateExact (identity : ProcessStartIdentity) (encounter : Encounter) (opening : Machine) :
    Termination :=
  let looking := run MachineEvent.step encounter.between opening
  match openExactProcess identity encounter.openable encounter.look opening looking with
  | .error error => ⟨.error error, [], looking⟩
  | .ok handle =>
    attempts identity handle [(.sigterm, encounter.first), (.sigkill, encounter.second)] looking

/-- The terminal states that a recovery gives to a binding. -/
inductive Disposition where
  | quarantined
  | terminated
  deriving DecidableEq

/-- What a recovery leaves: the state and the reason that it gives to the binding, unless it keeps
the binding, the signals with whom they reached, and the machine. -/
structure Recovered where
  finished : Option (Disposition × String)
  delivered : List (ProcessStartIdentity × Signal)
  machine : Machine

/-- `_recover_orphan` of a binding by a host with a PID, by how the text of an identity is read. -/
def recoverOrphan (modelValidateJson : Text → Option ProcessStartIdentity) (self : Nat)
    (binding : BoundProcess) (encounter : Encounter) (machine : Machine) : Recovered :=
  match modelValidateJson binding.processStartIdentity with
  | none => ⟨some (.quarantined, "malformed_process_identity"), [], machine⟩
  | some expected =>
    match observeProcessIdentity expected encounter.firstLook machine with
    | .unavailable _ => ⟨none, [], machine⟩
    | .mismatch none => ⟨some (.quarantined, "orphan_process_absent"), [], machine⟩
    | .mismatch (some _) => ⟨some (.quarantined, "pid_reused_identity_mismatch"), [], machine⟩
    | .matching observed =>
      if observed ≠ expected then
        ⟨some (.quarantined, "pid_reused_identity_mismatch"), [], machine⟩
      else if binding.pid = self then
        ⟨some (.quarantined, "refused_to_terminate_supervisor_process"), [], machine⟩
      else
        let ended :=
          terminateExact expected encounter (run MachineEvent.step encounter.before machine)
        let finished : Option (Disposition × String) :=
          match ended.answer with
          | .error (.mismatch _) =>
            some (.quarantined, "orphan_identity_changed_before_exact_signal")
          | .error (.unavailable _) => none
          | .ok true => some (.terminated, "orphan_fenced")
          | .ok false => none
        ⟨finished, ended.delivered, ended.machine⟩

end Aar.Processes
