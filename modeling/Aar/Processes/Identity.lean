import Aar.Lib.Guarded
import Aar.Lib.Recycling
import Aar.Lib.TextFields

/-! The processes of a Linux machine, their identities as `/proc` tells them, and handles. -/

namespace Aar.Processes

open Guarded Utf8 StrictJson TextFields Recycling

/-- `ProcessStartIdentity` of a Linux process, which no two processes share. -/
structure ProcessStartIdentity where
  pid : Nat
  startTime : Nat
  bootId : Text
  deriving DecidableEq

/-- A machine: its boot, and its processes with those that exited and were not reaped yet. -/
structure Machine where
  bootId : Text
  processes : Population ProcessStartIdentity
  deriving DecidableEq

namespace Machine

/-- A machine just booted. -/
def booted (bootId : Text) : Machine := ⟨bootId, .empty⟩

/-- The process under a PID, which a reused PID has of a later process. -/
def find (machine : Machine) (pid : Nat) : Option ProcessStartIdentity :=
  machine.processes.lookup ProcessStartIdentity.pid pid

/-- A process is under its PID, exited or not. -/
def Present (machine : Machine) (process : ProcessStartIdentity) : Prop :=
  process ∈ machine.processes.present

/-- A process has not exited. -/
def Running (machine : Machine) (process : ProcessStartIdentity) : Prop :=
  process ∈ machine.processes.alive

instance (machine : Machine) : DecidablePred machine.Present :=
  fun _ => inferInstanceAs (Decidable (_ ∈ _))

instance (machine : Machine) : DecidablePred machine.Running :=
  fun _ => inferInstanceAs (Decidable (_ ∈ _))

end Machine

/-- What happens to processes apart from what the runtime does. -/
inductive MachineEvent where
  | start (process : ProcessStartIdentity)
  | exit (process : ProcessStartIdentity)
  | reap (process : ProcessStartIdentity)
  | boot (bootId : Text)
  deriving DecidableEq

/-- A process may start: under the current boot, under a free PID, and as none before it. -/
def Machine.MayStart (machine : Machine) (process : ProcessStartIdentity) : Prop :=
  process.bootId = machine.bootId ∧ process ∉ machine.processes.born ∧
    ∀ other ∈ machine.processes.present, other.pid ≠ process.pid

instance (machine : Machine) : DecidablePred machine.MayStart :=
  fun _ => inferInstanceAs (Decidable (_ ∧ _ ∧ _))

/-- The machine after an event; what cannot happen changes nothing. -/
def MachineEvent.step : MachineEvent → Machine → Machine
  | .start process, machine =>
    if machine.MayStart process then
      { machine with processes := machine.processes.bear process }
    else machine
  | .exit process, machine => { machine with processes := machine.processes.die process }
  | .reap process, machine => { machine with processes := machine.processes.bury process }
  | .boot bootId, machine => { bootId, processes := machine.processes.clear }

/-- The line of a process in `/proc`, apart from its PID and its start time. -/
structure StatLine where
  comm : Text
  state : Code
  letter : 0x41 ≤ state.val ∧ state.val ≤ 0x7a
  before : List Int
  eighteen : before.length = 18
  after : List Int
  deriving DecidableEq

/-- The text of `/proc/<pid>/stat`. -/
def statText (process : ProcessStartIdentity) (stat : StatLine) : Text :=
  decimal process.pid ++ 0x20 :: 0x28 :: stat.comm ++ 0x29 :: ([0x20] ++
    line ([stat.state] :: (stat.before.map intText ++
      decimal process.startTime :: stat.after.map intText)))

/-- One look at `/proc`: whether its two files can be read, and how the process shows itself. -/
structure ProcLook where
  bootReadable : Bool
  statReadable : Bool
  stat : StatLine
  deriving DecidableEq

/-- Both files can be read, and the process shows itself in ASCII. -/
def ProcLook.Readable (look : ProcLook) : Prop :=
  look.bootReadable ∧ look.statReadable ∧ ∀ point ∈ look.stat.comm, point.val < 0x80

/-- `ProcessIdentityNotFound`, and `ProcessIdentityUnavailable` for other reasons. -/
inductive IdentityError where
  | notFound (message : String)
  | unavailable (message : String)
  deriving DecidableEq

/-- The largest value of a `PositiveCounter`. -/
def counterMax : Nat := 2 ^ 63 - 1

/-- `_linux_process_identity`. -/
def linuxProcessIdentity (pid : Nat) (look : ProcLook) (machine : Machine) :
    Except IdentityError ProcessStartIdentity := do
  require look.bootReadable (.unavailable "native Linux boot identity is unavailable")
  require look.statReadable
    (.unavailable ("native Linux process identity unavailable for PID " ++ toString pid))
  let process ← orRaise (machine.find pid)
    (.notFound ("native Linux process PID " ++ toString pid ++ " is absent"))
  let stat := statText process look.stat
  require (Ascii stat)
    (.unavailable ("native Linux process identity unavailable for PID " ++ toString pid))
  -- The name may hold the delimiter too, so the last one counts.
  let fields ← orRaise (afterLast [0x29, 0x20] stat)
    (.unavailable ("malformed /proc/" ++ toString pid ++ "/stat"))
  let field ← orRaise (split fields)[19]?
    (.unavailable ("/proc/" ++ toString pid ++ "/stat has no starttime field"))
  let startTime ← orRaise (int field)
    (.unavailable ("invalid /proc/" ++ toString pid ++ "/stat starttime"))
  require (0 < startTime ∧ machine.bootId ≠ [])
    (.unavailable ("missing native Linux start identity for PID " ++ toString pid))
  require (pid ≤ counterMax ∧ startTime ≤ counterMax ∧ machine.bootId.length ≤ 512)
    (.unavailable ("invalid native Linux start identity for PID " ++ toString pid))
  return ⟨pid, startTime.toNat, machine.bootId⟩

/-- `process_identity` on Linux. -/
def processIdentity (pid : Nat) (look : ProcLook) (machine : Machine) :
    Except IdentityError ProcessStartIdentity := do
  require (0 < pid) (.unavailable "process identity requires a positive integer PID")
  linuxProcessIdentity pid look machine

/-- `ProcessIdentityObservation`. -/
inductive Observation where
  | matching (observed : ProcessStartIdentity)
  | mismatch (observed : Option ProcessStartIdentity)
  | unavailable (error : IdentityError)
  deriving DecidableEq

/-- `observe_process_identity`. -/
def observeProcessIdentity (identity : ProcessStartIdentity) (look : ProcLook) (machine : Machine) :
    Observation :=
  match processIdentity identity.pid look machine with
  | .error (.notFound _) => .mismatch none
  | .error (.unavailable message) => .unavailable (.unavailable message)
  | .ok observed => if observed = identity then .matching observed else .mismatch (some observed)

/-- What `open_exact_process` raises: `ProcessIdentityMismatch`, or that nothing is known. -/
inductive OpenError where
  | mismatch (message : String)
  | unavailable (error : IdentityError)
  deriving DecidableEq

/-- `open_exact_process` on Linux: a PID is opened first, and the process under it is looked at on
the later machine. -/
def openExactProcess (identity : ProcessStartIdentity) (openable : Bool) (look : ProcLook)
    (first second : Machine) : Except OpenError ProcessStartIdentity := do
  require openable
    (.unavailable (.unavailable ("could not open pidfd for PID " ++ toString identity.pid)))
  let handle ← orRaise (first.find identity.pid)
    (.mismatch ("recorded process PID " ++ toString identity.pid ++ " is absent"))
  match observeProcessIdentity identity look second with
  | .matching _ => return handle
  | .mismatch _ =>
    .error (.mismatch ("PID " ++ toString identity.pid ++
      " does not match recorded identity after pidfd open"))
  | .unavailable error => .error (.unavailable error)

end Aar.Processes
