import Aar.Processes.Orphan
import Aar.Proofs.ProcessIdentities

/-! A recovery signals the process of its binding alone, and ends the binding only after it. -/

namespace Aar.Processes

open Runs Utf8 StrictJson Recycling

section Attempts

variable {machine : Machine} {process identity : ProcessStartIdentity} {signals : List Signal}
  {ended : Termination}

/-- What is so when a termination ends: its signals went to the process, in their order, and an
answer that the process has exited or is gone is true. -/
structure Ended (machine : Machine) (process : ProcessStartIdentity) (signals : List Signal)
    (ended : Termination) : Prop where
  later : machine.processes.Later ended.machine.processes
  reached : ∀ delivery ∈ ended.delivered, delivery.1 = process
  ordered : ended.delivered.map (·.2) <+: signals
  exited : ended.answer = .ok true → ¬ ended.machine.Running process
  gone : ∀ message, ended.answer = .error (.mismatch message) → ¬ ended.machine.Running process

/-- A termination that has sent nothing. -/
theorem Ended.unsent {answer : Except OpenError Bool} {last : Machine}
    (later : machine.processes.Later last.processes)
    (exited : answer = .ok true → ¬ last.Running process)
    (gone : ∀ message, answer = .error (.mismatch message) → ¬ last.Running process) :
    Ended machine process signals ⟨answer, [], last⟩ :=
  ⟨later, fun _ member => absurd member List.not_mem_nil, List.nil_prefix, exited, gone⟩

/-- A signal to the process comes before those of a later termination. -/
theorem Ended.send {middle : Machine} {signal : Signal}
    (ending : Ended middle process signals ended)
    (later : machine.processes.Later middle.processes) :
    Ended machine process (signal :: signals)
      { ended with delivered := (process, signal) :: ended.delivered } := by
  refine ⟨later.trans ending.later, fun delivery member => ?_, ?_, ending.exited, ending.gone⟩
  · rcases List.mem_cons.mp member with rfl | others
    · rfl
    · exact ending.reached delivery others
  · exact List.cons_prefix_cons.mpr ⟨rfl, ending.ordered⟩

/-- The attempts on a process end so. -/
theorem attempts_ended (plan : List (Signal × Attempt)) (machine : Machine) :
    Ended machine process (plan.map (·.1)) (attempts identity process plan machine) := by
  induction plan generalizing machine with
  | nil =>
    refine .unsent .refl (fun answered => ?_) fun message raised => ?_
    · cases answered
    · cases raised
  | cons head rest ih =>
    obtain ⟨signal, attempt⟩ := head
    have to_sending := later_after attempt.before machine
    have to_waited := to_sending.trans
      (later_after attempt.during (run MachineEvent.step attempt.before machine))
    rw [attempts]
    split
    · -- The kernel refused the signal, so nothing is known.
      refine .unsent to_sending (fun answered => ?_) fun message raised => ?_
      · cases answered
      · cases raised
    · split
      · -- The process was reaped before the signal.
        refine .unsent to_waited (fun answered => ?_) fun message raised => ?_
        · exact of_decide_eq_true (Except.ok.inj answered)
        · cases raised
      · split
        · rename_i exited
          -- The signal is the only one, and the wait has seen the process exit.
          have last : Ended (run MachineEvent.step attempt.during
              (run MachineEvent.step attempt.before machine)) process (rest.map (·.1))
              ⟨.ok true, [], run MachineEvent.step attempt.during
                (run MachineEvent.step attempt.before machine)⟩ :=
            .unsent .refl (fun _ => exited) fun message raised => by cases raised
          exact last.send to_waited
        · exact (ih _).send to_waited

end Attempts

section Recoveries

variable {bootId : Text} {machine : Machine} {recordLook : ProcLook}

/-- A matching observation is of the recorded process. -/
theorem observe_same {identity observed : ProcessStartIdentity} {look : ProcLook}
    (looked : observeProcessIdentity identity look machine = .matching observed) :
    observed = identity := by
  unfold observeProcessIdentity at looked
  split at looked
  · cases looked
  · cases looked
  · split at looked
    · rename_i same
      exact Observation.matching.inj looked ▸ same
    · cases looked

/-- A termination of a process that was born ends so. -/
theorem terminateExact_ended {identity : ProcessStartIdentity} (encounter : Encounter)
    (sound : machine.Sound) (born : identity ∈ machine.processes.born) :
    Ended machine identity [.sigterm, .sigkill] (terminateExact identity encounter machine) := by
  have later := later_after encounter.between machine
  have looking_sound := sound_after encounter.between sound
  unfold terminateExact
  simp only
  split
  · rename_i error raised
    refine .unsent later (fun answered => ?_) fun message mismatched => ?_
    · cases answered
    · obtain rfl := Except.error.inj mismatched
      exact looking_sound.named.dead
        (openExactProcess_mismatch sound looking_sound later born raised)
  · -- The handle is on the recorded process, so all signals go there.
    rename_i handle opened
    obtain ⟨rfl, _⟩ := openExactProcess_ok sound looking_sound later born opened
    obtain ⟨onward, reached, ordered, exited, gone⟩ :=
      @attempts_ended handle handle [(.sigterm, encounter.first), (.sigkill, encounter.second)]
        (run MachineEvent.step encounter.between machine)
    exact ⟨later.trans onward, reached, ordered, exited, gone⟩

/-- A termination whose handle is given out sends its signals through it. -/
theorem terminateExact_opened {identity handle : ProcessStartIdentity} {encounter : Encounter}
    (opened : openExactProcess identity encounter.openable encounter.look machine
      (run MachineEvent.step encounter.between machine) = .ok handle) :
    terminateExact identity encounter machine = attempts identity handle
      [(.sigterm, encounter.first), (.sigkill, encounter.second)]
      (run MachineEvent.step encounter.between machine) := by
  simp only [terminateExact, opened]

/-- A recovery that sees the process of its binding exit has terminated it. -/
theorem recoverOrphan_terminated {modelValidateJson : Text → Option ProcessStartIdentity}
    {self : Nat} {binding : BoundProcess} {encounter : Encounter} {identity : ProcessStartIdentity}
    {delivered : List (ProcessStartIdentity × Signal)} {last : Machine}
    (written : modelValidateJson binding.processStartIdentity = some identity)
    (seen : observeProcessIdentity identity encounter.firstLook machine = .matching identity)
    (foreign : binding.pid ≠ self)
    (ended : terminateExact identity encounter (run MachineEvent.step encounter.before machine) =
      ⟨.ok true, delivered, last⟩) :
    recoverOrphan modelValidateJson self binding encounter machine =
      ⟨some (.terminated, "orphan_fenced"), delivered, last⟩ := by
  simp only [recoverOrphan, written, seen, ended, ne_eq, not_true_eq_false, if_false, foreign]

/--
A recovery reaches the process of its binding alone, and ends the binding only after it.

The identity of a worker was read at some time and written down, and later a host recovers the
binding, while processes start, exit, are reaped, take PIDs over and the machine reboots between all
its steps. Every signal reaches the very process that was recorded, which is not the host's; a
SIGKILL comes only behind a SIGTERM; a binding that the recovery ends, unless it is the host's own,
is of a process that has exited and never runs again; and where the text is of no identity, the
binding is quarantined and nothing is signalled.
-/
theorem recoverOrphan_exact (modelValidateJson : Text → Option ProcessStartIdentity)
    (earlier since afterwards : List MachineEvent) (self : Nat) (binding : BoundProcess)
    (encounter : Encounter)
    (recorded : ∀ identity, modelValidateJson binding.processStartIdentity = some identity →
      processIdentity binding.pid recordLook
        (run MachineEvent.step earlier (Machine.booted bootId)) = .ok identity) :
    let recording := run MachineEvent.step earlier (Machine.booted bootId)
    let recovering := run MachineEvent.step since recording
    let recovered := recoverOrphan modelValidateJson self binding encounter recovering
    (∀ delivery ∈ recovered.delivered,
      modelValidateJson binding.processStartIdentity = some delivery.1 ∧
        recording.find binding.pid = some delivery.1 ∧ binding.pid ≠ self) ∧
    recovered.delivered.map (·.2) <+: [.sigterm, .sigkill] ∧
    (∀ identity, modelValidateJson binding.processStartIdentity = some identity →
      recovered.finished.isSome → binding.pid ≠ self →
        ¬ (run MachineEvent.step afterwards recovered.machine).Running identity) ∧
    (modelValidateJson binding.processStartIdentity = none →
      recovered = ⟨some (.quarantined, "malformed_process_identity"), [], recovering⟩) := by
  intro recording recovering recovered
  have recording_sound : recording.Sound := sound_after earlier (.start bootId)
  have sound : recovering.Sound := sound_after since recording_sound
  cases parsed : modelValidateJson binding.processStartIdentity with
  | none =>
    have malformed : recovered =
        ⟨some (.quarantined, "malformed_process_identity"), [], recovering⟩ := by
      simp only [recovered, recoverOrphan, parsed]
    rw [malformed]
    exact ⟨fun _ member => absurd member List.not_mem_nil, List.nil_prefix,
      fun _ read => absurd read (by simp), fun _ => rfl⟩
  | some identity =>
    have under := (processIdentity_ok recording_sound (recorded identity parsed)).1
    obtain ⟨here, _⟩ := Population.lookup_some under
    have born := (later_after since recording).born _ (recording_sound.named.born _ here)
    suffices all : (∀ delivery ∈ recovered.delivered,
          delivery.1 = identity ∧ binding.pid ≠ self) ∧
        recovered.delivered.map (·.2) <+: [.sigterm, .sigkill] ∧
        (recovered.finished.isSome → binding.pid ≠ self →
          ¬ (run MachineEvent.step afterwards recovered.machine).Running identity) by
      obtain ⟨reached, ordered, ended⟩ := all
      refine ⟨fun delivery member => ?_, ordered, ?_, fun missing => by cases missing⟩
      · obtain ⟨same, foreign⟩ := reached delivery member
        exact ⟨congrArg some same.symm, same ▸ under, foreign⟩
      · rintro _ ⟨⟩
        exact ended
    -- A process that does not run does not run again, since nobody comes back.
    have stays {last : Machine} (later : recovering.processes.Later last.processes)
        (ended : ¬ last.Running identity) :
        ¬ (run MachineEvent.step afterwards last).Running identity :=
      fun running => ended ((later_after afterwards last).alive _ (later.born _ born) running)
    have unsent : ∀ delivery ∈ ([] : List (ProcessStartIdentity × Signal)),
        delivery.1 = identity ∧ binding.pid ≠ self :=
      fun _ member => absurd member List.not_mem_nil
    have gone (found : Option ProcessStartIdentity)
        (looked : observeProcessIdentity identity encounter.firstLook recovering =
          .mismatch found) : ¬ recovering.Running identity :=
      sound.named.dead (observe_mismatch sound looked)
    simp only [recovered, recoverOrphan, parsed]
    split
    · refine ⟨unsent, List.nil_prefix, fun finished => ?_⟩
      cases finished
    · rename_i looked
      exact ⟨unsent, List.nil_prefix, fun _ _ => stays .refl (gone none looked)⟩
    · rename_i found looked
      exact ⟨unsent, List.nil_prefix, fun _ _ => stays .refl (gone (some found) looked)⟩
    · rename_i observed looked
      split
      · rename_i other
        exact absurd (observe_same looked) other
      · split
        · -- The host does not signal itself.
          rename_i own
          exact ⟨unsent, List.nil_prefix, fun _ foreign => absurd own foreign⟩
        · rename_i foreign
          have to_opening := later_after encounter.before recovering
          obtain ⟨later, reached, ordered, exited, mismatched⟩ :=
            terminateExact_ended encounter (sound_after encounter.before sound)
              (to_opening.born _ born)
          refine ⟨fun delivery member => ⟨reached delivery member, foreign⟩, ordered,
            fun finished _ => stays (to_opening.trans later) ?_⟩
          -- The binding is ended only where the process has exited or the handle missed it.
          simp only at finished
          split at finished
          · rename_i message raised
            exact mismatched message raised
          · cases finished
          · rename_i answered
            exact exited answered
          · cases finished

end Recoveries

/-- The worker sits out a SIGTERM and exits behind a SIGKILL. -/
def Sample.encounter : Encounter where
  firstLook := Sample.look
  before := []
  openable := true
  between := []
  look := Sample.look
  first := ⟨[], true, []⟩
  second := ⟨[], true, [.exit Sample.worker]⟩

/-- The binding of the worker, whose identity is written down under its PID. -/
def Sample.binding : BoundProcess := ⟨7, text "7"⟩

/-- The one text of an identity, which is the worker's. -/
def Sample.modelValidateJson (written : Text) : Option ProcessStartIdentity :=
  if written = text "7" then some Sample.worker else none

/-- What a host with another PID leaves of the worker. -/
def Sample.recovered : Recovered :=
  recoverOrphan Sample.modelValidateJson 3 Sample.binding Sample.encounter Sample.home

/-- Both signals reach the worker, and the binding is ended when the worker has exited. -/
theorem Sample.recovered_eq :
    Sample.recovered = ⟨some (.terminated, "orphan_fenced"),
      [(Sample.worker, .sigterm), (Sample.worker, .sigkill)],
      run MachineEvent.step [.exit Sample.worker] Sample.home⟩ := by
  have there : Sample.home.Present Sample.worker := by decide +kernel
  have running : Sample.home.Running Sample.worker := by decide +kernel
  have exited : ¬ (run MachineEvent.step [.exit Sample.worker] Sample.home).Running
      Sample.worker := by
    decide +kernel
  have seen := observe_present Sample.home_sound there Sample.worker_bounded Sample.look_readable
  have opened : openExactProcess Sample.worker Sample.encounter.openable Sample.encounter.look
      Sample.home (run MachineEvent.step Sample.encounter.between Sample.home) = .ok Sample.worker :=
    openExactProcess_present Sample.home_sound Sample.home_sound there there Sample.worker_bounded
      rfl Sample.look_readable
  have ended : terminateExact Sample.worker Sample.encounter Sample.home =
      ⟨.ok true, [(Sample.worker, .sigterm), (Sample.worker, .sigkill)],
        run MachineEvent.step [.exit Sample.worker] Sample.home⟩ := by
    rw [terminateExact_opened opened]
    simp only [Sample.encounter, attempts, run_nil, there, running, exited, not_true_eq_false,
      not_false_eq_true, if_true, if_false]
  have written : Sample.modelValidateJson Sample.binding.processStartIdentity =
      some Sample.worker := if_pos rfl
  exact recoverOrphan_terminated written seen (by decide) ended

/-- The recovery of the worker is as every recovery is. -/
theorem recoverOrphan_exact_sample :
    Sample.recovered.delivered = [(Sample.worker, .sigterm), (Sample.worker, .sigkill)] ∧
      (∀ delivery ∈ Sample.recovered.delivered,
        Sample.modelValidateJson Sample.binding.processStartIdentity = some delivery.1) ∧
      Sample.recovered.finished = some (.terminated, "orphan_fenced") ∧
      ¬ (run MachineEvent.step [.reap Sample.worker] Sample.recovered.machine).Running
        Sample.worker := by
  have written : Sample.modelValidateJson Sample.binding.processStartIdentity =
      some Sample.worker := if_pos rfl
  have recorded (identity : ProcessStartIdentity)
      (read : Sample.modelValidateJson Sample.binding.processStartIdentity = some identity) :
      processIdentity Sample.worker.pid Sample.look Sample.home = .ok identity := by
    obtain rfl := Option.some.inj (written.symm.trans read)
    exact processIdentity_present Sample.home_sound (by decide +kernel) Sample.worker_bounded
      Sample.look_readable
  have exact := recoverOrphan_exact Sample.modelValidateJson [.start Sample.worker] []
    [.reap Sample.worker] 3 Sample.binding Sample.encounter recorded
  have recovered := Sample.recovered_eq
  exact ⟨congrArg Recovered.delivered recovered, fun delivery member => (exact.1 delivery member).1,
    congrArg Recovered.finished recovered,
    exact.2.2.1 _ written (congrArg (fun left => left.finished.isSome) recovered) (by decide)⟩

end Aar.Processes
