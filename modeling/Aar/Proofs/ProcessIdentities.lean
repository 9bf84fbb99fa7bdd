import Aar.Lib.JsonLimits
import Aar.Lib.Run
import Aar.Processes.Identity

/-! What is read of a process is its identity, and a handle that was checked is on that process. -/

namespace Aar.Processes

open Guarded Utf8 StrictJson TextFields Recycling Runs

section Machines

variable {machine : Machine} {process : ProcessStartIdentity}

/-- The processes of a machine are apart by their PIDs, and those there are were started under its
boot. -/
structure Machine.Sound (machine : Machine) : Prop where
  named : machine.processes.Named ProcessStartIdentity.pid
  booted : ∀ process ∈ machine.processes.present, process.bootId = machine.bootId

theorem Machine.Sound.start (bootId : Text) : (Machine.booted bootId).Sound :=
  ⟨.empty, fun _ member => absurd member List.not_mem_nil⟩

/-- An event keeps a machine sound. -/
theorem MachineEvent.sound (event : MachineEvent) (sound : machine.Sound) :
    (event.step machine).Sound := by
  cases event with
  | start process =>
    rw [MachineEvent.step]
    split
    · rename_i may
      obtain ⟨booted, _, free⟩ := may
      refine ⟨sound.named.bear free, fun other member => ?_⟩
      -- The new process was started under the boot, and the others were before.
      rcases List.mem_cons.mp member with rfl | old
      · exact booted
      · exact sound.booted other old
    · exact sound
  | exit process => exact ⟨sound.named.die, sound.booted⟩
  | reap process =>
    exact ⟨sound.named.bury, fun other member => sound.booted other (List.mem_filter.mp member).1⟩
  | boot bootId => exact ⟨.clear, fun _ member => absurd member List.not_mem_nil⟩

/-- After an event nobody is back who was gone before. -/
theorem MachineEvent.later (event : MachineEvent) (machine : Machine) :
    machine.processes.Later (event.step machine).processes := by
  cases event with
  | start process =>
    rw [MachineEvent.step]
    split
    · rename_i may
      exact Population.later_bear may.2.1
    · exact .refl
  | exit process => exact Population.later_die
  | reap process => exact Population.later_bury
  | boot bootId => exact Population.later_clear

theorem sound_after (events : List MachineEvent) (sound : machine.Sound) :
    (run MachineEvent.step events machine).Sound :=
  run_invariant (fun event _ sound => event.sound sound) sound

/-- After events nobody is back who was gone before. -/
theorem later_after (events : List MachineEvent) (machine : Machine) :
    machine.processes.Later (run MachineEvent.step events machine).processes :=
  @run_related _ _ MachineEvent.step (fun _ => True)
    (fun first second => first.processes.Later second.processes)
    (fun _ _ _ => trivial) (fun _ => .refl) (fun _ _ _ before after => before.trans after)
    (fun event machine _ => event.later machine) _ _ trivial

end Machines

section Stat

variable {process : ProcessStartIdentity} {stat : StatLine}

/-- The words of the line behind the name of a process. -/
def statWords (process : ProcessStartIdentity) (stat : StatLine) : List Text :=
  [stat.state] :: (stat.before.map intText ++
    decimal process.startTime :: stat.after.map intText)

/-- Each of them is the letter of the state or an integer. -/
theorem mem_statWords {word : Text} (member : word ∈ statWords process stat) :
    word = [stat.state] ∨ (∃ integer, word = intText integer) ∨
      word = decimal process.startTime := by
  rcases List.mem_cons.mp member with state | rest
  · exact Or.inl state
  · rcases List.mem_append.mp rest with before | rest
    · obtain ⟨integer, _, rfl⟩ := List.mem_map.mp before
      exact Or.inr (Or.inl ⟨integer, rfl⟩)
    · rcases List.mem_cons.mp rest with start | after
      · exact Or.inr (Or.inr start)
      · obtain ⟨integer, _, rfl⟩ := List.mem_map.mp after
        exact Or.inr (Or.inl ⟨integer, rfl⟩)

/-- A character of the words is a letter, a sign or a digit. -/
theorem code_statWords {word : Text} {point : Code} (member : word ∈ statWords process stat)
    (inside : point ∈ word) :
    (0x41 ≤ point.val ∧ point.val ≤ 0x7a) ∨ point.val = 0x2d ∨ Digit point := by
  rcases mem_statWords member with rfl | ⟨integer, rfl⟩ | rfl
  · rw [List.mem_singleton.mp inside]
    exact Or.inl stat.letter
  · exact Or.inr (mem_intText inside)
  · exact Or.inr (Or.inr ((natural_decimal _).1.each point inside))

/-- The words are words. -/
theorem dark_statWords : ∀ word ∈ statWords process stat, Dark word := by
  intro word member
  refine ⟨?_, fun point inside white => ?_⟩
  · rcases mem_statWords member with rfl | ⟨integer, rfl⟩ | rfl
    · exact List.cons_ne_nil _ _
    · exact (dark_intText integer).1
    · exact (dark_decimal _).1
  · have kind := code_statWords member inside
    unfold Digit at kind
    unfold White at white
    omega

theorem afterLast_stat :
    afterLast [0x29, 0x20] (statText process stat) = some (line (statWords process stat)) := by
  refine afterLast_last (by decide) (not_mem_line (by decide) fun word member inside => ?_)
  have kind := code_statWords member inside
  unfold Digit at kind
  have parenthesis : (0x29 : Code).val = 0x29 := rfl
  omega

theorem startTime_stat :
    (split (line (statWords process stat)))[19]? = some (decimal process.startTime) := by
  have eighteen : (stat.before.map intText).length = 18 := by
    rw [List.length_map, stat.eighteen]
  rw [split_line dark_statWords, statWords, List.getElem?_cons_succ,
    List.getElem?_append_right (by omega), eighteen]
  rfl

/-- The line of a process is in ASCII when its name is. -/
theorem ascii_stat (comm : ∀ point ∈ stat.comm, point.val < 0x80) :
    ∀ point ∈ statText process stat, point.val < 0x80 := by
  have ascii_digits : ∀ number, ∀ point ∈ decimal number, point.val < 0x80 := by
    intro number point member
    have digit := (natural_decimal number).1.each point member
    unfold Digit at digit
    omega
  have ascii_line : ∀ {words : List Text}, (∀ word ∈ words, ∀ point ∈ word, point.val < 0x80) →
      ∀ point ∈ line words, point.val < 0x80 := by
    intro words ascii
    -- Between the words there are only spaces, and the end of the line is last.
    induction words using line.induct with
    | case1 => simp [line]
    | case2 word =>
      intro point member
      rcases List.mem_append.mp member with inside | last
      · exact ascii word List.mem_cons_self point inside
      · rw [List.mem_singleton.mp last]
        decide
    | case3 word next rest ih =>
      intro point member
      rcases List.mem_append.mp member with inside | later
      · exact ascii word List.mem_cons_self point inside
      · rcases List.mem_cons.mp later with rfl | later
        · decide
        · exact ih (fun word member => ascii word (List.mem_cons_of_mem _ member)) point later
  have words : ∀ point ∈ line (statWords process stat), point.val < 0x80 :=
    ascii_line fun word member point inside => by
      have kind := code_statWords member inside
      unfold Digit at kind
      omega
  intro point member
  simp only [statText, List.mem_append, List.mem_cons, List.not_mem_nil, or_false] at member
  rcases member with (pid | rfl | rfl | name) | rfl | rfl | rest
  · exact ascii_digits _ point pid
  · decide
  · decide
  · exact comm point name
  · decide
  · decide
  · exact words point rest

end Stat

section Reading

variable {machine : Machine} {process identity found : ProcessStartIdentity} {pid : Nat}
  {look : ProcLook}

/-- What an identity is within to be written down. -/
def ProcessStartIdentity.Bounded (identity : ProcessStartIdentity) : Prop :=
  0 < identity.pid ∧ identity.pid ≤ counterMax ∧ 0 < identity.startTime ∧
    identity.startTime ≤ counterMax ∧ identity.bootId ≠ [] ∧ identity.bootId.length ≤ 512

theorem int_startTime (bounded : process.startTime ≤ counterMax) :
    int (decimal process.startTime) = some (process.startTime : Int) := by
  have small : process.startTime < 10 ^ (18 + 1) := by
    unfold counterMax at bounded
    omega
  have short := decimal_length small
  rw [int_decimal, if_pos (by omega)]

/-- The identity that is read is that of the process under the PID, whatever name that shows. -/
theorem processIdentity_ok (sound : machine.Sound)
    (read : processIdentity pid look machine = .ok found) :
    machine.find pid = some found ∧ found.Bounded := by
  simp only [processIdentity, linuxProcessIdentity, bind_ok, require_ok, orRaise_ok, pure_ok,
    exists_const] at read
  obtain ⟨positive, _, _, process, under, _, fields, behind, field, twentieth, startTime, spelled,
    ⟨started, booted⟩, ⟨pid_bounded, time_bounded, boot_bounded⟩, rfl⟩ := read
  obtain ⟨here, same⟩ := Population.lookup_some under
  -- The fields are those behind the name, so the twentieth is the start time.
  obtain rfl : line (statWords process look.stat) = fields := by
    rw [afterLast_stat] at behind
    exact Option.some.inj behind
  obtain rfl : decimal process.startTime = field := by
    rw [startTime_stat] at twentieth
    exact Option.some.inj twentieth
  obtain rfl : (process.startTime : Int) = startTime := by
    rw [int_decimal] at spelled
    split at spelled
    · exact Option.some.inj spelled
    · cases spelled
  have boot := sound.booted process here
  have whole : process = ⟨pid, (process.startTime : Int).toNat, machine.bootId⟩ := by
    cases process
    simp_all
  refine ⟨?_, ?_⟩
  · rw [under, ← whole]
  · refine ⟨positive, pid_bounded, ?_, ?_, booted, boot_bounded⟩
    · show 0 < (process.startTime : Int).toNat
      omega
    · show (process.startTime : Int).toNat ≤ counterMax
      omega

/-- A process within the bounds is read when its files can be. -/
theorem processIdentity_present (sound : machine.Sound) (here : machine.Present process)
    (bounded : process.Bounded) (readable : look.Readable) :
    processIdentity process.pid look machine = .ok process := by
  obtain ⟨positive, pid_bounded, started, time_bounded, booted, boot_bounded⟩ := bounded
  obtain ⟨boot, files, comm⟩ := readable
  have under : machine.find process.pid = some process := sound.named.lookup here
  have same := sound.booted process here
  rw [same] at booted boot_bounded
  simp only [processIdentity, linuxProcessIdentity, bind_ok, require_ok, orRaise_ok, pure_ok,
    exists_const]
  refine ⟨positive, boot, files, process, under, ascii_stat comm, _, afterLast_stat, _,
    startTime_stat, _, int_startTime time_bounded, ⟨by omega, booted⟩,
    ⟨pid_bounded, by omega, boot_bounded⟩, ?_⟩
  rw [← same]
  rfl

/-- A process is reported absent only when no process is under its PID. -/
theorem processIdentity_notFound {message : String}
    (raised : processIdentity pid look machine = .error (.notFound message)) :
    machine.find pid = none := by
  simp only [processIdentity, linuxProcessIdentity, bind_error, require_error, orRaise_error,
    require_ok, orRaise_ok, reduceCtorEq, and_false, false_or, exists_const] at raised
  obtain ⟨_, _, _, ⟨absent, _⟩ | ⟨process, _, rest⟩⟩ := raised
  · exact absent
  · -- Whatever else is raised leaves it open whether the process is there.
    simp [pure, Except.pure] at rest

/-- A match is the recorded process itself. -/
theorem observe_matching {observed : ProcessStartIdentity} (sound : machine.Sound)
    (looked : observeProcessIdentity identity look machine = .matching observed) :
    machine.find identity.pid = some identity := by
  unfold observeProcessIdentity at looked
  split at looked
  · cases looked
  · cases looked
  · rename_i found read
    split at looked
    · rename_i same
      rw [← same]
      exact same ▸ (processIdentity_ok sound read).1
    · cases looked

/-- After a mismatch the recorded process is not there. -/
theorem observe_mismatch {observed : Option ProcessStartIdentity} (sound : machine.Sound)
    (looked : observeProcessIdentity identity look machine = .mismatch observed) :
    ¬ machine.Present identity := by
  unfold observeProcessIdentity at looked
  split at looked
  · -- No process has the PID.
    rename_i message raised
    have absent := processIdentity_notFound raised
    exact sound.named.gone (fun found => by
      rw [Machine.find] at absent
      rw [absent] at found
      cases found)
  · cases looked
  · -- Another process has the PID.
    rename_i found read
    split at looked
    · cases looked
    · rename_i other
      have under := (processIdentity_ok sound read).1
      exact sound.named.gone (fun same => other (Option.some.inj (under.symm.trans same)))

theorem observe_present (sound : machine.Sound) (here : machine.Present identity)
    (bounded : identity.Bounded) (readable : look.Readable) :
    observeProcessIdentity identity look machine = .matching identity := by
  unfold observeProcessIdentity
  rw [processIdentity_present sound here bounded readable]
  exact if_pos rfl

end Reading

section Opening

variable {bootId : Text} {identity handle : ProcessStartIdentity} {pid : Nat}
  {recordLook look : ProcLook} {openable : Bool}

/-- A handle that was checked is on the recorded process, which has been there since. -/
theorem openExactProcess_ok {opening looking : Machine} (opening_sound : opening.Sound)
    (looking_sound : looking.Sound) (later : opening.processes.Later looking.processes)
    (born : identity ∈ opening.processes.born)
    (opened : openExactProcess identity openable look opening looking = .ok handle) :
    handle = identity ∧ looking.Present identity := by
  simp only [openExactProcess, bind_ok, require_ok, orRaise_ok] at opened
  obtain ⟨_, _, held, found, looked⟩ := opened
  split at looked
  · rename_i observed matched
    obtain ⟨present, _⟩ := Population.lookup_some (observe_matching looking_sound matched)
    obtain rfl : held = handle := by simpa [pure, Except.pure] using looked
    -- The handle was opened by the PID, and the recorded process has been under it since.
    exact ⟨((opening_sound.named.exact found).later born later).2 present, present⟩
  · cases looked
  · cases looked

/-- A mismatch is raised only when the recorded process is gone. -/
theorem openExactProcess_mismatch {opening looking : Machine} {message : String}
    (opening_sound : opening.Sound) (looking_sound : looking.Sound)
    (later : opening.processes.Later looking.processes)
    (born : identity ∈ opening.processes.born)
    (raised : openExactProcess identity openable look opening looking =
      .error (.mismatch message)) : ¬ looking.Present identity := by
  simp only [openExactProcess, bind_error, require_error, orRaise_error, require_ok,
    orRaise_ok] at raised
  rcases raised with ⟨_, unavailable⟩ | ⟨_, _, ⟨absent, _⟩ | ⟨held, _, looked⟩⟩
  · cases unavailable
  · -- Nobody had the PID when it was opened.
    intro present
    have there := later.present identity born present
    have found : opening.find identity.pid = some identity := opening_sound.named.lookup there
    rw [absent] at found
    cases found
  · split at looked
    · cases looked
    · rename_i observed mismatched
      exact observe_mismatch looking_sound mismatched
    · cases looked

/-- A handle is given out on a process that is there and can be read. -/
theorem openExactProcess_present {opening looking : Machine} (opening_sound : opening.Sound)
    (looking_sound : looking.Sound) (there : opening.Present identity)
    (present : looking.Present identity) (bounded : identity.Bounded) (allowed : openable)
    (readable : look.Readable) :
    openExactProcess identity openable look opening looking = .ok identity := by
  have found : opening.find identity.pid = some identity := opening_sound.named.lookup there
  have matched := observe_present looking_sound present bounded readable
  simp only [openExactProcess, bind_ok, require_ok, orRaise_ok]
  refine ⟨(), allowed, identity, found, ?_⟩
  rw [matched]
  rfl

/--
A process handle is on the recorded process or is not given out.

The identity of a process was read at some time. Later its PID is opened, and still later the
process under the PID is looked at, while processes start, exit, are reaped, take PIDs over and the
machine reboots in between. The identity is that of the process under its PID; a handle that is
given out is on the very process that was recorded, which is there then; a mismatch is raised only when that process is gone, and it stays gone; and
the handle is given out whenever the process is there and can be read.
-/
theorem openExactProcess_exact (earlier between meanwhile afterwards : List MachineEvent)
    (recorded : processIdentity pid recordLook
      (run MachineEvent.step earlier (Machine.booted bootId)) = .ok identity) :
    let recording := run MachineEvent.step earlier (Machine.booted bootId)
    let opening := run MachineEvent.step between recording
    let looking := run MachineEvent.step meanwhile opening
    let ending := run MachineEvent.step afterwards looking
    recording.find pid = some identity ∧
    (∀ handle, openExactProcess identity openable look opening looking = .ok handle →
      handle = identity ∧ looking.Present identity) ∧
    (∀ message, openExactProcess identity openable look opening looking =
      .error (.mismatch message) → ¬ ending.Present identity ∧ ¬ ending.Running identity) ∧
    (looking.Present identity → openable → look.Readable →
      openExactProcess identity openable look opening looking = .ok identity) := by
  intro recording opening looking ending
  have recording_sound : recording.Sound := sound_after earlier (.start bootId)
  have opening_sound : opening.Sound := sound_after between recording_sound
  have looking_sound : looking.Sound := sound_after meanwhile opening_sound
  have ending_sound : ending.Sound := sound_after afterwards looking_sound
  obtain ⟨under, bounded⟩ := processIdentity_ok recording_sound recorded
  obtain ⟨here, _⟩ := Population.lookup_some under
  -- The recorded process was born, so it is never back once it is gone.
  have born : identity ∈ opening.processes.born :=
    (later_after between recording).born identity (recording_sound.named.born identity here)
  have meanwhile_later : opening.processes.Later looking.processes := later_after meanwhile opening
  have looking_born := meanwhile_later.born identity born
  have gone : ¬ looking.Present identity → ¬ ending.Present identity ∧ ¬ ending.Running identity := by
    intro absent
    have ending_later : looking.processes.Later ending.processes := later_after afterwards looking
    have ended : ¬ ending.Present identity := fun present =>
      absent (ending_later.present identity looking_born present)
    exact ⟨ended, ending_sound.named.dead ended⟩
  refine ⟨under, ?_, ?_, ?_⟩
  · intro handle opened
    exact openExactProcess_ok opening_sound looking_sound meanwhile_later born opened
  · intro message raised
    exact gone (openExactProcess_mismatch opening_sound looking_sound meanwhile_later born raised)
  · intro present allowed readable
    have there := meanwhile_later.present identity born present
    exact openExactProcess_present opening_sound looking_sound there present bounded allowed readable

end Opening

/-- A worker that calls itself by a name with the delimiter in it. -/
def Sample.worker : ProcessStartIdentity := ⟨7, 100, text "boot"⟩

/-- How the worker shows itself. -/
def Sample.look : ProcLook where
  bootReadable := true
  statReadable := true
  stat :=
    { comm := [0x29, 0x20, 0x5a, 0x20, 0x31]
      state := 0x53
      letter := by decide
      before := List.replicate 18 (-1)
      eighteen := by decide
      after := [4, 5] }

/-- The machine on which the worker was started. -/
def Sample.home : Machine :=
  run MachineEvent.step [.start Sample.worker] (Machine.booted (text "boot"))

theorem Sample.home_sound : Sample.home.Sound :=
  sound_after [.start Sample.worker] (.start (text "boot"))

theorem Sample.worker_bounded : Sample.worker.Bounded := by
  unfold ProcessStartIdentity.Bounded counterMax
  decide

theorem Sample.look_readable : Sample.look.Readable := by
  refine ⟨rfl, rfl, fun point member => ?_⟩
  simp only [Sample.look, List.mem_cons, List.not_mem_nil, or_false] at member
  rcases member with rfl | rfl | rfl | rfl | rfl <;> decide

/-- The worker runs, another process comes, and the PID is taken over by a third one at the end. -/
theorem openExactProcess_exact_sample :
    openExactProcess Sample.worker true Sample.look Sample.home
        (run MachineEvent.step [.start ⟨8, 120, text "boot"⟩] Sample.home) = .ok Sample.worker :=
  have recorded :=
    processIdentity_present Sample.home_sound (by decide +kernel) Sample.worker_bounded
      Sample.look_readable
  (openExactProcess_exact [.start Sample.worker] [] [.start ⟨8, 120, text "boot"⟩]
    [.exit Sample.worker, .reap Sample.worker, .start ⟨7, 300, text "boot"⟩] recorded).2.2.2
    (by decide +kernel) rfl Sample.look_readable

end Aar.Processes
