import Aar.Proofs.PublicCommands

/-! Public jobs along every sequence of commands: valid views, counted moves, and kept tickets. -/

namespace Aar.PublicRlm

open Guarded Table

variable {H : PublicHashing}

namespace Tables

section Step

variable {t : Tables H}

/-- A command on sound tables is refused for a listed reason, or replies to what it did. -/
theorem perform_ends (sound : t.Sound) (event : Event) :
    Ends (· ∈ refusals) (Reply event.command t) (t.perform event) := by
  rcases event with
    ⟨principalId, maxJobs, ⟨spec, key⟩ | request | request | ⟨jobId, revision, key⟩⟩
  · exact start_ends sound principalId maxJobs spec key
  · exact claim_ends sound principalId request
  · exact commit_ends sound principalId request
  · exact cancel_ends sound principalId jobId revision key

/-- A command was accepted and changed the job it names. -/
def changes (jobId : Token) (event : Event) (t : Tables H) : Bool :=
  match t.perform event with
  | .ok (.accepted _, _) => event.command.target = some jobId.val
  | _ => false

/-- What a step did: nothing, a start, or a move of the one job that it changes. -/
inductive Stepped (event : Event) (t : Tables H) : Prop where
  | kept (same : t.step event = t) (quiet : ∀ jobId, changes jobId event t = false)
  | started (job : JobRow H) (call : CallRow H) (started : Started t (t.step event) job call)
      (quiet : ∀ jobId, changes jobId event t = false)
  | accepted (job job' : JobRow H) (row : CommandRow)
      (accepted : Accepted t (t.step event) job job' row)
      (counts : ∀ jobId, changes jobId event t = decide (job.jobId = jobId))

/-- Every step on sound tables does one of the three. -/
theorem Sound.stepped (sound : t.Sound) (event : Event) : Stepped event t := by
  have ends := perform_ends sound event
  cases ran : t.perform event with
  | error error => exact .kept (by rw [step, ran]) fun jobId => by rw [changes, ran]
  | ok reply =>
    rw [ran] at ends
    cases ends with
    | replayed shown => exact .kept (by rw [step, ran]) fun jobId => by rw [changes, ran]
    | started shown saved job call names started =>
      exact .started job call (by rwa [step, ran]) fun jobId => by simp [changes, ran, names]
    | accepted shown saved job job' row names accepted =>
      refine .accepted job job' row (by rwa [step, ran]) fun jobId => ?_
      simp [changes, ran, names, Subtype.ext_iff]

theorem Sound.step (sound : t.Sound) (event : Event) : (t.step event).Sound := by
  cases sound.stepped event with
  | kept same quiet => rwa [same]
  | started job call started quiet => exact started.sound sound
  | accepted job job' row accepted counts => exact accepted.sound sound

/-- The command history of a job grows by the commands that change it. -/
theorem Sound.counts (sound : t.Sound) (jobId : Token) (event : Event) :
    ((t.step event).commandsOf jobId).length =
      (t.commandsOf jobId).length + if changes jobId event t then 1 else 0 := by
  cases sound.stepped event with
  | kept same quiet => simp [same, quiet]
  | started job call started quiet => simp [commandsOf, started.commands, quiet]
  | accepted job job' row accepted counts =>
    rw [commandsOf_append accepted.commands, accepted.target, counts]
    simp

theorem Sound.keeps (sound : t.Sound) (event : Event) :
    Carries KeepsTicket t.calls (t.step event).calls := by
  cases sound.stepped event with
  | kept same quiet => exact same.symm ▸ .refl KeepsTicket.refl
  | started job call started quiet => exact started.calls ▸ .append KeepsTicket.refl _
  | accepted job job' row accepted counts => exact accepted.kept

/-- No step changes a job in a final phase. -/
theorem Sound.final (sound : t.Sound) {job : JobRow H} (member : job ∈ t.jobs)
    (final : job.phase.Final) (event : Event) : job ∈ (t.step event).jobs := by
  cases sound.stepped event with
  | kept same quiet => rwa [same]
  | started first call started quiet => exact started.jobs ▸ List.mem_append_left _ member
  | accepted other other' row accepted counts =>
    refine accepted.jobs.mem.mpr (.inr ⟨member, fun same => ?_⟩)
    -- The moved job was not in a final phase.
    obtain rfl := sound.keyed.unique member accepted.jobs.old same
    obtain ⟨before, after, tracks, -, move⟩ := accepted.moved
    exact move.leaves (tracks.phase ▸ final)

end Step

section Runs

/-- The tables after a sequence of commands, from empty ones. -/
def after (H : PublicHashing) (events : List Event) : Tables H := Runs.run step events {}

theorem after_sound (events : List Event) : (after H events).Sound :=
  Runs.run_invariant (fun event _ sound => sound.step event) .empty

/-- The history of a job counts the commands that changed it. -/
theorem after_counts (events : List Event) (jobId : Token) :
    ((after H events).commandsOf jobId).length =
      Runs.count step (changes jobId) events ({} : Tables H) := by
  have preserved : ∀ event ∈ events, ∀ t : Tables H, t.Sound → (t.step event).Sound ∧
      ((t.step event).commandsOf jobId).length =
        (t.commandsOf jobId).length + if changes jobId event t then 1 else 0 :=
    fun event _ t sound => ⟨sound.step event, sound.counts jobId event⟩
  have counted := Runs.run_counted Sound (changes jobId) (fun t => (t.commandsOf jobId).length)
    preserved .empty
  exact counted.trans (Nat.zero_add _)

theorem Sound.keeps_run {t : Tables H} (sound : t.Sound) (later : List Event) :
    Carries KeepsTicket t.calls (Runs.run Tables.step later t).calls := by
  induction later generalizing t with
  | nil => exact .refl KeepsTicket.refl
  | cons event rest ih => exact (sound.keeps event).trans KeepsTicket.trans (ih (sound.step event))

theorem Sound.final_run {t : Tables H} (sound : t.Sound) {job : JobRow H} (member : job ∈ t.jobs)
    (final : job.phase.Final) (later : List Event) : job ∈ (Runs.run Tables.step later t).jobs := by
  induction later generalizing t with
  | nil => exact member
  | cons event rest ih => exact ih (sound.step event) (sound.final member final event)

end Runs

section Shown

variable {t : Tables H} {job : JobRow H}

/-- `status` shows every stored job to its tenant. -/
theorem Sound.status (sound : t.Sound) (member : job ∈ t.jobs) :
    ∃ shown, status job.principalId job.jobId.val t = .ok shown ∧
      shown.val = viewFields job (t.callsOf job.jobId) := by
  obtain ⟨progress, tracks⟩ := sound.tracks job member
  obtain ⟨shown, viewed, same⟩ := view_of_mem sound.keyed member tracks
  refine ⟨shown, ?_, same⟩
  rw [PublicRlm.status, validateIdentity, dif_pos job.jobId.property, ok_bind]
  exact viewed

/-- A job succeeded exactly when all steps of its budget are committed. -/
theorem Sound.succeeded (sound : t.Sound) (member : job ∈ t.jobs) :
    job.phase = .succeeded ↔
      (summaries (t.callsOf job.jobId)).length = job.spec.val.maxModelCalls := by
  obtain ⟨⟨steps, stage⟩, tracks⟩ := sound.tracks job member
  have within := tracks.within
  rw [tracks.rounds.length, tracks.phase]
  by_cases ended : stage = .succeeded
  · subst ended
    simpa [Progress.Within, Stage.phase] using within
  · rw [Progress.Within, if_neg ended] at within
    refine ⟨fun shown => ?_, fun full => absurd full (Nat.ne_of_lt within)⟩
    cases stage <;> simp_all [Stage.phase]

/-- A step of a job has one call, and so one ticket at most. -/
theorem Sound.single (sound : t.Sound) {call other : CallRow H} (member : call ∈ t.calls)
    (stored : other ∈ t.calls) (same : other.jobId = call.jobId)
    (step : other.stepIndex = call.stepIndex) : other = call := by
  obtain ⟨job, there, named⟩ := sound.owned call member
  obtain ⟨progress, tracks⟩ := sound.tracks job there
  have distinct := tracks.rounds.indexed
  refine List.inj_on_of_nodup_map distinct ?_ ?_ step
  · exact List.mem_filter.mpr ⟨stored, by simp [same, named]⟩
  · exact List.mem_filter.mpr ⟨member, by simp [named]⟩

end Shown

/-- Whatever commands arrive in whatever order, every stored job shows a valid view, its revision
counts the commands that changed it, it succeeded exactly when its budget of steps is committed,
and a final phase is never left; each step has one call, whose ticket is kept once it is issued;
no command is refused for a bound of its job, and a refused or repeated one changes nothing. -/
theorem public_jobs_consistent (H : PublicHashing) (events later : List Event) :
    (∀ job ∈ (after H events).jobs,
      (∃ shown, PublicRlm.status job.principalId job.jobId.val (after H events) = .ok shown) ∧
      job.revision = Runs.count step (changes job.jobId) events ({} : Tables H) ∧
      (job.phase = .succeeded ↔
        (summaries ((after H events).callsOf job.jobId)).length = job.spec.val.maxModelCalls) ∧
      (job.phase.Final → job ∈ (after H (events ++ later)).jobs)) ∧
    (∀ call ∈ (after H events).calls, ∀ other ∈ (after H events).calls,
      other.jobId = call.jobId → other.stepIndex = call.stepIndex → other = call) ∧
    Carries KeepsTicket (after H events).calls (after H (events ++ later)).calls ∧
    ∀ event, match (after H events).perform event with
      | .error error => error ∈ refusals ∧ error ≠ historyFull ∧
        (∀ model, error ≠ .validation model) ∧ (after H events).step event = after H events
      | .ok (.replayed _, saved) => saved = after H events
      | .ok (.accepted _, _) => True := by
  have sound := after_sound (H := H) events
  have further : after H (events ++ later) = Runs.run step later (after H events) :=
    Runs.run_append
  refine ⟨fun job member => ⟨?_, ?_, sound.succeeded member, fun final => ?_⟩,
    fun call member other stored => sound.single member stored, ?_, fun event => ?_⟩
  · obtain ⟨shown, viewed, -⟩ := sound.status member
    exact ⟨shown, viewed⟩
  · rw [← sound.counted job member, after_counts]
  · rw [further]
    exact sound.final_run member final later
  · rw [further]
    exact sound.keeps_run later
  · have ends := perform_ends sound event
    cases ran : (after H events).perform event with
    | error error =>
      rw [ran] at ends
      refine ⟨ends, ?_, ?_, by rw [step, ran]⟩
      · rintro rfl
        simp [Ends, refusals, historyFull] at ends
      · rintro model rfl
        simp [Ends, refusals] at ends
    | ok reply =>
      rw [ran] at ends
      cases ends <;> simp

end Tables

end Aar.PublicRlm
