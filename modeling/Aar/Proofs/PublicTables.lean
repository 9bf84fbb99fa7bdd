import Aar.Lib.Keyed
import Aar.Proofs.PublicValues

/-! Sound tables of the public coordinator, and how an accepted command keeps them sound. -/

namespace Aar.PublicRlm

open Guarded Table

variable {H : PublicHashing}

namespace Tables

/-- The rows of every job are those of a job on its way, and every other row has its job. -/
structure Sound (t : Tables H) : Prop where
  keyed : Keyed (·.jobId) t.jobs
  identified : Keyed (·.callId) t.calls
  owned : ∀ call ∈ t.calls, ∃ job ∈ t.jobs, job.jobId = call.jobId
  logged : ∀ command ∈ t.commands, ∃ job ∈ t.jobs, job.jobId = command.jobId
  tracks : ∀ job ∈ t.jobs, ∃ progress, Tracks job (t.callsOf job.jobId) progress
  counted : ∀ job ∈ t.jobs, (t.commandsOf job.jobId).length = job.revision

theorem Sound.empty : ({} : Tables H).Sound where
  keyed := .nil
  identified := .nil
  owned _ member := absurd member List.not_mem_nil
  logged _ member := absurd member List.not_mem_nil
  tracks _ member := absurd member List.not_mem_nil
  counted _ member := absurd member List.not_mem_nil

section Reading

variable {t : Tables H} {job : JobRow H} {principalId : String} {jobId : Token}

theorem jobRow_ok (found : t.jobRow principalId jobId = .ok job) :
    job ∈ t.jobs ∧ job.jobId = jobId ∧ job.principalId = principalId :=
  fetchOne_some (orRaise_ok.mp found)

/-- A stored job is read under its own names. -/
theorem jobRow_of_mem (keyed : Keyed (·.jobId) t.jobs) (member : job ∈ t.jobs) :
    t.jobRow job.principalId job.jobId = .ok job := by
  rw [jobRow, orRaise_ok]
  cases found : fetchOne t.jobs fun stored =>
      stored.jobId = job.jobId ∧ stored.principalId = job.principalId with
  | none => exact absurd ⟨rfl, rfl⟩ (fetchOne_none.mp found job member)
  | some other =>
    obtain ⟨stored, same, -⟩ := fetchOne_some found
    rw [keyed.unique stored member same]

/-- A job on its way has a view. -/
theorem view_of_mem {progress : Progress} (keyed : Keyed (·.jobId) t.jobs) (member : job ∈ t.jobs)
    (tracks : Tracks job (t.callsOf job.jobId) progress) :
    ∃ shown, t.view job.principalId job.jobId = .ok shown ∧
      shown.val = viewFields job (t.callsOf job.jobId) := by
  have ordered : t.callRows job.jobId = t.callsOf job.jobId := tracks.sorted
  refine ⟨⟨_, tracks.valid⟩, ?_, rfl⟩
  rw [view, jobRow_of_mem keyed member, ok_bind, ordered, build_ok tracks.valid]

end Reading

end Tables

/-- A call keeps the ticket it has, under its number. -/
def KeepsTicket (call call' : CallRow H) : Prop :=
  call'.jobId = call.jobId ∧ call'.stepIndex = call.stepIndex ∧
    ∀ ticket, call.ticket = some ticket → call'.ticket = some ticket

/-- An accepted command moves one job, keeps its tickets, and leaves the other jobs as they are. -/
structure Accepted (t saved : Tables H) (job job' : JobRow H) (command : CommandRow) : Prop where
  jobs : Replaces (·.jobId) job job' t.jobs saved.jobs
  tenant : job'.principalId = job.principalId
  spec : job'.spec = job.spec
  commands : saved.commands = t.commands ++ [command]
  target : command.jobId = job.jobId
  others : ∀ jobId, jobId ≠ job.jobId → saved.callsOf jobId = t.callsOf jobId
  identified : Keyed (·.callId) saved.calls
  owned : ∀ call ∈ saved.calls, ∃ job ∈ t.jobs, job.jobId = call.jobId
  kept : Carries KeepsTicket t.calls saved.calls
  moved : ∃ before after, Tracks job (t.callsOf job.jobId) before ∧
    Tracks job' (saved.callsOf job.jobId) after ∧
    Move job.spec.val.maxModelCalls before after

/-- An accepted start adds a job under a new identity, with its first call. -/
structure Started (t saved : Tables H) (job : JobRow H) (call : CallRow H) : Prop where
  jobs : saved.jobs = t.jobs ++ [job]
  calls : saved.calls = t.calls ++ [call]
  commands : saved.commands = t.commands
  fresh : ∀ stored ∈ t.jobs, stored.jobId ≠ job.jobId
  unused : ∀ stored ∈ t.calls, stored.callId ≠ call.callId
  owner : call.jobId = job.jobId
  tracks : Tracks job [call] ⟨0, .pending⟩

section Keeping

variable {t saved : Tables H} {job job' : JobRow H} {command : CommandRow} {call : CallRow H}

theorem Accepted.revision (accepted : Accepted t saved job job' command) :
    job'.revision = job.revision + 1 := by
  obtain ⟨before, after, left, right, move⟩ := accepted.moved
  rw [left.revision, right.revision, move.revision]

theorem Accepted.names (accepted : Accepted t saved job job' command) :
    Carries (fun row row' => row'.jobId = row.jobId) t.jobs saved.jobs :=
  accepted.jobs.carries (fun _ => rfl) accepted.jobs.named

theorem commandsOf_append {jobId : Token} (same : saved.commands = t.commands ++ [command]) :
    (saved.commandsOf jobId).length =
      (t.commandsOf jobId).length + if command.jobId = jobId then 1 else 0 := by
  simp only [Tables.commandsOf, same, List.filter_append, List.length_append]
  by_cases here : command.jobId = jobId <;> simp [here]

/-- An accepted command keeps the tables sound. -/
theorem Accepted.sound (accepted : Accepted t saved job job' command) (sound : t.Sound) :
    saved.Sound where
  keyed := accepted.jobs.keyed sound.keyed
  identified := accepted.identified
  owned call member := by
    obtain ⟨owner, there, same⟩ := accepted.owned call member
    obtain ⟨row, here, names⟩ := accepted.names owner there
    exact ⟨row, here, names.trans same⟩
  logged row member := by
    have owner : ∃ job ∈ t.jobs, job.jobId = row.jobId := by
      rw [accepted.commands, List.mem_append, List.mem_singleton] at member
      rcases member with stored | rfl
      · exact sound.logged row stored
      · exact ⟨job, accepted.jobs.old, accepted.target.symm⟩
    obtain ⟨owner, there, same⟩ := owner
    obtain ⟨row, here, names⟩ := accepted.names owner there
    exact ⟨row, here, names.trans same⟩
  tracks row member := by
    rcases accepted.jobs.mem.mp member with rfl | ⟨stored, apart⟩
    · obtain ⟨before, after, -, tracks, -⟩ := accepted.moved
      exact ⟨after, by rwa [accepted.jobs.named]⟩
    · rw [accepted.others row.jobId apart]
      exact sound.tracks row stored
  counted row member := by
    rw [commandsOf_append accepted.commands, accepted.target]
    rcases accepted.jobs.mem.mp member with rfl | ⟨stored, apart⟩
    · rw [accepted.jobs.named, if_pos rfl, sound.counted job accepted.jobs.old, accepted.revision]
    · rw [if_neg (Ne.symm apart), sound.counted row stored, Nat.add_zero]

/-- A job that is not stored has no rows. -/
theorem Tables.Sound.unused (sound : t.Sound) {jobId : Token}
    (fresh : ∀ stored ∈ t.jobs, stored.jobId ≠ jobId) :
    t.callsOf jobId = [] ∧ t.commandsOf jobId = [] := by
  constructor
  · refine List.filter_eq_nil_iff.mpr fun call member => ?_
    obtain ⟨job, stored, same⟩ := sound.owned call member
    simpa [← same] using fresh job stored
  · refine List.filter_eq_nil_iff.mpr fun command member => ?_
    obtain ⟨job, stored, same⟩ := sound.logged command member
    simpa [← same] using fresh job stored

/-- A start leaves the calls of the other jobs, and gives the new job its first one. -/
theorem Started.callsOf (started : Started t saved job call) (sound : t.Sound) {jobId : Token} :
    saved.callsOf jobId = if job.jobId = jobId then [call] else t.callsOf jobId := by
  simp only [Tables.callsOf, started.calls, List.filter_append]
  by_cases here : job.jobId = jobId
  · subst here
    rw [if_pos rfl]
    have before := (sound.unused started.fresh).1
    simp only [Tables.callsOf] at before
    rw [before]
    simp [started.owner]
  · simp [started.owner, here]

/-- An accepted start keeps the tables sound. -/
theorem Started.sound (started : Started t saved job call) (sound : t.Sound) : saved.Sound where
  keyed := started.jobs ▸ sound.keyed.append (.added job started.fresh)
  identified := started.calls ▸ sound.identified.append (.added call started.unused)
  owned row member := by
    rw [started.calls, List.mem_append, List.mem_singleton] at member
    rw [started.jobs]
    rcases member with stored | rfl
    · obtain ⟨owner, there, same⟩ := sound.owned row stored
      exact ⟨owner, List.mem_append_left _ there, same⟩
    · exact ⟨job, by simp, started.owner.symm⟩
  logged row member := by
    rw [started.commands] at member
    obtain ⟨owner, there, same⟩ := sound.logged row member
    exact ⟨owner, started.jobs ▸ List.mem_append_left _ there, same⟩
  tracks row member := by
    rw [started.jobs, List.mem_append, List.mem_singleton] at member
    rw [started.callsOf sound]
    rcases member with stored | rfl
    · rw [if_neg (Ne.symm (started.fresh row stored))]
      exact sound.tracks row stored
    · rw [if_pos rfl]
      exact ⟨_, started.tracks⟩
  counted row member := by
    rw [started.jobs, List.mem_append, List.mem_singleton] at member
    simp only [Tables.commandsOf, started.commands]
    rcases member with stored | rfl
    · exact sound.counted row stored
    · have none := (sound.unused started.fresh).2
      simp only [Tables.commandsOf] at none
      rw [none, started.tracks.revision]
      rfl

end Keeping

/-- The job that a command is about; a start is about none yet. -/
def Command.target : Command → Option String
  | start _ _ => none
  | claim request => some request.jobId.val
  | commit request => some request.val.jobId.val
  | cancel jobId _ _ => some jobId

/-- The errors a command may be refused with: none of them is a bound that its job has reached. -/
def refusals : List RlmError :=
  [.value "idempotency_key is not a bounded public identity",
    .value "job_id is not a bounded public identity",
    .value "public RLM query exceeds the fixed UTF-8 byte bound",
    .value "iterative refinement result bytes cannot exceed 32768",
    .conflict "public RLM start idempotency key is bound to different job bytes",
    .capacityExceeded "tenant retained RLM job count reached the configured limit",
    .integrity "public_rlm_jobs", .integrity "public_rlm_calls",
    .notFound "public RLM job was not found for this tenant",
    .conflict "public RLM idempotency key is already bound to different request bytes",
    .conflict "model-call identity is not pending for this RLM job",
    .conflict "model call is already claimed by an execution ticket",
    .conflict "public RLM job revision changed; read status before retrying",
    .invalidTransition "public RLM job does not have an unclaimed pending model call",
    .conflict "claim request call specification digest does not match",
    .conflict "model call has no claimed execution ticket",
    .conflict "execution ticket digest does not match the claimed call",
    .conflict "model call is already committed; replay the original idempotency key",
    .conflict "model call already binds a different caller observation",
    .invalidTransition "public RLM job is not awaiting this caller result",
    .conflict ("public RLM job is already terminal or cancellation is already recorded; " ++
      "replay the original idempotency key")]

/-- What a command returns, and what it did to the tables. -/
inductive Reply (command : Command) (t : Tables H) : Answer H × Tables H → Prop where
  | replayed (shown : JobView H) : Reply command t (.replayed shown, t)
  | started (shown : JobView H) (saved : Tables H) (job : JobRow H) (call : CallRow H)
      (names : command.target = none) (started : Started t saved job call) :
      Reply command t (.accepted shown, saved)
  | accepted (shown : JobView H) (saved : Tables H) (job job' : JobRow H) (row : CommandRow)
      (names : command.target = some job.jobId.val) (accepted : Accepted t saved job job' row) :
      Reply command t (.accepted shown, saved)

/-- The calls of one job are written, and nothing else. -/
structure Prepared (t written : Tables H) (jobId : Token) : Prop where
  jobs : written.jobs = t.jobs
  commands : written.commands = t.commands
  others : ∀ other, other ≠ jobId → written.callsOf other = t.callsOf other
  identified : Keyed (·.callId) t.calls → Keyed (·.callId) written.calls
  owned : ∀ call ∈ written.calls, call.jobId = jobId ∨ ∃ stored ∈ t.calls, stored.jobId = call.jobId
  kept : Carries KeepsTicket t.calls written.calls

section Writing

variable {t written final : Tables H} {jobId : Token}

theorem KeepsTicket.refl (call : CallRow H) : KeepsTicket call call :=
  ⟨rfl, rfl, fun _ stored => stored⟩

theorem KeepsTicket.trans {first second third : CallRow H} (left : KeepsTicket first second)
    (right : KeepsTicket second third) : KeepsTicket first third :=
  ⟨right.1.trans left.1, right.2.1.trans left.2.1,
    fun ticket stored => right.2.2 ticket (left.2.2 ticket stored)⟩

/-- Writes to the calls of one job may follow one another. -/
theorem Prepared.trans (first : Prepared t written jobId) (second : Prepared written final jobId) :
    Prepared t final jobId where
  jobs := second.jobs.trans first.jobs
  commands := second.commands.trans first.commands
  others other apart := (second.others other apart).trans (first.others other apart)
  identified := fun keyed => second.identified (first.identified keyed)
  owned call member := by
    rcases second.owned call member with own | ⟨stored, there, same⟩
    · exact .inl own
    · rcases first.owned stored there with own | ⟨origin, here, named⟩
      · exact .inl (same.symm.trans own)
      · exact .inr ⟨origin, here, named.trans same⟩
  kept := first.kept.trans KeepsTicket.trans second.kept

/-- Rewriting calls of one job under their names, with their tickets, prepares a command. -/
theorem Prepared.update {matching : CallRow H → Prop} [DecidablePred matching]
    {change : CallRow H → CallRow H} (inside : ∀ call, matching call → call.jobId = jobId)
    (named : ∀ call, (change call).callId = call.callId)
    (tickets : ∀ call ∈ t.calls, matching call → KeepsTicket call (change call))
    (placed : ∀ call, (change call).jobId = call.jobId) :
    Prepared t { t with calls := updateWhere t.calls matching change } jobId where
  jobs := rfl
  commands := rfl
  others other apart := by
    simp only [Tables.callsOf]
    rw [filter_updateWhere fun call _ => by rw [placed call]]
    refine updateWhere_none fun call member matched => apart ?_
    rw [← inside call matched]
    exact Eq.symm (by simpa using (List.mem_filter.mp member).2)
  identified keyed := by
    rw [Keyed, updateWhere_column fun call _ => named call]
    exact keyed
  owned call member := by
    obtain ⟨stored, there, same⟩ := mem_updateWhere.mp member
    refine .inr ⟨stored, there, ?_⟩
    rw [← same]
    split
    · exact (placed stored).symm
    · rfl
  kept call member := by
    refine ⟨_, mem_updateWhere.mpr ⟨call, member, rfl⟩, ?_⟩
    split
    · next matched => exact tickets call member matched
    · exact .refl call

/-- Inserting a call of one job under a new identity prepares a command. -/
theorem Prepared.insert {call : CallRow H} (own : call.jobId = jobId)
    (fresh : ∀ stored ∈ t.calls, stored.callId ≠ call.callId) :
    Prepared t { t with calls := t.calls ++ [call] } jobId where
  jobs := rfl
  commands := rfl
  others other apart := by simp [Tables.callsOf, own, Ne.symm apart]
  identified keyed := keyed.append (.added call fresh)
  owned row member := by
    rcases List.mem_append.mp member with stored | new
    · exact .inr ⟨row, stored, rfl⟩
    · exact .inl (List.mem_singleton.mp new ▸ own)
  kept := .append KeepsTicket.refl _

end Writing

/-- A rewrite that matches only the last call of a job leaves the calls before it. -/
theorem callsOf_update {t : Tables H} {jobId : Token} {done : List (CallRow H)}
    {last : CallRow H} (matching : CallRow H → Prop) [DecidablePred matching]
    (change : CallRow H → CallRow H) (placed : ∀ call, (change call).jobId = call.jobId)
    (split : t.callsOf jobId = done ++ [last]) (apart : ∀ call ∈ done, ¬ matching call)
    (matched : matching last) :
    Tables.callsOf { t with calls := updateWhere t.calls matching change } jobId =
      done ++ [change last] := by
  simp only [Tables.callsOf] at split ⊢
  rw [filter_updateWhere fun call _ => by rw [placed call], split, updateWhere_last apart matched]

section Concluding

variable {t written : Tables H} {job : JobRow H} {command : Command} {row : CommandRow}
  {change : JobRow H → JobRow H} {before after : Progress} {lost principalId : String}
  {jobId : Token} {expectedRevision : Nat} {phase : Phase}

/-- A command whose writes move its job is accepted. -/
theorem conclude_ends (sound : t.Sound) (member : job ∈ t.jobs) (named : job.jobId = jobId)
    (owner : job.principalId = principalId) (expected : job.revision = expectedRevision)
    (present : job.phase = phase) (prepared : Prepared t written job.jobId)
    (same : (change job).jobId = job.jobId)
    (tenant : (change job).principalId = job.principalId) (spec : (change job).spec = job.spec)
    (names : command.target = some job.jobId.val) (target : row.jobId = job.jobId)
    (fresh : ∀ stored ∈ t.commands, ¬ (stored.jobId = row.jobId ∧
      stored.commandKind = row.commandKind ∧ stored.idempotencyKey = row.idempotencyKey))
    (tracks : Tracks job (t.callsOf job.jobId) before)
    (moved : Tracks { change job with revision := job.revision + 1 }
      (written.callsOf job.jobId) after)
    (move : Move job.spec.val.maxModelCalls before after) :
    Ends (· ∈ refusals) (Reply command t)
      (written.advance principalId jobId expectedRevision phase change lost >>= fun saved =>
        saved.conclude principalId row) := by
  subst named owner expected present
  -- Exactly the job itself is updated.
  have keyed : Keyed (·.jobId) written.jobs := prepared.jobs ▸ sound.keyed
  have stored : job ∈ written.jobs := prepared.jobs ▸ member
  let matching : JobRow H → Prop := fun stored => stored.jobId = job.jobId ∧
    stored.principalId = job.principalId ∧ stored.revision = job.revision ∧
    stored.phase = job.phase
  let raised : JobRow H → JobRow H := fun stored =>
    { change stored with revision := stored.revision + 1 }
  let job' : JobRow H := raised job
  have replaced : Replaces (·.jobId) job job' written.jobs
      (updateWhere written.jobs matching raised) :=
    keyed.replaces stored ⟨rfl, rfl, rfl, rfl⟩ (fun _ _ matched => matched.1)
      (show (raised job).jobId = job.jobId from same)
  have replaces : Replaces (·.jobId) job job' t.jobs
      (updateWhere written.jobs matching raised) := prepared.jobs ▸ replaced
  have one : written.jobs.countP (fun stored => decide (matching stored)) = 1 :=
    countP_one keyed stored ⟨rfl, rfl, rfl, rfl⟩ fun _ _ matched => matched.1
  let saved : Tables H := { written with jobs := updateWhere written.jobs matching raised }
  have advanced : written.advance job.principalId job.jobId job.revision job.phase change lost =
      .ok saved := by
    simp only [Tables.advance, bind_ok, updateOne_ok, pure_ok]
    exact ⟨_, ⟨one, rfl⟩, rfl⟩
  rw [advanced, ok_bind]
  -- The moved job is shown, and its history has room for the command.
  have here : job' ∈ saved.jobs := replaces.mem.mpr (.inl rfl)
  have keyed' : Keyed (·.jobId) saved.jobs := replaces.keyed sound.keyed
  have calls : saved.callsOf job'.jobId = written.callsOf job.jobId := congrArg _ same
  obtain ⟨shown, viewed, -⟩ := Tables.view_of_mem keyed' here (calls ▸ moved)
  have read := Tables.jobRow_of_mem keyed' here
  have names' : job'.jobId = row.jobId := same.trans target.symm
  have tenant' : job'.principalId = job.principalId := tenant
  rw [names', tenant'] at viewed read
  have room : (saved.commandsOf row.jobId).length < 2 * job'.spec.val.maxModelCalls + 1 := by
    have count := sound.counted job member
    have limit := Progress.revision_le moved.within
    have budget : job'.spec = job.spec := spec
    rw [tracks.revision] at count
    rw [move.revision] at limit
    have history : saved.commandsOf row.jobId = t.commandsOf job.jobId := by
      simp only [Tables.commandsOf, target]
      exact congrArg _ prepared.commands
    rw [history, count, budget]
    have same : job'.spec.val.maxModelCalls = job.spec.val.maxModelCalls := by rw [budget]
    have bound : before.revision + 1 ≤ 2 * job.spec.val.maxModelCalls + 1 := same ▸ limit
    omega
  have added : saved.saveCommand job.principalId row =
      .ok { saved with commands := saved.commands ++ [row] } := by
    simp only [Tables.saveCommand, read, ok_bind, bind_ok, require_ok, insertUnique_ok, pure_ok]
    exact ⟨(), room, _, ⟨fun stored there => fresh stored (prepared.commands ▸ there), rfl⟩, rfl⟩
  rw [Tables.conclude, viewed, ok_bind, added, ok_bind]
  refine .accepted shown _ job job' row names
    { jobs := replaces, tenant, spec, target
      commands := congrArg (· ++ [row]) prepared.commands
      others := prepared.others
      identified := prepared.identified sound.identified
      owned := fun call there => ?_
      kept := prepared.kept
      moved := ⟨before, after, tracks, moved, move⟩ }
  rcases prepared.owned call there with own | ⟨origin, known, same⟩
  · exact ⟨job, member, own.symm⟩
  · obtain ⟨owner, present, named⟩ := sound.owned origin known
    exact ⟨owner, present, named.trans same⟩

end Concluding

end Aar.PublicRlm
