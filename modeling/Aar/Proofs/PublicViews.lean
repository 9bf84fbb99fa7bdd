import Aar.PublicRlm.Coordinator
import Aar.PublicRlm.Stages

/-! The rows of a job at each stage of its progress, and the valid view that they show. -/

namespace Aar.PublicRlm

open Guarded Table

variable {H : PublicHashing}

/-- The certainty of a stage. -/
def Stage.certainty : Stage → OutcomeCertainty
  | stopping | observed | indeterminate => .indeterminate
  | _ => .certain

/-- The state of the call that a stage is about. -/
def Stage.callState : Stage → CallState
  | pending => .pending
  | claimed | stopping => .claimed
  | observed => .observed
  | cancelled => .cancelled
  | _ => .committed

/-- The stages whose call has a ticket. -/
def Stage.Ticketed (stage : Stage) : Prop := stage ∉ [.pending, .cancelled]

/-- The stages whose call has a receipt. -/
def Stage.Received (stage : Stage) : Prop := stage ∈ [.observed, .failed, .indeterminate]

/-- The stages that name a failure. -/
def Stage.Fails (stage : Stage) : Prop :=
  stage ∈ [.stopping, .observed, .failed, .indeterminate]

/-- A call is one of its job's, and its ticket is for it. -/
structure CallRow.Bound (call : CallRow H) (job : JobRow H) : Prop where
  jobId : call.jobId = job.jobId
  specJob : call.callSpec.val.jobId = job.jobId
  specStep : call.callSpec.val.stepIndex = call.stepIndex
  specCall : call.callSpec.val.callId = call.callId
  strategy : call.callSpec.val.strategy = job.spec.val.strategy
  tokens : call.callSpec.val.maxOutputTokens = job.spec.val.maxOutputTokensPerCall
  bytes : call.callSpec.val.maxResultBytes = job.spec.val.maxResultBytesPerCall
  ticket : ∀ ticket, call.ticket = some ticket →
    ticket.val.jobId = job.jobId ∧ ticket.val.callId = call.callId ∧
      ticket.val.stepIndex = call.stepIndex ∧
      ticket.val.callSpecDigest = call.callSpec.val.specDigest

/-- A call whose step is committed. -/
structure CallRow.Committed (call : CallRow H) : Prop where
  state : call.state = .committed
  ticket : call.ticket ≠ none
  receipt : call.callerReceipt ≠ none
  step : ∃ step, call.stepSummary = some step ∧ step.val.stepIndex = call.stepIndex ∧
    step.val.callId = call.callId

/-- The call of the round that follows the committed steps. -/
structure CallRow.At (call : CallRow H) (progress : Progress) : Prop where
  stepIndex : call.stepIndex = progress.steps
  state : call.state = progress.stage.callState
  ticket : call.ticket = none ↔ ¬ progress.stage.Ticketed
  receipt : call.callerReceipt = none ↔ ¬ progress.stage.Received
  step : call.stepSummary = none

/-- The calls of a job: those of the committed steps, and that of the open round if there is one. -/
inductive Rounds (progress : Progress) : List (CallRow H) → Prop where
  | ended (done : List (CallRow H)) (committed : ∀ call ∈ done, call.Committed)
      (numbered : done.map (·.stepIndex) = List.range progress.steps)
      (succeeded : progress.stage = .succeeded) : Rounds progress done
  | opened (done : List (CallRow H)) (last : CallRow H)
      (committed : ∀ call ∈ done, call.Committed)
      (numbered : done.map (·.stepIndex) = List.range progress.steps)
      (running : progress.stage ≠ .succeeded) (at_ : last.At progress) :
      Rounds progress (done ++ [last])

/-- What a stage says about the failure that is kept with it. -/
structure Stage.Explains (stage : Stage) (code message : Option String) : Prop where
  fails : code ≠ none ↔ stage.Fails
  told : message ≠ none → stage.Fails
  codeBounded : ∀ text ∈ code, Bounded 64 text
  messageBounded : ∀ text ∈ message, Bounded 512 text

/-- The rows of a job that has come as far as the progress says. -/
structure Tracks (job : JobRow H) (calls : List (CallRow H)) (progress : Progress) : Prop where
  phase : job.phase = progress.stage.phase
  certainty : job.certainty = progress.stage.certainty
  revision : job.revision = progress.revision
  within : progress.Within job.spec.val.maxModelCalls
  query : job.spec.val.query.utf8ByteSize ≤ 16384
  refined : job.spec.val.strategy = .iterativeRefinement →
    job.spec.val.maxResultBytesPerCall ≤ 32768
  bound : ∀ call ∈ calls, call.Bound job
  distinct : (calls.map (·.callId)).Nodup
  rounds : Rounds progress calls
  finished : job.terminalResult ≠ none ↔ progress.stage = .succeeded
  result : ∀ result, job.terminalResult = some result →
    result.val.steps = Tables.summaries calls ∧ result.val.jobId = job.jobId ∧
      result.val.strategy = job.spec.val.strategy
  failure : progress.stage.Explains job.failureCode job.failureMessage

section Summaries

variable {done : List (CallRow H)} {last : CallRow H}

theorem summaries_append {first second : List (CallRow H)} :
    Tables.summaries (first ++ second) = Tables.summaries first ++ Tables.summaries second := by
  simp [Tables.summaries]

theorem summaries_none (absent : last.stepSummary = none) :
    Tables.summaries [last] = [] := by
  simp [Tables.summaries, absent]

/-- Committed calls have one summary each, under their own numbers and identities. -/
theorem summaries_committed (committed : ∀ call ∈ done, call.Committed) :
    (Tables.summaries done).map (·.stepIndex) = done.map (·.stepIndex) ∧
      (Tables.summaries done).map (·.callId) = done.map (·.callId) := by
  induction done with
  | nil => exact ⟨rfl, rfl⟩
  | cons call rest ih =>
    obtain ⟨step, stored, number, identity⟩ := (committed call List.mem_cons_self).step
    obtain ⟨numbers, identities⟩ := ih fun call later =>
      committed call (List.mem_cons_of_mem _ later)
    have first : Tables.summaries (call :: rest) = step.val :: Tables.summaries rest := by
      simp [Tables.summaries, stored]
    rw [first]
    simp only [List.map_cons, number, identity, numbers, identities, and_self]

end Summaries

section Rounds

variable {progress : Progress} {calls : List (CallRow H)}

/-- The numbers of the calls count up from zero. -/
theorem Rounds.counted (rounds : Rounds progress calls) :
    ∃ count, calls.map (·.stepIndex) = List.range count := by
  cases rounds with
  | ended _ committed numbered succeeded => exact ⟨_, numbered⟩
  | opened done last committed numbered running at_ =>
    refine ⟨progress.steps + 1, ?_⟩
    rw [List.map_append, numbered, List.map_cons, List.map_nil, at_.stepIndex, List.range_succ]

theorem Rounds.indexed (rounds : Rounds progress calls) : (calls.map (·.stepIndex)).Nodup := by
  obtain ⟨count, numbered⟩ := rounds.counted
  rw [numbered]
  exact List.nodup_range

/-- The calls are in step order. -/
theorem Rounds.sorted (rounds : Rounds progress calls) :
    calls.mergeSort (fun first second => first.stepIndex ≤ second.stepIndex) = calls := by
  refine List.mergeSort_of_pairwise ?_
  obtain ⟨count, numbered⟩ := rounds.counted
  have ordered : (calls.map (·.stepIndex)).Pairwise (· ≤ ·) := by
    rw [numbered]
    exact List.pairwise_lt_range.imp Nat.le_of_lt
  simpa using List.pairwise_map.mp ordered

/-- The steps that the calls show count up to the committed number. -/
theorem Rounds.numbered (rounds : Rounds progress calls) :
    (Tables.summaries calls).map (·.stepIndex) = List.range progress.steps := by
  cases rounds with
  | ended _ committed numbered succeeded => rw [(summaries_committed committed).1, numbered]
  | opened done last committed numbered running at_ =>
    rw [summaries_append, summaries_none at_.step, List.append_nil,
      (summaries_committed committed).1, numbered]

theorem Rounds.length (rounds : Rounds progress calls) :
    (Tables.summaries calls).length = progress.steps := by
  simpa using congrArg List.length rounds.numbered

/-- The steps that the calls show belong to distinct calls. -/
theorem Rounds.contiguous (rounds : Rounds progress calls)
    (distinct : (calls.map (·.callId)).Nodup) : Contiguous (Tables.summaries calls) := by
  refine ⟨by rw [rounds.numbered, rounds.length], ?_⟩
  cases rounds with
  | ended _ committed numbered succeeded => rwa [(summaries_committed committed).2]
  | opened done last committed numbered running at_ =>
    rw [summaries_append, summaries_none at_.step, List.append_nil,
      (summaries_committed committed).2]
    rw [List.map_append] at distinct
    exact (List.nodup_append.mp distinct).1

/-- Only the call of a pending round is pending. -/
theorem Rounds.pending (rounds : Rounds progress calls) :
    (∃ call ∈ calls, call.At progress ∧ progress.stage = .pending ∧
        (calls.filter fun call => call.state = .pending).getLast? = some call) ∨
      (progress.stage ≠ .pending ∧
        (calls.filter fun call => call.state = .pending).getLast? = none) := by
  have none_done : ∀ done : List (CallRow H), (∀ call ∈ done, call.Committed) →
      (done.filter fun call => call.state = .pending) = [] := fun done committed =>
    List.filter_eq_nil_iff.mpr fun call member => by simp [(committed call member).state]
  cases rounds with
  | ended _ committed numbered succeeded =>
    exact .inr ⟨by simp [succeeded], by rw [none_done _ committed]; rfl⟩
  | opened done last committed numbered running at_ =>
    rw [List.filter_append, none_done _ committed, List.nil_append]
    by_cases pending : progress.stage = .pending
    · exact .inl ⟨last, by simp, at_, pending, by simp [at_.state, pending, Stage.callState]⟩
    · refine .inr ⟨pending, ?_⟩
      have other : last.state ≠ .pending := by
        rw [at_.state]
        revert pending
        cases progress.stage <;> simp [Stage.callState]
      simp [other]

/-- The last ticket is that of the open round, when its call has one. -/
theorem Rounds.ticket (rounds : Rounds progress calls) (running : progress.stage ≠ .succeeded)
    (ticketed : progress.stage.Ticketed) :
    ∃ call ∈ calls, call.At progress ∧ ∃ ticket, call.ticket = some ticket ∧
      (calls.filterMap (·.ticket)).getLast? = some ticket := by
  cases rounds with
  | ended _ committed numbered succeeded => exact absurd succeeded running
  | opened done last committed numbered running at_ =>
    obtain ⟨ticket, stored⟩ := Option.ne_none_iff_exists'.mp fun absent =>
      at_.ticket.mp absent ticketed
    exact ⟨last, by simp, at_, ticket, stored, by simp [stored]⟩

end Rounds

section Views

variable {job : JobRow H} {calls : List (CallRow H)} {progress : Progress}

theorem Tracks.sorted (tracks : Tracks job calls progress) :
    calls.mergeSort (fun first second => first.stepIndex ≤ second.stepIndex) = calls :=
  tracks.rounds.sorted

theorem Tracks.steps_le (tracks : Tracks job calls progress) :
    progress.steps ≤ job.spec.val.maxModelCalls := by
  have within := tracks.within
  unfold Progress.Within at within
  split at within <;> omega

/-- The pending call that is shown is that of a pending round. -/
theorem Tracks.pendingCall (tracks : Tracks job calls progress) :
    ((Tables.viewFields job calls).pendingCall ≠ none ↔ progress.stage = .pending) ∧
      ∀ call ∈ (Tables.viewFields job calls).pendingCall,
        call.val.stepIndex = progress.steps ∧ call.val.jobId = job.jobId := by
  rcases tracks.rounds.pending with ⟨call, member, at_, pending, found⟩ | ⟨other, found⟩
  · have bound := tracks.bound call member
    simp only [Tables.viewFields, found, Option.map_some]
    refine ⟨by simp [pending], fun shown same => ?_⟩
    cases same
    exact ⟨bound.specStep.trans at_.stepIndex, bound.specJob⟩
  · simp only [Tables.viewFields, found, Option.map_none]
    exact ⟨by simp [other], nofun⟩

/-- The active ticket that is shown is that of a claimed round. -/
theorem Tracks.activeTicket (tracks : Tracks job calls progress) :
    ((Tables.viewFields job calls).activeTicket ≠ none ↔
        progress.stage ∈ [.claimed, .stopping, .observed, .indeterminate]) ∧
      ∀ ticket ∈ (Tables.viewFields job calls).activeTicket,
        ticket.val.stepIndex = progress.steps ∧ ticket.val.jobId = job.jobId := by
  have shows : job.phase ∈ [Phase.awaitingCallerResult, .cancelRequested, .indeterminate] ↔
      progress.stage ∈ [Stage.claimed, .stopping, .observed, .indeterminate] := by
    rw [tracks.phase]
    cases progress.stage <;> simp [Stage.phase]
  by_cases active : progress.stage ∈ [Stage.claimed, .stopping, .observed, .indeterminate]
  · have ticketed : progress.stage ≠ .succeeded ∧ progress.stage.Ticketed := by
      revert active
      cases progress.stage <;> simp [Stage.Ticketed]
    obtain ⟨call, member, at_, ticket, stored, found⟩ :=
      tracks.rounds.ticket ticketed.1 ticketed.2
    obtain ⟨named, -, number, -⟩ := (tracks.bound call member).ticket ticket stored
    simp only [Tables.viewFields, if_pos (shows.mpr active), found]
    refine ⟨by simp [active], fun shown same => ?_⟩
    cases same
    exact ⟨number.trans at_.stepIndex, named⟩
  · simp only [Tables.viewFields, if_neg (fun shown => active (shows.mp shown))]
    exact ⟨by simp [active], by intros; contradiction⟩

/-- What is shown beside the phase is what the phase allows. -/
theorem Tracks.coherent (tracks : Tracks job calls progress) :
    (Tables.viewFields job calls).Coherent H := by
  have pending := tracks.pendingCall.1
  have active := tracks.activeTicket.1
  have finished := tracks.finished
  have code := tracks.failure.fails
  have message := tracks.failure.told
  have phase := tracks.phase
  simp only [ViewFields.Coherent]
  generalize (Tables.viewFields job calls).pendingCall = pendingCall at pending ⊢
  generalize (Tables.viewFields job calls).activeTicket = activeTicket at active ⊢
  simp only [Tables.viewFields, phase]
  cases stage : progress.stage <;> simp_all [Stage.phase, Stage.Fails]

/-- The rows of a job on its way show a valid view. -/
theorem Tracks.valid (tracks : Tracks job calls progress) :
    (Tables.viewFields job calls).Valid H := by
  have length := tracks.rounds.length
  have few := tracks.steps_le
  have budget := job.spec.property.2.2.1
  have revision := Progress.revision_le tracks.within
  have certain : job.certainty = .indeterminate ↔
      job.phase = .cancelRequested ∨ job.phase = .indeterminate := by
    rw [tracks.certainty, tracks.phase]
    cases progress.stage <;> simp [Stage.certainty, Stage.phase]
  refine ⟨?_, ?_, ?_, tracks.failure.codeBounded, tracks.failure.messageBounded, certain,
    tracks.coherent, tracks.rounds.contiguous tracks.distinct, rfl, ?_, ?_, ?_, ?_, ?_, ?_, ?_⟩
  · show job.revision ≤ revisionLimit
    rw [tracks.revision]
    exact Nat.le_trans revision (by unfold revisionLimit; omega)
  · show (Tables.summaries calls).length ≤ 8
    omega
  · show (Tables.summaries calls).length ≤ 8
    omega
  · show (Tables.summaries calls).length ≤ job.spec.val.maxModelCalls
    omega
  · intro call shown
    exact (tracks.pendingCall.2 call shown).1.trans length.symm
  · intro ticket shown
    exact (tracks.activeTicket.2 ticket shown).1.trans length.symm
  · exact fun result shown => (tracks.result result shown).1
  · exact fun call shown => (tracks.pendingCall.2 call shown).2
  · exact fun ticket shown => (tracks.activeTicket.2 ticket shown).2
  · exact fun result shown => (tracks.result result shown).2

/-- A job that has not succeeded has the call of its open round after its committed ones. -/
theorem Rounds.split (rounds : Rounds progress calls) (running : progress.stage ≠ .succeeded) :
    ∃ done last, calls = done ++ [last] ∧ (∀ call ∈ done, call.Committed) ∧
      done.map (·.stepIndex) = List.range progress.steps ∧ last.At progress := by
  cases rounds with
  | ended _ committed numbered succeeded => exact absurd succeeded running
  | opened done last committed numbered running at_ =>
    exact ⟨done, last, rfl, committed, numbered, at_⟩

/-- A call that is not committed is that of the open round. -/
theorem Rounds.openCall {call : CallRow H} (rounds : Rounds progress calls)
    (member : call ∈ calls) (uncommitted : ¬ call.Committed) :
    ∃ done, calls = done ++ [call] ∧ (∀ call ∈ done, call.Committed) ∧
      done.map (·.stepIndex) = List.range progress.steps ∧ call.At progress := by
  cases rounds with
  | ended _ committed numbered succeeded => exact absurd (committed call member) uncommitted
  | opened done last committed numbered running at_ =>
    rcases List.mem_append.mp member with before | here
    · exact absurd (committed call before) uncommitted
    · obtain rfl := List.mem_singleton.mp here
      exact ⟨done, rfl, committed, numbered, at_⟩

theorem Stage.Explains.silent {stage : Stage} (quiet : ¬ stage.Fails) :
    stage.Explains none none :=
  ⟨by simp [quiet], fun told => absurd rfl told, by simp, by simp⟩

theorem Stage.Explains.given {stage : Stage} {code message : String} (fails : stage.Fails)
    (short : Bounded 64 code) (brief : Bounded 512 message) :
    stage.Explains (some code) (some message) :=
  ⟨by simp [fails], fun _ => fails, by simpa using short, by simpa using brief⟩

theorem Tracks.unfinished (tracks : Tracks job calls progress)
    (running : progress.stage ≠ .succeeded) : job.terminalResult = none := by
  by_contra there
  exact running (tracks.finished.mp there)

theorem Tracks.silent (tracks : Tracks job calls progress) (quiet : ¬ progress.stage.Fails) :
    job.failureCode = none ∧ job.failureMessage = none := by
  constructor <;> by_contra there
  · exact quiet (tracks.failure.fails.mp there)
  · exact quiet (tracks.failure.told there)

/-- The rows that a move leaves are those of a job on its way. -/
theorem Tracks.move {job' : JobRow H} {calls' : List (CallRow H)} {after : Progress}
    (tracks : Tracks job calls progress) (move : Move job.spec.val.maxModelCalls progress after)
    (named : job'.jobId = job.jobId) (spec : job'.spec = job.spec)
    (phase : job'.phase = after.stage.phase) (certainty : job'.certainty = after.stage.certainty)
    (revision : job'.revision = job.revision + 1) (bound : ∀ call ∈ calls', call.Bound job)
    (distinct : (calls'.map (·.callId)).Nodup) (rounds : Rounds after calls')
    (finished : job'.terminalResult ≠ none ↔ after.stage = .succeeded)
    (result : ∀ result, job'.terminalResult = some result →
      result.val.steps = Tables.summaries calls' ∧ result.val.jobId = job.jobId ∧
        result.val.strategy = job.spec.val.strategy)
    (failure : after.stage.Explains job'.failureCode job'.failureMessage) :
    Tracks job' calls' after where
  phase
  certainty
  revision := by rw [revision, tracks.revision, move.revision]
  within := spec ▸ move.within tracks.within
  query := spec ▸ tracks.query
  refined := spec ▸ tracks.refined
  bound call member := by
    have own := bound call member
    exact ⟨own.jobId.trans named.symm, own.specJob.trans named.symm, own.specStep, own.specCall,
      spec ▸ own.strategy, spec ▸ own.tokens, spec ▸ own.bytes, fun ticket stored =>
        ⟨(own.ticket ticket stored).1.trans named.symm, (own.ticket ticket stored).2⟩⟩
  distinct
  rounds
  finished
  result := by rw [named, spec]; exact result
  failure

/-- The last call of a job may be rewritten under its identity. -/
theorem Tracks.rewrite {done : List (CallRow H)} {last last' : CallRow H}
    (tracks : Tracks job (done ++ [last]) progress) (own : last'.Bound job)
    (same : last'.callId = last.callId) :
    (∀ call ∈ done ++ [last'], call.Bound job) ∧
      ((done ++ [last']).map (·.callId)).Nodup := by
  constructor
  · intro call member
    rcases List.mem_append.mp member with before | here
    · exact tracks.bound call (List.mem_append_left _ before)
    · exact List.mem_singleton.mp here ▸ own
  · have distinct := tracks.distinct
    simp only [List.map_append, List.map_cons, List.map_nil, same] at distinct ⊢
    exact distinct

end Views

end Aar.PublicRlm
