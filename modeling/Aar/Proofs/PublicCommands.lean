import Aar.Proofs.PublicTables

/-! What each command of the public coordinator does to sound tables, and how it may be refused. -/

namespace Aar.PublicRlm

open Guarded Table

variable {H : PublicHashing} {t : Tables H} {command : Command}

/-- A command that names a job is repeated, refused, or continued from the job it names. -/
theorem named_ends (sound : t.Sound) {principalId : String} {jobId : Token} {kind : CommandKind}
    {key : Token} {digest : Digest} {rest : JobRow H → Except RlmError (Answer H × Tables H)}
    (continued : ∀ job ∈ t.jobs, job.jobId = jobId → job.principalId = principalId →
      (∀ stored ∈ t.commands, ¬ (stored.jobId = jobId ∧ stored.commandKind = kind ∧
        stored.idempotencyKey = key)) →
      Ends (· ∈ refusals) (Reply command t) (rest job)) :
    Ends (· ∈ refusals) (Reply command t) (do
      let job ← t.jobRow principalId jobId
      match ← t.commandReplay principalId jobId kind key digest with
      | some shown => return (.replayed shown, t)
      | none => rest job) := by
  refine .orRaise (fun _ => by simp [refusals]) fun job found => ?_
  obtain ⟨member, named, tenant⟩ := Tables.jobRow_ok (orRaise_ok.mpr found)
  unfold Tables.commandReplay
  split
  · next absent =>
    exact continued job member named tenant fun stored there =>
      fetchOne_none.mp absent stored there
  · obtain ⟨progress, tracks⟩ := sound.tracks job member
    obtain ⟨shown, viewed, -⟩ := Tables.view_of_mem sound.keyed member tracks
    rw [named, tenant] at viewed
    simp only [bind_assoc]
    refine .require (fun _ => by simp [refusals]) fun _ => ?_
    rw [viewed]
    exact .replayed shown

/-- `claim` on sound tables. -/
theorem claim_ends (sound : t.Sound) (principalId : String) (request : ClaimRequest) :
    Ends (· ∈ refusals) (Reply (.claim request) t) (claim principalId request t) := by
  unfold claim
  refine named_ends sound fun job member named tenant fresh => ?_
  obtain ⟨before, tracks⟩ := sound.tracks job member
  refine .orRaise (fun _ => by simp [refusals]) fun call found => ?_
  obtain ⟨stored, own, identity⟩ := fetchOne_some found
  have inside : call ∈ t.callsOf job.jobId := List.mem_filter.mpr ⟨stored, by simp [own, named]⟩
  refine .require (fun _ => by simp [refusals]) fun unclaimed => ?_
  refine .require (fun _ => by simp [refusals]) fun expected => ?_
  refine .require (fun _ => by simp [refusals]) fun unread => ?_
  obtain ⟨phase, pending⟩ := unread
  have bound := tracks.bound call inside
  have issued := issue_ticket_ends job.spec request
    (own.symm.trans (bound.jobId.trans bound.specJob.symm))
    (identity.symm.trans bound.specCall.symm) bound.strategy bound.tokens bound.bytes
  have listed : ∀ error : RlmError,
      error = .value "claim request call specification digest does not match" →
      error.asConflict ∈ refusals := by
    rintro _ rfl
    simp [refusals, RlmError.asConflict]
  refine .bind (issued.mapError listed) fun ticket claimed => ?_
  -- The claimed call is that of the pending round.
  obtain ⟨steps, stage⟩ := before
  have pendingStage : stage = .pending := by
    have shown := tracks.phase.symm.trans phase
    revert shown
    cases stage <;> simp [Stage.phase]
  subst pendingStage
  obtain ⟨done, split, committed, numbered, at_⟩ := tracks.rounds.openCall inside
    fun done => absurd (pending.symm.trans done.state) (by simp)
  have rows := tracks
  rw [split] at rows
  let claimedCall : CallRow H := { call with state := .claimed, ticket := some ticket }
  have changed : claimedCall.Bound job :=
    { bound with
      ticket := fun given same => by
        obtain rfl : ticket = given := Option.some.inj same
        exact ⟨claimed.jobId.trans bound.specJob, claimed.callId.trans bound.specCall,
          claimed.stepIndex.trans bound.specStep, claimed.callSpecDigest⟩ }
  obtain ⟨bounds, distinct⟩ := rows.rewrite changed rfl
  have written := callsOf_update
    (fun stored => stored.jobId = request.jobId ∧ stored.callId = request.callId ∧
      stored.state = .pending)
    (fun stored => { stored with state := .claimed, ticket := some ticket }) (fun _ => rfl) split
    (fun other earlier hit => absurd (hit.2.2.symm.trans (committed other earlier).state) (by simp))
    ⟨own, identity, pending⟩
  have move : Move job.spec.val.maxModelCalls ⟨steps, .pending⟩ ⟨steps, .claimed⟩ := .claim steps
  have names : (Command.claim request).target = some job.jobId.val := by
    rw [Command.target, named]
  refine conclude_ends sound member named tenant expected phase
    (.update (fun other hit => hit.1.trans named.symm) (fun _ => rfl) (fun other there hit => ?_)
      fun _ => rfl)
    rfl rfl rfl names named.symm fresh tracks ?_ move
  · -- The only call under the identity has no ticket yet.
    obtain rfl := sound.identified.unique there stored (hit.2.1.trans identity.symm)
    exact ⟨rfl, rfl, fun given same => absurd (unclaimed.symm.trans same) (by simp)⟩
  · rw [written]
    have absent := tracks.unfinished (by simp)
    obtain ⟨noCode, noMessage⟩ := tracks.silent (by simp [Stage.Fails])
    refine tracks.move move rfl rfl rfl tracks.certainty rfl bounds distinct
      (.opened done claimedCall committed numbered (by simp)
        ⟨at_.stepIndex, rfl, by simp [claimedCall, Stage.Ticketed],
          at_.receipt.trans (by simp [Stage.Received]), at_.step⟩)
      (by simp [absent]) (fun result kept => absurd (absent.symm.trans kept) (by simp)) ?_
    simp only [noCode, noMessage]
    exact .silent (by simp [Stage.Fails])

/-- A text that is a bounded identity is validated as one. -/
theorem validateIdentity_ends {value label : String}
    {rest : Token → Except RlmError (Answer H × Tables H)}
    (listed : .value (label ++ " is not a bounded public identity") ∈ refusals)
    (continued : ∀ identity : Token, identity.val = value →
      Ends (· ∈ refusals) (Reply command t) (rest identity)) :
    Ends (· ∈ refusals) (Reply command t) (validateIdentity value label >>= rest) := by
  by_cases bounded : IsToken value
  · simpa [validateIdentity, bounded, Bind.bind, Except.bind] using continued ⟨value, bounded⟩ rfl
  · simpa [validateIdentity, bounded, Bind.bind, Except.bind, Ends] using listed

/-- `cancel` on sound tables. -/
theorem cancel_ends (sound : t.Sound) (principalId jobId : String) (expectedRevision : Nat)
    (idempotencyKey : String) :
    Ends (· ∈ refusals) (Reply (.cancel jobId expectedRevision idempotencyKey) t)
      (cancel principalId jobId expectedRevision idempotencyKey t) := by
  unfold cancel
  refine validateIdentity_ends (by simp [refusals]) fun identity same => ?_
  refine validateIdentity_ends (by simp [refusals]) fun key _ => ?_
  refine named_ends sound fun job member named tenant fresh => ?_
  obtain ⟨⟨steps, stage⟩, tracks⟩ := sound.tracks job member
  refine .require (fun _ => by simp [refusals]) fun running => ?_
  refine .require (fun _ => by simp [refusals]) fun expected => ?_
  have names : (Command.cancel jobId expectedRevision idempotencyKey).target =
      some job.jobId.val := by rw [Command.target, named, same]
  have prepared : Prepared t { t with
      calls := updateWhere t.calls
        (fun stored => job.phase = .pendingModelCall ∧ stored.jobId = identity ∧
          stored.state = .pending)
        fun stored => { stored with state := .cancelled } } job.jobId :=
    .update (fun other hit => hit.2.1.trans named.symm) (fun _ => rfl)
      (fun other _ _ => ⟨rfl, rfl, fun _ kept => kept⟩) fun _ => rfl
  have stages : stage = .pending ∨ stage = .claimed := by
    have shown := tracks.phase
    revert running
    rw [shown]
    cases stage <;> simp [Stage.phase]
  rcases stages with rfl | rfl
  · -- The call of the pending round is cancelled with certainty.
    have phase : job.phase = .pendingModelCall := tracks.phase
    obtain ⟨done, last, split, committed, numbered, at_⟩ := tracks.rounds.split (by simp)
    have rows := tracks
    rw [split] at rows
    have bound := tracks.bound last (by simp [split])
    let cancelledCall : CallRow H := { last with state := .cancelled }
    obtain ⟨bounds, distinct⟩ := rows.rewrite (show cancelledCall.Bound job from { bound with }) rfl
    have written := callsOf_update
      (fun stored => job.phase = .pendingModelCall ∧ stored.jobId = identity ∧
        stored.state = .pending)
      (fun stored => { stored with state := .cancelled }) (fun _ => rfl) split
      (fun other earlier hit => absurd (hit.2.2.symm.trans (committed other earlier).state) (by simp))
      ⟨phase, bound.jobId.trans named, at_.state⟩
    have move : Move job.spec.val.maxModelCalls ⟨steps, .pending⟩ ⟨steps, .cancelled⟩ :=
      .cancel steps
    refine conclude_ends sound member named tenant expected rfl prepared rfl rfl rfl names
      named.symm fresh tracks ?_ move
    rw [written]
    have absent := tracks.unfinished (by simp)
    simp only [phase, if_true]
    exact tracks.move move rfl rfl rfl rfl rfl bounds distinct
      (.opened done cancelledCall committed numbered (by simp)
        ⟨at_.stepIndex, rfl, at_.ticket.trans (by simp [Stage.Ticketed]),
          at_.receipt.trans (by simp [Stage.Received]), at_.step⟩)
      (by simp [absent]) (fun result kept => absurd (absent.symm.trans kept) (by simp))
      (.silent (by simp [Stage.Fails]))
  · -- The claimed call stays as it is, and the request is recorded beside it.
    have phase : job.phase = .awaitingCallerResult := tracks.phase
    have same : updateWhere t.calls
        (fun stored => job.phase = .pendingModelCall ∧ stored.jobId = identity ∧
          stored.state = .pending)
        (fun stored => { stored with state := .cancelled }) = t.calls :=
      updateWhere_none fun _ _ hit => absurd (phase.symm.trans hit.1) (by simp)
    obtain ⟨done, last, split, committed, numbered, at_⟩ := tracks.rounds.split (by simp)
    have move : Move job.spec.val.maxModelCalls ⟨steps, .claimed⟩ ⟨steps, .stopping⟩ := .stop steps
    refine conclude_ends sound member named tenant expected rfl prepared rfl rfl rfl names
      named.symm fresh tracks ?_ move
    rw [same]
    have absent := tracks.unfinished (by simp)
    simp only [phase, reduceCtorEq, if_false]
    exact tracks.move move rfl rfl rfl rfl rfl tracks.bound tracks.distinct
      (split ▸ .opened done last committed numbered (by simp)
        ⟨at_.stepIndex, at_.state, at_.ticket.trans (by simp [Stage.Ticketed]),
          at_.receipt.trans (by simp [Stage.Received]), at_.step⟩)
      (by simp [absent]) (fun result kept => absurd (absent.symm.trans kept) (by simp))
      (.given (by simp [Stage.Fails]) (by decide +kernel) (by decide +kernel))

/-- `start` on sound tables. -/
theorem start_ends (sound : t.Sound) (principalId : String) (maxJobs : Nat) (spec : JobSpec)
    (idempotencyKey : String) :
    Ends (· ∈ refusals) (Reply (.start spec idempotencyKey) t)
      (start principalId maxJobs spec idempotencyKey t) := by
  unfold start
  refine validateIdentity_ends (by simp [refusals]) fun key _ => ?_
  refine .require (fun _ => by simp [refusals]) fun query => ?_
  refine .require (fun _ => by simp [refusals]) fun refined => ?_
  dsimp only
  split
  · next existing found =>
    obtain ⟨member, tenant, -⟩ := fetchOne_some found
    obtain ⟨progress, tracks⟩ := sound.tracks existing member
    obtain ⟨shown, viewed, -⟩ := Tables.view_of_mem sound.keyed member tracks
    rw [tenant] at viewed
    refine .require (fun _ => by simp [refusals]) fun _ => ?_
    rw [viewed]
    exact .replayed shown
  · refine .require (fun _ => by simp [refusals]) fun _ => ?_
    refine .bind (callSpec_ends query (fun _ => rfl) (Nat.zero_le _) (by simp) (by simp))
      fun call given => ?_
    -- The first call is pending, so the view of the new job is valid.
    let job : JobRow H :=
      { jobId := H.jobId principalId key, principalId, startIdempotencyKey := key
        startRequestDigest := H.start key spec.val, spec, phase := .pendingModelCall
        certainty := .certain, revision := 0 }
    let row : CallRow H :=
      { jobId := H.jobId principalId key, stepIndex := call.val.stepIndex
        callId := call.val.callId, state := .pending, callSpec := call }
    have bound : row.Bound job := ⟨rfl, given.jobId, rfl, rfl, given.strategy, given.tokens,
      given.bytes, fun _ absent => nomatch absent⟩
    have budget : 1 ≤ spec.val.maxModelCalls := spec.property.2.1
    have tracks : Tracks job [row] ⟨0, .pending⟩ :=
      { phase := rfl, certainty := rfl, revision := rfl
        within := by
          rw [Progress.Within, if_neg (by simp)]
          exact budget
        query, refined
        bound := fun other here => List.mem_singleton.mp here ▸ bound
        distinct := by simp
        rounds := .opened [] row (fun _ absent => absurd absent List.not_mem_nil) rfl (by simp)
          ⟨given.stepIndex, rfl, by simp [row, Stage.Ticketed], by simp [row, Stage.Received], rfl⟩
        finished := by simp [job]
        result := fun _ absent => nomatch absent
        failure := .silent (by simp [Stage.Fails]) }
    rw [build_ok tracks.valid, ok_bind, insertUnique, insertUnique]
    simp only [bind_assoc]
    refine .require (fun _ => by simp [refusals]) fun fresh => ?_
    refine .require (fun _ => by simp [refusals]) fun unused => ?_
    exact .started _ _ job row rfl
      { jobs := rfl, calls := rfl, commands := rfl
        fresh := fun stored there same => fresh stored there (.inl same)
        unused := fun stored there same => unused stored there (.inr same)
        owner := rfl
        tracks }

/-- A job as a commit leaves it. -/
def JobRow.settled (job : JobRow H) (settlement : Settlement H) : JobRow H :=
  { job with
    phase := settlement.phase, certainty := settlement.certainty
    terminalResult := settlement.terminal, failureCode := settlement.failureCode
    failureMessage := settlement.failureMessage, revision := job.revision + 1 }

/-- A commit has written the calls of its job, and moves it. -/
def Settles (t : Tables H) (job : JobRow H) (before : Progress)
    (out : Settlement H × Tables H) : Prop :=
  Prepared t out.2 job.jobId ∧ ∃ after, Move job.spec.val.maxModelCalls before after ∧
    Tracks (job.settled out.1) (out.2.callsOf job.jobId) after

/-- The checks of a commit on sound tables. -/
theorem observe_ends {job : JobRow H} (sound : t.Sound) (member : job ∈ t.jobs)
    (request : CommitRequest) (named : job.jobId = request.val.jobId) :
    Ends (· ∈ refusals)
      (fun out => out.1 ∈ t.calls ∧ out.1.jobId = request.val.jobId ∧
        out.1.callId = request.val.callId ∧ out.1.ticket = some out.2.1 ∧
        out.1.callerReceipt = none ∧
        ReceiptFor out.2.1 request.val job.spec.val.maxResultBytesPerCall out.2.2)
      (observe job request t) := by
  obtain ⟨before, tracks⟩ := sound.tracks job member
  unfold observe
  refine .orRaise (fun _ => by simp [refusals]) fun call found => ?_
  obtain ⟨stored, own, identity⟩ := fetchOne_some found
  have inside : call ∈ t.callsOf job.jobId := List.mem_filter.mpr ⟨stored, by simp [own, named]⟩
  refine .orRaise (fun _ => by simp [refusals]) fun ticket claimed => ?_
  obtain ⟨jobId, callId, -⟩ := (tracks.bound call inside).ticket ticket claimed
  refine .require (fun _ => by simp [refusals]) fun digest => ?_
  have received : Ends (· ∈ refusals)
      (ReceiptFor ticket request.val job.spec.val.maxResultBytesPerCall)
      ((Receipt.issue H ticket request job.spec.val.maxResultBytesPerCall).mapError
        RlmError.asConflict) :=
    (issue_receipt_ends (named.symm.trans jobId.symm) (identity.symm.trans callId.symm) digest.symm
      job.spec.property.2.2.2.2.2.1).mapError fun _ never => never
  refine .bind received fun receipt answers => ?_
  split
  · next existing _ =>
    refine .error ?_
    split <;> simp [refusals]
  · next absent => exact ⟨stored, own, identity, claimed, absent, answers⟩

theorem bounded_getD {limit : Nat} {reported : Option String} {default : String}
    (given : ∀ text ∈ reported, Bounded limit text) (usual : Bounded limit default) :
    Bounded limit (reported.getD default) := by
  cases reported with
  | none => exact usual
  | some text => exact given text rfl

/-- A stage that a round ends in without a committed step, with what is kept of the job. -/
structure Stops (budget steps : Nat) (stage after : Stage) (settlement : Settlement H) : Prop where
  move : Move budget ⟨steps, stage⟩ ⟨steps, after⟩
  received : after.Received
  ticketed : after.Ticketed
  state : after.callState = if stage.phase = .cancelRequested then .observed else .committed
  phase : settlement.phase = after.phase
  certainty : settlement.certainty = after.certainty
  terminal : settlement.terminal = none
  explains : after.Explains settlement.failureCode settlement.failureMessage

/-- A round that fails keeps the failure it fails with. -/
theorem Stops.failed {budget steps : Nat} {code message : String} (short : Bounded 64 code)
    (brief : Bounded 512 message) :
    Stops budget steps .claimed .failed ({ phase := .failed, failureCode := some code
                                           failureMessage := some message } : Settlement H) where
  move := .fail steps
  received := by simp [Stage.Received]
  ticketed := by simp [Stage.Ticketed]
  state := by simp [Stage.callState, Stage.phase]
  phase := rfl
  certainty := rfl
  terminal := rfl
  explains := .given (by simp [Stage.Fails]) short brief

/-- A commit that commits no step ends the round of its job. -/
theorem stopped_stops (budget steps : Nat) {stage : Stage} {request : CommitRequest}
    {receipt : ReceiptFields} {limit : Nat} {settlement : Settlement H}
    (open_ : stage = .claimed ∨ stage = .stopping)
    (ends : stopped stage.phase request.val receipt limit = some settlement) :
    ∃ after, Stops budget steps stage after settlement := by
  obtain ⟨-, -, -, coded, -, -, -, -, -, code, message, -⟩ := request.property
  unfold stopped at ends
  rcases open_ with rfl | rfl
  · simp only [Stage.phase, reduceCtorEq, if_false] at ends
    split at ends
    · cases ends
      exact ⟨.indeterminate, .lose steps, by simp [Stage.Received], by simp [Stage.Ticketed],
        by simp [Stage.callState, Stage.phase], rfl, rfl, rfl, .given (by simp [Stage.Fails])
          (bounded_getD code (by decide +kernel)) (bounded_getD message (by decide +kernel))⟩
    split at ends
    · next certain =>
      obtain ⟨reported, given⟩ := Option.ne_none_iff_exists'.mp (coded certain)
      rw [given] at ends
      cases ends
      exact ⟨.failed, .failed (code reported given) (bounded_getD message (by decide +kernel))⟩
    -- The remaining ends fail with fixed texts.
    split at ends
    · cases ends
      exact ⟨.failed, .failed (by decide +kernel) (by decide +kernel)⟩
    split at ends
    · cases ends
      exact ⟨.failed, .failed (by decide +kernel) (by decide +kernel)⟩
    split at ends
    · cases ends
      exact ⟨.failed, .failed (by decide +kernel) (by decide +kernel)⟩
    · cases ends
  · simp only [Stage.phase, if_true] at ends
    cases ends
    exact ⟨.observed, .observe steps, by simp [Stage.Received], by simp [Stage.Ticketed],
      by simp [Stage.callState, Stage.phase], rfl, rfl, rfl,
      .given (by simp [Stage.Fails]) (by decide +kernel) (by decide +kernel)⟩

/-- A commit that ends no round has a successful call within its bound, and a claimed round. -/
theorem stopped_none {stage : Stage} {request : CommitFields} {receipt : ReceiptFields}
    {limit : Nat} (open_ : stage = .claimed ∨ stage = .stopping)
    (none_ : stopped (H := H) stage.phase request receipt limit = none) :
    stage = .claimed ∧ request.outcome = .succeeded ∧ receipt.withinOutputBound := by
  unfold stopped at none_
  rcases open_ with rfl | rfl
  · cases outcome : request.outcome <;>
      simp only [outcome, Stage.phase, reduceCtorEq, if_false, if_true] at none_
    split at none_
    · cases none_
    · next within => exact ⟨rfl, rfl, by simpa using within⟩
  · simp [Stage.phase] at none_

section Proceeding

variable {job : JobRow H} {steps : Nat} {done : List (CallRow H)} {call received : CallRow H}
  {ticket : Ticket H} {receipt : Receipt H} {request : CommitRequest} {written : Tables H}

/-- A committed step ends its job with the result of all steps, or opens the next round. -/
theorem proceed_ends (tracks : Tracks job (done ++ [call]) ⟨steps, .claimed⟩)
    (committed : ∀ call ∈ done, call.Committed)
    (numbered : done.map (·.stepIndex) = List.range steps)
    (at_ : call.At ⟨steps, .claimed⟩) (claimed : call.ticket = some ticket)
    (answers : ReceiptFor ticket request.val job.spec.val.maxResultBytesPerCall receipt)
    (succeeded : request.val.outcome = .succeeded) (within : receipt.val.withinOutputBound)
    (observed : received = { call with state := .committed, callerReceipt := some receipt })
    (prepared : Prepared t written job.jobId)
    (split : written.callsOf job.jobId = done ++ [received]) :
    Ends (· ∈ refusals) (Settles t job ⟨steps, .claimed⟩)
      (proceed job call ticket receipt written) := by
  have bound := tracks.bound call (by simp)
  obtain ⟨text, kept, -, -, small⟩ := answers.output succeeded within
  have shown : 1 ≤ text.length := (receipt.property.1 text kept).1
  have largest := job.spec.property.2.2.2.2.2.2.1
  have few := job.spec.property.2.2.1
  have open_ : steps < job.spec.val.maxModelCalls := by
    have inside := tracks.within
    rwa [Progress.Within, if_neg (by simp)] at inside
  unfold proceed
  have ticketFor : TicketFor call.callSpec job.spec ticket := by
    obtain ⟨jobId, callId, stepIndex, digest⟩ := bound.ticket ticket claimed
    exact ⟨jobId.trans bound.specJob.symm, callId.trans bound.specCall.symm,
      stepIndex.trans bound.specStep.symm, digest⟩
  refine .bind (fromCommitted_ends ticketFor (bound.bytes ▸ answers) succeeded within)
    fun step fits => ?_
  obtain ⟨number, identity⟩ := fits
  -- The summary makes the call the last of the committed ones.
  let summarised : CallRow H := { received with stepSummary := some step }
  have own : summarised.jobId = job.jobId ∧ summarised.callId = call.callId := by
    subst observed
    exact ⟨bound.jobId, rfl⟩
  have apart : ∀ other ∈ done, other.callId ≠ call.callId := by
    intro other earlier same
    have distinct := tracks.distinct
    rw [List.map_append] at distinct
    exact (List.nodup_append.mp distinct).2.2 _ (List.mem_map_of_mem earlier) _
      (List.mem_singleton_self _) same
  have filled := callsOf_update
    (fun stored => stored.jobId = job.jobId ∧ stored.callId = call.callId)
    (fun stored => { stored with stepSummary := some step }) (fun _ => rfl) split
    (fun other earlier hit => apart other earlier hit.2) own
  have prepared' : Prepared t { written with
      calls := updateWhere written.calls
        (fun stored => stored.jobId = job.jobId ∧ stored.callId = call.callId)
        fun stored => { stored with stepSummary := some step } } job.jobId :=
    prepared.trans (.update (fun _ hit => hit.1) (fun _ => rfl)
      (fun _ _ _ => ⟨rfl, rfl, fun _ kept => kept⟩) fun _ => rfl)
  have last : summarised.Committed := by
    subst observed
    exact ⟨rfl, by simp [summarised, claimed], by simp [summarised],
      step, rfl, number.trans bound.specStep, identity.trans bound.specCall⟩
  have all : ∀ row ∈ done ++ [summarised], row.Committed := by
    intro row member
    rcases List.mem_append.mp member with earlier | here
    · exact committed row earlier
    · exact List.mem_singleton.mp here ▸ last
  have place : summarised.stepIndex = steps := by
    subst observed
    exact at_.stepIndex
  have numbers : (done ++ [summarised]).map (·.stepIndex) = List.range (steps + 1) := by
    rw [List.map_append, numbered, List.map_cons, List.map_nil, place, List.range_succ]
  have bound' : summarised.Bound job := by
    subst observed
    exact { bound with }
  obtain ⟨bounds, distinct⟩ := tracks.rewrite bound' own.2
  have rounds : Rounds ⟨steps + 1, .succeeded⟩ (done ++ [summarised]) :=
    .ended _ all numbers rfl
  have count : (Tables.summaries (done ++ [summarised])).length = steps + 1 := rounds.length
  have rows : Tables.callRows { written with
      calls := updateWhere written.calls
        (fun stored => stored.jobId = job.jobId ∧ stored.callId = call.callId)
        fun stored => { stored with stepSummary := some step } } job.jobId =
      done ++ [summarised] := by
    rw [Tables.callRows, filled]
    exact rounds.sorted
  simp only [rows, count]
  refine .orRaise (fun absent => absurd (kept.symm.trans absent) (by simp)) fun output there => ?_
  obtain rfl : text = output := Option.some.inj (kept.symm.trans there)
  split
  · next full =>
    -- The budget is used up: the output is the answer.
    refine .bind (issue_result_ends shown (by omega) (by omega)
      (rounds.contiguous distinct)) fun result issued => ?_
    obtain ⟨same, named, strategy⟩ := issued
    have move : Move job.spec.val.maxModelCalls ⟨steps, .claimed⟩ ⟨steps + 1, .succeeded⟩ :=
      .finish steps (by omega)
    refine ⟨prepared', _, move, ?_⟩
    rw [filled]
    refine tracks.move move rfl rfl rfl rfl rfl bounds distinct rounds (by simp [JobRow.settled])
      (fun found equal => ?_) (.silent (by simp [Stage.Fails]))
    obtain rfl : result = found := Option.some.inj equal
    exact ⟨same, named, strategy⟩
  · next more =>
    -- The output goes into the prompt of the next round.
    have refining : job.spec.val.strategy = .iterativeRefinement := by
      by_contra other
      have single : job.spec.val.strategy = .singleCall := by
        cases strategy : job.spec.val.strategy <;> simp_all
      have once := job.spec.property.2.2.2.2.2.2.2.1 single
      omega
    have short : text.utf8ByteSize ≤ 32768 := Nat.le_trans small (tracks.refined refining)
    have first : job.spec.val.strategy = .singleCall → steps + 1 = 0 :=
      fun single => absurd (refining.symm.trans single) (by simp)
    refine .bind (callSpec_ends tracks.query first (by omega) (by simp) (by simpa using short))
      fun next given => ?_
    rw [insertUnique]
    simp only [bind_assoc]
    refine .require (fun _ => by simp [refusals]) fun fresh => ?_
    let row : CallRow H :=
      { jobId := job.jobId, stepIndex := next.val.stepIndex, callId := next.val.callId
        state := .pending, callSpec := next }
    have move : Move job.spec.val.maxModelCalls ⟨steps, .claimed⟩ ⟨steps + 1, .pending⟩ :=
      .advance steps (by omega)
    refine ⟨prepared'.trans (.insert rfl fun stored there same => fresh stored there (.inr same)),
      _, move, ?_⟩
    simp only [Tables.callsOf] at filled ⊢
    rw [List.filter_append, filled, List.filter_cons_of_pos (by simp), List.filter_nil]
    have bound'' : row.Bound job := ⟨rfl, given.jobId, rfl, rfl, given.strategy, given.tokens,
      given.bytes, fun _ absent => by cases absent⟩
    refine tracks.move move rfl rfl rfl rfl rfl ?_ ?_
      (.opened _ row all numbers (by simp) ⟨given.stepIndex, rfl, by simp [row, Stage.Ticketed],
        by simp [row, Stage.Received], rfl⟩)
      (by simp [JobRow.settled]) (fun _ absent => by cases absent)
      (.silent (by simp [Stage.Fails]))
    · intro other member
      rcases List.mem_append.mp member with earlier | here
      · exact bounds other earlier
      · exact List.mem_singleton.mp here ▸ bound''
    · rw [List.map_append]
      refine List.nodup_append.mpr ⟨distinct, by simp, fun first left second right same => ?_⟩
      obtain ⟨other, member, rfl⟩ := List.mem_map.mp left
      obtain rfl := List.mem_singleton.mp right
      rw [← filled] at member
      exact fresh other (List.mem_filter.mp member).1 (.inr same)

/-- A stored receipt ends the round of its job, commits its step, or is kept beside a request to
stop. -/
theorem settle_ends {stage : Stage} (tracks : Tracks job (done ++ [call]) ⟨steps, stage⟩)
    (open_ : stage = .claimed ∨ stage = .stopping)
    (committed : ∀ call ∈ done, call.Committed)
    (numbered : done.map (·.stepIndex) = List.range steps)
    (at_ : call.At ⟨steps, stage⟩) (claimed : call.ticket = some ticket)
    (answers : ReceiptFor ticket request.val job.spec.val.maxResultBytesPerCall receipt)
    (observed : received = { call with
      state := if job.phase = .cancelRequested then .observed else .committed
      callerReceipt := some receipt })
    (prepared : Prepared t written job.jobId)
    (split : written.callsOf job.jobId = done ++ [received]) :
    Ends (· ∈ refusals) (Settles t job ⟨steps, stage⟩)
      (settle job call ticket receipt request written) := by
  have bound := tracks.bound call (by simp)
  unfold settle
  cases ends : stopped (H := H) job.phase request.val receipt.val
      ticket.val.requestedMaxOutputTokens with
  | none =>
    rw [tracks.phase] at ends
    obtain ⟨rfl, succeeded, within⟩ := stopped_none open_ ends
    rw [tracks.phase] at observed
    exact proceed_ends tracks committed numbered at_ claimed answers succeeded within observed
      prepared split
  | some settlement =>
    rw [tracks.phase] at ends observed
    obtain ⟨after, stops⟩ := stopped_stops job.spec.val.maxModelCalls steps open_ ends
    have bound' : received.Bound job := by
      subst observed
      exact { bound with }
    have same : received.callId = call.callId := by rw [observed]
    obtain ⟨bounds, distinct⟩ := tracks.rewrite bound' same
    have running : after ≠ .succeeded := by
      have kept := stops.received
      rintro rfl
      simp [Stage.Received] at kept
    refine ⟨prepared, _, stops.move, ?_⟩
    rw [split]
    refine tracks.move stops.move rfl rfl stops.phase stops.certainty rfl bounds distinct
      (.opened done received committed numbered running ?_) ?_ ?_ stops.explains
    · subst observed
      exact ⟨at_.stepIndex, stops.state.symm, by simp [claimed, stops.ticketed],
        by simp [stops.received], at_.step⟩
    · simp [JobRow.settled, stops.terminal, running]
    · intro result kept
      exact absurd (stops.terminal.symm.trans kept) nofun

end Proceeding

/-- `commit` on sound tables. -/
theorem commit_ends (sound : t.Sound) (principalId : String) (request : CommitRequest) :
    Ends (· ∈ refusals) (Reply (.commit request) t) (commit principalId request t) := by
  unfold commit
  refine named_ends sound fun job member named tenant fresh => ?_
  obtain ⟨⟨steps, stage⟩, tracks⟩ := sound.tracks job member
  refine .bind (observe_ends sound member request named) fun observed observes => ?_
  obtain ⟨call, ticket, receipt⟩ := observed
  obtain ⟨there, own, identity, claimed, absent, answers⟩ := observes
  refine .require (fun _ => by simp [refusals]) fun expected => ?_
  refine .require (fun _ => by simp [refusals]) fun phase => ?_
  -- The call without a receipt is that of the open round.
  have place : call.jobId = job.jobId := own.trans named.symm
  have inside : call ∈ t.callsOf job.jobId := List.mem_filter.mpr ⟨there, by simp [place]⟩
  obtain ⟨done, split, committed, numbered, at_⟩ := tracks.rounds.openCall inside
    fun done => done.receipt absent
  have open_ : stage = .claimed ∨ stage = .stopping := by
    have unread := at_.receipt.mp absent
    rw [tracks.phase] at phase
    revert phase unread
    cases stage <;> simp [Stage.phase, Stage.Received]
  have rows := tracks
  rw [split] at rows
  let stored (row : CallRow H) : CallRow H := { row with
    state := if job.phase = .cancelRequested then .observed else .committed
    callerReceipt := some receipt }
  have written := callsOf_update
    (fun row => row.jobId = request.val.jobId ∧ row.callId = request.val.callId ∧
      row.callerReceipt = none)
    stored (fun _ => rfl) split
    (fun other earlier hit => (committed other earlier).receipt hit.2.2)
    ⟨own, identity, absent⟩
  have prepared : Prepared t { t with
      calls := updateWhere t.calls
        (fun row => row.jobId = request.val.jobId ∧ row.callId = request.val.callId ∧
          row.callerReceipt = none) stored } job.jobId :=
    .update (fun _ hit => hit.1.trans named.symm) (fun _ => rfl)
      (fun _ _ _ => ⟨rfl, rfl, fun _ kept => kept⟩) fun _ => rfl
  have names : (Command.commit request).target = some job.jobId.val := by
    rw [Command.target, named]
  have settles := settle_ends rows open_ committed numbered at_ claimed answers rfl prepared written
  refine .bind settles fun settled settling => ?_
  obtain ⟨settlement, saved⟩ := settled
  obtain ⟨prepared, after, move, moved⟩ := settling
  exact conclude_ends sound member named tenant expected rfl prepared rfl rfl rfl names named.symm
    fresh tracks moved move

end Aar.PublicRlm
