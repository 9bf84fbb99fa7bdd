import Aar.Proofs.Acceptances
import Aar.Proofs.Jobs
import Aar.Workbench.Submission

/-! Submitting a workbench request again: when it repeats the first submission and changes nothing. -/

namespace Aar

open Guarded Table Registry Workbench

section Bound

variable {H : Hashing} {clock : Clock} {call : OpCall} {s s' : Scope} {submission : Submission}

/-- What the admission of one submission has stored in the job of its operation. -/
structure AdmittedAs (H : Hashing) (submission : Submission) (createdAtUnixMs : Nat)
    (job : JobRow) : Prop where
  binding : assertAdmissionBinding H submission.spec submission.context job = .ok ()
  seedless : submission.spec.seedCheckpoint = none
  due : ∃ deadline, deriveCumulativeDeadlineUnixMs createdAtUnixMs submission.context.deadlineUnixMs
    submission.spec.totalWallTimeMs = .ok deadline

/-- The operation of the submission is admitted with the specification and the context of the
submission, whose bytes its acceptance binds. -/
def Admits (H : Hashing) (submission : Submission) : Rules where
  call _ call s := s.operation = operationId H submission.envelope → ∀ spec context,
    call = .workbench (.admitJob spec context) → spec = submission.spec ∧
      context = submission.context
  visit _ _ := True
  expiry _ := True

/-- The job of an operation, if there is one, was admitted as the submission says. -/
def Scope.BoundBy (H : Hashing) (submission : Submission) (s : Scope) : Prop :=
  s.operation = operationId H submission.envelope →
    ∀ job ∈ s.job, AdmittedAs H submission s.row.createdAtUnixMs job

/-- Two states of a job that were admitted with the same bytes. -/
structure SameAdmission (job after : JobRow) : Prop where
  spec : after.spec = job.spec
  specDigest : after.specDigest = job.specDigest
  contextDigest : after.contextDigest = job.contextDigest
  routeBindingDigest : after.routeBindingDigest = job.routeBindingDigest

/-- A step of a job keeps what it was admitted as, unless the step is its admission. -/
theorem JobStep.admission (step : JobStep H call s s') {after : JobRow}
    (stored : s'.job = some after) :
    (∃ job, s.job = some job ∧ SameAdmission job after) ∨
      ∃ spec context deadline, call = .workbench (.admitJob spec context) ∧
        spec.seedCheckpoint = none ∧
        deriveCumulativeDeadlineUnixMs s.row.createdAtUnixMs context.deadlineUnixMs
          spec.totalWallTimeMs = .ok deadline ∧
        after = admittedJob H spec context (openControl s).controlRevision deadline := by
  cases step with
  | still job => exact .inl ⟨after, job ▸ stored, rfl, rfl, rfl, rfl⟩
  | requested _ _ _ _ job => exact .inl ⟨after, job ▸ stored, rfl, rfl, rfl, rfl⟩
  | admitted called seedless due _ _ job =>
    refine .inr ⟨_, _, _, called, seedless, due, ?_⟩
    rw [job] at stored
    exact (Option.some.inj stored).symm
  | advanced _ before _ _ _ job | ended _ before _ _ _ job | directed _ _ before _ _ _ _ job
  | overwritten _ _ before job | preparing _ before _ _ job | lost _ before _ _ job
  | restored before job =>
    rw [job] at stored
    cases stored
    exact .inl ⟨_, before, rfl, rfl, rfl, rfl⟩
  | cancelled _ cancellable job =>
    rw [job] at stored
    cases stored
    exact .inl ⟨_, cancellable.storedJob, rfl, rfl, rfl, rfl⟩
  | bound _ before _ job =>
    -- Binding a workspace rewrites the row of the preparing job, or no row.
    rw [job, before, patchWhere, Option.map_some, Option.some.injEq] at stored
    subst stored
    refine .inl ⟨_, before, ?_⟩
    split <;> exact ⟨rfl, rfl, rfl, rfl⟩

/-- The job of the submission's operation stays what it was admitted as. -/
theorem boundBy_invariant :
    Invariant H (Admits H submission) (Scope.BoundBy H submission) where
  new := by
    intro s new _ job stored
    obtain ⟨_, _, _, -, rows⟩ := new.rows
    rw [rows] at stored
    cases stored
  step clock s s' step bound := by
    obtain ⟨operation, intent⟩ := step.keeps
    have created : s'.row.createdAtUnixMs = s.row.createdAtUnixMs := congrArg Intent.createdAtUnixMs intent
    intro named job stored
    rw [created]
    rw [operation] at named
    rcases step.call_or_untouched with ⟨call, r, allow, ran, rfl⟩ | untouched
    · rcases (OpCall.jobs ran).admission stored with
        ⟨before, there, same⟩ |
          ⟨spec, context, deadline, called, seedless, due, rfl⟩
      · have admitted := bound named before there
        have binding := admitted.binding
        simp only [assertAdmissionBinding, require_ok] at binding
        refine ⟨?_, admitted.seedless, admitted.due⟩
        simp only [assertAdmissionBinding, require_ok, same.spec, same.specDigest,
          same.contextDigest, same.routeBindingDigest]
        exact binding
      · obtain ⟨rfl, rfl⟩ := allow named spec context called
        exact ⟨by simp [assertAdmissionBinding, admittedJob], seedless, _, due⟩
    · rw [untouched.job] at stored
      exact bound named job stored

end Bound

section Preparing

variable {H : Hashing} {s : Scope} {db db' : Db} {operation : String} {record : OpRecord}
  {answers : BackendAnswers} {submission : Submission}

theorem following_ok {α β : Type} {ran : Except Err (Db × α)} {next : Db → α → Db × Except Err β}
    {value : β} : following db ran next = (db', .ok value) ↔
      ∃ mid answer, ran = .ok (mid, answer) ∧ next mid answer = (db', .ok value) := by
  cases ran with
  | ok result =>
    rcases result with ⟨mid, answer⟩
    simp [following]
  | error raised => simp [following]

theorem withoutAnswer_ok {ran : Except Err Db} {result : Db × Unit} :
    withoutAnswer ran = .ok result ↔ ran = .ok result.1 := by
  cases ran <;> simp [withoutAnswer, Functor.map, Except.map, Prod.ext_iff]

theorem lookup_written (found : db.lookup operation = some record) (r : Scope) :
    (db.commit operation r).lookup operation = some r.toOpRecord := by
  rw [Db.lookup_commit, if_pos rfl, found]
  rfl

/-- The workspace that a job is bound to, and can be attached to. -/
def Attaches (answers : BackendAnswers) (job : JobRow) : Prop :=
  job.phase ∉ closedPhases ∧ ∃ workspace, job.workspaceId = some workspace ∧
    answers.attach ⟨workspace, job.workspaceGeneration, job.workspaceRevision⟩ = .ok ()

/-- The job has moved to a later control revision. -/
def JobMoved (record record' : OpRecord) : Prop :=
  ∃ job job', record.job = some job ∧ record'.job = some job' ∧
    job.controlRevision < job'.controlRevision

/-- The first step of a preparation reads the bound workspace, or finds or makes the job preparing. -/
theorem prepareWorkspaceStart_cases {result : Scope × Option BoundWorkspace}
    (ran : prepareWorkspaceStart s = .ok result) :
    ∃ job, s.job = some job ∧ job.phase ∉ closedPhases ∧
      ((∃ workspace, job.workspaceId = some workspace ∧
          result = (s, some ⟨workspace, job.workspaceGeneration, job.workspaceRevision⟩)) ∨
        result.2 = none ∧ ∃ preparing, result.1.job = some preparing ∧
          preparing.phase = .preparingWorkspace ∧ preparing.workspaceId = none ∧
          job.controlRevision ≤ preparing.controlRevision) := by
  simp only [prepareWorkspaceStart, jobRow, bind_ok, orRaise_ok, require_ok] at ran
  obtain ⟨job, stored, _, phase, ran⟩ := ran
  refine ⟨job, stored, phase, ?_⟩
  cases bound : job.workspaceId with
  | some workspace =>
    simp only [bound, pure_ok] at ran
    exact .inl ⟨workspace, rfl, ran.symm⟩
  | none =>
    simp only [bound, ite_ok, pure_ok, bind_ok, require_ok] at ran
    rcases ran with ⟨accepted, rfl⟩ | ⟨-, _, preparing, rfl⟩
    · refine .inr ⟨rfl, _, patchWhere_stored stored ⟨accepted, rfl⟩, rfl, bound, ?_⟩
      exact Nat.le_succ _
    · exact .inr ⟨rfl, job, stored, preparing, bound, Nat.le_refl _⟩

/-- The second step of a preparation moves the job that it finds preparing. -/
theorem prepareWorkspaceBind_moves {handle : ProgrammableWorkspaceHandle} {s' : Scope}
    {preparing : JobRow} (ran : prepareWorkspaceBind handle s = .ok s')
    (stored : s.job = some preparing) (state : preparing.phase = .preparingWorkspace)
    (unnamed : preparing.workspaceId = none) :
    ∃ job', s'.job = some job' ∧ job'.controlRevision = preparing.controlRevision + 1 := by
  simp only [prepareWorkspaceBind, jobRow, stored, orRaise, ok_bind, unnamed, pure_ok] at ran
  refine ⟨{ preparing with
    workspaceId := some handle.workspace, workspaceGeneration := handle.generation
    workspaceRevision := handle.revision, controlRevision := preparing.controlRevision + 1 }, ?_, rfl⟩
  rw [← ran]
  simp [patchWhere, PreparingAt, state, unnamed]

/-- A preparation that succeeds attaches the bound workspace, or moves the job. -/
theorem prepareWorkspace_ok (found : db.lookup operation = some record)
    (prepared : prepareWorkspace answers operation db = (db', .ok ())) :
    (db' = db ∧ ∃ job, record.job = some job ∧ Attaches answers job) ∨
      ∃ record', db'.lookup operation = some record' ∧ JobMoved record record' := by
  simp only [prepareWorkspace, following_ok] at prepared
  obtain ⟨mid, bound, started, prepared⟩ := prepared
  obtain ⟨_, r, same, ran, rfl⟩ := Db.transact_ok.mp started
  cases found.symm.trans same
  obtain ⟨job, stored, phase, ⟨workspace, named, shape⟩ | ⟨unbound, preparing, left, state,
    unnamed, later⟩⟩ := prepareWorkspaceStart_cases ran
  · cases shape
    rw [Db.commit_unchanged found] at prepared
    simp only [Prod.mk.injEq] at prepared
    exact .inl ⟨prepared.1.symm, job, stored, phase, workspace, named, prepared.2⟩
  · obtain rfl : bound = none := unbound
    right
    -- The created workspace is bound to the preparing job, at its next revision.
    cases created : answers.create with
    | error raised => simp [created] at prepared
    | ok handle =>
      simp only [created, following_ok, withoutAnswer_ok, Prod.mk.injEq, and_true] at prepared
      obtain ⟨after, -, bind, rfl⟩ := prepared
      obtain ⟨_, r', same, ran', rfl⟩ := Db.update_ok.mp bind
      cases (lookup_written found r).symm.trans same
      refine ⟨r'.toOpRecord, lookup_written (lookup_written found r) r', ?_⟩
      obtain ⟨job', moved, next⟩ := prepareWorkspaceBind_moves ran' left state unnamed
      exact ⟨job, job', stored, moved, next ▸ Nat.lt_succ_of_le later⟩

/-- An admission that succeeds attaches the workspace of the admitted job, or changes the job. -/
theorem admit_ok (found : db.lookup operation = some record)
    (admitted : admitSubmission H submission answers operation db = (db', .ok ())) :
    (db' = db ∧ ∃ job, record.job = some job ∧ Attaches answers job) ∨
      ∃ record', db'.lookup operation = some record' ∧ record'.job ≠ record.job := by
  simp only [admitSubmission, following_ok, withoutAnswer_ok] at admitted
  obtain ⟨mid, -, stored, prepared⟩ := admitted
  obtain ⟨_, r, same, ran, rfl⟩ := Db.update_ok.mp stored
  cases found.symm.trans same
  have there := lookup_written found r
  have prepares := prepareWorkspace_ok there prepared
  rcases admitJob_ok ran with rfl | ⟨absent, -, -, _, -, rfl⟩
  · -- The admission repeats the stored job, so only its preparation can change anything.
    rw [Db.commit_unchanged found] at prepares
    rcases prepares with attached | ⟨record', found', job, job', before, after, later⟩
    · exact .inl attached
    · refine .inr ⟨record', found', fun same => ?_⟩
      have before : record.job = some job := before
      rw [after, before] at same
      cases same
      exact Nat.lt_irrefl _ later
  · -- A job that was missing is there from now on.
    right
    have absent : record.job = none := absent
    rcases prepares with ⟨rfl, -⟩ | ⟨record', found', _, _, -, after, -⟩
    · exact ⟨_, there, by rw [absent]; nofun⟩
    · exact ⟨record', found', by rw [after, absent]; nofun⟩

/-- Admitting the job of a submission again repeats it. -/
theorem admitJob_repeats {job : JobRow} (stored : s.job = some job)
    (admitted : AdmittedAs H submission s.row.createdAtUnixMs job) :
    admitJob H submission.spec submission.context s = .ok s := by
  obtain ⟨deadline, due⟩ := admitted.due
  simp only [admitJob, bind_ok, require_ok]
  refine ⟨(), admitted.seedless, deadline, due, ?_⟩
  simp only [stored, admitted.binding, ok_bind]
  rfl

/-- Preparing the workspace of a bound job finds the workspace. -/
theorem prepareWorkspaceStart_bound {job : JobRow} {workspace : String}
    (stored : s.job = some job) (phase : job.phase ∉ closedPhases)
    (named : job.workspaceId = some workspace) : prepareWorkspaceStart s =
      .ok (s, some ⟨workspace, job.workspaceGeneration, job.workspaceRevision⟩) := by
  simp only [prepareWorkspaceStart, jobRow, bind_ok, orRaise_ok, require_ok]
  refine ⟨job, stored, (), phase, ?_⟩
  simp only [named]
  rfl

/-- The admission of a job that has its workspace changes nothing when the workspace is attached. -/
theorem admit_attached (found : db.lookup operation = some record) {job : JobRow}
    (stored : record.job = some job)
    (admitted : AdmittedAs H submission record.row.createdAtUnixMs job)
    (attaches : Attaches answers job) :
    admitSubmission H submission answers operation db = (db, .ok ()) := by
  obtain ⟨phase, workspace, named, attached⟩ := attaches
  have first : db.update operation (.keyError operation)
      (admitJob H submission.spec submission.context) = .ok db :=
    Db.update_ok.mpr ⟨record, _, found, admitJob_repeats stored admitted, Db.commit_unchanged found⟩
  have second : db.transact operation (.keyError operation) prepareWorkspaceStart = .ok (db,
      some ⟨workspace, job.workspaceGeneration, job.workspaceRevision⟩) :=
    Db.transact_ok.mpr ⟨record, _, found, prepareWorkspaceStart_bound stored phase named,
      Db.commit_unchanged found⟩
  simp only [admitSubmission, following_ok, withoutAnswer_ok, prepareWorkspace]
  exact ⟨db, (), first, db, _, second, by simp [attached]⟩

end Preparing

section Resubmitting

variable {H : Hashing} {acceptClock dispatchClock : Clock} {db db' : Db} {operation : String}
  {record : OpRecord} {answers : BackendAnswers} {submission : Submission} {events : List Event}
  {outcome : Except Err String}

/-- A stored operation is the one that an acceptance under its key finds. -/
theorem acceptedBefore_stored {envelope : RequestEnvelope} (reached : db.Reachable H)
    (found : db.lookup operation = some record)
    (same : record.row.scopedKey = envelope.scopedKey) :
    acceptedBefore envelope db = some (operation, record) := by
  cases stored : acceptedBefore envelope db with
  | none => exact absurd same (acceptedBefore_none.mp stored operation record found)
  | some entry =>
    -- Both operations have the name that the key asks for.
    obtain ⟨found', same'⟩ := acceptedBefore_some stored
    have names : operation = entry.1 :=
      (reached.named found same).trans (reached.named found' same').symm
    subst names
    cases found.symm.trans found'
    rfl

/-- An acceptance that repeats the stored operation changes nothing. -/
theorem accept_repeated {envelope : RequestEnvelope} {payloadJson : String} (clock : Clock)
    (reached : db.Reachable H) (found : db.lookup operation = some record)
    (repeats : record.row.Repeats envelope payloadJson) :
    accept H clock envelope payloadJson none db = .ok (db, operation, false) := by
  have stored := acceptedBefore_stored reached found repeats.scopedKey
  simp only [accept, stored, runAdmission, bind_ok, require_ok, pure_ok]
  exact ⟨(), repeats.inputDigest, (), repeats.payloadJson, (), repeats.authority, db, rfl, rfl⟩

/-- The rows of an operation are unchanged, or its missing dispatch row was queued. -/
inductive Neutral (record record' : OpRecord) : Prop where
  | unchanged (same : record' = record)
  | dispatched {row : DispatchRow} {event : EventRow} (missing : record.dispatch = none)
      (queued : row.state = .queued)
      (shape : record' = { record with
        dispatch := some row, events := record.events ++ [event] })

/-- A submission answered with its operation, and left its rows and all others alone. -/
structure Repeated (operation : String) (record : OpRecord) (db db' : Db)
    (outcome : Except Err String) : Prop where
  answered : outcome = .ok operation
  neutral : ∃ record', db'.lookup operation = some record' ∧ Neutral record record'
  others : ∀ other, other ≠ operation → db'.lookup other = db.lookup other

/-- The operation has the workspace of its job, and waits for its dispatch, if for anything. -/
structure Resubmittable (answers : BackendAnswers) (record : OpRecord) : Prop where
  attached : ∃ job, record.job = some job ∧ Attaches answers job
  dispatch : ∀ row ∈ record.dispatch, row.kind = .rlmWorkbenchExecute ∧ row.state = .queued

/-- A dispatch request of an accepted operation is neutral only when it finds no other row than a
queued one. -/
theorem request_neutral {s s' : Scope} (accepted : s.row.state = .accepted)
    (ran : requestDispatch .rlmWorkbenchExecute dispatchClock s = .ok s')
    (neutral : Neutral s.toOpRecord s'.toOpRecord) :
    ∀ row ∈ s.dispatch, row.kind = .rlmWorkbenchExecute ∧ row.state = .queued := by
  intro row stored
  have stored : s.dispatch = some row := stored
  simp only [requestDispatch, bind_ok, require_ok, ite_ok, pure_ok, insertEvent, stored] at ran
  obtain ⟨_, kind, ⟨closed, -⟩ | ⟨-, ⟨queued, -⟩ | ⟨unqueued, rfl⟩⟩⟩ := ran
  · exact absurd accepted closed
  · exact ⟨kind row rfl, queued⟩
  · -- The row was queued again, so neither it nor its absence is left as it was.
    cases neutral with
    | unchanged same =>
      have again := congrArg OpRecord.dispatch same
      rw [stored, Option.some.injEq] at again
      exact absurd (by rw [← again]) unqueued
    | dispatched missing =>
      rw [stored] at missing
      cases missing

/-- A dispatch request that finds no other row than a queued one is neutral. -/
theorem request_runs (clock : Clock) {s : Scope} (accepted : s.row.state = .accepted)
    (dispatch : ∀ row ∈ s.dispatch, row.kind = .rlmWorkbenchExecute ∧ row.state = .queued) :
    ∃ s', requestDispatch .rlmWorkbenchExecute clock s = .ok s' ∧
      Neutral s.toOpRecord s'.toOpRecord := by
  simp only [requestDispatch, bind_ok, require_ok, ite_ok, accepted, ne_eq, not_true_eq_false,
    false_and, true_and, not_false_eq_true, false_or]
  cases stored : s.dispatch with
  | some row =>
    obtain ⟨kind, queued⟩ := dispatch row stored
    refine ⟨s, ⟨(), ?_, ?_⟩, .unchanged rfl⟩
    · rintro _ ⟨⟩
      exact kind
    · simp [queued, pure_ok]
  | none =>
    refine ⟨_, ⟨(), by simp, rfl⟩, ?_⟩
    exact .dispatched stored rfl rfl

/-- A run whose admissions are all those of one submission is allowed. -/
theorem AllowedRun.admits
    (only : ∀ event ∈ events, ∀ name spec context,
      event.call = .on name (.workbench (.admitJob spec context)) →
        spec = submission.spec ∧ context = submission.context) :
    AllowedRun H (Admits H submission) events db := by
  refine .of_each fun event member db => ⟨?_, fun _ _ _ _ _ _ => trivial, fun _ _ => ?_⟩
  · rintro name call record r called - - - spec context rfl
    exact only event member name spec context called
  · exact .of_all (fun _ => trivial) _ _ _

/-- The submission that the sample job was admitted by. -/
def Sample.resubmitted : Submission :=
  { envelope := Sample.envelope "op" 5000, payloadJson := "payload"
    spec := Sample.spec .callerDelegated, context := ⟨"context", 5000⟩ }

/-- A backend that attaches every workspace, and creates none. -/
def Sample.attaching : BackendAnswers :=
  { attach := fun _ => .ok (), create := .error (.keyError "workspace") }

/-- The whole first submission of the sample job. -/
def Sample.submitted : List Event :=
  Sample.queued "op" .callerDelegated ++
    [(Call.on "op" (.workbench .prepareWorkspaceStart)).atTime 1,
      (Call.on "op" (.workbench (.prepareWorkspaceBind Sample.workspace))).atTime 1]

end Resubmitting

end Aar
