import Aar.Proofs.Portable
import Aar.Proofs.WorkerRuns

/-! A lost worker is restored from a checkpoint with the last handle that was issued for it. -/

namespace Aar.Workspace

open Guarded

section Supersession

variable {config : Config} {workspace : String} {state : WorkerState}

/-- What any call does to a worker: its generation stays, and so does who holds it. -/
structure Kept (workspace : String) (state : WorkerState) (done : Reply × WorkerState) : Prop where
  generation : done.2.generation = state.generation
  held : ∀ hold ∈ done.2.holder, hold ∈ state.holder ∨
    (hold.handle.workspace = workspace ∧ hold.handle.generation = state.generation)
  results : ∀ result, done.1 = .result result → ∃ hold ∈ state.holder,
    result.workspace = hold.handle.workspace ∧ result.generation = hold.handle.generation

theorem Kept.quiet {done : Reply × WorkerState}
    (generation : done.2.generation = state.generation)
    (holder : done.2.holder = state.holder) (reply : ∀ result, done.1 ≠ .result result) :
    Kept workspace state done :=
  ⟨generation, fun _ held => .inl (holder ▸ held), fun result same => absurd same (reply result)⟩

theorem Kept.whenChecked {check : Except WorkspaceError Unit} {act : Reply × WorkerState}
    (kept : check = .ok () → Kept workspace state act) :
    Kept workspace state (Workspace.whenChecked check state act) := by
  rcases check with error | _
  · exact .quiet rfl rfl nofun
  · exact kept rfl

theorem managedHeartbeat_kept (state : WorkerState) :
    (managedHeartbeat state).2.generation = state.generation ∧
      (managedHeartbeat state).2.holder = state.holder := by
  unfold managedHeartbeat
  split <;> simp

/-- The start of an execution holds the worker with a handle on its generation. -/
theorem executeStart_kept {handle : ProgrammableWorkspaceHandle}
    (same : handle.workspace = workspace) (operation : String) (exits : Bool) :
    Kept workspace state (executeStart config operation handle exits state) := by
  refine .whenChecked fun checked => ?_
  simp only [executable, bind_ok, require_ok] at checked
  obtain ⟨_, current, -⟩ := checked
  have named := checkHandle_ok.mp current
  have beat := managedHeartbeat_kept { state with
    runningOperation := some operation, cancelRequested := false
    exited := state.exited || exits }
  rcases taken : managedHeartbeat { state with
    runningOperation := some operation, cancelRequested := false
    exited := state.exited || exits } with ⟨_ | _, next⟩
  · rw [taken] at beat
    exact .quiet beat.1 beat.2 (fun _ impossible => by cases impossible)
  · rw [taken] at beat
    refine ⟨beat.1, ?_, by intros; contradiction⟩
    rintro hold ⟨⟩
    exact .inr ⟨same, congrArg ProgrammableWorkspaceHandle.generation named⟩

/-- The end of an execution releases its worker, and its result is of the handle it held. -/
theorem executeFinish_kept {hold : Hold} (held : state.holder = some hold)
    (answer : ExecuteAnswer) :
    Kept workspace state (executeFinish config hold answer state) := by
  have result_of : ∀ status lost result,
      Reply.result (resultOf config hold status lost) = .result result →
      ∃ hold ∈ state.holder, result.workspace = hold.handle.workspace ∧
        result.generation = hold.handle.generation := by
    rintro status lost _ ⟨⟩
    exact ⟨hold, held, rfl, rfl⟩
  have loses : ∀ message revision, { markLost message
      { state with runningOperation := none, holder := none } with
        revision := revision }.generation = state.generation ∧
      { markLost message { state with runningOperation := none, holder := none } with
        revision := revision }.holder = none := by
    intro message revision
    have fields := finishManaged_fields { state with
      runningOperation := none, holder := none, exited := true, lost := true,
      lostReason := some message }
    exact ⟨fields.1, fields.2.2.2.1⟩
  cases answer with
  | response status space =>
    have beat := managedHeartbeat_kept { state with
      runningOperation := none, holder := none, space := space }
    simp only [executeFinish]
    split
    · next error next found =>
      have shape : next.generation = state.generation ∧ next.holder = none := by
        split at found
        · cases found
        · rw [found] at beat
          exact beat
      exact ⟨shape.1, by simp [shape.2], by intros; contradiction⟩
    · next next found =>
      have shape : next.generation = state.generation ∧ next.holder = none := by
        split at found
        · cases found
          exact ⟨rfl, rfl⟩
        · rw [found] at beat
          exact beat
      exact ⟨shape.1, by simp [shape.2], result_of status false⟩
  | suspended space => exact ⟨rfl, by simp [executeFinish], by intros; contradiction⟩
  | timedOut message =>
    exact ⟨(loses message _).1, by simp [executeFinish, (loses message _).2], result_of _ true⟩
  | lost message =>
    exact ⟨(loses message _).1, by simp [executeFinish, (loses message _).2], result_of _ true⟩
  | malformed message =>
    exact ⟨(loses message _).1, by simp [executeFinish, (loses message _).2], result_of _ true⟩

/-- The start of a resumption holds the worker with a handle on its generation. -/
theorem resumeStart_kept {handle : ProgrammableWorkspaceHandle}
    (same : handle.workspace = workspace) (operation : String) :
    Kept workspace state (resumeStart config operation handle state) := by
  refine .whenChecked fun checked => ?_
  simp only [bind_ok, require_ok] at checked
  obtain ⟨_, current, -⟩ := checked
  have named := checkHandle_ok.mp current
  refine ⟨rfl, ?_, by intros; contradiction⟩
  rintro hold ⟨⟩
  exact .inr ⟨same, congrArg ProgrammableWorkspaceHandle.generation named⟩

/-- The end of a resumption releases its worker, and its result is of the handle it held. -/
theorem resumeFinish_kept {hold : Hold} (held : state.holder = some hold)
    (answer : ResumeAnswer) :
    Kept workspace state (resumeFinish config hold answer state) := by
  cases answer with
  | response status space =>
    have beat := managedHeartbeat_kept { state with
      runningOperation := none, holder := none, suspendedOperation := none, space := space }
    simp only [resumeFinish]
    split
    · next error next found =>
      rw [found] at beat
      exact ⟨beat.1, by simp [show next.holder = none from beat.2], by intros; contradiction⟩
    · next next found =>
      rw [found] at beat
      refine ⟨beat.1, by simp [show next.holder = none from beat.2], ?_⟩
      rintro _ ⟨⟩
      exact ⟨hold, held, rfl, rfl⟩
  | lost error message =>
    have fields := finishManaged_fields { state with
      runningOperation := none, holder := none, exited := true, lost := true,
      lostReason := some message }
    exact ⟨fields.1, by simp [resumeFinish, markLost, fields], by intros; contradiction⟩
  | unreadable message => exact ⟨rfl, by simp [resumeFinish], by intros; contradiction⟩

/-- Asking for the health of a worker keeps it. -/
theorem health_kept (handle : ProgrammableWorkspaceHandle) :
    Kept workspace state (health config handle state) := by
  have fields := finishManaged_fields { state with
    lost := true, lostReason := some "worker exited" }
  refine .whenChecked fun _ => ?_
  by_cases seen : state.exited = true ∧ state.closed = false
  · simp only [if_pos seen]
    exact .quiet fields.1 fields.2.2.2.1 nofun
  · simp only [if_neg seen]
    exact .quiet rfl rfl nofun

theorem close_kept (handle : ProgrammableWorkspaceHandle) (reason : String)
    (answered : Except WorkspaceError Unit) :
    Kept workspace state (close config handle reason answered state) := by
  have fields := finishManaged_fields { state with exited := true, closed := true }
  exact .whenChecked fun _ => .quiet fields.1 fields.2.2.2.1 nofun

/-- A checkpoint keeps the worker it is taken of. -/
theorem checkpointWorker_kept (operation : String) (handle : ProgrammableWorkspaceHandle)
    (policy : WorkspaceCheckpointPolicy) (traceId : String)
    (answered : Except WorkspaceError Unit) :
    Kept workspace state
      (checkpointWorker config operation handle policy traceId answered state) := by
  refine .whenChecked fun _ => ?_
  rcases readCheckpoint config policy state with error | scan <;> exact .quiet rfl rfl nofun

theorem interrupt_kept (handle : ProgrammableWorkspaceHandle) (operation : String) :
    Kept workspace state (interrupt config handle operation state) := by
  refine .whenChecked fun _ => ?_
  split <;> exact .quiet rfl rfl nofun

theorem attach_kept (handle : ProgrammableWorkspaceHandle) (session : String) :
    Kept workspace state (attach config handle session state) :=
  .whenChecked fun _ => .quiet rfl rfl nofun

theorem sendRebindPrepare_kept (operation : String) (handle : ProgrammableWorkspaceHandle)
    (written : Except WorkspaceError Unit) :
    Kept workspace state (sendRebindPrepare config operation handle written state) :=
  .whenChecked fun _ => .quiet rfl rfl nofun

theorem inspect_kept (handle : ProgrammableWorkspaceHandle)
    (answered : Except WorkspaceError Unit) :
    Kept workspace state (inspect config handle answered state) :=
  .whenChecked fun _ => .quiet rfl rfl nofun

theorem exits_kept : Kept workspace state (.exited, { state with exited := true }) :=
  .quiet rfl rfl nofun

/-- A workspace has gone on to a later generation than a handle names. -/
structure Superseded (handle : ProgrammableWorkspaceHandle) (b : Backend) : Prop where
  bound : ∃ state, b.states handle.workspace = some state ∧ handle.generation < state.generation
  held : ∀ workspace state, b.states workspace = some state → ∀ hold ∈ state.holder,
    hold.handle.workspace = workspace ∧ hold.handle.generation = state.generation
  receipts : ∀ operation result, b.receipts operation = some result →
    result.workspace = handle.workspace → result.generation = handle.generation →
    result.revisionBefore = handle.revision → result.workspaceLost = true

variable {handle : ProgrammableWorkspaceHandle} {b : Backend}

/-- A new worker at the same generation or a later one leaves the handle superseded. -/
theorem Superseded.put (superseded : Superseded handle b) {next : WorkerState}
    (grows : ∀ state, b.states workspace = some state → state.generation ≤ next.generation)
    (held : ∀ hold ∈ next.holder,
      hold.handle.workspace = workspace ∧ hold.handle.generation = next.generation) :
    Superseded handle (b.put workspace next) where
  bound := by
    obtain ⟨state, found, later⟩ := superseded.bound
    by_cases same : handle.workspace = workspace
    · refine ⟨next, by simp [Backend.put, same], ?_⟩
      rw [same] at found
      exact Nat.lt_of_lt_of_le later (grows state found)
    · exact ⟨state, by simpa [Backend.put, same] using found, later⟩
  held := by
    intro other state found
    by_cases same : other = workspace
    · subst same
      simp only [Backend.put, Function.update_self, Option.some.injEq] at found
      subst found
      exact held
    · simp only [Backend.put, Function.update_of_ne same] at found
      exact superseded.held other state found
  receipts := superseded.receipts

/-- A call that keeps the worker it acts on leaves the handle superseded. -/
theorem Superseded.kept (superseded : Superseded handle b)
    (found : b.states workspace = some state) {done : Reply × WorkerState}
    (kept : Kept workspace state done) : Superseded handle (b.put workspace done.2) := by
  refine superseded.put (fun other same => ?_) fun hold held => ?_
  · rw [found, Option.some.injEq] at same
    have unchanged : other.generation = done.2.generation := by
      rw [← same, kept.generation]
    exact Nat.le_of_eq unchanged
  · rw [kept.generation]
    rcases kept.held hold held with old | named
    · exact superseded.held workspace state found hold old
    · exact named

/-- The result of a finished execution is not of the superseded handle. -/
theorem Superseded.retain (superseded : Superseded handle b)
    {result : WorkspaceProgramResult}
    (later : result.workspace = handle.workspace → result.generation ≠ handle.generation) :
    Superseded handle (b.retain result) where
  bound := superseded.bound
  held := superseded.held
  receipts := by
    intro operation retained found same generation revision
    by_cases own : operation = result.operation
    · subst own
      simp only [Backend.retain, Function.update_self, Option.some.injEq] at found
      subst found
      exact absurd generation (later same)
    · simp only [Backend.retain, Function.update_of_ne own] at found
      exact superseded.receipts operation retained found same generation revision

/-- A call on the worker of a workspace leaves the handle superseded. -/
theorem Superseded.use (superseded : Superseded handle b)
    {act : WorkerState → Reply × WorkerState} (kept : ∀ state, Kept workspace state (act state))
    {reply : Reply} {next : Backend}
    (done : some (b.use workspace act) = some (reply, next)) : Superseded handle next := by
  unfold Backend.use at done
  split at done
  · cases done
    exact superseded
  · next state found =>
    cases done
    exact superseded.kept found (kept state)

/-- A call under the lock of a worker leaves the handle superseded. -/
theorem Superseded.useLocked (superseded : Superseded handle b)
    {act : WorkerState → Reply × WorkerState} (kept : ∀ state, Kept workspace state (act state))
    {reply : Reply} {next : Backend}
    (done : b.useLocked workspace act = some (reply, next)) : Superseded handle next := by
  unfold Backend.useLocked at done
  split at done
  · cases done
    exact superseded
  · next state found =>
    split at done
    · cases done
      exact superseded.kept found (kept state)
    · cases done

/-- The end of an execution leaves the handle superseded. -/
theorem Superseded.finish (superseded : Superseded handle b) {resumes : Bool}
    {act : Hold → WorkerState → Reply × WorkerState}
    (kept : ∀ state, ∀ hold ∈ state.holder, Kept workspace state (act hold state))
    {reply : Reply} {next : Backend}
    (done : b.finish workspace resumes act = some (reply, next)) : Superseded handle next := by
  simp only [Backend.finish, Option.bind_eq_bind, Option.bind_eq_some_iff, Option.pure_def,
    Option.some.injEq, Prod.mk.injEq] at done
  obtain ⟨state, found, hold, held, _, -, rfl, rfl⟩ := done
  have acted := kept state hold held
  have kept_worker := superseded.kept found acted
  rcases replied : (act hold state).1 with _ | _ | _ | result | _ | _ | _ | _ | _ | _ | _ | _
  case result =>
    -- The result names the generation of its worker, which is later than the handle's.
    refine kept_worker.retain fun same equal => ?_
    obtain ⟨own, own_held, named, generation⟩ := acted.results result replied
    obtain ⟨at_workspace, at_generation⟩ := superseded.held workspace state found own own_held
    obtain ⟨current, current_found, later⟩ := superseded.bound
    rw [← same, named, at_workspace, found, Option.some.injEq] at current_found
    subst current_found
    omega
  all_goals exact kept_worker

/-- Installing a new worker leaves the handle superseded. -/
theorem Superseded.installReplacement (superseded : Superseded handle b) {current : WorkerState}
    (found : b.states workspace = some current) {manifest : CheckpointManifest}
    {spec : WorkspaceRestoreSpec} {answers : RestoreAnswers} {generation : Nat}
    (grows : current.generation ≤ generation) {reply : Reply} {next : Backend}
    (done : some (installReplacement config workspace current
      (restoredState config manifest spec answers generation) b) = some (reply, next)) :
    Superseded handle next := by
  unfold Workspace.installReplacement at done
  rcases started : restoredState config manifest spec answers generation with error | fresh
  · rw [started] at done
    cases done
    exact superseded
  · have shape := restoredState_ok started
    obtain ⟨managed, registered⟩ := registerManaged_free config
      (finishManaged_inactive { current with exited := true, closed := true }) fresh
    simp only [started, registered, Option.some.injEq, Prod.mk.injEq] at done
    obtain ⟨-, rfl⟩ := done
    refine superseded.put (fun state bound => ?_) ?_
    · rw [found, Option.some.injEq] at bound
      rw [← bound, shape]
      exact grows
    · rw [shape]
      nofun

/-- Restoring a workspace leaves the handle superseded. -/
theorem Superseded.restore (superseded : Superseded handle b) {manifest : CheckpointManifest}
    {spec : WorkspaceRestoreSpec} {answers : RestoreAnswers} {reply : Reply} {next : Backend}
    (done : restoreWorkspace config manifest spec answers b = some (reply, next)) :
    Superseded handle next := by
  unfold restoreWorkspace at done
  rcases found : b.states spec.workspace with _ | current
  · simp only [found] at done
    split at done
    · cases done
      exact superseded
    · rcases started : restoredState config manifest spec answers
          ((spec.expectedHandle.map (·.generation + 1)).getD 1) with error | fresh
      · rw [started] at done
        cases done
        exact superseded
      · have shape := restoredState_ok started
        obtain ⟨managed, registered⟩ := registerManaged_free config
          (by decide : ManagedWorker.absent ≠ .active) fresh
        simp only [started, Except.bind, registered, Option.some.injEq, Prod.mk.injEq] at done
        obtain ⟨-, rfl⟩ := done
        refine superseded.put (by simp [found]) ?_
        rw [shape]
        nofun
  · simp only [found] at done
    split at done
    · cases done
    rcases planned : restorePlan config spec current with error | plan
    · rw [planned] at done
      cases done
      exact superseded
    rw [planned] at done
    cases plan with
    | verify =>
      simp only at done
      split at done <;> cases done <;> exact superseded
    | retry => exact superseded.installReplacement found (Nat.le_refl _) done
    | successor => exact superseded.installReplacement found (Nat.le_succ _) done

/-- Every call leaves a superseded handle superseded. -/
theorem Superseded.perform (superseded : Superseded handle b) {call : Call} {reply : Reply}
    {next : Backend} (done : perform config call b = some (reply, next)) :
    Superseded handle next := by
  cases call with
  | create workspace session started =>
    simp only [Workspace.perform, Option.some.injEq, create] at done
    rcases found : b.states workspace with _ | state
    · rw [found] at done
      obtain ⟨managed, registered⟩ := registerManaged_free config
        (by decide : ManagedWorker.absent ≠ .active) { session := session, generation := 1 }
      rcases started with error | _
      · cases done
        exact superseded
      · simp only [Except.bind, registered] at done
        cases done
        exact superseded.put (by simp [found]) (by intros; contradiction)
    · simp only [found] at done
      split at done
      · cases done
        exact superseded
      split at done <;> cases done <;> exact superseded
  | attach given session =>
    exact superseded.use (fun _ => attach_kept given session) done
  | executeStart operation given exits =>
    simp only [Workspace.perform, replayOrExecute] at done
    split at done
    · split at done <;> cases done <;> exact superseded
    · exact superseded.useLocked (fun _ => executeStart_kept rfl operation exits) done
  | executeFinish workspace answer =>
    exact superseded.finish (fun _ _ held => executeFinish_kept held answer) done
  | sendRebindPrepare operation given written =>
    exact superseded.useLocked (fun _ => sendRebindPrepare_kept operation given written) done
  | resumeStart operation given =>
    exact superseded.useLocked (fun _ => resumeStart_kept rfl operation) done
  | resumeFinish workspace answer =>
    exact superseded.finish (fun _ _ held => resumeFinish_kept held answer) done
  | inspect given answered =>
    exact superseded.useLocked (fun _ => inspect_kept given answered) done
  | interrupt given operation =>
    exact superseded.use (fun _ => interrupt_kept given operation) done
  | checkpoint operation given policy traceId answered =>
    exact superseded.useLocked (fun _ =>
      checkpointWorker_kept operation given policy traceId answered) done
  | restore manifest spec answers => exact superseded.restore done
  | health given => exact superseded.use (fun _ => health_kept given) done
  | close given reason answered =>
    exact superseded.useLocked (fun _ => close_kept given reason answered) done
  | exits workspace => exact superseded.use (fun _ => exits_kept) done

/-- Every run leaves a superseded handle superseded. -/
theorem Superseded.run {world : World} (superseded : Superseded handle world.backend)
    (calls : List Call) : Superseded handle (Runs.run (World.step config) calls world).backend := by
  let holds (world : World) : Prop := Superseded handle world.backend
  have start : holds world := superseded
  refine Runs.run_invariant (fun call state kept => ?_) start
  change Superseded handle _ at kept
  change Superseded handle _
  unfold World.step
  rcases done : Workspace.perform config call state.backend with _ | ⟨reply, next⟩
  · exact kept
  · exact kept.perform done

/-- The handle that a call is made on. -/
def Call.on : Call → Option ProgrammableWorkspaceHandle
  | .attach handle _ | .executeStart _ handle _ | .sendRebindPrepare _ handle _
  | .resumeStart _ handle | .inspect handle _ | .interrupt handle _
  | .checkpoint _ handle _ _ _ | .health handle | .close handle _ _ => some handle
  | .create _ _ _ | .executeFinish _ _ | .resumeFinish _ _ | .restore _ _ _ | .exits _ => none

/-- A reply refuses the call, or only repeats that its worker was lost. -/
def Reply.Refused : Reply → Prop
  | .raised _ => True
  | .replayed prior => prior.workspaceLost = true
  | _ => False

/-- A superseded handle fails the check of every call that is made on it. -/
theorem Superseded.checkHandle (superseded : Superseded handle b)
    (found : b.states handle.workspace = some state) (passed : Unit) :
    checkHandle config state handle ≠ .ok passed := by
  intro checked
  have named := congrArg ProgrammableWorkspaceHandle.generation (checkHandle_ok.mp checked)
  obtain ⟨current, current_found, later⟩ := superseded.bound
  rw [found, Option.some.injEq] at current_found
  subst current_found
  change handle.generation = state.generation at named
  omega

theorem whenChecked_refused {check : Except WorkspaceError Unit} {act : Reply × WorkerState}
    (fails : ∀ passed, check ≠ .ok passed) : (whenChecked check state act).1.Refused := by
  rcases check with error | passed
  · trivial
  · exact absurd rfl (fails passed)

/-- A call under the lock of a worker is refused when it is on every worker found there. -/
theorem useLocked_refused {act : WorkerState → Reply × WorkerState}
    (fails : ∀ state, b.states workspace = some state → (act state).1.Refused) {reply : Reply}
    {next : Backend} (done : b.useLocked workspace act = some (reply, next)) :
    reply.Refused := by
  unfold Backend.useLocked at done
  split at done
  · cases done
    trivial
  · next state found =>
    split at done
    · cases done
      exact fails state found
    · cases done

/-- A call on the worker of a workspace is refused when it is on every worker found there. -/
theorem use_refused {act : WorkerState → Reply × WorkerState}
    (fails : ∀ state, b.states workspace = some state → (act state).1.Refused) {reply : Reply}
    {next : Backend} (done : some (b.use workspace act) = some (reply, next)) :
    reply.Refused := by
  unfold Backend.use at done
  split at done
  · cases done
    trivial
  · next state found =>
    cases done
    exact fails state found

/-- Every call on a superseded handle is refused. -/
theorem Superseded.refused (superseded : Superseded handle b) {call : Call}
    (on : call.on = some handle) {reply : Reply} {next : Backend}
    (done : Workspace.perform config call b = some (reply, next)) : reply.Refused := by
  have fails {state : WorkerState} (found : b.states handle.workspace = some state) :
      ∀ passed, Workspace.checkHandle config state handle ≠ .ok passed :=
    superseded.checkHandle found
  cases call <;> cases on
  case attach session =>
    refine use_refused (fun state found => whenChecked_refused fun _ checked => ?_) done
    simp only [bind_ok, require_ok] at checked
    obtain ⟨_, -, _, current, -⟩ := checked
    exact fails found _ current
  case executeStart operation exits =>
    simp only [Workspace.perform, replayOrExecute] at done
    rcases retained : b.receipts operation with _ | prior
    · rw [retained] at done
      refine useLocked_refused (fun state found => whenChecked_refused fun _ checked => ?_) done
      simp only [executable, bind_ok] at checked
      obtain ⟨_, current, -⟩ := checked
      exact fails found _ current
    · -- What is retained for this very handle can only be the report of its loss.
      simp only [retained] at done
      split at done
      · next same =>
        cases done
        exact superseded.receipts operation prior retained same.1 same.2.1 same.2.2
      · cases done
        trivial
  case health =>
    exact use_refused (fun state found => whenChecked_refused (fails found)) done
  case interrupt operation =>
    exact use_refused (fun state found => whenChecked_refused (fails found)) done
  all_goals
    refine useLocked_refused (fun state found => whenChecked_refused fun _ checked => ?_) done
    simp only [bind_ok] at checked
    obtain ⟨_, current, -⟩ := checked
    exact fails found _ current

end Supersession

section Recovery

variable {config : Config}

/-- The request to recover a lost generation with the last handle issued for it. -/
def recoverySpec (session : String) (handle : ProgrammableWorkspaceHandle) :
    WorkspaceRestoreSpec where
  workspace := handle.workspace
  session := session
  expectedHandle := some handle
  recoverLostGeneration := true
  targets := by simp
  exact := fun _ => rfl

/-- A manifest that a checkpoint of some worker of this interpreter was issued with. -/
def CheckpointManifest.Valid (config : Config) (manifest : CheckpointManifest) : Prop :=
  ∃ policy space scan, (space.map Prod.fst).Nodup ∧
    checkpoint config.interpreter policy space = .ok scan ∧ scan.Accepted ∧
    manifest.values = scan.values

/-- The values of a valid manifest come back from a worker that was restored from it. -/
theorem CheckpointManifest.Valid.again {manifest : CheckpointManifest}
    (valid : manifest.Valid config) {worker : WorkerState}
    (restored : worker.space = restore config.interpreter manifest.values []) :
    verifyRestored config manifest {} worker = .ok () := by
  obtain ⟨policy, space, scan, distinct, taken, accepted, same⟩ := valid
  have gathered := Gathered.foldlM _ Gathered.nil taken
  rw [List.nil_append] at gathered
  have restorable := (gathered.restorable distinct).wider (verificationPolicy_wider policy)
  rw [← same] at restorable
  obtain ⟨bytes, fresh⟩ := checkpoint_restore restorable []
  have names : ∀ item ∈ manifest.values, ValidName item.name := same ▸ accepted.1
  have encodable : ∀ item ∈ manifest.values, Encodable item.name :=
    fun item member => (names item member).encodable
  have read : readCheckpoint config verificationPolicy worker =
      .ok { values := manifest.values, consumedBytes := bytes } := by
    simp only [readCheckpoint, restored, fresh, bind_ok, require_ok, pure_ok]
    exact ⟨(), ⟨encodable, by simp⟩, (), ⟨names, by simp⟩, trivial⟩
  simp [verifyRestored, read]

/-- A worker that follows its last handle is where a recovery with that handle expects it. -/
theorem Tracked.recoverable {revision : Nat} {state : WorkerState}
    {handle : ProgrammableWorkspaceHandle}
    (tracked : Tracked config handle.workspace revision state) (free : state.holder = none)
    (named : handle =
      ⟨handle.workspace, state.generation, revision, config.descriptor⟩) :
    restorePlan config (recoverySpec state.session handle) state = .ok .successor := by
  have generation := congrArg ProgrammableWorkspaceHandle.generation named
  have number := congrArg ProgrammableWorkspaceHandle.revision named
  have backend := congrArg ProgrammableWorkspaceHandle.backendCapabilityDigest named
  simp only at generation number backend
  have follows := tracked.follows
  -- The check passes on either side of a loss, which the record follows by one revision.
  have expected : expectedPredecessor config (recoverySpec state.session handle) handle state =
      .ok () := by
    by_cases lost : state.lost = true
    · rw [if_pos ⟨lost, free⟩] at follows
      simp [expectedPredecessor, recoverySpec, lost, generation, backend, follows, number]
    · rw [if_neg (by simp [lost])] at follows
      simp [expectedPredecessor, recoverySpec, lost, checkHandle, generation, backend, follows,
        number]
  have later : ¬ state.generation = handle.generation + 1 := by omega
  have plan := tracked.idle free
  simp only [restorePlan, bind_ok, require_ok, orRaise_ok]
  refine ⟨(), rfl, handle, rfl, ?_⟩
  rw [if_neg (by simp [later])]
  simp [expected, plan]

/-- The worker that a restore starts, recorded with the manager or not. -/
def restoredWorker (config : Config) (manifest : CheckpointManifest) (session : String)
    (generation : Nat) (managed : ManagedWorker) : WorkerState where
  session := session
  generation := generation
  space := restore config.interpreter manifest.values []
  managed := managed

variable {b : Backend} {handle : ProgrammableWorkspaceHandle} {state : WorkerState}
  {session : String}

/-- Installing a worker whose replacement starts binds it at its generation. -/
theorem installReplacement_started (config : Config) (workspace : String) (state : WorkerState)
    (manifest : CheckpointManifest) (spec : WorkspaceRestoreSpec) (generation : Nat)
    (b : Backend) :
    ∃ managed, installReplacement config workspace state
        (restoredState config manifest spec {} generation) b =
      (.handle ⟨workspace, generation, 0, config.descriptor⟩,
        b.put workspace (restoredWorker config manifest spec.session generation managed)) := by
  obtain ⟨managed, registered⟩ := registerManaged_free config
    (finishManaged_inactive { state with exited := true, closed := true })
    { session := spec.session, generation := generation
      space := restore config.interpreter manifest.values [] }
  have started : restoredState config manifest spec {} generation =
      .ok { session := spec.session, generation := generation
            space := restore config.interpreter manifest.values [] } := rfl
  refine ⟨managed, ?_⟩
  simp only [installReplacement, started, registered]
  rfl

/-- A restore that follows the worker of a workspace starts the next generation. -/
theorem restoreWorkspace_successor (bound : b.states handle.workspace = some state)
    (free : state.holder = none)
    (planned : restorePlan config (recoverySpec session handle) state = .ok .successor)
    (manifest : CheckpointManifest) :
    ∃ managed, restoreWorkspace config manifest (recoverySpec session handle) {} b =
      some (.handle ⟨handle.workspace, state.generation + 1, 0, config.descriptor⟩,
        b.put handle.workspace
          (restoredWorker config manifest session (state.generation + 1) managed)) := by
  obtain ⟨managed, installed⟩ := installReplacement_started config
    handle.workspace state manifest (recoverySpec session handle) (state.generation + 1) b
  refine ⟨managed, ?_⟩
  have held : ¬ state.holder ≠ none := by simp [free]
  simp only [restoreWorkspace, recoverySpec] at planned installed ⊢
  simp only [bound, if_neg held, planned, installed]

/-- A request that is repeated finds the worker it restored, alive or exited. -/
theorem restorePlan_reused (current : state.session = session)
    (generation : state.generation = handle.generation + 1) (revision : state.revision = 0)
    (open_yet : state.closed = false) (found : state.lost = false)
    (idle : state.runningOperation = none) :
    restorePlan config (recoverySpec session handle) state =
      .ok (if state.exited = true then .retry else .verify) := by
  cases exited : state.exited <;>
    simp [restorePlan, recoverySpec, orRaise, require, current, generation, revision, open_yet,
      found, idle, exited, Bind.bind, Except.bind, Pure.pure, Except.pure]

/-- Repeating a recovery whose worker is alive returns the handle it restored. -/
theorem restoreWorkspace_verified (bound : b.states handle.workspace = some state)
    (free : state.holder = none)
    (planned : restorePlan config (recoverySpec session handle) state = .ok .verify)
    {manifest : CheckpointManifest} (verified : verifyRestored config manifest {} state = .ok ()) :
    restoreWorkspace config manifest (recoverySpec session handle) {} b =
      some (.handle (handleOf config handle.workspace state), b) := by
  have held : ¬ state.holder ≠ none := by simp [free]
  simp only [restoreWorkspace, recoverySpec] at planned ⊢
  simp only [bound, if_neg held, planned, verified]

/-- Repeating a recovery whose worker has exited starts its generation again. -/
theorem restoreWorkspace_retried (bound : b.states handle.workspace = some state)
    (free : state.holder = none)
    (planned : restorePlan config (recoverySpec session handle) state = .ok .retry)
    (manifest : CheckpointManifest) :
    ∃ again, restoreWorkspace config manifest (recoverySpec session handle) {} b =
      some (.handle ⟨handle.workspace, state.generation, 0, config.descriptor⟩, again) := by
  obtain ⟨managed, installed⟩ := installReplacement_started config
    handle.workspace state manifest (recoverySpec session handle) state.generation b
  have held : ¬ state.holder ≠ none := by simp [free]
  simp only [restoreWorkspace, recoverySpec] at planned installed ⊢
  simp only [bound, if_neg held, planned, installed]
  exact ⟨_, rfl⟩

/-- A handle is superseded once its workspace has a worker of the next generation. -/
theorem Consistent.superseded {world : World} (consistent : Consistent config world)
    (bound : world.backend.states handle.workspace = some state)
    (last : lastIssued world.issued handle.workspace state.generation = some handle)
    {next : WorkerState} (later : handle.generation < next.generation)
    (free : next.holder = none) :
    Superseded handle (world.backend.put handle.workspace next) where
  bound := ⟨next, by simp [Backend.put], later⟩
  held := by
    intro workspace other found hold held
    by_cases same : workspace = handle.workspace
    · subst same
      simp only [Backend.put, Function.update_self, Option.some.injEq] at found
      subst found
      rw [free] at held
      exact absurd held (by simp)
    · simp only [Backend.put, Function.update_of_ne same] at found
      obtain ⟨revision, tracked, -⟩ := consistent.workers workspace other found
      rw [tracked.held hold held]
      exact ⟨rfl, rfl⟩
  receipts := by
    intro operation result retained same generation revision
    by_contra kept
    -- A result that kept its worker would have issued a later handle than this one.
    obtain ⟨other, found, behind⟩ :=
      consistent.receipts operation result retained (by simpa using kept)
    have own := (lastIssued_named last).2
    rw [same, bound, Option.some.injEq] at found
    subst found
    rcases behind with less | ⟨-, issued, issued_last, less⟩
    · omega
    · rw [same, last, Option.mem_def, Option.some.injEq] at issued_last
      subst issued_last
      omega

end Recovery

section Samples

/-- A backend without a worker manager. -/
def Sample.config : Config where
  descriptor := "capability"
  hasManager := false
  interpreter := { baseline := [], decimal := fun _ => false }

/-- The first handle on a workspace. -/
def Sample.handle : ProgrammableWorkspaceHandle := ⟨"workspace", 1, 0, "capability"⟩

/-- A checkpoint of a workspace in which nothing was bound. -/
def Sample.manifest : CheckpointManifest := ⟨Sample.handle, "checkpoint", "trace", [], []⟩

theorem Sample.manifest_valid : Sample.manifest.Valid Sample.config :=
  ⟨{}, [], {}, List.nodup_nil, by simp [checkpoint, userVariables, Pure.pure, Except.pure],
    by decide, rfl⟩

/-- An idle worker exits, and its health is asked for before it is recovered. -/
def Sample.idleLoss : List Call :=
  [.create "workspace" "session" (.ok ()), .exits "workspace", .health Sample.handle]

/-- A worker is lost while the program that a broker call suspended is resumed. -/
def Sample.resumeLoss : List Call :=
  [.create "workspace" "session" (.ok ()), .executeStart "operation" Sample.handle false,
    .executeFinish "workspace" (.suspended []), .resumeStart "operation" Sample.handle,
    .resumeFinish "workspace" (.lost (.workerTimeout "no answer") "no answer")]

/-- A worker is lost while it executes a program. -/
def Sample.executeLoss : List Call :=
  [.create "workspace" "session" (.ok ()), .executeStart "operation" Sample.handle false,
    .executeFinish "workspace" (.lost "worker exited")]

/-- After a run the recovery of a free worker with its last handle is refused. -/
def RecoveryRefused (config : Config) (calls : List Call) : Prop :=
  ∃ state handle manifest,
    (Runs.run (World.step config) calls .empty).backend.states handle.workspace = some state ∧
      state.holder = none ∧
      lastIssued (Runs.run (World.step config) calls .empty).issued handle.workspace
        state.generation = some handle ∧
      manifest.Valid config ∧
      (restoreWorkspace config manifest (recoverySpec state.session handle) {}
        (Runs.run (World.step config) calls .empty).backend).map Prod.fst =
          some (.raised (.workspaceRevisionConflict
            "lost workspace revision does not follow the recovery predecessor"))

/-- The record of an idle worker whose loss `health` recorded. -/
def Sample.idleState : WorkerState where
  session := "session"
  generation := 1
  exited := true
  lost := true
  lostReason := some "worker exited"

/-- The record of a worker that was lost while a program was resumed. -/
def Sample.resumeState : WorkerState where
  session := "session"
  generation := 1
  exited := true
  lost := true
  lostReason := some "no answer"
  suspendedOperation := some "operation"

end Samples

end Aar.Workspace
