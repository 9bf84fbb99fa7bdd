import Aar.Proofs.WorkerLoss
import Mathlib.Data.Option.Basic

/-! Every permitted run keeps the workers of a backend at the last handles it issued. -/

namespace Aar.Workspace

open Guarded

section Consistency

variable (config : Config)

/-- Every worker follows the last handle issued for it, and every result stays behind it. -/
structure Consistent (world : World) : Prop where
  workers : ∀ workspace state, world.backend.states workspace = some state →
    ∃ revision, Tracked config workspace revision state ∧
      lastIssued world.issued workspace state.generation =
        some ⟨workspace, state.generation, revision, config.descriptor⟩
  receipts : ∀ operation result, world.backend.receipts operation = some result →
    result.workspaceLost = false →
    ∃ state, world.backend.states result.workspace = some state ∧
      (result.generation < state.generation ∨
        result.generation = state.generation ∧
          ∃ last ∈ lastIssued world.issued result.workspace state.generation,
            result.revisionBefore < last.revision)

variable {config} {world : World} {workspace : String} {state : WorkerState}

theorem Consistent.empty : Consistent config .empty where
  workers _ _ found := by simp [World.empty, Backend.empty] at found
  receipts _ _ found := by simp [World.empty, Backend.empty] at found

/-- A handle issued for one workspace leaves the last handles of the others. -/
theorem lastIssued_elsewhere {issued : List ProgrammableWorkspaceHandle} {reply : Reply}
    {generation later : Nat}
    (given : reply.issued = none ∨
      ∃ backend, reply.issued = some ⟨workspace, generation, later, backend⟩)
    {other : String} (apart : other ≠ workspace) (number : Nat) :
    lastIssued (issued ++ reply.issued.toList) other number = lastIssued issued other number := by
  rcases given with silent | ⟨backend, issues⟩
  · simp [silent]
  · rw [issues, Option.toList_some]
    exact lastIssued_append_other fun same => apart same.1.symm

/-- What a call does to one worker keeps the whole backend consistent. -/
theorem Consistent.acted (consistent : Consistent config world)
    (found : world.backend.states workspace = some state) {revision : Nat}
    (last : lastIssued world.issued workspace state.generation =
      some ⟨workspace, state.generation, revision, config.descriptor⟩)
    {done : Reply × WorkerState} (acted : Acted config workspace revision state done)
    {next : Backend} (states : next.states = (world.backend.put workspace done.2).states)
    (receipts : ∀ operation result, next.receipts operation = some result →
      world.backend.receipts operation = some result ∨ done.1 = .result result) :
    Consistent config ⟨next, world.issued ++ done.1.issued.toList⟩ := by
  -- The last handle of the worker either stays or is the one just issued.
  have after : ∃ later, revision ≤ later ∧ Tracked config workspace later done.2 ∧
      lastIssued (world.issued ++ done.1.issued.toList) workspace state.generation =
        some ⟨workspace, state.generation, later, config.descriptor⟩ := by
    rcases acted.tracked with ⟨silent, tracked⟩ | ⟨later, grows, tracked, issues⟩
    · exact ⟨revision, Nat.le_refl _, tracked, by simpa [silent] using last⟩
    · refine ⟨later, grows, tracked, ?_⟩
      rw [issues, Option.toList_some]
      exact lastIssued_append
  obtain ⟨later, grows, tracked, last_after⟩ := after
  have given : done.1.issued = none ∨ ∃ backend,
      done.1.issued = some ⟨workspace, state.generation, later, backend⟩ := by
    rcases acted.tracked with ⟨silent, -⟩ | ⟨_, -, -, issues⟩
    · exact .inl silent
    · rw [issues, Option.toList_some] at last_after
      have same := lastIssued_append.symm.trans last_after
      exact .inr ⟨config.descriptor, by rw [issues, Option.some.inj same]⟩
  constructor
  · intro other other_state bound
    rw [states] at bound
    by_cases same : other = workspace
    · subst same
      simp only [Backend.put, Function.update_self, Option.some.injEq] at bound
      subst bound
      exact ⟨later, tracked, by rw [acted.generation]; exact last_after⟩
    · simp only [Backend.put, Function.update_of_ne same] at bound
      obtain ⟨number, other_tracked, other_last⟩ := consistent.workers other other_state bound
      exact ⟨number, other_tracked, by rw [lastIssued_elsewhere given same]; exact other_last⟩
  · intro operation result retained kept
    rcases receipts operation result retained with old | new
    · obtain ⟨old_state, old_bound, behind⟩ :=
        consistent.receipts operation result old kept
      by_cases same : result.workspace = workspace
      · rw [same, found, Option.some.injEq] at old_bound
        subst old_bound
        refine ⟨done.2, by simp [states, Backend.put, same], ?_⟩
        rw [acted.generation]
        refine behind.imp id fun ⟨generation, handle, handle_last, less⟩ => ⟨generation, ?_⟩
        rw [same, last, Option.mem_def, Option.some.injEq] at handle_last
        subst handle_last
        exact ⟨_, by rw [same]; exact last_after, Nat.lt_of_lt_of_le less grows⟩
      · refine ⟨old_state, by simpa [states, Backend.put, same] using old_bound, ?_⟩
        rw [lastIssued_elsewhere given same]
        exact behind
    · obtain ⟨named, generation, issues⟩ := acted.results result new kept
      refine ⟨done.2, by simp [states, Backend.put, named], .inr ⟨?_, ?_⟩⟩
      · rw [acted.generation, generation]
      · rw [acted.generation, named, issues]
        exact ⟨_, lastIssued_append, Nat.lt_succ_self _⟩

/-- A new worker, at a later generation or before anything ran, keeps the backend consistent. -/
theorem Consistent.replaced (consistent : Consistent config world) {fresh : WorkerState}
    (revision : fresh.revision = 0) (found : fresh.lost = false) (free : fresh.holder = none)
    (stopped : fresh.runningOperation = none)
    (later : ∀ state, world.backend.states workspace = some state →
      state.generation < fresh.generation ∨
        state.generation = fresh.generation ∧ state.revision = 0) :
    Consistent config ⟨world.backend.put workspace fresh,
      world.issued ++ [handleOf config workspace fresh]⟩ := by
  have given : (Reply.handle (handleOf config workspace fresh)).issued = none ∨ ∃ backend,
      (Reply.handle (handleOf config workspace fresh)).issued =
        some ⟨workspace, fresh.generation, fresh.revision, backend⟩ :=
    .inr ⟨config.descriptor, rfl⟩
  have elsewhere {other : String} (apart : other ≠ workspace) (number : Nat) :
      lastIssued (world.issued ++ [handleOf config workspace fresh]) other number =
        lastIssued world.issued other number :=
    lastIssued_elsewhere given apart number
  constructor
  · intro other other_state bound
    by_cases same : other = workspace
    · subst same
      simp only [Backend.put, Function.update_self, Option.some.injEq] at bound
      subst bound
      refine ⟨0, ⟨by simp [revision, found], fun _ => stopped, by simp [free]⟩, ?_⟩
      rw [show (⟨other, fresh.generation, 0, config.descriptor⟩ : ProgrammableWorkspaceHandle) =
        handleOf config other fresh by simp [handleOf, revision]]
      exact lastIssued_append
    · simp only [Backend.put, Function.update_of_ne same] at bound
      obtain ⟨number, tracked, last⟩ := consistent.workers other other_state bound
      exact ⟨number, tracked, by rw [elsewhere same]; exact last⟩
  · intro operation result retained kept
    obtain ⟨state, bound, behind⟩ := consistent.receipts operation result retained kept
    by_cases same : result.workspace = workspace
    · refine ⟨fresh, by simp [Backend.put, same], .inl ?_⟩
      rw [same] at bound behind
      rcases behind with less | ⟨equal, handle, handle_last, less⟩
      · rcases later state bound with lower | ⟨lower, -⟩ <;> omega
      · rcases later state bound with lower | ⟨lower, untouched⟩
        · omega
        · -- Nothing ran in a generation whose worker is still at revision zero.
          obtain ⟨number, tracked, last⟩ := consistent.workers workspace state bound
          rw [last, Option.mem_def, Option.some.injEq] at handle_last
          subst handle_last
          have follows := tracked.follows
          rw [untouched] at follows
          split at follows
          · omega
          · change result.revisionBefore < number at less
            omega
    · refine ⟨state, by simpa [Backend.put, same] using bound, ?_⟩
      rw [elsewhere same]
      exact behind

end Consistency

section Steps

variable {config : Config} {world : World} {workspace : String}

theorem finishManaged_inactive (state : WorkerState) :
    (finishManaged state).managed ≠ .active := by
  unfold finishManaged
  split
  · simp
  · assumption

/-- Recording a worker beside no live one succeeds and changes only its durable identity. -/
theorem registerManaged_free (config : Config) {predecessor : ManagedWorker}
    (free : predecessor ≠ .active) (state : WorkerState) :
    ∃ managed, registerManaged config predecessor state = .ok { state with managed := managed } := by
  unfold registerManaged
  by_cases manager : config.hasManager
  · exact ⟨.active, by simp [manager, free]⟩
  · exact ⟨state.managed, by simp [manager, Pure.pure, Except.pure]⟩

/-- A call on the worker of a workspace keeps a backend consistent. -/
theorem Consistent.use (consistent : Consistent config world)
    {act : WorkerState → Reply × WorkerState}
    (acted : ∀ state revision, world.backend.states workspace = some state →
      Tracked config workspace revision state → Acted config workspace revision state (act state))
    {reply : Reply} {next : Backend}
    (done : some (world.backend.use workspace act) = some (reply, next)) :
    Consistent config ⟨next, world.issued ++ reply.issued.toList⟩ := by
  unfold Backend.use at done
  split at done
  · cases done
    simpa [Reply.issued] using consistent
  · next state found =>
    cases done
    obtain ⟨revision, tracked, last⟩ := consistent.workers workspace state found
    exact consistent.acted found last (acted state revision found tracked) rfl
      fun _ _ retained => .inl retained

/-- A call under the lock of a worker keeps a backend consistent. -/
theorem Consistent.useLocked (consistent : Consistent config world)
    {act : WorkerState → Reply × WorkerState}
    (acted : ∀ state revision, world.backend.states workspace = some state →
      state.holder = none → Tracked config workspace revision state →
      Acted config workspace revision state (act state))
    {reply : Reply} {next : Backend}
    (done : world.backend.useLocked workspace act = some (reply, next)) :
    Consistent config ⟨next, world.issued ++ reply.issued.toList⟩ := by
  unfold Backend.useLocked at done
  split at done
  · cases done
    simpa [Reply.issued] using consistent
  · next state found =>
    split at done
    · next free =>
      cases done
      obtain ⟨revision, tracked, last⟩ := consistent.workers workspace state found
      exact consistent.acted found last (acted state revision found free tracked) rfl
        fun _ _ retained => .inl retained
    · cases done

/-- The end of an execution keeps a backend consistent. -/
theorem Consistent.finish (consistent : Consistent config world) {resumes : Bool}
    {act : Hold → WorkerState → Reply × WorkerState}
    (acted : ∀ state hold revision, world.backend.states workspace = some state →
      state.holder = some hold → hold.resumes = resumes →
      Tracked config workspace revision state →
      Acted config workspace revision state (act hold state))
    {reply : Reply} {next : Backend}
    (done : world.backend.finish workspace resumes act = some (reply, next)) :
    Consistent config ⟨next, world.issued ++ reply.issued.toList⟩ := by
  simp only [Backend.finish, Option.bind_eq_bind, Option.bind_eq_some_iff, Option.pure_def,
    Option.some.injEq, Prod.mk.injEq] at done
  obtain ⟨state, found, hold, held, _, kind, rfl, rfl⟩ := done
  have kind : hold.resumes = resumes := by simpa [guard, failure] using kind
  obtain ⟨revision, tracked, last⟩ := consistent.workers workspace state found
  refine consistent.acted found last (acted state hold revision found held kind tracked) ?_ ?_
  · cases (act hold state).1 <;> rfl
  · intro operation result retained
    rcases reply : (act hold state).1 with _ | _ | _ | finished | _ | _ | _ | _ | _ | _ | _ | _
    all_goals rw [reply] at retained
    case result =>
      by_cases same : operation = finished.operation
      · subst same
        simp only [Backend.retainReply, Backend.retain, Function.update_self,
          Option.some.injEq] at retained
        exact .inr (by rw [retained])
      · simp only [Backend.retainReply, Backend.retain, Function.update_of_ne same] at retained
        exact .inl retained
    all_goals exact .inl retained

/-- Creating a workspace keeps a backend consistent. -/
theorem Consistent.create (consistent : Consistent config world) {session : String}
    {started : Except WorkspaceError Unit} {reply : Reply} {next : Backend}
    (done : some (Workspace.create config workspace session started world.backend) =
      some (reply, next)) :
    Consistent config ⟨next, world.issued ++ reply.issued.toList⟩ := by
  obtain ⟨rfl, rfl⟩ :
      reply = (Workspace.create config workspace session started world.backend).1 ∧
      next = (Workspace.create config workspace session started world.backend).2 := by
    rw [Option.some.inj done]
    exact ⟨rfl, rfl⟩
  clear done
  unfold Workspace.create
  rcases found : world.backend.states workspace with _ | state
  · obtain ⟨managed, registered⟩ := registerManaged_free config
      (by decide : ManagedWorker.absent ≠ .active) { session := session, generation := 1 }
    rcases started with error | _
    · simpa [Except.bind, Reply.issued] using consistent
    · simp only [Except.bind, registered]
      exact consistent.replaced rfl rfl rfl rfl (by simp [found])
  · simp only
    split
    · simpa [Reply.issued] using consistent
    split
    · simpa [Reply.issued] using consistent
    · next usable =>
      obtain ⟨revision, tracked, last⟩ := consistent.workers workspace state found
      have at_last := tracked.current (by simpa using (not_or.mp usable).2)
      have acted : Acted config workspace revision state
          (.handle (handleOf config workspace state), state) :=
        ⟨rfl, .inr ⟨revision, Nat.le_refl _, tracked, by simp [Reply.issued, handleOf, at_last]⟩,
          (by intros; contradiction)⟩
      refine consistent.acted found last acted ?_ fun _ _ retained => .inl retained
      funext other
      by_cases same : other = workspace
      · simp [Backend.put, same, found]
      · simp [Backend.put, same]

/-- What a recovery that named its predecessor finds in the workspace. -/
theorem restorePlan_ok {spec : WorkspaceRestoreSpec} {current : WorkerState} {plan : RestorePlan}
    (planned : restorePlan config spec current = .ok plan) :
    (plan = .verify ∧ current.lost = false) ∨ (plan = .retry ∧ current.revision = 0) ∨
      plan = .successor := by
  simp only [restorePlan, bind_ok, require_ok, orRaise_ok] at planned
  obtain ⟨_, -, expected, -, planned⟩ := planned
  rcases ite_ok.mp planned with ⟨-, reused⟩ | ⟨-, fresh⟩
  · simp only [bind_ok, require_ok, pure_ok] at reused
    obtain ⟨_, untouched, _, -, rfl⟩ := reused
    by_cases live : current.exited = false ∧ current.lost = false
    · exact .inl ⟨by simp [live], live.2⟩
    · refine .inr (.inl ⟨?_, by simpa using (not_or.mp untouched).2⟩)
      rw [if_neg]
      simpa using live
  · simp only [bind_ok, require_ok, pure_ok] at fresh
    obtain ⟨_, -, _, -, rfl⟩ := fresh
    exact .inr (.inr rfl)

/-- A worker that was just started for a restore, written out. -/
theorem restoredState_ok {manifest : CheckpointManifest} {spec : WorkspaceRestoreSpec}
    {answers : RestoreAnswers} {generation : Nat} {fresh : WorkerState}
    (started : restoredState config manifest spec answers generation = .ok fresh) :
    fresh = {
      session := spec.session, generation := generation
      space := restore config.interpreter manifest.values [] } := by
  simp only [restoredState, bind_ok, pure_ok] at started
  obtain ⟨_, -, _, -, rfl⟩ := started
  rfl

/-- Installing a new worker keeps a backend consistent. -/
theorem Consistent.installReplacement (consistent : Consistent config world)
    {current : WorkerState} (found : world.backend.states workspace = some current)
    (manifest : CheckpointManifest) (spec : WorkspaceRestoreSpec) (answers : RestoreAnswers)
    {generation : Nat}
    (later : current.generation < generation ∨
      current.generation = generation ∧ current.revision = 0) :
    Consistent config ⟨(installReplacement config workspace current
        (restoredState config manifest spec answers generation) world.backend).2,
      world.issued ++ (installReplacement config workspace current
        (restoredState config manifest spec answers generation)
          world.backend).1.issued.toList⟩ := by
  unfold Workspace.installReplacement
  rcases started : restoredState config manifest spec answers generation with error | fresh
  · simpa [Reply.issued] using consistent
  · have shape := restoredState_ok started
    obtain ⟨managed, registered⟩ := registerManaged_free config
      (finishManaged_inactive { current with exited := true, closed := true }) fresh
    simp only [registered]
    refine consistent.replaced ?_ ?_ ?_ ?_ fun state bound => ?_
    · rw [shape]
    · rw [shape]
    · rw [shape]
    · rw [shape]
    · rw [found, Option.some.injEq] at bound
      subst bound
      rw [shape]
      exact later

/-- Restoring a workspace keeps a backend consistent. -/
theorem Consistent.restore (consistent : Consistent config world)
    {manifest : CheckpointManifest} {spec : WorkspaceRestoreSpec} {answers : RestoreAnswers}
    {reply : Reply} {next : Backend}
    (done : restoreWorkspace config manifest spec answers world.backend = some (reply, next)) :
    Consistent config ⟨next, world.issued ++ reply.issued.toList⟩ := by
  unfold restoreWorkspace at done
  rcases found : world.backend.states spec.workspace with _ | current
  · simp only [found] at done
    split at done
    · cases done
      simpa [Reply.issued] using consistent
    · rcases started : restoredState config manifest spec answers
          ((spec.expectedHandle.map (·.generation + 1)).getD 1) with error | fresh
      · rw [started] at done
        cases done
        simpa [Reply.issued] using consistent
      · have shape := restoredState_ok started
        obtain ⟨managed, registered⟩ := registerManaged_free config
          (by decide : ManagedWorker.absent ≠ .active) fresh
        simp only [started, Except.bind, registered, Option.some.injEq, Prod.mk.injEq] at done
        obtain ⟨rfl, rfl⟩ := done
        refine consistent.replaced ?_ ?_ ?_ ?_ (by simp [found]) <;> rw [shape]
  · simp only [found] at done
    split at done
    · cases done
    rcases planned : restorePlan config spec current with error | plan
    · rw [planned] at done
      cases done
      simpa [Reply.issued] using consistent
    rw [planned] at done
    rcases restorePlan_ok planned with ⟨rfl, alive⟩ | ⟨rfl, untouched⟩ | rfl
    · simp only at done
      split at done
      · cases done
        simpa [Reply.issued] using consistent
      · cases done
        -- The live worker of the recovery generation is where its last handle says.
        obtain ⟨revision, tracked, last⟩ := consistent.workers spec.workspace current found
        have at_last := tracked.current alive
        have acted : Acted config spec.workspace revision current
            (.handle (handleOf config spec.workspace current), current) :=
          ⟨rfl, .inr ⟨revision, Nat.le_refl _, tracked, by simp [Reply.issued, handleOf, at_last]⟩,
            (by intros; contradiction)⟩
        refine consistent.acted found last acted ?_ fun _ _ retained => .inl retained
        funext other
        by_cases same : other = spec.workspace
        · simp [Backend.put, same, found]
        · simp [Backend.put, same]
    · simp only [Option.some.injEq] at done
      have kept := consistent.installReplacement found manifest spec answers
        (.inr ⟨rfl, untouched⟩)
      rw [done] at kept
      exact kept
    · simp only [Option.some.injEq] at done
      have kept := consistent.installReplacement found manifest spec answers
        (.inl (Nat.lt_succ_self _))
      rw [done] at kept
      exact kept

end Steps

section Runs

variable (config : Config)

/-- The step records no loss of a worker whose revision it leaves at the last handle issued. -/
def Permitted (call : Call) (world : World) : Prop :=
  match call with
  | .executeStart operation handle exits =>
    world.backend.receipts operation = none →
      ∀ state ∈ world.backend.states handle.workspace, state.holder = none →
        executable config handle state = .ok () → ¬ (exits = true ∧ state.managed = .active)
  | .executeFinish workspace (.response _ _) =>
    ∀ state ∈ world.backend.states workspace, ∀ hold ∈ state.holder, hold.resumes = false →
      state.lost = false ∧ ¬ (state.managed = .active ∧ state.exited = true)
  | .executeFinish workspace (.suspended _) =>
    ∀ state ∈ world.backend.states workspace, ∀ hold ∈ state.holder, hold.resumes = false →
      state.lost = false
  | .resumeFinish workspace (.response _ _) =>
    ∀ state ∈ world.backend.states workspace, ∀ hold ∈ state.holder, hold.resumes = true →
      state.lost = false ∧ ¬ (state.managed = .active ∧ state.exited = true)
  | .resumeFinish workspace (.lost _ _) =>
    ∀ state ∈ world.backend.states workspace, ∀ hold ∈ state.holder, hold.resumes = false
  | .resumeFinish workspace (.unreadable _) =>
    ∀ state ∈ world.backend.states workspace, ∀ hold ∈ state.holder, hold.resumes = true →
      state.lost = false
  | .health handle =>
    ∀ state ∈ world.backend.states handle.workspace,
      checkHandle config state handle = .ok () → state.exited = true → state.closed = false →
        state.holder = none → state.lost = true
  | _ => True

variable {config} {world : World}

/-- A permitted step keeps a backend consistent. -/
theorem Consistent.step {call : Call} (permitted : Permitted config call world)
    (consistent : Consistent config world) : Consistent config (world.step config call) := by
  unfold World.step
  rcases done : perform config call world.backend with _ | ⟨reply, next⟩
  · exact consistent
  -- Each call acts on one worker, which follows its handles after the call as before it.
  cases call with
  | create workspace session started =>
    exact consistent.create done
  | attach handle session =>
    exact consistent.use (fun _ _ _ tracked => attach_acted tracked rfl session) done
  | executeStart operation handle exits =>
    simp only [perform, replayOrExecute] at done
    rcases retained : world.backend.receipts operation with _ | prior
    · rw [retained] at done
      exact consistent.useLocked (fun state _ found free tracked =>
        executeStart_acted tracked rfl operation exits (permitted retained state found free)) done
    · simp only [retained] at done
      split at done <;> cases done <;> simpa [Reply.issued] using consistent
  | executeFinish workspace answer =>
    refine consistent.finish (fun state hold _ found held kind tracked => ?_) done
    refine executeFinish_acted tracked held answer ?_ ?_
    · rintro status space rfl
      exact permitted state found hold held kind
    · rintro space rfl
      exact permitted state found hold held kind
  | sendRebindPrepare operation handle written =>
    exact consistent.useLocked (fun _ _ _ _ tracked =>
      sendRebindPrepare_acted tracked operation handle written) done
  | resumeStart operation handle =>
    exact consistent.useLocked (fun _ _ _ _ tracked =>
      resumeStart_acted tracked rfl operation) done
  | resumeFinish workspace answer =>
    refine consistent.finish (fun state hold _ found held kind tracked => ?_) done
    refine resumeFinish_acted tracked held answer ?_ ?_ ?_
    · rintro status space rfl
      exact permitted state found hold held kind
    · rintro error message rfl
      exact Bool.noConfusion (kind.symm.trans (permitted state found hold held))
    · rintro message rfl
      exact permitted state found hold held kind
  | inspect handle answered =>
    exact consistent.useLocked (fun _ _ _ _ tracked =>
      inspect_acted tracked handle answered) done
  | interrupt handle operation =>
    exact consistent.use (fun _ _ _ tracked => interrupt_acted tracked handle operation) done
  | checkpoint operation handle policy traceId answered =>
    exact consistent.useLocked (fun _ _ _ _ tracked =>
      checkpointWorker_acted tracked rfl operation policy traceId answered) done
  | restore manifest spec answers => exact consistent.restore done
  | health handle =>
    exact consistent.use (fun state _ found tracked =>
      health_acted tracked handle (permitted state found)) done
  | close handle reason answered =>
    exact consistent.useLocked (fun _ _ _ _ tracked =>
      close_acted tracked handle reason answered) done
  | exits workspace =>
    exact consistent.use (fun _ _ _ tracked => exits_acted tracked) done

theorem consistent_run {calls : List Call}
    (allowed : Runs.Allowed (World.step config) (Permitted config) calls .empty) :
    Consistent config (Runs.run (World.step config) calls .empty) :=
  allowed.invariant (fun _ _ permitted kept => kept.step permitted) .empty

end Runs

end Aar.Workspace
