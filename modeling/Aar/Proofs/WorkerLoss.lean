import Aar.Lib.Run
import Aar.Workspace.Backend

/-! What the supervisor's record of a worker says of the last handle it issued. -/

namespace Aar.Workspace

open Guarded

section Ledger

/-- The handle a reply issues: a result that reports the loss of its worker issues none. -/
def Reply.issued : Reply → Option ProgrammableWorkspaceHandle
  | .handle given => some given
  | .manifest taken => some taken.sourceHandle
  | .result done =>
    if done.workspaceLost then none
    else some ⟨done.workspace, done.generation, done.revisionAfter, done.backend⟩
  | _ => none

/-- A backend with every handle it has issued, in order. -/
structure World where
  backend : Backend
  issued : List ProgrammableWorkspaceHandle

/-- A backend that has not started a worker has issued nothing. -/
def World.empty : World := ⟨.empty, []⟩

/-- One step of a backend; a call that has to wait for a lock leaves everything as it is. -/
def World.step (config : Config) (call : Call) (world : World) : World :=
  match perform config call world.backend with
  | none => world
  | some (reply, backend) => ⟨backend, world.issued ++ reply.issued.toList⟩

/-- The last handle issued for one generation of a workspace. -/
def lastIssued (issued : List ProgrammableWorkspaceHandle) (workspace : String)
    (generation : Nat) : Option ProgrammableWorkspaceHandle :=
  (issued.filter fun handle =>
    handle.workspace = workspace ∧ handle.generation = generation).getLast?

variable {issued : List ProgrammableWorkspaceHandle} {workspace : String} {generation : Nat}

theorem lastIssued_named {handle : ProgrammableWorkspaceHandle}
    (last : lastIssued issued workspace generation = some handle) :
    handle.workspace = workspace ∧ handle.generation = generation := by
  simpa using (List.mem_filter.mp (List.mem_of_getLast? last)).2

theorem lastIssued_append {handle : ProgrammableWorkspaceHandle} :
    lastIssued (issued ++ [handle]) handle.workspace handle.generation = some handle := by
  simp [lastIssued, List.filter_append]

theorem lastIssued_append_other {handle : ProgrammableWorkspaceHandle}
    (other : ¬ (handle.workspace = workspace ∧ handle.generation = generation)) :
    lastIssued (issued ++ [handle]) workspace generation =
      lastIssued issued workspace generation := by
  simp [lastIssued, List.filter_append, other]

end Ledger

section Tracking

variable (config : Config)

/-- How a worker's record follows the revision of the last handle issued for it. -/
structure Tracked (workspace : String) (revision : Nat) (state : WorkerState) : Prop where
  follows : state.revision =
    if state.lost = true ∧ state.holder = none then revision + 1 else revision
  idle : state.holder = none → state.runningOperation = none
  held : ∀ hold ∈ state.holder, hold.handle = handleOf config workspace state

/-- What a call may do to a worker whose record follows the handles. -/
structure Acted (workspace : String) (revision : Nat) (state : WorkerState)
    (done : Reply × WorkerState) : Prop where
  generation : done.2.generation = state.generation
  tracked : (done.1.issued = none ∧ Tracked config workspace revision done.2) ∨
    ∃ later, revision ≤ later ∧ Tracked config workspace later done.2 ∧
      done.1.issued = some ⟨workspace, state.generation, later, config.descriptor⟩
  results : ∀ result, done.1 = .result result → result.workspaceLost = false →
    result.workspace = workspace ∧ result.generation = state.generation ∧
      done.1.issued =
        some ⟨workspace, state.generation, result.revisionBefore + 1, config.descriptor⟩

variable {config} {workspace : String} {revision : Nat} {state : WorkerState}

theorem Tracked.current (tracked : Tracked config workspace revision state)
    (found : state.lost = false) : state.revision = revision := by
  rw [tracked.follows, if_neg (by simp [found])]

/-- A call that issues no handle and touches neither loss, lock nor revision is followed. -/
theorem Acted.quiet {done : Reply × WorkerState}
    (tracked : Tracked config workspace revision state) (silent : done.1.issued = none)
    (reply : ∀ result, done.1 ≠ .result result)
    (generation : done.2.generation = state.generation)
    (revision_kept : done.2.revision = state.revision) (lost : done.2.lost = state.lost)
    (holder : done.2.holder = state.holder)
    (running : done.2.runningOperation = state.runningOperation) :
    Acted config workspace revision state done where
  generation := generation
  tracked := by
    refine .inl ⟨silent, ?_, ?_, ?_⟩
    · rw [revision_kept, lost, holder]
      exact tracked.follows
    · rw [holder, running]
      exact tracked.idle
    · intro hold held
      rw [holder] at held
      rw [tracked.held hold held]
      simp [handleOf, generation, revision_kept]
  results := fun result same => absurd same (reply result)

theorem Acted.refused (tracked : Tracked config workspace revision state)
    (error : WorkspaceError) : Acted config workspace revision state (.raised error, state) :=
  .quiet tracked rfl nofun rfl rfl rfl rfl rfl

/-- A checked call is followed when what it does under its checks is. -/
theorem Acted.whenChecked {check : Except WorkspaceError Unit} {act : Reply × WorkerState}
    (tracked : Tracked config workspace revision state)
    (followed : check = .ok () → Acted config workspace revision state act) :
    Acted config workspace revision state (Workspace.whenChecked check state act) := by
  rcases check with error | _
  · exact .refused tracked error
  · exact followed rfl

/-- A checked handle is the current handle on its worker. -/
theorem checkHandle_ok {handle : ProgrammableWorkspaceHandle} :
    checkHandle config state handle = .ok () ↔
      handle = handleOf config handle.workspace state := by
  obtain ⟨name, generation, number, backend⟩ := handle
  simp only [checkHandle, bind_ok, require_ok, exists_const, handleOf,
    ProgrammableWorkspaceHandle.mk.injEq, true_and]
  constructor
  · rintro ⟨rfl, rfl, rfl⟩
    exact ⟨rfl, rfl, rfl⟩
  · rintro ⟨rfl, rfl, rfl⟩
    exact ⟨rfl, rfl, rfl⟩

theorem assertAvailable_ok :
    assertAvailable state = .ok () ↔
      state.closed = false ∧ state.lost = false ∧ state.exited = false := by
  simp [assertAvailable]

end Tracking

section Workers

variable {config : Config} {workspace : String} {revision : Nat} {state : WorkerState}

/-- Finishing the durable identity touches nothing else. -/
theorem finishManaged_fields (state : WorkerState) :
    (finishManaged state).generation = state.generation ∧
      (finishManaged state).revision = state.revision ∧
      (finishManaged state).lost = state.lost ∧ (finishManaged state).holder = state.holder ∧
      (finishManaged state).runningOperation = state.runningOperation ∧
      (finishManaged state).session = state.session := by
  unfold finishManaged
  split <;> simp

/-- An attached handle is the last one issued. -/
theorem attach_acted (tracked : Tracked config workspace revision state)
    {handle : ProgrammableWorkspaceHandle} (same : handle.workspace = workspace)
    (session : String) :
    Acted config workspace revision state (attach config handle session state) := by
  refine .whenChecked tracked fun checked => ?_
  simp only [bind_ok, require_ok] at checked
  obtain ⟨_, -, _, current, available⟩ := checked
  have named := checkHandle_ok.mp current
  have at_last := tracked.current (assertAvailable_ok.mp available).2.1
  refine ⟨rfl, .inr ⟨revision, Nat.le_refl _, tracked, ?_⟩, by intros; contradiction⟩
  rw [named]
  simp [Reply.issued, handleOf, same, at_last]

/-- An execution that starts takes a worker at the last handle issued. -/
theorem executeStart_acted (tracked : Tracked config workspace revision state)
    {handle : ProgrammableWorkspaceHandle} (same : handle.workspace = workspace)
    (operation : String) (exits : Bool)
    (alive : executable config handle state = .ok () →
      ¬ (exits = true ∧ state.managed = .active)) :
    Acted config workspace revision state (executeStart config operation handle exits state) := by
  refine .whenChecked tracked fun checked => ?_
  have not_gone := alive checked
  simp only [executable, bind_ok, require_ok] at checked
  obtain ⟨_, current, _, available, -⟩ := checked
  have named := checkHandle_ok.mp current
  obtain ⟨-, found, running⟩ := assertAvailable_ok.mp available
  have alive_yet : ¬ (state.managed = .active ∧ (state.exited || exits) = true) := by
    simpa [running, and_comm] using not_gone
  simp only [managedHeartbeat, if_neg alive_yet]
  refine ⟨rfl, .inl ⟨rfl, ?_, (by intros; contradiction), ?_⟩, by intros; contradiction⟩
  · simpa using tracked.current found
  · rintro hold ⟨⟩
    rw [← same]
    exact named

/-- The handle of a held worker, written out. -/
theorem Tracked.held_handle (tracked : Tracked config workspace revision state) {hold : Hold}
    (held : state.holder = some hold) :
    hold.handle = ⟨workspace, state.generation, revision, config.descriptor⟩ ∧
      state.revision = revision := by
  have at_last : state.revision = revision := by
    rw [tracked.follows, if_neg (by simp [held])]
  refine ⟨?_, at_last⟩
  rw [tracked.held hold held, handleOf, at_last]

/-- A result of a worker that was not lost issues the next handle. -/
theorem result_acted (tracked : Tracked config workspace revision state) {hold : Hold}
    (held : state.holder = some hold) (status : WorkspaceExecutionStatus) {next : WorkerState}
    (generation : next.generation = state.generation) (found : next.lost = false)
    (released : next.holder = none) (stopped : next.runningOperation = none)
    (advanced : next.revision = hold.handle.revision + 1) :
    Acted config workspace revision state
      (.result (resultOf config hold status false), next) := by
  obtain ⟨named, -⟩ := tracked.held_handle held
  refine ⟨generation, .inr ⟨revision + 1, Nat.le_succ _, ⟨?_, fun _ => stopped, ?_⟩, ?_⟩, ?_⟩
  · simp [found, advanced, named]
  · simp [released]
  · simp [Reply.issued, resultOf, named]
  · rintro _ ⟨⟩ -
    simp [Reply.issued, resultOf, named]

/-- The end of an execution leaves its worker at the next handle, or lost behind the last. -/
theorem executeFinish_acted (tracked : Tracked config workspace revision state) {hold : Hold}
    (held : state.holder = some hold) (answer : ExecuteAnswer)
    (answered : ∀ status space, answer = .response status space →
      state.lost = false ∧ ¬ (state.managed = .active ∧ state.exited = true))
    (paused : ∀ space, answer = .suspended space → state.lost = false) :
    Acted config workspace revision state (executeFinish config hold answer state) := by
  obtain ⟨named, at_last⟩ := tracked.held_handle held
  -- A loss advances the record past the handle the execution was called with.
  have loses : ∀ status message,
      Acted config workspace revision state (.result (resultOf config hold status true),
        { markLost message { state with runningOperation := none, holder := none } with
          revision := (resultOf config hold status true).revisionAfter }) := by
    intro status message
    have fields := finishManaged_fields { state with
      runningOperation := none, holder := none, exited := true, lost := true,
      lostReason := some message }
    refine ⟨fields.1, .inl ⟨rfl, ⟨?_, fun _ => fields.2.2.2.2.1, ?_⟩⟩, ?_⟩
    · simp [markLost, fields, resultOf, named]
    · simp [markLost, fields]
    · rintro _ ⟨⟩ lost
      simp [resultOf] at lost
  cases answer with
  | response status space =>
    obtain ⟨found, alive⟩ := answered status space rfl
    simp only [executeFinish, found, Bool.false_eq_true, if_false, managedHeartbeat, if_neg alive]
    exact result_acted tracked held status rfl rfl rfl rfl rfl
  | suspended space =>
    have found := paused space rfl
    refine ⟨rfl, .inl ⟨rfl, ⟨?_, fun _ => rfl, ?_⟩⟩, nofun⟩
    · simpa [executeFinish, found] using at_last
    · simp [executeFinish]
  | timedOut message => exact loses _ message
  | lost message => exact loses _ message
  | malformed message => exact loses _ message

/-- A resumption that starts takes a worker at the last handle issued. -/
theorem resumeStart_acted (tracked : Tracked config workspace revision state)
    {handle : ProgrammableWorkspaceHandle} (same : handle.workspace = workspace)
    (operation : String) :
    Acted config workspace revision state (resumeStart config operation handle state) := by
  refine .whenChecked tracked fun checked => ?_
  simp only [bind_ok, require_ok] at checked
  obtain ⟨_, current, _, available, -⟩ := checked
  have named := checkHandle_ok.mp current
  refine ⟨rfl, .inl ⟨rfl, ?_, (by intros; contradiction), ?_⟩, by intros; contradiction⟩
  · simpa using tracked.current (assertAvailable_ok.mp available).2.1
  · rintro hold ⟨⟩
    rw [← same]
    exact named

/-- The end of a resumption leaves its worker at the next handle, unless the worker was lost. -/
theorem resumeFinish_acted (tracked : Tracked config workspace revision state) {hold : Hold}
    (held : state.holder = some hold) (answer : ResumeAnswer)
    (answered : ∀ status space, answer = .response status space →
      state.lost = false ∧ ¬ (state.managed = .active ∧ state.exited = true))
    (not_lost : ∀ error message, answer ≠ .lost error message)
    (unread : ∀ message, answer = .unreadable message → state.lost = false) :
    Acted config workspace revision state (resumeFinish config hold answer state) := by
  obtain ⟨named, at_last⟩ := tracked.held_handle held
  cases answer with
  | response status space =>
    obtain ⟨found, alive⟩ := answered status space rfl
    simp only [resumeFinish, managedHeartbeat, if_neg alive]
    exact result_acted tracked held status rfl found rfl rfl rfl
  | lost error message => exact absurd rfl (not_lost error message)
  | unreadable message =>
    have found := unread message rfl
    refine ⟨rfl, .inl ⟨rfl, ⟨?_, fun _ => rfl, ?_⟩⟩, nofun⟩
    · simpa [resumeFinish, found] using at_last
    · simp [resumeFinish]

/-- Writing a frame to a suspended worker leaves its record as it was. -/
theorem sendRebindPrepare_acted (tracked : Tracked config workspace revision state)
    (operation : String) (handle : ProgrammableWorkspaceHandle)
    (written : Except WorkspaceError Unit) :
    Acted config workspace revision state
      (sendRebindPrepare config operation handle written state) :=
  .whenChecked tracked fun _ => .quiet tracked rfl nofun rfl rfl rfl rfl rfl

theorem inspect_acted (tracked : Tracked config workspace revision state)
    (handle : ProgrammableWorkspaceHandle) (answered : Except WorkspaceError Unit) :
    Acted config workspace revision state (inspect config handle answered state) :=
  .whenChecked tracked fun _ => .quiet tracked rfl nofun rfl rfl rfl rfl rfl

/-- Interrupting a worker leaves it where its last handle says. -/
theorem interrupt_acted (tracked : Tracked config workspace revision state)
    (handle : ProgrammableWorkspaceHandle) (operation : String) :
    Acted config workspace revision state (interrupt config handle operation state) := by
  refine .whenChecked tracked fun _ => ?_
  split
  · exact .quiet tracked rfl nofun rfl rfl rfl rfl rfl
  · exact .quiet tracked rfl nofun rfl rfl rfl rfl rfl

/-- A checkpoint names the last handle issued as its source. -/
theorem checkpointWorker_acted (tracked : Tracked config workspace revision state)
    {handle : ProgrammableWorkspaceHandle} (same : handle.workspace = workspace)
    (operation : String) (policy : WorkspaceCheckpointPolicy) (traceId : String)
    (answered : Except WorkspaceError Unit) :
    Acted config workspace revision state
      (checkpointWorker config operation handle policy traceId answered state) := by
  refine .whenChecked tracked fun checked => ?_
  simp only [bind_ok] at checked
  obtain ⟨_, -, _, available, -⟩ := checked
  have at_last := tracked.current (assertAvailable_ok.mp available).2.1
  rcases readCheckpoint config policy state with error | scan
  · exact .refused tracked error
  · refine ⟨rfl, .inr ⟨revision, Nat.le_refl _, tracked, ?_⟩, by intros; contradiction⟩
    simp [Reply.issued, handleOf, same, at_last]

/-- Asking for the health of a worker leaves its record, unless that records a loss. -/
theorem health_acted (tracked : Tracked config workspace revision state)
    (handle : ProgrammableWorkspaceHandle)
    (known : checkHandle config state handle = .ok () → state.exited = true →
      state.closed = false → state.holder = none → state.lost = true) :
    Acted config workspace revision state (health config handle state) := by
  refine .whenChecked tracked fun checked => ?_
  by_cases seen : state.exited = true ∧ state.closed = false
  · obtain ⟨generation, number, lost, holder, running, -⟩ := finishManaged_fields { state with
      lost := true, lostReason := some "worker exited" }
    simp only [if_pos seen]
    refine ⟨generation, .inl ⟨rfl, ⟨?_, ?_, ?_⟩⟩, nofun⟩
    · -- Either the loss was known, or an execution still holds the worker.
      have follows := tracked.follows
      rw [number, lost, holder]
      by_cases free : state.holder = none
      · simpa [known checked seen.1 seen.2 free, free] using follows
      · simpa [free] using follows
    · rw [holder, running]
      exact tracked.idle
    · intro hold held
      rw [holder] at held
      rw [tracked.held hold held]
      simp [handleOf, generation, number]
  · simp only [if_neg seen]
    exact .quiet tracked rfl nofun rfl rfl rfl rfl rfl

/-- Closing a worker leaves it where its last handle says. -/
theorem close_acted (tracked : Tracked config workspace revision state)
    (handle : ProgrammableWorkspaceHandle) (reason : String)
    (answered : Except WorkspaceError Unit) :
    Acted config workspace revision state (close config handle reason answered state) := by
  have fields := finishManaged_fields { state with exited := true, closed := true }
  refine .whenChecked tracked fun _ => ?_
  exact .quiet tracked rfl nofun fields.1 fields.2.1 fields.2.2.1 fields.2.2.2.1
    fields.2.2.2.2.1

theorem exits_acted (tracked : Tracked config workspace revision state) :
    Acted config workspace revision state (.exited, { state with exited := true }) :=
  .quiet tracked rfl nofun rfl rfl rfl rfl rfl

end Workers

end Aar.Workspace
