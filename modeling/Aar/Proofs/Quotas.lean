import Aar.PublicWorkspace.Tools
import Aar.Proofs.Payloads
import Aar.Proofs.Finality
import Aar.Proofs.Acceptances

/-! Quotas of public workspaces, in every state that calls, stops and restarts lead to. -/

namespace Aar.PublicWorkspace

open Guarded Table Stateful Utf8 StrictJson

section Bytes

variable {values : Values} {value : Value} {bytes : List UInt8}

/-- How many canonical bytes a value is. -/
def canonicalSize (value : Value) : Nat := size (write value.sorted)

/-- The canonical bytes of a value are as many as its size says. -/
theorem canonicalBytes_length (distinct : value.Distinct)
    (made : canonicalBytes value = .ok bytes) : bytes.length = canonicalSize value := by
  rw [canonicalBytes, bind_ok] at made
  obtain ⟨_, _, made⟩ := made
  cases encoded : Canonical.canonicalJsonBytes (Canonical.ofJson value) with
  | error error =>
    rw [encoded] at made
    cases made
  | ok found =>
    rw [encoded] at made
    obtain rfl := Except.ok.inj made
    obtain ⟨normal, read, written⟩ := Canonical.canonicalJsonBytes_ok.mp encoded
    obtain rfl := Except.ok.inj ((Canonical.jsonValue_ofJson distinct).symm.trans read)
    obtain ⟨_, rfl⟩ := encode_eq_some.mp written
    rfl

theorem JsonScalar.distinct (scalar : JsonScalar) : scalar.value.Distinct := by
  cases scalar <;> trivial

theorem Values.distinct_value (values : Values) : values.value.Distinct := by
  refine ⟨?_, distinctEntries_iff.mpr fun entry member => ?_⟩
  · rw [List.map_map]
    exact values.distinct
  · obtain ⟨stored, _, rfl⟩ := List.mem_map.mp member
    exact stored.2.distinct

/-- The order of keys does not change what a state is written as. -/
theorem Values.sorted_value (values : Values) :
    values.sorted.value.sorted = values.value.sorted := by
  have scalars (entries : List (Text × JsonScalar)) :
      sortedEntries (entries.map fun entry => (entry.1, entry.2.value)) =
        entries.map fun entry => (entry.1, entry.2.value) := by
    rw [sortedEntries_eq, List.map_map]
    refine List.map_congr_left fun entry _ => ?_
    obtain ⟨key, scalar⟩ := entry
    cases scalar <;> rfl
  simp only [Values.value, Values.sorted, Value.sorted, scalars]
  rw [← sortEntries_map, sortEntries_idem]

end Bytes

section Quotas

variable {settings : PublicServerSettings} {spec : WorkspaceExecuteSpec} {store : WorkspaceStore}
  {row : WorkspaceRow} {state computed : Values} {candidate : JsonScalar}

/-- The state of a workspace is within the quotas. -/
structure WithinState (settings : PublicServerSettings) (state : Values) : Prop where
  keys : state.length ≤ settings.maxKeysPerWorkspace
  values : ∀ entry ∈ state.entries, canonicalSize entry.2.value ≤ settings.maxValueBytes
  bytes : canonicalSize state.value ≤ settings.maxWorkspaceBytes

/-- The workspaces of a tenant are within the quotas. -/
structure Within (settings : PublicServerSettings) (store : WorkspaceStore) : Prop where
  workspaces : store.workspaces.length ≤ settings.maxWorkspacesPerTenant
  states : ∀ row ∈ store.workspaces, WithinState settings row.state

/-- An update does not put null in the place of a value that may not have four bytes. -/
def Fits (settings : PublicServerSettings) (action : Action) (value : JsonScalar) : Prop :=
  4 ≤ settings.maxValueBytes ∨ action ≠ .set ∨ value ≠ .none

theorem WithinState.sorted (within : WithinState settings state) :
    WithinState settings state.sorted where
  keys := by
    have same := (sortEntries_perm state.entries).length_eq
    exact same.trans_le within.keys
  values entry member := within.values entry (mem_sortEntries.mp member)
  bytes := by
    rw [canonicalSize, Values.sorted_value]
    exact within.bytes

/-- The check computes what the execution does to the same state. -/
theorem mutate_candidate (computes : candidateUpdate spec state = .ok (candidate, computed)) :
    mutate spec state = .ok computed := by
  unfold candidateUpdate at computes
  unfold mutate
  cases action : spec.action with
  | set | delete =>
    simp only [action] at computes
    obtain ⟨-, rfl⟩ := Prod.mk.inj (Except.ok.inj computes)
    rfl
  | increment =>
    simp only [action] at computes
    cases current : (state.get spec.key).getD (.int 0) with
    | int number =>
      simp only [current] at computes
      cases amount : spec.value with
      | int other =>
        simp only [amount] at computes
        obtain ⟨-, rfl⟩ := Prod.mk.inj (Except.ok.inj computes)
        rfl
      | none | bool _ | str _ =>
        simp only [amount] at computes
        cases computes
    | none | bool _ | str _ =>
      simp only [current] at computes
      cases computes

/-- The values of the computed state are the stored ones and the candidate. -/
theorem candidate_entries (computes : candidateUpdate spec state = .ok (candidate, computed)) :
    ∀ entry ∈ computed.entries, entry ∈ state.entries ∨
      entry.2 = candidate ∧ (candidate = .none → spec.action = .set ∧ spec.value = .none) := by
  intro entry member
  unfold candidateUpdate at computes
  cases action : spec.action with
  | set =>
    simp only [action] at computes
    obtain ⟨rfl, rfl⟩ := Prod.mk.inj (Except.ok.inj computes)
    rcases Dictionary.mem_set member with rfl | stored
    · exact .inr ⟨rfl, fun null => ⟨rfl, null⟩⟩
    · exact .inl stored
  | delete =>
    simp only [action] at computes
    obtain ⟨rfl, rfl⟩ := Prod.mk.inj (Except.ok.inj computes)
    exact .inl (Dictionary.mem_pop member)
  | increment =>
    simp only [action] at computes
    cases current : (state.get spec.key).getD (.int 0) with
    | int number =>
      simp only [current] at computes
      cases amount : spec.value with
      | int other =>
        simp only [amount] at computes
        obtain ⟨rfl, rfl⟩ := Prod.mk.inj (Except.ok.inj computes)
        rcases Dictionary.mem_set member with rfl | stored
        · exact .inr ⟨rfl, fun null => by cases null⟩
        · exact .inl stored
      | none | bool _ | str _ =>
        simp only [amount] at computes
        cases computes
    | none | bool _ | str _ =>
      simp only [current] at computes
      cases computes

/-- A candidate that passes its check is within the limit, unless it is null. -/
theorem checkCandidate_ok (passed : checkCandidate settings candidate = .ok ())
    (some_value : candidate ≠ .none) :
    canonicalSize candidate.value ≤ settings.maxValueBytes := by
  have bounded : ∀ bytes, canonicalBytes candidate.value = .ok bytes →
      bytes.length ≤ settings.maxValueBytes →
        canonicalSize candidate.value ≤ settings.maxValueBytes := by
    intro bytes made short
    rw [← canonicalBytes_length candidate.distinct made]
    exact short
  cases candidate with
  | none => exact absurd rfl some_value
  | bool _ | int _ | str _ =>
    simp only [checkCandidate, bind_ok, require_ok] at passed
    obtain ⟨bytes, made, short⟩ := passed
    exact bounded bytes made short

/-- What an update that passes its check computes: the mutation of the stored state. -/
theorem validatePublicUpdate_ok
    (passed : validatePublicUpdate settings spec store = .ok computed) :
    ∃ row candidate, store.workspaceRow spec.workspace = .ok row ∧
      checkVersion row spec.expectedGeneration spec.expectedRevision = .ok () ∧
      candidateUpdate spec row.state = .ok (candidate, computed) ∧
      checkCandidate settings candidate = .ok () ∧
      computed.length ≤ settings.maxKeysPerWorkspace ∧
      (∃ bytes, canonicalBytes computed.value = .ok bytes) ∧
      canonicalSize computed.value ≤ settings.maxWorkspaceBytes := by
  simp only [validatePublicUpdate, WorkspaceStore.inspect, bind_ok, require_ok, pure_ok] at passed
  obtain ⟨_, ⟨row, found, _, version, rfl⟩, ⟨candidate, _⟩, computes, _, checked, _, keys, bytes,
    made, _, short, rfl⟩ := passed
  rw [row.ordered] at computes
  rw [canonicalBytes_length (Values.distinct_value _) made] at short
  exact ⟨row, candidate, found, version, computes, checked, keys, ⟨bytes, made⟩, short⟩

theorem workspaceRow_mem {workspace : OpaqueToken}
    (found : store.workspaceRow workspace = .ok row) : row ∈ store.workspaces :=
  List.mem_of_find?_eq_some (orRaise_ok.mp found)

/-- The state that a check has computed is within the quotas. -/
theorem computed_within (fits : Fits settings spec.action spec.value)
    (passed : validatePublicUpdate settings spec store = .ok computed)
    (within : Within settings store) : WithinState settings computed := by
  obtain ⟨row, candidate, found, -, computes, checked, keys, -, bytes⟩ :=
    validatePublicUpdate_ok passed
  refine ⟨keys, fun entry member => ?_, bytes⟩
  rcases candidate_entries computes entry member with stored | ⟨same, null⟩
  · exact (within.states row (workspaceRow_mem found)).values entry stored
  · rw [same]
    by_cases nothing : candidate = .none
    · -- Null is not checked, and has four bytes.
      obtain ⟨set, value⟩ := null nothing
      rcases fits with wide | other | other
      · rw [nothing]
        exact wide
      · exact absurd set other
      · exact absurd value other
    · exact checkCandidate_ok checked nothing

/-- What an update makes of a store: nothing, or exactly what its check has computed. -/
inductive Executes (settings : PublicServerSettings) (spec : WorkspaceExecuteSpec)
    (store : WorkspaceStore) : WorkspaceStore → Prop where
  | unchanged : Executes settings spec store store
  | executed (operation : String) (row : WorkspaceRow) (computed : Values)
      (found : store.workspaceRow spec.workspace = .ok row)
      (version : row.generation = spec.expectedGeneration ∧ row.revision = spec.expectedRevision)
      (passed : validatePublicUpdate settings spec store = .ok computed) :
      Executes settings spec store
        (store.written operation spec.workspace computed (executionResult spec row computed))

/-- An execution of an update that passed its check leads to the computed state. -/
theorem execute_checked {operation invalid : String} {store' : WorkspaceStore}
    {result : WorkspaceExecutionResult}
    (passed : validatePublicUpdate settings spec store = .ok computed)
    (ran : store.execute operation spec invalid = .ok (store', result)) :
    Executes settings spec store store' := by
  obtain ⟨row, candidate, found, version, computes, -⟩ := validatePublicUpdate_ok passed
  unfold WorkspaceStore.execute at ran
  split at ran
  · -- The operation has a receipt, and nothing is executed again.
    obtain ⟨rfl, -⟩ := Prod.mk.inj (Except.ok.inj ran)
    exact .unchanged
  · simp only [bind_ok, require_ok, pure_ok] at ran
    obtain ⟨_, read, _, _, _, mutated, _, _, _, _, ended⟩ := ran
    obtain rfl := Except.ok.inj (found.symm.trans read)
    obtain rfl := Except.ok.inj ((mutate_candidate computes).symm.trans mutated)
    obtain ⟨rfl, -⟩ := Prod.mk.inj ended
    simp only [checkVersion, bind_ok, require_ok] at version
    obtain ⟨_, generation, revision⟩ := version
    exact .executed operation row computed found ⟨generation, revision⟩ passed

/-- An execution adds no receipt but that of its operation. -/
theorem execute_receipts {operation invalid : String} {store' : WorkspaceStore}
    {result : WorkspaceExecutionResult}
    (ran : store.execute operation spec invalid = .ok (store', result)) :
    ∀ receipt ∈ store'.receipts, receipt ∈ store.receipts ∨ receipt.operation = operation := by
  intro receipt member
  unfold WorkspaceStore.execute at ran
  split at ran
  · obtain ⟨rfl, -⟩ := Prod.mk.inj (Except.ok.inj ran)
    exact .inl member
  · simp only [bind_ok, pure_ok] at ran
    obtain ⟨_, _, _, _, _, _, _, _, _, _, ended⟩ := ran
    obtain ⟨rfl, -⟩ := Prod.mk.inj ended
    rcases List.mem_append.mp member with before | last
    · exact .inl before
    · rw [List.mem_singleton.mp last]
      exact .inr rfl

/-- An update that passed its check is executed when its operation has no receipt yet, and when
the revision can still grow. -/
theorem execute_passed {operation invalid : String}
    (passed : validatePublicUpdate settings spec store = .ok computed)
    (first : ∀ receipt ∈ store.receipts, receipt.operation ≠ operation) :
    (∃ row, store.workspaceRow spec.workspace = .ok row ∧
      store.execute operation spec invalid =
        .ok (store.written operation spec.workspace computed (executionResult spec row computed),
          executionResult spec row computed)) ∨
      store.execute operation spec invalid = .error (.validation invalid) := by
  obtain ⟨row, candidate, found, version, computes, -, -, ⟨bytes, made⟩, -⟩ :=
    validatePublicUpdate_ok passed
  have none_yet :
      fetchOne store.receipts (fun receipt => receipt.operation = operation) = none := by
    refine List.find?_eq_none.mpr fun receipt member same => ?_
    exact first receipt member (of_decide_eq_true same)
  unfold WorkspaceStore.execute
  simp only [none_yet, found, version, mutate_candidate computes, made, ok_bind]
  by_cases small : (executionResult spec row computed).revisionAfter ≤ maxCounter
  · refine .inl ⟨row, rfl, ?_⟩
    rw [require, if_pos small]
    rfl
  · right
    rw [require, if_neg small]
    rfl

/-- An update that fits keeps the workspaces within the quotas. -/
theorem Executes.within {store' : WorkspaceStore} (executes : Executes settings spec store store')
    (fits : Fits settings spec.action spec.value) (within : Within settings store) :
    Within settings store' := by
  cases executes with
  | unchanged => exact within
  | executed operation row computed found version passed =>
    refine ⟨?_, fun stored member => ?_⟩
    · simpa [WorkspaceStore.written, updateWhere] using within.workspaces
    · obtain ⟨before, inside, rfl⟩ := List.mem_map.mp member
      by_cases here : before.workspace = spec.workspace
      · rw [if_pos here]
        exact (computed_within fits passed within).sorted
      · rw [if_neg here]
        exact within.states before inside

theorem Executes.refused {store' : WorkspaceStore} {error : ToolError}
    (executes : Executes settings spec store store')
    (refused : validatePublicUpdate settings spec store = .error error) : store' = store := by
  cases executes with
  | unchanged => rfl
  | executed _ _ _ _ _ passed =>
    rw [refused] at passed
    cases passed

/-- A new workspace is empty, which takes two bytes. -/
theorem create_within {workspace session : OpaqueToken} {store' : WorkspaceStore}
    (room : store.workspaces.length < settings.maxWorkspacesPerTenant)
    (wide : 2 ≤ settings.maxWorkspaceBytes)
    (created : store.create workspace session = .ok store') (within : Within settings store) :
    Within settings store' := by
  have blank : WithinState settings .empty := ⟨Nat.zero_le _, fun _ member => (by cases member),
    wide⟩
  unfold WorkspaceStore.create at created
  split at created
  · obtain rfl := Except.ok.inj created
    refine ⟨?_, fun row member => ?_⟩
    · rw [List.length_append]
      exact room
    · rcases List.mem_append.mp member with stored | new
      · exact within.states row stored
      · rw [List.mem_singleton.mp new]
        exact blank
  · split at created
    · obtain rfl := Except.ok.inj created
      exact within
    · cases created

end Quotas

section Calls

variable {H : Hashing} {documents : Documents} {settings : PublicServerSettings}
  {tenant : TenantRuntime} {generation : Nat} {clock : Clock} {α : Type}
  {operation : String} {start : Process}

/-- A check returns what was checked, or raises. -/
theorem leads_check {name : Option String} {result : Except ToolError α}
    {returned : α → Process → Prop} {raised : Halt → Process → Prop}
    (results : ∀ value, result = .ok value → returned value start)
    (errors : ∀ error, result = .error error → raised (.raised error name) start) :
    Leads (check name result) start returned raised := by
  cases result with
  | ok value => exact results value rfl
  | error error => exact errors error rfl

/-- A durable write is made, or the process has stopped, or the write is refused. -/
theorem leads_durable {name : Option String}
    {write : TenantState → Except ToolError (TenantState × α)}
    {returned : α → Process → Prop} {raised : Halt → Process → Prop}
    (results : ∀ state value, write start.state = .ok (state, value) →
      returned value ⟨state, start.writes - 1⟩)
    (stopped : raised .stopped start)
    (errors : ∀ error, write start.state = .error error → raised (.raised error name) start) :
    Leads (durable name write) start returned raised := by
  refine Leads.bind (Leads.get ?_)
  refine Leads.bind (Leads.demand (fun _ => ?_) fun _ => stopped)
  refine Leads.bind (leads_check (fun outcome made => ?_) errors)
  obtain ⟨state, value⟩ := outcome
  refine Leads.bind (Leads.set ?_)
  exact Leads.pure (results state value made)

/-- A record that is read is the stored one. -/
theorem leads_readRecord {returned : OpRecord → Process → Prop} {raised : Halt → Process → Prop}
    (results : ∀ record, start.state.db.lookup operation = some record → returned record start)
    (errors : start.state.db.lookup operation = none →
      ∀ error, raised (.raised error (some operation)) start) :
    Leads (readRecord operation) start returned raised := by
  refine Leads.bind (Leads.get ?_)
  refine leads_check (fun record found => ?_) fun error missing => errors ?_ error
  · exact results record (orRaise_ok.mp found)
  · cases found : start.state.db.lookup operation with
    | none => rfl
    | some record =>
      rw [found] at missing
      cases missing

/-- A call of the registry is one transition, to a state other than accepted. -/
structure Moves (H : Hashing) (call : RegistryCall) (change : Registry.Transition)
    (generation : Nat) : Prop where
  run : ∀ clock, call.run H clock = Registry.transition change generation clock
  leaves : change.state ≠ .accepted

/-- What the tools ask of operations: transitions only. -/
def Transitions (H : Hashing) : Rules where
  call _ call _ := ∃ registry change generation,
    call = .registry registry ∧ Moves H registry change generation
  visit _ _ := False
  expiry _ := False

/-- The registry of one state became that of another by calls of the tools. -/
def Ran (H : Hashing) (before after : TenantState) : Prop :=
  ∃ events, AllowedRun H (Transitions H) events before.db ∧
    after.db = Runs.run (Event.step H) events before.db

theorem Ran.refl (state : TenantState) : Ran H state state := ⟨[], .nil, rfl⟩

/-- One allowed event after another is an allowed run. -/
theorem allowedRun_join {rules : Rules} {first second : List Event} {db : Db}
    (before : AllowedRun H rules first db)
    (after : AllowedRun H rules second (Runs.run (Event.step H) first db)) :
    AllowedRun H rules (first ++ second) db := by
  intro earlier event later split
  -- The event stands in the first run, or in the second one.
  rcases List.append_eq_append_iff.mp split with ⟨middle, rfl, rest⟩ | ⟨middle, rfl, rest⟩
  · rw [Runs.run_append]
    exact after middle event later rest
  · cases middle with
    | nil =>
      have allowed := after [] event later rest.symm
      simpa using allowed
    | cons head tail =>
      obtain ⟨rfl, rfl⟩ := List.cons.inj rest
      exact before earlier event tail rfl

theorem Ran.trans {first second third : TenantState} (before : Ran H first second)
    (after : Ran H second third) : Ran H first third := by
  obtain ⟨events, allowed, reached⟩ := before
  obtain ⟨later, allowedLater, ended⟩ := after
  refine ⟨events ++ later, allowedRun_join allowed (reached ▸ allowedLater), ?_⟩
  rw [ended, reached, Runs.run_append]

theorem Ran.of_run {call : Call} {before after : TenantState}
    (allowed : Event.Allowed H (Transitions H) ⟨call, clock⟩ before.db)
    (ran : call.run H clock before.db = .ok after.db) : Ran H before after := by
  refine ⟨[⟨call, clock⟩], ?_, ?_⟩
  · exact AllowedRun.snoc .nil allowed
  · simp only [Runs.run_cons, Runs.run_nil, Event.step, ran]

/-- A call that is not about one operation, and no part of a dispatcher, is allowed. -/
theorem allowed_shared {rules : Rules} {event : Event} {db : Db}
    (apart : ∀ operation call, event.call ≠ .on operation call)
    (idle : ∀ request, event.call ≠ .claimNext request)
    (calm : ∀ number, event.call ≠ .fenceExpiredAttempts number) : event.Allowed H rules db where
  call _ _ _ _ same := absurd same (apart _ _)
  visit _ _ _ same := absurd same (idle _)
  expiry _ same := absurd same (calm _)

/-- A transition is one call, and leaves the workspaces as they are. -/
theorem transit_ok {call : RegistryCall} {change : Registry.Transition} {number index : Nat}
    {state after : TenantState} {done : Unit} (moves : Moves H call change number)
    (made : transit H clock operation call index state = .ok (after, done)) :
    Ran H state after ∧ after.store = state.store := by
  unfold transit at made
  split at made
  · next db ran =>
    obtain ⟨rfl, -⟩ := Prod.mk.inj (Except.ok.inj made)
    refine ⟨Ran.of_run ⟨?_, ?_, ?_⟩ ran, rfl⟩
    · intro name found record result same _ _
      obtain ⟨rfl, rfl⟩ := Call.on.inj same
      exact ⟨call, change, number, rfl, moves⟩
    · intro _ _ _ same
      cases same
    · intro _ same
      cases same
  · cases made

/-- An operation that was moved shows its new state and the failure that it was given. -/
theorem transit_moved {call : RegistryCall} {change : Registry.Transition} {number index : Nat}
    {state after : TenantState} {done : Unit} (moves : Moves H call change number)
    (made : transit H clock operation call index state = .ok (after, done)) :
    ∃ record before, after.db.lookup operation = some record ∧
      record.row.state = change.state ∧ record.row.failure = change.failure.or before := by
  unfold transit at made
  split at made
  · next db ran =>
    obtain ⟨rfl, -⟩ := Prod.mk.inj (Except.ok.inj made)
    obtain ⟨before, s, there, moved, written⟩ := Db.update_ok.mp ran
    rw [OpCall.run, moves.run] at moved
    refine ⟨s.toOpRecord, before.row.failure, ?_, ?_⟩
    · rw [← written, Db.lookup_commit, if_pos rfl, there, Option.map_some]
    · simp only [Registry.transition, bind_ok, pure_ok] at moved
      obtain ⟨_, _, _, _, _, _, rfl⟩ := moved
      exact ⟨rfl, rfl⟩
  · cases made

/-- Nothing makes an operation accepted that was not. -/
theorem decided_progress : Progress H (Transitions H) (fun _ => True) (fun _ => True) fun s s' =>
    s.row.state ≠ .accepted → s'.row.state ≠ .accepted where
  refl _ decided := decided
  trans _ _ _ before after decided := after (before decided)
  step clock s s' _ step _ decided := by
    cases step with
    | call call allow ran =>
      obtain ⟨registry, change, number, rfl, moves⟩ := allow
      rw [OpCall.run, moves.run] at ran
      simp only [Registry.transition, bind_ok, pure_ok] at ran
      obtain ⟨_, _, _, _, _, _, rfl⟩ := ran
      exact moves.leaves
    | admitted binding ran =>
      obtain ⟨-, rfl⟩ := CallerWork.bindOperation_ok.mp ran
      exact decided
    | visited _ _ _ allow => exact allow.elim
    | expired _ _ allow => exact allow.elim
    | restarted =>
      -- A restart fences what runs, and moves nothing else that is not accepted.
      unfold restarted
      simp only [decided, if_false]
      split
      · have fenced :
            (Registry.fenceRunning (clock 0) { s with generation := s.generation + 1 }).row.state =
            .indeterminate := by
          simp only [Registry.fenceRunning, Registry.insertEvent]
          split <;> rfl
        rw [fenced]
        decide
      · exact decided
    | elsewhere record =>
      rw [record]
      exact decided

/-- The operations of receipts are not accepted any more. -/
def Receipted (state : TenantState) : Prop :=
  ∀ receipt ∈ state.store.receipts, ∃ record,
    state.db.lookup receipt.operation = some record ∧ record.row.state ≠ .accepted

/-- An operation that is not accepted stays so. -/
theorem Ran.decided {before after : TenantState} {record : OpRecord} (ran : Ran H before after)
    (found : before.db.lookup operation = some record) (decided : record.row.state ≠ .accepted) :
    ∃ record', after.db.lookup operation = some record' ∧ record'.row.state ≠ .accepted := by
  obtain ⟨events, allowed, reached⟩ := ran
  rw [reached]
  have invariant : Invariant H (Transitions H) fun _ => True :=
    ⟨fun _ _ => trivial, fun _ _ _ _ _ => trivial⟩
  obtain ⟨record', there, related⟩ := decided_progress.along invariant allowed
    (fun _ _ => trivial) (fun _ _ _ => trivial) found
  exact ⟨record', there, related decided⟩

theorem Ran.receipted {before after : TenantState} (ran : Ran H before after)
    (same : after.store = before.store) (receipted : Receipted before) : Receipted after := by
  intro receipt member
  rw [same] at member
  obtain ⟨record, found, decided⟩ := receipted receipt member
  exact ran.decided found decided

/-- What a call may do to a state: calls of the registry, and one execution of an update. -/
structure Serves (H : Hashing) (settings : PublicServerSettings) (spec : WorkspaceExecuteSpec)
    (before after : TenantState) : Prop where
  ran : Ran H before after
  store : Executes settings spec before.store after.store
  receipted : Receipted before → Receipted after

theorem Serves.refl {spec : WorkspaceExecuteSpec} (state : TenantState) :
    Serves H settings spec state state := ⟨.refl state, .unchanged, id⟩

theorem Serves.after {spec : WorkspaceExecuteSpec} {first second third : TenantState}
    (ran : Ran H first second) (same : second.store = first.store)
    (serves : Serves H settings spec second third) : Serves H settings spec first third :=
  ⟨ran.trans serves.ran, same ▸ serves.store,
    fun receipted => serves.receipted (ran.receipted same receipted)⟩

theorem Serves.before {spec : WorkspaceExecuteSpec} {first second third : TenantState}
    (serves : Serves H settings spec first second) (ran : Ran H second third)
    (same : third.store = second.store) : Serves H settings spec first third :=
  ⟨serves.ran.trans ran, same ▸ serves.store,
    fun receipted => ran.receipted same (serves.receipted receipted)⟩

/-- A transition and the record that it leaves. -/
theorem leads_transit {call : RegistryCall} {change : Registry.Transition} {number index : Nat}
    (moves : Moves H call change number) {returned : OpRecord → Process → Prop}
    {raised : Halt → Process → Prop}
    (results : ∀ record process, Ran H start.state process.state →
      process.state.store = start.state.store →
        process.state.db.lookup operation = some record → returned record process)
    (errors : ∀ halt process, Ran H start.state process.state →
      process.state.store = start.state.store → raised halt process) :
    Leads (do
      durable (some operation) (transit H clock operation call index)
      readRecord operation) start returned raised := by
  refine Leads.bind (leads_durable ?_ ?_ ?_)
  · intro state value made
    obtain ⟨ran, same⟩ := transit_ok moves made
    refine leads_readRecord ?_ ?_
    · exact fun record found => results record _ ran same found
    · exact fun _ error => errors _ _ ran same
  · exact errors _ _ (.refl _) rfl
  · exact fun error _ => errors _ _ (.refl _) rfl

section Running

variable {spec : WorkspaceExecuteSpec} {computed : Values}

/-- The execution of an update that passed its check leads to the computed state. -/
theorem leads_executeWorkspace {record : OpRecord}
    (passed : validatePublicUpdate settings spec start.state.store = .ok computed)
    (found : start.state.db.lookup operation = some record)
    (decided : record.row.state ≠ .accepted) :
    Leads (executeWorkspace documents operation spec) start
      (fun _ process => Serves H settings spec start.state process.state)
      (fun _ process => Serves H settings spec start.state process.state) := by
  refine Leads.bind (Leads.get ?_)
  cases ran : start.state.store.execute operation spec documents.invalid with
  | ok outcome =>
    refine leads_durable (fun state value made => ?_) (.refl _) fun _ _ => .refl _
    simp only [ran, ok_bind, pure_ok] at made
    obtain ⟨rfl, rfl⟩ := Prod.mk.inj made
    refine ⟨.refl start.state, execute_checked passed ran, fun receipted receipt member => ?_⟩
    rcases execute_receipts ran receipt member with before | named
    · exact receipted receipt before
    · rw [named]
      exact ⟨record, found, decided⟩
  | error error =>
    dsimp only
    cases executionFailure error operation with
    | some failure => exact Leads.pure (.refl _)
    | none => exact Leads.throw (.refl _)

theorem outcome_moves (outcome : Except FailureEnvelope WorkspaceExecutionResult) :
    ∃ change, Moves H (outcomeCall documents generation outcome) change generation := by
  cases outcome with
  | ok result => exact ⟨_, fun _ => rfl, by simp⟩
  | error failure => exact ⟨_, fun _ => rfl, by simp⟩

/-- An accepted update that passed its check is executed to the computed state. -/
theorem leads_executeAccepted {record : OpRecord}
    (passed : validatePublicUpdate settings spec start.state.store = .ok computed)
    (reads : readPayload record.row.payloadJson = some spec) :
    Leads (executeAccepted H documents generation clock operation record) start
      (fun ended process => Serves H settings spec start.state process.state ∧
        process.state.db.lookup operation = some ended)
      (fun _ process => Serves H settings spec start.state process.state) := by
  refine Leads.bind (leads_durable ?_ (.refl _) fun _ _ => .refl _)
  intro state _ begun
  have moves : Moves H (.begin generation) _ generation := ⟨fun _ => rfl, by simp⟩
  obtain ⟨ran, same⟩ := transit_ok moves begun
  obtain ⟨running, _, there, now, -⟩ := transit_moved moves begun
  have decided : running.row.state ≠ .accepted := by
    rw [now]
    decide
  refine Leads.bind (leads_check ?_ fun _ _ => .after ran same (.refl _))
  intro read found
  obtain rfl := Option.some.inj (reads.symm.trans (orRaise_ok.mp found))
  -- The workspaces are those that the check has seen.
  have still : validatePublicUpdate settings spec state.store = .ok computed := by
    rw [same]
    exact passed
  have executed := @leads_executeWorkspace H documents settings operation
    ⟨state, start.writes - 1⟩ _ _ running still there decided
  refine Leads.bind (Leads.mono executed ?_ ?_)
  · intro outcome process serves
    obtain ⟨change, moves⟩ := @outcome_moves H documents generation outcome
    refine leads_transit moves ?_ ?_
    · intro ended last moved store found
      exact ⟨.after ran same (serves.before moved store), found⟩
    · intro _ last moved store
      exact .after ran same (serves.before moved store)
  · intro _ process serves
    exact .after ran same serves

/-- A record that is not accepted is returned as it is. -/
theorem leads_runExecute_ended {record : OpRecord} {returned : OpRecord → Process → Prop}
    {raised : Halt → Process → Prop} (found : start.state.db.lookup operation = some record)
    (ended : record.row.state ≠ .accepted) (holds : returned record start) :
    Leads (runExecute H documents generation clock operation) start returned raised := by
  refine Leads.bind (leads_readRecord ?_ ?_)
  · intro other same
    obtain rfl := Option.some.inj (found.symm.trans same)
    rw [if_pos ended]
    exact Leads.pure holds
  · intro missing
    rw [missing] at found
    cases found

/-- A run of an update that passed its check executes it to the computed state. -/
theorem leads_runExecute
    (passed : validatePublicUpdate settings spec start.state.store = .ok computed)
    (reads : ∀ record, start.state.db.lookup operation = some record →
      readPayload record.row.payloadJson = some spec) :
    Leads (runExecute H documents generation clock operation) start
      (fun ended process => Serves H settings spec start.state process.state ∧
        process.state.db.lookup operation = some ended)
      (fun _ process => Serves H settings spec start.state process.state) := by
  refine Leads.bind (leads_readRecord ?_ fun _ _ => .refl _)
  intro record found
  by_cases ended : record.row.state ≠ .accepted
  · rw [if_pos ended]
    exact Leads.pure ⟨.refl _, found⟩
  · rw [if_neg ended]
    by_cases late : record.row.request.deadlineUnixMs ≤ clock 5
    · rw [if_pos late]
      refine leads_transit ⟨fun _ => rfl, by simp⟩ ?_ ?_
      · intro record process moved store found
        exact ⟨.after moved store (.refl _), found⟩
      · intro _ process moved store
        exact .after moved store (.refl _)
    · rw [if_neg late]
      exact leads_executeAccepted passed (reads record found)

end Running

section Updating

variable {arguments : UpdateArguments} {envelope : RequestEnvelope} {payload : String}

/-- Between two states, a request was accepted as an operation or repeated it. -/
def AcceptedBetween (H : Hashing) (before after : TenantState) (envelope : RequestEnvelope)
    (payload operation : String) : Prop :=
  ∃ (event : Event) (created : Bool) (rest : List Event),
    event.Accepts H before.db envelope payload (operation, created) ∧
      AllowedRun H (Transitions H) rest (event.step H before.db) ∧
      after.db = Runs.run (Event.step H) rest (event.step H before.db)

/-- An acceptance is a call of the registry. -/
theorem AcceptedBetween.ran {before after : TenantState}
    (accepted : AcceptedBetween H before after envelope payload operation) :
    Ran H before after := by
  obtain ⟨event, _, rest, accepts, allowed, reached⟩ := accepted
  obtain ⟨_, _, called, _⟩ := accepts
  have shared : event.Allowed H (Transitions H) before.db := by
    refine allowed_shared ?_ ?_ ?_ <;> · rw [called]; simp
  exact ⟨event :: rest, allowedRun_join (AllowedRun.snoc .nil shared) allowed, reached⟩

/-- Calls after an acceptance leave it between the states. -/
theorem AcceptedBetween.later {first second third : TenantState}
    (accepted : AcceptedBetween H first second envelope payload operation)
    (ran : Ran H second third) : AcceptedBetween H first third envelope payload operation := by
  obtain ⟨event, created, rest, accepts, allowed, reached⟩ := accepted
  obtain ⟨later, allowedLater, ended⟩ := ran
  refine ⟨event, created, rest ++ later, accepts,
    allowedRun_join allowed (reached ▸ allowedLater), ?_⟩
  rw [ended, reached, Runs.run_append]

/-- An intent that was accepted is stored under its operation. -/
theorem acceptIntent_ok {state after : TenantState}
    (made : acceptIntent H clock envelope payload state = .ok (after, operation)) :
    after.store = state.store ∧ AcceptedBetween H state after envelope payload operation ∧
      ∃ record, after.db.lookup operation = some record ∧ record.row.Repeats envelope payload := by
  unfold acceptIntent at made
  split at made
  · next db accepted created ran =>
    obtain ⟨rfl, rfl⟩ := Prod.mk.inj (Except.ok.inj made)
    have called : Registry.accept H (readingOf clock 3) envelope payload
      (Option.map Registry.Admission.callback none) state.db = .ok (db, accepted, created) := ran
    have accepts : Event.Accepts H ⟨.accept envelope payload none, readingOf clock 3⟩ state.db
        envelope payload (accepted, created) := ⟨none, db, rfl, called⟩
    refine ⟨rfl, ⟨_, created, [], accepts, .nil, ?_⟩, accept_stores called⟩
    simp only [Runs.run_nil, Event.step, Call.run, called]
    rfl
  · cases made

/-- A request is submitted: its operation is stored, and the workspaces are as they were. -/
theorem leads_submitExecute :
    Leads (submitExecute H documents tenant generation clock arguments) start
      (fun outcome process => process.state.store = start.state.store ∧
        AcceptedBetween H start.state process.state
          (publicEnvelope documents tenant generation clock arguments)
          (payloadJson arguments.spec) outcome.1 ∧
        process.state.db.lookup outcome.1 = some outcome.2 ∧
        outcome.2.row.payloadJson = payloadJson arguments.spec)
      (fun _ process => Ran H start.state process.state ∧
        process.state.store = start.state.store) := by
  refine Leads.bind (Leads.get ?_)
  refine Leads.bind (leads_check (fun _ _ => ?_) fun _ _ => ⟨.refl _, rfl⟩)
  refine Leads.bind (leads_durable ?_ ⟨.refl _, rfl⟩ fun _ _ => ⟨.refl _, rfl⟩)
  intro state operation made
  obtain ⟨same, accepted, record, stored, repeats⟩ := acceptIntent_ok made
  refine Leads.bind (leads_readRecord ?_ ?_)
  · intro found read
    obtain rfl := Option.some.inj (stored.symm.trans read)
    exact Leads.pure ⟨same, accepted, read, repeats.payloadJson⟩
  · exact fun _ _ => ⟨accepted.ran, same⟩

/-- An accepted update is checked, and then it is executed to the computed state or ended. -/
theorem leads_checkAndRun
    (reads : ∀ record, start.state.db.lookup operation = some record →
      readPayload record.row.payloadJson = some arguments.spec) :
    Leads (checkAndRun H documents settings generation clock arguments operation) start
      (fun ended process => Serves H settings arguments.spec start.state process.state ∧
        process.state.db.lookup operation = some ended)
      (fun _ process => Serves H settings arguments.spec start.state process.state) := by
  refine Leads.bind (Leads.get ?_)
  cases checked : validatePublicUpdate settings arguments.spec start.state.store with
  | ok computed => exact leads_runExecute checked reads
  | error error =>
    refine leads_transit ⟨fun _ => rfl, by simp⟩ ?_ ?_
    · intro record process moved store found
      exact ⟨.after moved store (.refl _), found⟩
    · intro _ process moved store
      exact .after moved store (.refl _)

/-- A submitted update ends with its stored record, after one execution at most. -/
theorem leads_runSubmitted {record : OpRecord}
    (reads : ∀ record, start.state.db.lookup operation = some record →
      readPayload record.row.payloadJson = some arguments.spec)
    (stored : start.state.db.lookup operation = some record) :
    Leads (runSubmitted H documents settings generation clock arguments operation record) start
      (fun ended process => Serves H settings arguments.spec start.state process.state ∧
        process.state.db.lookup operation = some ended)
      (fun _ process => Serves H settings arguments.spec start.state process.state) := by
  unfold runSubmitted
  by_cases fresh : record.row.state = .accepted
  · rw [if_pos fresh]
    exact leads_checkAndRun reads
  · rw [if_neg fresh]
    exact leads_runExecute_ended stored fresh ⟨.refl _, stored⟩

/-- A result shows a record. -/
structure PublicOperationResult.Shows (result : PublicOperationResult) (row : OperationRow) :
    Prop where
  state : result.state = row.state
  certainty : result.certainty = row.certainty
  recordRevision : result.recordRevision = row.recordRevision
  failure : result.failure = row.failure
  result : result.result = row.resultJson

theorem executeSpec_ok {spec : WorkspaceExecuteSpec}
    (made : executeSpec documents arguments = .ok spec) : arguments.spec.Valid := by
  simp only [executeSpec, bind_ok, require_ok] at made
  exact made.choose_spec.2.choose_spec.1

/-- An update leads to the state that its check computes, or leaves the workspaces as they are;
what it returns is the record of the operation that it was accepted as. -/
theorem leads_aarWorkspaceUpdate :
    Leads (aarWorkspaceUpdate H documents settings tenant generation clock arguments) start
      (fun result process => Serves H settings arguments.spec start.state process.state ∧
        AcceptedBetween H start.state process.state
          (publicEnvelope documents tenant generation clock arguments)
          (payloadJson arguments.spec) result.operationId ∧
        ∃ record, process.state.db.lookup result.operationId = some record ∧
          result.Shows record.row)
      (fun _ process => Serves H settings arguments.spec start.state process.state) := by
  refine Leads.bind (leads_check (fun spec made => ?_) fun _ _ => .refl _)
  have valid := executeSpec_ok made
  refine Leads.bind (Leads.mono leads_submitExecute ?_ ?_)
  · intro outcome process submitted
    obtain ⟨operation, record⟩ := outcome
    obtain ⟨same, accepted, stored, payload⟩ := submitted
    have reads : ∀ found, process.state.db.lookup operation = some found →
        readPayload found.row.payloadJson = some arguments.spec := by
      intro found read
      obtain rfl := Option.some.inj (stored.symm.trans read)
      rw [payload]
      exact readPayload_payloadJson valid
    have ended := @leads_runSubmitted H documents settings generation clock operation process
      arguments record reads stored
    refine Leads.bind (Leads.mono ended ?_ ?_)
    · intro final last finished
      obtain ⟨serves, found⟩ := finished
      refine Leads.bind (leads_check (fun _ _ => ?_) fun _ _ => .after accepted.ran same serves)
      exact Leads.pure ⟨.after accepted.ran same serves, accepted.later serves.ran, final, found,
        ⟨rfl, rfl, rfl, rfl, rfl⟩⟩
    · intro _ last serves
      exact .after accepted.ran same serves
  · intro _ process refused
    exact .after refused.1 refused.2 (.refl _)

end Updating

end Calls

end Aar.PublicWorkspace
