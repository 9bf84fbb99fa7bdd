import Mathlib.Logic.Relation
import Aar.Proofs.Records

/-! Every call of the system, read as what it does to the rows of one operation. -/

namespace Aar

open Guarded Table Registry

section Steps

/-- What a restart does to the rows of one operation. -/
def restarted (now : Nat) (s : Scope) : Scope :=
  let s := { s with generation := s.generation + 1 }
  if s.row.state = .accepted then reboundAccepted now s
  else if s.row.state = .running then fenceRunning now s
  else s

/-- What a run may do: the calls on an operation, the visits of its queue entry, and the fencing of
its expired lease that are allowed, each on the rows it finds. -/
structure Rules where
  call : Clock → OpCall → Scope → Prop
  visit : Nat → OpRecord → Prop
  expiry : OpRecord → Prop

/-- One thing that happens to the rows of an operation, at one clock, under some rules. -/
inductive LocalStep (H : Hashing) (rules : Rules) (clock : Clock) : Scope → Scope → Prop where
  | call {s r : Scope} (call : OpCall) (allow : rules.call clock call s)
      (ran : call.run H clock s = .ok r) : LocalStep H rules clock s (s.settle r)
  | admitted {s r : Scope} (binding : ModelRouteBinding)
      (ran : ModelBroker.bindOperation binding s = .ok r) :
      LocalStep H rules clock s (s.settle r)
  | visited {s : Scope} {request : ClaimRequest}
      {result : Scope × Option OperationDispatchClaim}
      (current : request.runtimeGeneration = s.generation)
      (queued : s.dispatch.any fun row => row.state = .queued)
      (ran : visitQueued H request (clock 0) s = .ok result)
      (allow : rules.visit (clock 0) s.toOpRecord) :
      LocalStep H rules clock s (s.settle result.1)
  | expired (s : Scope) (attemptNo leaseEpoch : Nat) (allow : rules.expiry s.toOpRecord) :
      LocalStep H rules clock s (fenceExpired attemptNo leaseEpoch (clock 0) s)
  | restarted (s : Scope) : LocalStep H rules clock s (restarted (clock 0) s)
  | elsewhere {s s' : Scope} (record : s'.toOpRecord = s.toOpRecord)
      (operation : s'.operation = s.operation) (generation : s'.generation = s.generation)
      (grown : ∀ row ∈ s.catalog, row ∈ s'.catalog)
      (later : s.lastSequence ≤ s'.lastSequence) : LocalStep H rules clock s s'

/-- What happens to the rows of one operation during one call. -/
abbrev LocalSteps (H : Hashing) (rules : Rules) (clock : Clock) : Scope → Scope → Prop :=
  Relation.ReflTransGen (LocalStep H rules clock)

/-- The rows of an operation that an envelope has just been accepted as. -/
structure Scope.Accepted (H : Hashing) (s : Scope) (envelope : RequestEnvelope)
    (payloadJson : String) (now : Nat) : Prop where
  named : s.operation = operationId H envelope
  rows : ∃ events routeBinding, s.toOpRecord =
    { acceptedRecord (acceptedRow envelope payloadJson now) with events, routeBinding }
  logged : ∃ event, s.events = [event] ∧ event.sequence = s.lastSequence ∧
    event.shown = s.row.shown

/-- The rows of an operation that has just been accepted. -/
def Scope.New (H : Hashing) (s : Scope) : Prop :=
  ∃ envelope payloadJson now, s.Accepted H envelope payloadJson now

theorem Scope.New.rows {H : Hashing} {s : Scope} (new : s.New H) :
    ∃ row events routeBinding, row.state = .accepted ∧
      s.toOpRecord = { acceptedRecord row with events, routeBinding } := by
  obtain ⟨_, _, _, -, ⟨events, routeBinding, record⟩, -⟩ := new
  exact ⟨_, events, routeBinding, rfl, record⟩

/-- Every operation lives on through local steps, and every other one is new. -/
structure Evolves (H : Hashing) (rules : Rules) (clock : Clock)
    (before after : Db) : Prop where
  follows : ∀ operation record, before.lookup operation = some record →
    ∃ record', after.lookup operation = some record' ∧
      LocalSteps H rules clock (before.scope operation record) (after.scope operation record')
  created : ∀ operation record, before.lookup operation = none →
    after.lookup operation = some record → (after.scope operation record).New H

end Steps

section Evolution

variable {H : Hashing} {rules : Rules} {clock : Clock} {db db' : Db}

theorem Evolves.refl : Evolves H rules clock db db where
  follows operation record found := ⟨record, found, .refl⟩
  created operation record absent found := by rw [absent] at found; cases found

/-- A change of known operations only, followed by another change. -/
theorem Evolves.then {mid : Db} (first : Evolves H rules clock db mid)
    (known : ∀ operation, db.lookup operation = none → mid.lookup operation = none)
    (second : Evolves H rules clock mid db') : Evolves H rules clock db db' where
  follows operation record found := by
    obtain ⟨between, there, before⟩ := first.follows operation record found
    obtain ⟨record', here, after⟩ := second.follows operation between there
    exact ⟨record', here, before.trans after⟩
  created operation record absent := second.created operation record (known operation absent)

/-- Writing back what one local step left is a change of that operation only. -/
theorem commit_evolves {operation : String} {record : OpRecord} {r : Scope}
    (found : db.lookup operation = some record)
    (step : LocalStep H rules clock (db.scope operation record)
      ((db.scope operation record).settle r))
    (grown : ∀ row ∈ db.catalog, row ∈ r.catalog) (later : db.lastSequence ≤ r.lastSequence) :
    Evolves H rules clock db (db.commit operation r) where
  follows other stored known := by
    by_cases here : other = operation
    · subst here
      cases found.symm.trans known
      refine ⟨r.toOpRecord, by rw [Db.lookup_commit, if_pos rfl, found]; rfl, ?_⟩
      rw [Db.scope_commit]
      exact .single step
    · refine ⟨stored, by rw [Db.lookup_commit, if_neg here]; exact known, ?_⟩
      exact .single (.elsewhere rfl rfl rfl grown later)
  created other stored absent there := by
    -- Writing back adds no operation.
    rw [Db.lookup_commit, absent] at there
    split at there <;> cases there

theorem commit_known {operation : String} {r : Scope} (other : String)
    (absent : db.lookup other = none) : (db.commit operation r).lookup other = none := by
  rw [Db.lookup_commit, absent]
  split <;> rfl

/-- An update evolves its operation when its body is one local step. -/
theorem update_evolves {operation : String} {missing : Err} {body : Scope → Except Err Scope}
    (updated : db.update operation missing body = .ok db')
    (step : ∀ record r, db.lookup operation = some record →
      body (db.scope operation record) = .ok r →
      LocalStep H rules clock (db.scope operation record)
          ((db.scope operation record).settle r) ∧
        (∀ row ∈ db.catalog, row ∈ r.catalog) ∧ db.lastSequence ≤ r.lastSequence) :
    Evolves H rules clock db db' := by
  obtain ⟨record, r, found, ran, rfl⟩ := Db.update_ok.mp updated
  obtain ⟨stepped, grown, later⟩ := step record r found ran
  exact commit_evolves found stepped grown later

end Evolution

section Calls

variable {H : Hashing} {rules : Rules} {clock : Clock} {db db' : Db}

/-- A visit keeps the catalog. -/
theorem visitQueued_catalog {request : ClaimRequest} {now : Nat} {s : Scope}
    {result : Scope × Option OperationDispatchClaim}
    (ran : visitQueued H request now s = .ok result) : result.1.catalog = s.catalog := by
  rcases visitQueued_cases ran with ⟨-, -, same⟩ | ⟨-, rfl⟩ | ⟨claimed, claims, rfl⟩
  · rw [same]
  · rfl
  · obtain ⟨-, -, _, prepared, _, _, -, prepares, rfl⟩ := claimQueued_ok claims
    exact prepares.frame.2.2.2.2

/-- The expired leases of all running operations, in the order they are fenced. -/
def expiredIn (now : Nat) (db : Db) : List ExpiredLease :=
  (db.operations.flatMap fun entry => expiredLeases now entry.1 entry.2).insertionSort
    ExpiredLease.Before

/-- Every listed lease may be fenced when its turn comes. -/
def FencesAllowed (rules : Rules) (now : Nat) : List ExpiredLease → Db → Prop
  | [], _ => True
  | lease :: rest, db =>
    (∀ record, db.lookup lease.operation = some record → rules.expiry record) ∧
      FencesAllowed rules now rest (fenceEach now [lease] db)

/-- Fencing the listed leases is a sequence of local steps. -/
theorem fenceEach_evolves (expired : List ExpiredLease) (db : Db)
    (allow : FencesAllowed rules (clock 0) expired db) :
    Evolves H rules clock db (fenceEach (clock 0) expired db) := by
  induction expired generalizing db with
  | nil => exact .refl
  | cons lease rest ih =>
    obtain ⟨here, later⟩ := allow
    cases found : db.lookup lease.operation with
    | none =>
      simp only [fenceEach, found] at later ⊢
      exact ih db later
    | some record =>
      simp only [fenceEach, found] at later ⊢
      refine Evolves.then ?_ commit_known (ih _ later)
      refine commit_evolves found (.expired _ _ _ (here record found)) (fun row member => member) ?_
      have recorded := @fenceExpired_recorded (db.scope lease.operation record)
        lease.attemptNo lease.leaseEpoch (clock 0)
      exact recorded.keeps.2

/-- A queue entry names an operation whose dispatch row is queued. -/
def QueuedIn (db : Db) (operation : String) : Prop :=
  ∀ record, db.lookup operation = some record →
    record.dispatch.any fun row => row.state = .queued

/-- Visiting a queue of distinct queued operations is a sequence of local steps. -/
theorem claimFrom_evolves {request : ClaimRequest} {queue : List QueueEntry}
    {result : Db × Option OperationDispatchClaim}
    (distinct : (queue.map QueueEntry.operation).Nodup)
    (queued : ∀ entry ∈ queue, QueuedIn db entry.operation)
    (allow : ∀ entry ∈ queue, ∀ record, db.lookup entry.operation = some record →
      rules.visit (clock 0) record)
    (current : request.runtimeGeneration = db.generation)
    (ran : claimFrom H request (clock 0) queue db = .ok result) :
    Evolves H rules clock db result.1 := by
  -- Each visit writes one operation, so the later ones are still queued when they are visited.
  induction queue generalizing db with
  | nil =>
    simp only [claimFrom, Except.ok.injEq] at ran
    rw [← ran]
    exact .refl
  | cons entry rest ih =>
    simp only [claimFrom, bind_ok] at ran
    obtain ⟨⟨mid, claim⟩, visited, ran⟩ := ran
    obtain ⟨record, r, found, visit, rfl⟩ := Db.transact_ok.mp visited
    simp only [List.map_cons, List.nodup_cons, List.mem_map, not_exists, not_and] at distinct
    have here : Evolves H rules clock db (db.commit entry.operation r) := by
      refine commit_evolves found (.visited current (queued entry List.mem_cons_self _ found) visit
        (allow entry List.mem_cons_self record found)) (fun row member => ?_)
        (visitQueued_recorded visit).keeps.2
      rw [visitQueued_catalog visit]
      exact member
    cases claim with
    | some claim =>
      simp only [pure_ok] at ran
      rw [← ran]
      exact here
    | none =>
      refine here.then commit_known (ih distinct.2 ?_ ?_ current ran)
      · intro later member stored there
        rw [Db.lookup_commit, if_neg fun same => distinct.1 later member same] at there
        exact queued later (List.mem_cons_of_mem _ member) stored there
      · intro later member stored there
        rw [Db.lookup_commit, if_neg fun same => distinct.1 later member same] at there
        exact allow later (List.mem_cons_of_mem _ member) stored there

/-- The queue lists distinct operations, each of which is queued. -/
theorem dispatchQueue_queued (db : Db) :
    ((dispatchQueue db).map QueueEntry.operation).Nodup ∧
      ∀ entry ∈ dispatchQueue db, QueuedIn db entry.operation := by
  have perm := List.perm_insertionSort QueueEntry.Before (db.operations.filterMap queueEntry)
  have named : ∀ entry queued, queueEntry entry = some queued →
      queued.operation = entry.1 ∧ entry.2.dispatch.any fun row => row.state = .queued := by
    intro entry queued listed
    cases stored : entry.2.dispatch with
    | none => simp [queueEntry, stored] at listed
    | some row =>
      simp only [queueEntry, stored] at listed
      split at listed
      · rename_i state
        cases listed
        exact ⟨rfl, by simpa using state⟩
      · cases listed
  constructor
  · -- The names of the queued operations are among the distinct names of all operations.
    refine ((perm.map QueueEntry.operation).nodup_iff).mpr ?_
    have sub : ((db.operations.filterMap queueEntry).map QueueEntry.operation).Sublist
        (db.operations.map Prod.fst) := by
      induction db.operations with
      | nil => exact .slnil
      | cons entry rest ih =>
        cases listed : queueEntry entry with
        | none =>
          rw [List.filterMap_cons_none listed]
          exact ih.cons _
        | some queued =>
          rw [List.filterMap_cons_some listed, List.map_cons, List.map_cons,
            (named entry queued listed).1]
          exact ih.cons_cons _
    exact sub.nodup db.primaryKey
  · intro queued member record found
    obtain ⟨entry, stored, listed⟩ := List.mem_filterMap.mp (perm.mem_iff.mp member)
    obtain ⟨name, waiting⟩ := named entry queued listed
    have here : db.lookup entry.1 = some entry.2 := Db.lookup_of_mem stored
    rw [name, here] at found
    cases found
    exact waiting

theorem restart_shared (now : Nat) :
    (∀ s, Db.Shared s (reboundAccepted now s)) ∧ ∀ s, Db.Shared s (fenceRunning now s) := by
  refine ⟨fun s => ⟨rfl, Nat.le_succ _⟩, fun s => ⟨?_, (fenceRunning_recorded now).keeps.2⟩⟩
  simp only [fenceRunning, insertEvent]
  cases latestRunning s <;> rfl

theorem entry_unique {operation : String} {record other : OpRecord}
    (found : db.lookup operation = some record) (member : (operation, other) ∈ db.operations) :
    other = record := by
  cases found.symm.trans (Db.lookup_of_mem member)
  rfl

/-- A scope under a new generation is the restarted scope of the generation before. -/
theorem restarted_of {before : Scope} {generation now : Nat}
    (bumped : before.generation = generation + 1) :
    restarted now { before with generation } =
      if before.row.state = .accepted then reboundAccepted now before
      else if before.row.state = .running then fenceRunning now before
      else before := by
  have back : { { before with generation } with generation := generation + 1 } = before := by
    rw [← bumped]
  simp only [restarted]
  rw [back]

/-- What a restart leaves under one name: the rows of the operation, one local step further. -/
theorem lookup_startRuntime {operation : String} {record : OpRecord}
    (found : db.lookup operation = some record) :
    ∃ before : Scope, before.toOpRecord = record ∧ before.operation = operation ∧
      before.generation = db.generation ∧ before.catalog = db.catalog ∧
      db.lastSequence ≤ before.lastSequence ∧
      (restarted (clock 0) before).lastSequence ≤ (startRuntime clock db).lastSequence ∧
      (startRuntime clock db).lookup operation =
        some (restarted (clock 0) before).toOpRecord := by
  -- The first sweep rewrites the accepted operations, so the running ones are still as stored.
  let bumped : Db := { db with generation := db.generation + 1 }
  obtain ⟨rebinds, fences⟩ := restart_shared (clock 0)
  have stored : ∀ entry ∈ db.operations, bumped.lookup entry.1 = some entry.2 :=
    fun entry member => Db.lookup_of_mem member
  have first := fun name => Db.lookup_sweep (·.row.state = .accepted) rebinds
    db.operations bumped db.primaryKey (fun entry member _ => stored entry member) name
  let rebound := bumped.sweep (·.row.state = .accepted) (reboundAccepted (clock 0)) db.operations
  have running : ∀ entry ∈ db.operations, entry.2.row.state = .running →
      rebound.lookup entry.1 = some entry.2 := by
    intro entry member state
    rcases first entry.1 with ⟨-, left⟩ | ⟨_, other, there, accepted, -⟩
    · exact left.trans (stored entry member)
    · have found : db.lookup entry.1 = some entry.2 := Db.lookup_of_mem member
      obtain rfl := entry_unique found there
      rw [state] at accepted
      cases accepted
  have second := Db.lookup_sweep (·.row.state = .running) fences db.operations
    rebound db.primaryKey running operation
  have kept := Db.sweep_keeps (·.row.state = .accepted) rebinds db.operations bumped
  have grown := (Db.sweep_keeps (·.row.state = .running) fences db.operations rebound).2.2
  have member := Db.mem_of_lookup found
  have ends : (startRuntime clock db).lookup operation =
      (rebound.sweep (·.row.state = .running) (fenceRunning (clock 0)) db.operations).lookup
        operation := rfl
  rw [ends]
  have sequence : (startRuntime clock db).lastSequence =
      (rebound.sweep (·.row.state = .running) (fenceRunning (clock 0)) db.operations).lastSequence :=
    rfl
  rw [sequence]
  rcases second with ⟨idle, left⟩ | ⟨before, other, there, state, rfl, name, generation, catalog,
    first', last, ended⟩
  · rw [left]
    rcases first operation with ⟨closed, same⟩ | ⟨before, other, there, state, rfl, name,
      generation, catalog, first', last, ended⟩
    · -- Neither sweep selected the operation.
      let before := bumped.scope operation record
      have unaccepted : ¬ before.row.state = .accepted := closed record member
      have unstarted : ¬ before.row.state = .running := idle record member
      refine ⟨{ before with generation := db.generation }, rfl, rfl, rfl, rfl, Nat.le_refl _, ?_⟩
      rw [restarted_of rfl, if_neg unaccepted, if_neg unstarted]
      exact ⟨Nat.le_trans kept.2.2 grown, same.trans found⟩
    · obtain rfl := entry_unique found there
      refine ⟨{ before with generation := db.generation }, rfl, name, rfl, catalog, first', ?_⟩
      rw [restarted_of generation, if_pos state]
      exact ⟨Nat.le_trans last grown, ended⟩
  · obtain rfl := entry_unique found there
    refine ⟨{ before with generation := db.generation }, rfl, name, rfl,
      catalog.trans kept.2.1, Nat.le_trans kept.2.2 first', ?_⟩
    rw [restarted_of (generation.trans kept.1), if_neg (by rw [state]; decide), if_pos state]
    exact ⟨last, ended⟩

/-- A restarted scope keeps its name and catalog, under the next generation. -/
theorem restarted_keeps (now : Nat) (s : Scope) :
    (restarted now s).operation = s.operation ∧ (restarted now s).catalog = s.catalog ∧
      (restarted now s).generation = s.generation + 1 := by
  simp only [restarted]
  split
  · exact ⟨rfl, rfl, rfl⟩
  · split
    · simp only [fenceRunning, insertEvent]
      cases latestRunning { s with generation := s.generation + 1 } <;> exact ⟨rfl, rfl, rfl⟩
    · exact ⟨rfl, rfl, rfl⟩

/-- A restart starts the next generation and keeps the catalog. -/
theorem startRuntime_keeps :
    (startRuntime clock db).generation = db.generation + 1 ∧
      (startRuntime clock db).catalog = db.catalog := by
  obtain ⟨rebinds, fences⟩ := restart_shared (clock 0)
  let bumped : Db := { db with generation := db.generation + 1 }
  have first := Db.sweep_keeps (·.row.state = .accepted) rebinds db.operations bumped
  have second := Db.sweep_keeps (·.row.state = .running) fences db.operations
    (bumped.sweep (·.row.state = .accepted) (reboundAccepted (clock 0)) db.operations)
  exact ⟨second.1.trans first.1, second.2.1.trans first.2.1⟩

theorem startRuntime_names :
    (startRuntime clock db).operations.map Prod.fst = db.operations.map Prod.fst :=
  (Db.sweep_keys _ _).trans (Db.sweep_keys _ _)

/-- An operation that is stored after a restart was stored before it. -/
theorem startRuntime_known {operation : String} {record : OpRecord}
    (there : (startRuntime clock db).lookup operation = some record) :
    ∃ before, db.lookup operation = some before := by
  cases found : db.lookup operation with
  | some before => exact ⟨before, rfl⟩
  | none =>
    have names : (startRuntime clock db).operations.map Prod.fst =
        db.operations.map Prod.fst := startRuntime_names
    rw [Db.lookup_none, ← names, ← Db.lookup_none, there] at found
    cases found

/-- A restart takes every operation one local step further, and adds none. -/
theorem startRuntime_evolves : Evolves H rules clock db (startRuntime clock db) where
  follows operation record found := by
    obtain ⟨before, rfl, name, generation, catalog, first, last, ended⟩ :=
      lookup_startRuntime found
    refine ⟨_, ended, ?_⟩
    obtain ⟨operation', catalog', generation'⟩ := restarted_keeps (clock 0) before
    have kept : (startRuntime clock db).generation = db.generation + 1 ∧
        (startRuntime clock db).catalog = db.catalog := startRuntime_keeps
    -- The rows themselves take one step; around it only what other operations wrote changes.
    have here : LocalStep H rules clock (db.scope operation before.toOpRecord) before := by
      refine .elsewhere rfl name generation ?_ first
      rw [catalog]
      exact fun row member => member
    refine .head here (.head (.restarted before) (.single (.elsewhere rfl ?_ ?_ ?_ last)))
    · exact (operation'.trans name).symm
    · rw [generation', generation]
      exact kept.1
    · rw [catalog', catalog]
      show ∀ row ∈ db.catalog, row ∈ (startRuntime clock db).catalog
      rw [kept.2]
      exact fun row member => member
  created operation record absent found := by
    obtain ⟨before, known⟩ := startRuntime_known found
    rw [absent] at known
    cases known

/-- An appended operation is found under its name, and every other one as before. -/
theorem lookup_insertOperation {operation : String} {record : OpRecord}
    (inserted : insertOperation operation record db = .ok db') :
    db.lookup operation = none ∧ db'.generation = db.generation ∧ db'.catalog = db.catalog ∧
      db'.lastSequence = db.lastSequence ∧
      ∀ other, db'.lookup other = if other = operation then some record else db.lookup other := by
  unfold insertOperation at inserted
  split at inserted
  · rename_i fresh
    cases inserted
    refine ⟨Db.lookup_none.mpr fresh, rfl, rfl, rfl, fun other => ?_⟩
    simp only [Db.lookup, List.find?_append]
    by_cases here : other = operation
    · subst here
      have absent := Db.lookup_none.mpr fresh
      simp only [Db.lookup, Option.map_eq_none_iff] at absent
      simp [absent]
    · have differ : operation ≠ other := fun same => here same.symm
      simp [here, differ]
  · cases inserted

theorem admission_effect (admission : Admission) {s r : Scope}
    (ran : admission.callback s = .ok r) : ∃ routeBinding, r = { s with routeBinding } := by
  rcases admission.binds s r ran with rfl | ⟨binding, bound⟩
  · exact ⟨_, rfl⟩
  · obtain ⟨-, rfl⟩ := CallerWork.bindOperation_ok.mp bound
    exact ⟨_, rfl⟩

/-- Running an admission callback is at most one local step of its operation. -/
theorem runAdmission_evolves {admission : Option Admission} {operation : String}
    (ran : runAdmission (admission.map Admission.callback) operation db = .ok db') :
    Evolves H rules clock db db' := by
  cases admission with
  | none =>
    simp only [runAdmission, Option.map_none, Except.ok.injEq] at ran
    rw [← ran]
    exact .refl
  | some admission =>
    obtain ⟨record, r, found, admitted, rfl⟩ := Db.update_ok.mp ran
    rcases admission.binds _ _ admitted with rfl | ⟨binding, bound⟩
    · -- A callback that binds nothing writes back what it read.
      refine commit_evolves found ?_ (fun row member => member) (Nat.le_refl _)
      exact .elsewhere rfl rfl rfl (fun row member => member) (Nat.le_refl _)
    · refine commit_evolves found (.admitted binding bound) ?_ ?_ <;>
        obtain ⟨-, rfl⟩ := CallerWork.bindOperation_ok.mp bound
      · exact fun row member => member
      · exact Nat.le_refl _

/-- What an admission callback leaves: its operation with a bound route, and the rest as it was. -/
structure Admitted (operation : String) (db db' : Db) : Prop where
  here : ∀ record, db.lookup operation = some record →
    ∃ routeBinding, db'.lookup operation = some { record with routeBinding }
  others : ∀ other, other ≠ operation → db'.lookup other = db.lookup other
  generation : db'.generation = db.generation
  catalog : db'.catalog = db.catalog
  lastSequence : db'.lastSequence = db.lastSequence

/-- An admission callback that ran leaves only its operation changed. -/
theorem runAdmission_admitted {admission : Option Admission} {operation : String}
    (ran : runAdmission (admission.map Admission.callback) operation db = .ok db') :
    Admitted operation db db' := by
  cases admission with
  | none =>
    simp only [runAdmission, Option.map_none, Except.ok.injEq] at ran
    rw [← ran]
    exact ⟨fun record found => ⟨record.routeBinding, found⟩, fun _ _ => rfl, rfl, rfl, rfl⟩
  | some admission =>
    obtain ⟨stored, r, there, admitted, rfl⟩ := Db.update_ok.mp ran
    obtain ⟨routeBinding, rfl⟩ := admission_effect admission admitted
    refine ⟨fun record found => ⟨routeBinding, ?_⟩, fun other differ => ?_, rfl, rfl, rfl⟩
    · cases found.symm.trans there
      rw [Db.lookup_commit, if_pos rfl, found]
      rfl
    · rw [Db.lookup_commit, if_neg differ]

/-- The rows of a fresh acceptance, before its admission callback runs. -/
def freshRecord (envelope : RequestEnvelope) (payloadJson : String) (now lastSequence : Nat) :
    OpRecord :=
  { acceptedRecord (acceptedRow envelope payloadJson now) with
    events := [{
      sequence := lastSequence + 1, state := .accepted, certainty := .certain, recordRevision := 0
      atUnixMs := now, note := "intent_persisted", attemptNo := none
      eventKind := "intent_persisted", payload := [("note", .text "intent_persisted")] }] }

/-- A fresh acceptance appends its operation with its first event, and then runs its callback. -/
theorem accept_fresh {envelope : RequestEnvelope} {payloadJson : String}
    {admission : Option Admission} {result : Db × String × Bool}
    (absent : acceptedBefore envelope db = none)
    (ran : accept H clock envelope payloadJson (admission.map Admission.callback) db =
      .ok result) :
    db.lookup (operationId H envelope) = none ∧ result.2 = (operationId H envelope, true) ∧
      ∃ logged, logged.generation = db.generation ∧ logged.catalog = db.catalog ∧
        logged.lastSequence = db.lastSequence + 1 ∧
        (∀ other, logged.lookup other =
          if other = operationId H envelope then
            some (freshRecord envelope payloadJson (clock 0) db.lastSequence)
          else db.lookup other) ∧
        Admitted (operationId H envelope) logged result.1 := by
  simp only [accept, absent, bind_ok, pure_ok] at ran
  obtain ⟨mid, inserted, logged, updated, after, admitted, rfl⟩ := ran
  obtain ⟨unused, generation, catalog, sequence, lookups⟩ := lookup_insertOperation inserted
  obtain ⟨record, r, found, noted, rfl⟩ := Db.update_ok.mp updated
  simp only [pure, Except.pure, Except.ok.injEq] at noted
  obtain rfl := noted
  rw [lookups, if_pos rfl] at found
  cases found
  refine ⟨unused, rfl, _, ?_, ?_, ?_, fun other => ?_, runAdmission_admitted admitted⟩
  · exact generation
  · exact catalog
  · show mid.lastSequence + 1 = db.lastSequence + 1
    rw [sequence]
  · rw [Db.lookup_commit, lookups]
    by_cases here : other = operationId H envelope
    · simp only [here, if_true, Option.map_some, insertEvent, freshRecord, Db.scope, sequence]
      rfl
    · simp only [here, if_false]

/-- An acceptance repeats a known operation, or adds a new one. -/
theorem accept_evolves {envelope : RequestEnvelope} {payloadJson : String}
    {admission : Option Admission} {result : Db × String × Bool}
    (ran : accept H clock envelope payloadJson (admission.map Admission.callback) db =
      .ok result) : Evolves H rules clock db result.1 := by
  cases stored : acceptedBefore envelope db with
  | some entry =>
    simp only [accept, stored, bind_ok, pure_ok] at ran
    obtain ⟨_, -, _, -, _, -, after, admitted, rfl⟩ := ran
    exact runAdmission_evolves admitted
  | none =>
    obtain ⟨unused, -, logged, generation, catalog, sequence, lookups, admitted⟩ :=
      accept_fresh stored ran
    constructor
    · intro other record known
      -- The new name was unused, so a known operation has another one.
      have differ : other ≠ operationId H envelope := by
        rintro rfl
        rw [unused] at known
        cases known
      refine ⟨record, ?_, .single (.elsewhere rfl rfl ?_ ?_ ?_)⟩
      · rw [admitted.others other differ, lookups, if_neg differ]
        exact known
      · exact admitted.generation.trans generation
      · show ∀ row ∈ db.catalog, row ∈ result.1.catalog
        rw [admitted.catalog, catalog]
        exact fun row member => member
      · show db.lastSequence ≤ result.1.lastSequence
        rw [admitted.lastSequence, sequence]
        exact Nat.le_succ _
    · intro other record unknown there
      by_cases here : other = operationId H envelope
      · subst here
        obtain ⟨routeBinding, found⟩ :=
          admitted.here _ ((lookups _).trans (if_pos rfl))
        cases there.symm.trans found
        refine ⟨envelope, payloadJson, clock 0, rfl, ⟨_, routeBinding, rfl⟩, _, rfl, ?_, rfl⟩
        exact (admitted.lastSequence.trans sequence).symm
      · rw [admitted.others other here, lookups, if_neg here, unknown] at there
        cases there

/-- A claim takes every operation through local steps. -/
theorem claimNext_evolves {request : ClaimRequest} {result : Db × Option OperationDispatchClaim}
    (allow : ∀ operation record, db.lookup operation = some record →
      record.dispatch.any (fun row => row.state = .queued) → rules.visit (clock 0) record)
    (ran : claimNext H request clock db = .ok result) : Evolves H rules clock db result.1 := by
  simp only [claimNext, bind_ok, require_ok] at ran
  obtain ⟨_, -, _, current, ran⟩ := ran
  obtain ⟨distinct, queued⟩ := dispatchQueue_queued db
  refine claimFrom_evolves distinct queued ?_ current ran
  intro entry member record found
  exact allow entry.operation record found (queued entry member record found)

theorem fenceExpiredAttempts_evolves {generation : Nat}
    (allow : FencesAllowed rules (clock 0) (expiredIn (clock 0) db) db)
    (ran : fenceExpiredAttempts generation clock db = .ok db') :
    Evolves H rules clock db db' := by
  simp only [fenceExpiredAttempts, bind_ok, pure_ok] at ran
  obtain ⟨_, -, rfl⟩ := ran
  exact fenceEach_evolves _ db allow

end Calls

section Recording

variable {H : Hashing} {rules : Rules} {clock : Clock} {s s' : Scope}

/-- A restart moves the record of an operation that was accepted or running. -/
theorem restarted_recorded (now : Nat) : Recorded s.row.Coherent s (restarted now s) := by
  let bumped : Scope := { s with generation := s.generation + 1 }
  show Recorded bumped.row.Coherent bumped (restarted now s)
  simp only [restarted]
  by_cases accepted : s.row.state = .accepted
  · rw [if_pos accepted]
    exact reboundAccepted_recorded now accepted
  · rw [if_neg accepted]
    by_cases running : s.row.state = .running
    · rw [if_pos running]
      exact (fenceRunning_recorded now).weaken fun _ => trivial
    · rw [if_neg running]
      exact .still rfl rfl rfl

/-- Every local step records what it does, truthfully where the rules let only truth be written. -/
theorem LocalStep.recorded {faithful : Prop} (step : LocalStep H rules clock s s')
    (coherent : faithful → s.row.Coherent)
    (calls : faithful → ∀ call, rules.call clock call s → call.Truthful s)
    (expiries : faithful → rules.expiry s.toOpRecord → s.row.state = .running) :
    Recorded faithful s s' := by
  cases step with
  | call call allow ran =>
    exact (OpCall.recorded ran).weaken fun holds => ⟨coherent holds, calls holds call allow⟩
  | admitted binding ran =>
    obtain ⟨-, rfl⟩ := CallerWork.bindOperation_ok.mp ran
    exact .still rfl rfl rfl
  | visited _ _ ran _ => exact (visitQueued_recorded ran).weaken coherent
  | expired _ _ allow =>
    exact (fenceExpired_recorded _ _ _).weaken fun holds => expiries holds allow
  | restarted => exact (restarted_recorded _).weaken coherent
  | elsewhere record _ _ _ later =>
    have same : s'.log = { s.log with last := s'.lastSequence } := by
      simp only [Scope.log, record]
    rw [Recorded, same]
    exact .later .same later

/-- What acceptance stored about an operation stays, and so does its name. -/
theorem LocalStep.keeps (step : LocalStep H rules clock s s') :
    s'.operation = s.operation ∧ s'.row.intent = s.row.intent := by
  have recorded : Recorded False s s' := step.recorded nofun nofun nofun
  refine ⟨?_, recorded.keeps.1⟩
  cases step with
  | call | admitted | visited => rfl
  | expired => simp only [fenceExpired, insertEvent]
  | restarted => exact (restarted_keeps _ _).1
  | elsewhere _ operation => exact operation

end Recording

section Quiet

variable {H : Hashing} {rules : Rules} {clock : Clock} {s s' : Scope}

/-- The rows that nothing but a call on the operation writes are as before. -/
structure Scope.Untouched (s s' : Scope) : Prop where
  operation : s'.operation = s.operation
  job : s'.job = s.job
  control : s'.control = s.control
  suspensions : s'.suspensions = s.suspensions
  tickets : s'.tickets = s.tickets
  candidates : s'.candidates = s.candidates
  commands : s'.commands = s.commands
  finalization : s'.finalization = s.finalization

/-- Untouched rows are untouched by a further step that leaves them alone. -/
theorem Scope.Untouched.trans {s'' : Scope} (first : s.Untouched s') (second : s'.Untouched s'') :
    s.Untouched s'' :=
  ⟨second.operation.trans first.operation, second.job.trans first.job,
    second.control.trans first.control, second.suspensions.trans first.suspensions,
    second.tickets.trans first.tickets, second.candidates.trans first.candidates,
    second.commands.trans first.commands, second.finalization.trans first.finalization⟩

/-- A local step is a call on the operation, or leaves what only calls write untouched. -/
theorem LocalStep.call_or_untouched (step : LocalStep H rules clock s s') :
    (∃ call r, rules.call clock call s ∧ call.run H clock s = .ok r ∧ s' = s.settle r) ∨
      s.Untouched s' := by
  have same : s.Untouched s := ⟨rfl, rfl, rfl, rfl, rfl, rfl, rfl, rfl⟩
  cases step with
  | call call allow ran => exact .inl ⟨call, _, allow, ran, rfl⟩
  | admitted binding ran =>
    obtain ⟨-, rfl⟩ := CallerWork.bindOperation_ok.mp ran
    exact .inr ⟨rfl, rfl, rfl, rfl, rfl, rfl, rfl, rfl⟩
  | visited _ _ ran _ =>
    right
    rcases visitQueued_cases ran with ⟨-, -, same⟩ | ⟨-, rfl⟩ | ⟨claimed, claims, rfl⟩
    · rw [same]
      exact ⟨rfl, rfl, rfl, rfl, rfl, rfl, rfl, rfl⟩
    · exact ⟨rfl, rfl, rfl, rfl, rfl, rfl, rfl, rfl⟩
    · -- Preparing a successor writes cells, attempts, the outbox and transfers only.
      obtain ⟨-, -, _, prepared, _, _, -, prepares, rfl⟩ := claimQueued_ok claims
      cases prepares <;> exact ⟨rfl, rfl, rfl, rfl, rfl, rfl, rfl, rfl⟩
  | expired =>
    simp only [fenceExpired, insertEvent]
    exact .inr ⟨rfl, rfl, rfl, rfl, rfl, rfl, rfl, rfl⟩
  | restarted =>
    right
    unfold Aar.restarted
    dsimp only
    split
    · exact ⟨rfl, rfl, rfl, rfl, rfl, rfl, rfl, rfl⟩
    · split
      · simp only [fenceRunning, insertEvent]
        cases latestRunning _ <;> exact ⟨rfl, rfl, rfl, rfl, rfl, rfl, rfl, rfl⟩
      · exact ⟨rfl, rfl, rfl, rfl, rfl, rfl, rfl, rfl⟩
  | elsewhere record operation =>
    exact .inr ⟨operation, congrArg OpRecord.job record, congrArg OpRecord.control record,
      congrArg OpRecord.suspensions record, congrArg OpRecord.tickets record,
      congrArg OpRecord.candidates record, congrArg OpRecord.commands record,
      congrArg OpRecord.finalization record⟩

end Quiet

section Events

variable {H : Hashing} {rules : Rules} {event : Event} {db db' : Db}

/-- What an event does is allowed on the rows it finds; a call that raises does nothing. -/
structure Event.Allowed (H : Hashing) (rules : Rules) (event : Event) (db : Db) : Prop where
  call : ∀ operation call record r, event.call = .on operation call →
    db.lookup operation = some record → call.run H event.clock (db.scope operation record) = .ok r →
    rules.call event.clock call (db.scope operation record)
  visit : ∀ request operation record, event.call = .claimNext request →
    db.lookup operation = some record → record.dispatch.any (fun row => row.state = .queued) →
    rules.visit (event.clock 0) record
  expiry : ∀ generation, event.call = .fenceExpiredAttempts generation →
    FencesAllowed rules (event.clock 0) (expiredIn (event.clock 0) db) db

/-- Every allowed event takes each operation through local steps. -/
theorem Event.evolves (allow : event.Allowed H rules db) :
    Evolves H rules event.clock db (event.step H db) := by
  rcases @Event.step_cases H event db with ⟨db', ran, same⟩ | same
  · rw [same]
    cases called : event.call with
    | startRuntime =>
      simp only [called, Call.run, Except.ok.injEq] at ran
      rw [← ran]
      exact startRuntime_evolves
    | accept envelope payloadJson admission =>
      simp only [called, Call.run, map_ok] at ran
      obtain ⟨result, ran, rfl⟩ := ran
      exact accept_evolves ran
    | claimNext request =>
      simp only [called, Call.run, map_ok] at ran
      obtain ⟨result, ran, rfl⟩ := ran
      exact claimNext_evolves
        (fun operation record => allow.visit request operation record called) ran
    | fenceExpiredAttempts generation =>
      simp only [called, Call.run] at ran
      exact fenceExpiredAttempts_evolves (allow.expiry generation called) ran
    | on operation call =>
      simp only [called, Call.run] at ran
      refine update_evolves ran fun record r found ran => ⟨.call call ?_ ran, ?_, ?_⟩
      · exact allow.call operation call record r called found ran
      · exact OpCall.catalog_grows ran
      · exact (OpCall.recorded ran).keeps.2
  · rw [same]
    exact .refl

/-- A transaction on one operation that succeeds writes that operation back. -/
theorem Event.step_on {operation : String} {call : OpCall} {record : OpRecord}
    {r : Scope} (called : event.call = .on operation call)
    (found : db.lookup operation = some record)
    (ran : call.run H event.clock (db.scope operation record) = .ok r) :
    event.step H db = db.commit operation r ∧
      (event.step H db).lookup operation = some r.toOpRecord := by
  have written : event.call.run H event.clock db = .ok (db.commit operation r) := by
    rw [called]
    exact Db.update_ok.mpr ⟨record, r, found, ran, rfl⟩
  have same : event.step H db = db.commit operation r := by simp only [Event.step, written]
  refine ⟨same, ?_⟩
  rw [same, Db.lookup_commit, if_pos rfl, found]
  rfl

/-- Everything is allowed but a call on one operation. -/
def Elsewhere (operation : String) : Rules where
  call _ _ s := s.operation ≠ operation
  visit _ _ := True
  expiry _ := True

theorem FencesAllowed.of_all (all : ∀ record, rules.expiry record) (now : Nat)
    (expired : List ExpiredLease) (db : Db) : FencesAllowed rules now expired db := by
  induction expired generalizing db with
  | nil => trivial
  | cons lease rest ih => exact ⟨fun record _ => all record, ih _⟩

/-- Local steps that are not calls on the operation leave what only calls write untouched. -/
theorem elsewhere_untouched {operation : String} {clock : Clock} {s s' : Scope}
    (steps : LocalSteps H (Elsewhere operation) clock s s') (here : s.operation = operation) :
    s.Untouched s' := by
  induction steps with
  | refl => exact ⟨rfl, rfl, rfl, rfl, rfl, rfl, rfl, rfl⟩
  | tail _ step ih =>
    rcases step.call_or_untouched with ⟨call, r, allow, -⟩ | untouched
    · exact absurd (ih.operation.trans here) allow
    · exact ih.trans untouched

/-- An event is a call on an operation that succeeds, or touches nothing that only calls write. -/
theorem Event.call_or_untouched (event : Event) {operation : String} {record : OpRecord}
    (found : db.lookup operation = some record) :
    (∃ call r, event.call = .on operation call ∧
        call.run H event.clock (db.scope operation record) = .ok r ∧
        (event.step H db).lookup operation = some r.toOpRecord) ∨
      ∃ record', (event.step H db).lookup operation = some record' ∧
        (db.scope operation record).Untouched ((event.step H db).scope operation record') := by
  by_cases calls : ∃ call r, event.call = .on operation call ∧
      call.run H event.clock (db.scope operation record) = .ok r
  · obtain ⟨call, r, called, ran⟩ := calls
    exact .inl ⟨call, r, called, ran, (Event.step_on called found ran).2⟩
  · right
    -- No call on the operation succeeds, so the event is allowed where only those are not.
    have allow : event.Allowed H (Elsewhere operation) db := by
      constructor
      · rintro other call stored r called there ran rfl
        cases found.symm.trans there
        exact calls ⟨call, r, called, ran⟩
      · exact fun _ _ _ _ _ _ => trivial
      · exact fun _ _ => .of_all (fun _ => trivial) _ _ _
    obtain ⟨record', there, steps⟩ := (Event.evolves allow).follows operation record found
    exact ⟨record', there, elsewhere_untouched steps rfl⟩

end Events

end Aar
