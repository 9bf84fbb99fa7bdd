import Aar.Lib.Keyed
import Aar.Lib.Run
import Aar.PublicRuntime.Pool

/-! The pool of tenant runtimes keeps its ownership and its lease counts exact. -/

namespace Aar.PublicRuntime

open Guarded Stateful Table

variable {maxActiveTenants : Nat} {pool pool' : TenantRuntimePool}

section Books

/-- The entries of a pool: few, one for each tenant, each with a runtime of its own. -/
structure Entries (maxActiveTenants : Nat) (pool : TenantRuntimePool) : Prop where
  capacity : pool.runtimes.length ≤ maxActiveTenants
  tenants : Keyed TenantEntry.tenantKey pool.runtimes
  runtimes : Keyed TenantEntry.runtime pool.runtimes
  numbered : ∀ entry ∈ pool.runtimes, entry.runtime < pool.taken.length
  draining : pool.closers ≠ [] → pool.closed = true

/-- The leases that were handed out, and the calls of `__exit__` that are under way. -/
structure Leases (pool : TenantRuntimePool) : Prop where
  leased : ∀ lease ∈ pool.leases, lease.runtime < pool.taken.length
  leases : Keyed TenantRuntimeLease.number pool.leases
  handed : ∀ lease ∈ pool.leases, lease.number < pool.leases.length
  unmarked : ∀ lease ∈ pool.leases, lease.released = false → lease.exited = false
  exits : Keyed LeaseExit.lease pool.exits
  stages : ∀ exit ∈ pool.exits, ∃ lease ∈ pool.leases, lease.number = exit.lease ∧
    lease.exited = false ∧ (lease.released = true ↔ exit.stage = .marked)

/-- What the entries and the leases of a pool say about each other. -/
structure Books (maxActiveTenants : Nat) (pool : TenantRuntimePool) : Prop
    extends Entries maxActiveTenants pool, Leases pool where
  counted : ∀ entry ∈ pool.runtimes, entry.leases = pool.outstanding entry.runtime
  current : ∀ lease ∈ pool.leases, lease.exited = false → ∀ entry ∈ pool.runtimes,
    (entry.tenantKey = lease.tenantKey ↔ entry.runtime = lease.runtime)
  served : pool.closed = false → ∀ lease ∈ pool.leases, lease.exited = false →
    ∃ entry ∈ pool.runtimes, entry.tenantKey = lease.tenantKey

theorem Books.new : Books maxActiveTenants newPool where
  capacity := Nat.zero_le _
  tenants := .nil
  runtimes := .nil
  counted := nofun
  current := nofun
  served := nofun
  numbered := nofun
  leased := nofun
  leases := .nil
  handed := nofun
  unmarked := nofun
  exits := .nil
  stages := nofun
  draining := fun absent => absurd rfl absent

/-- The books depend on who is served under which runtime, and on nothing else of an entry. -/
theorem Books.reshape (books : Books maxActiveTenants pool) (change : TenantEntry → TenantEntry)
    (kept : ∀ entry ∈ pool.runtimes, (change entry).tenantKey = entry.tenantKey ∧
      (change entry).runtime = entry.runtime ∧ (change entry).leases = entry.leases)
    (runtimes : pool'.runtimes = pool.runtimes.map change)
    (taken : pool'.taken.length = pool.taken.length) (leases : pool'.leases = pool.leases)
    (exits : pool'.exits = pool.exits)
    (closed : pool.closed = true → pool'.closed = true)
    (draining : pool'.closers ≠ [] → pool'.closed = true) : Books maxActiveTenants pool' := by
  have column {γ : Type} (read : TenantEntry → γ)
      (same : ∀ entry ∈ pool.runtimes, read (change entry) = read entry) :
      pool'.runtimes.map read = pool.runtimes.map read := by
    rw [runtimes, List.map_map]
    exact List.map_congr_left same
  have origin : ∀ entry ∈ pool'.runtimes, ∃ stored ∈ pool.runtimes,
      entry.tenantKey = stored.tenantKey ∧ entry.runtime = stored.runtime ∧
        entry.leases = stored.leases := by
    intro entry member
    rw [runtimes] at member
    obtain ⟨stored, there, rfl⟩ := List.mem_map.mp member
    exact ⟨stored, there, kept stored there⟩
  constructor
  case toEntries =>
    constructor
    case capacity =>
      rw [runtimes, List.length_map]
      exact books.capacity
    case tenants =>
      rw [Keyed, column _ fun entry member => (kept entry member).1]
      exact books.tenants
    case runtimes =>
      rw [Keyed, column _ fun entry member => (kept entry member).2.1]
      exact books.runtimes
    case numbered =>
      intro entry member
      obtain ⟨stored, there, -, runtime, -⟩ := origin entry member
      rw [runtime, taken]
      exact books.numbered stored there
    case draining => exact draining
  case toLeases =>
    constructor
    case leased =>
      rw [leases, taken]
      exact books.leased
    case leases =>
      rw [leases]
      exact books.leases
    case handed =>
      rw [leases]
      exact books.handed
    case unmarked =>
      rw [leases]
      exact books.unmarked
    case exits =>
      rw [exits]
      exact books.exits
    case stages =>
      rw [exits, leases]
      exact books.stages
  case counted =>
    intro entry member
    obtain ⟨stored, there, -, runtime, count⟩ := origin entry member
    rw [count, runtime, books.counted stored there]
    simp only [TenantRuntimePool.outstanding, leases]
  case current =>
    intro lease member held entry stored
    rw [leases] at member
    obtain ⟨old, there, key, runtime, -⟩ := origin entry stored
    rw [key, runtime]
    exact books.current lease member held old there
  case served =>
    intro isOpen lease member held
    rw [leases] at member
    have wasOpen : pool.closed = false := by
      cases was : pool.closed with
      | false => rfl
      | true =>
        rw [closed was] at isOpen
        cases isOpen
    obtain ⟨entry, there, same⟩ := books.served wasOpen lease member held
    refine ⟨change entry, ?_, (kept entry there).1.trans same⟩
    rw [runtimes]
    exact List.mem_map_of_mem there

theorem Books.note (books : Books maxActiveTenants pool) (number : Nat)
    (change : TenantRuntime → TenantRuntime) :
    Books maxActiveTenants (pool.note number change) :=
  books.reshape id (fun _ _ => ⟨rfl, rfl, rfl⟩) (List.map_id _).symm
    (by simp [TenantRuntimePool.note]) rfl rfl id books.draining

/-- An entry that is only marked leaves the books as they are. -/
theorem Books.patch (books : Books maxActiveTenants pool) (tenantKey : String)
    (change : TenantEntry → TenantEntry)
    (kept : ∀ entry, (change entry).tenantKey = entry.tenantKey ∧
      (change entry).runtime = entry.runtime ∧ (change entry).leases = entry.leases) :
    Books maxActiveTenants (pool.patch tenantKey change) := by
  refine books.reshape (fun entry => if entry.tenantKey = tenantKey then change entry else entry)
    (fun entry _ => ?_) rfl rfl rfl rfl id books.draining
  by_cases here : entry.tenantKey = tenantKey
  · simp only [here, if_true]
    have same := kept entry
    rwa [here] at same
  · simp only [here, if_false]
    exact ⟨trivial, trivial, trivial⟩

/-- An entry may be removed when the pool has closed or nobody has a lease of its runtime. -/
theorem Books.remove (books : Books maxActiveTenants pool) (tenantKey : String)
    (free : pool.closed = false → ∀ lease ∈ pool.leases, lease.exited = false →
      lease.tenantKey ≠ tenantKey) : Books maxActiveTenants (pool.remove tenantKey) := by
  have inside : ∀ entry ∈ (pool.remove tenantKey).runtimes, entry ∈ pool.runtimes :=
    fun entry member => (List.mem_filter.mp member).1
  exact {
    capacity := Nat.le_trans (List.length_filter_le _ _) books.capacity
    tenants := books.tenants.sublist (List.filter_sublist.map _)
    runtimes := books.runtimes.sublist (List.filter_sublist.map _)
    counted := fun entry member => books.counted entry (inside entry member)
    current := fun lease member held entry stored =>
      books.current lease member held entry (inside entry stored)
    served := by
      intro isOpen lease member held
      obtain ⟨entry, there, same⟩ := books.served isOpen lease member held
      refine ⟨entry, List.mem_filter.mpr ⟨there, ?_⟩, same⟩
      rw [same]
      simpa using free isOpen lease member held
    numbered := fun entry member => books.numbered entry (inside entry member)
    leased := books.leased
    leases := books.leases
    handed := books.handed
    unmarked := books.unmarked
    exits := books.exits
    stages := books.stages
    draining := books.draining }

/-- A lock that is taken changes no entry and no lease. -/
theorem Books.take (books : Books maxActiveTenants pool) (tenantKey : String) :
    Books maxActiveTenants (pool.take tenantKey) := by
  have more : pool.taken.length < (pool.take tenantKey).taken.length := by
    simp [TenantRuntimePool.take]
  exact {
    capacity := books.capacity
    tenants := books.tenants
    runtimes := books.runtimes
    counted := books.counted
    current := books.current
    served := books.served
    numbered := fun entry member => Nat.lt_trans (books.numbered entry member) more
    leased := fun lease member => Nat.lt_trans (books.leased lease member) more
    leases := books.leases
    handed := books.handed
    unmarked := books.unmarked
    exits := books.exits
    stages := books.stages
    draining := books.draining }

theorem outstanding_handOut {tenantKey : String} {number runtime : Nat} :
    (pool.handOut tenantKey number).outstanding runtime =
      pool.outstanding runtime + if number = runtime then 1 else 0 := by
  simp [TenantRuntimePool.outstanding, TenantRuntimePool.handOut, List.countP_append,
    List.countP_singleton]

/-- An entry may be replaced by another one of the same tenant and runtime. -/
theorem Entries.replace (entries : Entries maxActiveTenants pool) {row row' : TenantEntry}
    (replaces : Replaces TenantEntry.tenantKey row row' pool.runtimes pool'.runtimes)
    (same : row'.runtime = row.runtime) (taken : pool'.taken.length = pool.taken.length)
    (draining : pool'.closers ≠ [] → pool'.closed = true) : Entries maxActiveTenants pool' where
  capacity := by
    have column := congrArg List.length (replaces.column replaces.named)
    simp only [List.length_map] at column
    rw [column]
    exact entries.capacity
  tenants := replaces.keyed entries.tenants
  runtimes := by
    rw [Keyed, replaces.column same]
    exact entries.runtimes
  numbered := by
    intro entry member
    rw [taken]
    rcases replaces.mem.mp member with rfl | ⟨there, -⟩
    · rw [same]
      exact entries.numbered row replaces.old
    · exact entries.numbered entry there
  draining := draining

/-- A lease that is handed out has a number of its own. -/
theorem Leases.handOut (leases : Leases pool) {tenantKey : String} {number : Nat}
    (known : number < pool.taken.length) : Leases (pool.handOut tenantKey number) where
  leased := by
    intro lease member
    rcases List.mem_append.mp member with old | new
    · exact leases.leased lease old
    · rw [List.mem_singleton.mp new]
      exact known
  leases := by
    refine leases.leases.append (.added _ fun stored there same => ?_)
    have below := leases.handed stored there
    simp only at same
    omega
  handed := by
    intro lease member
    simp only [TenantRuntimePool.handOut, List.length_append, List.length_singleton] at member ⊢
    rcases List.mem_append.mp member with old | new
    · exact Nat.lt_succ_of_lt (leases.handed lease old)
    · rw [List.mem_singleton.mp new]
      exact Nat.lt_succ_self _
  unmarked := by
    intro lease member unset
    rcases List.mem_append.mp member with old | new
    · exact leases.unmarked lease old unset
    · rw [List.mem_singleton.mp new]
  exits := leases.exits
  stages := by
    intro exit member
    obtain ⟨lease, there, rest⟩ := leases.stages exit member
    exact ⟨lease, List.mem_append_left _ there, rest⟩

section HandOut

variable {tenantKey : String} {existing : TenantEntry}

/-- Using the entry of a tenant replaces it. -/
theorem Entries.use (entries : Entries maxActiveTenants pool) (stored : existing ∈ pool.runtimes)
    (named : existing.tenantKey = tenantKey) (change : Nat → Nat) :
    Replaces TenantEntry.tenantKey existing
      { existing with leases := change existing.leases, lastUsed := pool.useCounter + 1 }
      pool.runtimes
      (pool.use tenantKey fun entry => { entry with leases := change entry.leases }).runtimes := by
  have only : ∀ other ∈ pool.runtimes, other.tenantKey = tenantKey →
      other.tenantKey = existing.tenantKey := fun other _ same => same.trans named.symm
  let used : TenantEntry → TenantEntry := fun entry =>
    { entry with leases := change entry.leases, lastUsed := pool.useCounter + 1 }
  have same : (used existing).tenantKey = existing.tenantKey := rfl
  exact entries.tenants.replaces stored named only same

/-- Marking the entry of a tenant replaces it. -/
theorem Entries.mark (entries : Entries maxActiveTenants pool) (stored : existing ∈ pool.runtimes) :
    Replaces TenantEntry.tenantKey existing { existing with closing := true } pool.runtimes
      (pool.patch existing.tenantKey fun entry => { entry with closing := true }).runtimes := by
  let marked : TenantEntry → TenantEntry := fun entry => { entry with closing := true }
  have same : (marked existing).tenantKey = existing.tenantKey := rfl
  have only : ∀ other ∈ pool.runtimes, other.tenantKey = existing.tenantKey →
      other.tenantKey = existing.tenantKey := fun _ _ named => named
  have matched : existing.tenantKey = existing.tenantKey := rfl
  exact entries.tenants.replaces stored matched only same

/-- Another lease of a runtime in the pool is counted by its entry. -/
theorem Books.lease (books : Books maxActiveTenants pool) (stored : existing ∈ pool.runtimes)
    (named : existing.tenantKey = tenantKey) :
    Books maxActiveTenants ((pool.use tenantKey fun entry =>
      { entry with leases := entry.leases + 1 }).handOut tenantKey existing.runtime) := by
  have replaces := books.toEntries.use stored named (· + 1)
  have known := books.numbered existing stored
  constructor
  case toEntries => exact books.toEntries.replace replaces rfl rfl books.draining
  case toLeases =>
    have kept : Leases (pool.use tenantKey fun entry =>
        { entry with leases := entry.leases + 1 }) :=
      ⟨books.leased, books.leases, books.handed, books.unmarked, books.exits, books.stages⟩
    exact kept.handOut known
  case counted =>
    intro entry member
    rw [outstanding_handOut]
    rcases replaces.mem.mp member with rfl | ⟨there, apart⟩
    · -- The entry counts one lease more, and one more is outstanding.
      simp only [if_true]
      exact congrArg (· + 1) (books.counted existing stored)
    · have differ : existing.runtime ≠ entry.runtime := fun same =>
        apart (congrArg _ (books.runtimes.unique there stored same.symm))
      rw [if_neg differ]
      exact books.counted entry there
  case current =>
    intro lease member held entry listed
    -- An entry and a lease name the same tenant as before, under the same runtime.
    obtain ⟨old, there, key, runtime⟩ : ∃ old ∈ pool.runtimes,
        entry.tenantKey = old.tenantKey ∧ entry.runtime = old.runtime := by
      rcases replaces.mem.mp listed with rfl | ⟨there, -⟩
      · exact ⟨existing, stored, rfl, rfl⟩
      · exact ⟨entry, there, rfl, rfl⟩
    rw [key, runtime]
    rcases List.mem_append.mp member with earlier | new
    · exact books.current lease earlier held old there
    · rw [List.mem_singleton.mp new, ← named]
      constructor
      · exact fun same => congrArg _ (books.tenants.unique there stored same)
      · exact fun same => congrArg _ (books.runtimes.unique there stored same)
  case served =>
    intro isOpen lease member held
    have renew : ∀ old ∈ pool.runtimes, ∃ entry ∈ (pool.use tenantKey fun entry =>
        { entry with leases := entry.leases + 1 }).runtimes, entry.tenantKey = old.tenantKey := by
      intro old there
      by_cases same : old.tenantKey = existing.tenantKey
      · exact ⟨_, replaces.mem.mpr (.inl rfl), same.symm⟩
      · exact ⟨old, replaces.mem.mpr (.inr ⟨there, same⟩), rfl⟩
    rcases List.mem_append.mp member with earlier | new
    · obtain ⟨old, there, same⟩ := books.served isOpen lease earlier held
      obtain ⟨entry, listed, key⟩ := renew old there
      exact ⟨entry, listed, key.trans same⟩
    · obtain ⟨entry, listed, key⟩ := renew existing stored
      rw [List.mem_singleton.mp new]
      exact ⟨entry, listed, key.trans named⟩

/-- A runtime that is put in the pool is leased once. -/
theorem Books.put (books : Books maxActiveTenants pool) {number : Nat}
    (room : pool.runtimes.length < maxActiveTenants)
    (absent : ∀ entry ∈ pool.runtimes, entry.tenantKey ≠ tenantKey)
    (isOpen : pool.closed = false) (known : number < pool.taken.length)
    (fresh : (∀ entry ∈ pool.runtimes, entry.runtime ≠ number) ∧
      ∀ lease ∈ pool.leases, lease.runtime ≠ number) :
    Books maxActiveTenants ((pool.put tenantKey number).handOut tenantKey number) := by
  have length : (pool.put tenantKey number).taken.length = pool.taken.length := by
    simp [TenantRuntimePool.put, TenantRuntimePool.note]
  have quiet : pool.outstanding number = 0 := by
    refine List.countP_eq_zero.mpr fun lease member => ?_
    simp [fresh.2 lease member]
  -- Nobody has a lease of the tenant, since every lease of an open pool is served.
  have idle : ∀ lease ∈ pool.leases, lease.exited = false → lease.tenantKey ≠ tenantKey := by
    intro lease member held same
    obtain ⟨entry, there, key⟩ := books.served isOpen lease member held
    exact absent entry there (key.trans same)
  constructor
  case toEntries =>
    constructor
    case capacity =>
      simp only [TenantRuntimePool.handOut, TenantRuntimePool.put, List.length_append,
        List.length_singleton]
      exact room
    case tenants => exact books.tenants.append (.added _ absent)
    case runtimes => exact books.runtimes.append (.added _ fresh.1)
    case numbered =>
      intro entry member
      show entry.runtime < (pool.put tenantKey number).taken.length
      rw [length]
      rcases List.mem_append.mp member with old | new
      · exact books.numbered entry old
      · rw [List.mem_singleton.mp new]
        exact known
    case draining => exact books.draining
  case toLeases =>
    have kept : Leases (pool.put tenantKey number) := {
      leased := fun lease member => length ▸ books.leased lease member
      leases := books.leases
      handed := books.handed
      unmarked := books.unmarked
      exits := books.exits
      stages := books.stages }
    exact kept.handOut (length ▸ known)
  case counted =>
    intro entry member
    rw [outstanding_handOut]
    show entry.leases = pool.outstanding entry.runtime + _
    rcases List.mem_append.mp member with old | new
    · rw [if_neg fun same => fresh.1 entry old same.symm]
      exact books.counted entry old
    · rw [List.mem_singleton.mp new]
      simp only [quiet, if_true]
  case current =>
    intro lease member held entry listed
    rcases List.mem_append.mp member with earlier | new
    · rcases List.mem_append.mp listed with old | new
      · exact books.current lease earlier held entry old
      · rw [List.mem_singleton.mp new]
        constructor
        · exact fun same => absurd same.symm (idle lease earlier held)
        · exact fun same => absurd same.symm (fresh.2 lease earlier)
    · rw [List.mem_singleton.mp new]
      rcases List.mem_append.mp listed with old | new
      · constructor
        · exact fun same => absurd same (absent entry old)
        · exact fun same => absurd same (fresh.1 entry old)
      · rw [List.mem_singleton.mp new]
        exact ⟨fun _ => rfl, fun _ => rfl⟩
  case served =>
    intro _ lease member held
    rcases List.mem_append.mp member with earlier | new
    · obtain ⟨entry, there, same⟩ := books.served isOpen lease earlier held
      exact ⟨entry, List.mem_append_left _ there, same⟩
    · refine ⟨_, List.mem_append_right _ (List.mem_singleton_self _), ?_⟩
      rw [List.mem_singleton.mp new]

end HandOut

section Exit

variable {number : Nat}

/-- Two calls of `__exit__` that are under way are not on the same lease. -/
theorem Leases.apart (leases : Leases pool) {stage : ExitStage}
    (there : ⟨number, stage⟩ ∈ pool.exits) :
    (∀ exit ∈ pool.exits.erase ⟨number, stage⟩, exit.lease ≠ number) ∧
      Keyed LeaseExit.lease (pool.exits.erase ⟨number, stage⟩) := by
  have perm := (List.perm_cons_erase there).map LeaseExit.lease
  have distinct := perm.nodup_iff.mp leases.exits
  rw [List.map_cons] at distinct
  obtain ⟨first, rest⟩ := List.nodup_cons.mp distinct
  refine ⟨fun exit member same => first ?_, rest⟩
  have listed := List.mem_map_of_mem (f := LeaseExit.lease) member
  rwa [same] at listed

/-- A call of `__exit__` is on the lease that is found under its number. -/
theorem Leases.found (leases : Leases pool) {stage : ExitStage}
    (there : ⟨number, stage⟩ ∈ pool.exits) :
    ∃ lease ∈ pool.leases, lease.number = number ∧ lease.exited = false ∧
      (lease.released = true ↔ stage = .marked) ∧
      fetchOne pool.leases (fun lease => lease.number = number) = some lease := by
  obtain ⟨lease, stored, same, held, stages⟩ := leases.stages _ there
  cases same
  exact ⟨lease, stored, rfl, held, stages, leases.leases.fetch stored⟩

/-- When one lease is replaced, the outstanding ones change by what it counts. -/
theorem outstanding_replaced {lease lease' : TenantRuntimeLease}
    (replaces : Replaces TenantRuntimeLease.number lease lease' pool.leases pool'.leases)
    (runtime : Nat) :
    pool'.outstanding runtime + (if lease.runtime = runtime ∧ lease.exited = false then 1 else 0) =
      pool.outstanding runtime +
        if lease'.runtime = runtime ∧ lease'.exited = false then 1 else 0 := by
  have counts := replaces.countP fun lease => lease.runtime = runtime ∧ lease.exited = false
  simp only [decide_eq_true_eq] at counts
  exact counts

/-- Changing what one lease says of itself replaces it. -/
theorem Leases.amend (leases : Leases pool) {lease : TenantRuntimeLease}
    (stored : lease ∈ pool.leases) (named : lease.number = number)
    (change : TenantRuntimeLease → TenantRuntimeLease)
    (same : (change lease).number = lease.number) :
    Replaces TenantRuntimeLease.number lease (change lease) pool.leases
      (pool.amend number change).leases := by
  have only : ∀ other ∈ pool.leases, other.number = number → other.number = lease.number :=
    fun other _ same => same.trans named.symm
  exact leases.leases.replaces stored named only same

/-- A lease may be replaced, and its call of `__exit__` go on, when the rest agrees with both. -/
theorem Leases.replace (leases : Leases pool) {stage : ExitStage}
    (there : ⟨number, stage⟩ ∈ pool.exits) {lease lease' : TenantRuntimeLease}
    (named : lease.number = number)
    (replaces : Replaces TenantRuntimeLease.number lease lease' pool.leases pool'.leases)
    (runtime : lease'.runtime = lease.runtime) (taken : pool'.taken.length = pool.taken.length)
    (set : lease'.released = true)
    (exits : pool'.exits = pool.exits.erase ⟨number, stage⟩ ∨
      pool'.exits = ⟨number, .marked⟩ :: pool.exits.erase ⟨number, stage⟩ ∧
        lease'.exited = false) : Leases pool' := by
  obtain ⟨elsewhere, keyed⟩ := leases.apart there
  -- The leases of the other calls are still there.
  have others : ∀ exit ∈ pool.exits.erase ⟨number, stage⟩, ∃ lease ∈ pool'.leases,
      lease.number = exit.lease ∧ lease.exited = false ∧
        (lease.released = true ↔ exit.stage = .marked) := by
    intro exit member
    obtain ⟨other, stored, same, rest⟩ := leases.stages exit (List.mem_of_mem_erase member)
    refine ⟨other, replaces.mem.mpr (.inr ⟨stored, ?_⟩), same, rest⟩
    rw [same, named]
    exact elsewhere exit member
  constructor
  case leased =>
    intro other member
    rw [taken]
    rcases replaces.mem.mp member with rfl | ⟨stored, -⟩
    · rw [runtime]
      exact leases.leased lease replaces.old
    · exact leases.leased other stored
  case leases => exact replaces.keyed leases.leases
  case handed =>
    intro other member
    have length := congrArg List.length (replaces.column replaces.named)
    simp only [List.length_map] at length
    rw [length]
    rcases replaces.mem.mp member with rfl | ⟨stored, -⟩
    · rw [replaces.named]
      exact leases.handed lease replaces.old
    · exact leases.handed other stored
  case unmarked =>
    intro other member unset
    rcases replaces.mem.mp member with rfl | ⟨stored, -⟩
    · rw [set] at unset
      cases unset
    · exact leases.unmarked other stored unset
  case exits =>
    rcases exits with same | ⟨same, -⟩
    · rw [same]
      exact keyed
    · rw [same, Keyed, List.map_cons, List.nodup_cons]
      refine ⟨fun listed => ?_, keyed⟩
      obtain ⟨exit, member, equal⟩ := List.mem_map.mp listed
      exact elsewhere exit member equal
  case stages =>
    rcases exits with same | ⟨same, held⟩
    · rw [same]
      exact others
    · rw [same]
      intro exit member
      rcases List.mem_cons.mp member with rfl | member
      · refine ⟨lease', replaces.mem.mpr (.inl rfl), replaces.named.trans named, held, ?_⟩
        exact ⟨fun _ => rfl, fun _ => set⟩
      · exact others exit member

/-- A call of `__exit__` may begin when no other one is reading the flag of its lease. -/
theorem Books.beginExit (books : Books maxActiveTenants pool)
    (apart : ⟨number, .checked⟩ ∉ pool.exits) :
    Books maxActiveTenants (PublicRuntime.beginExit number pool) := by
  unfold PublicRuntime.beginExit
  cases found : fetchOne pool.leases fun lease => lease.number = number with
  | none => exact books
  | some lease =>
    obtain ⟨stored, named⟩ := fetchOne_some found
    cases flag : lease.released with
    | true =>
      simp only [flag, if_true]
      exact books
    | false =>
      simp only [flag, Bool.false_eq_true, if_false]
      -- A call that has marked the lease would have set the flag.
      have alone : ∀ exit ∈ pool.exits, exit.lease ≠ number := by
        intro exit member same
        cases stage : exit.stage with
        | checked =>
          have equal : exit = ⟨number, .checked⟩ := by rw [← same, ← stage]
          exact apart (equal ▸ member)
        | marked =>
          obtain ⟨other, there, equal, -, marked⟩ := books.stages exit member
          have one := books.leases.unique there stored (equal.trans (same.trans named.symm))
          have set := marked.mpr stage
          rw [one, flag] at set
          cases set
      have began : Leases { pool with exits := ⟨number, .checked⟩ :: pool.exits } := {
        leased := books.leased
        leases := books.leases
        handed := books.handed
        unmarked := books.unmarked
        exits := by
          rw [Keyed, List.map_cons, List.nodup_cons]
          refine ⟨fun listed => ?_, books.exits⟩
          obtain ⟨exit, member, same⟩ := List.mem_map.mp listed
          exact alone exit member same
        stages := by
          intro exit member
          rcases List.mem_cons.mp member with rfl | member
          · refine ⟨lease, stored, named, books.unmarked lease stored flag, ?_⟩
            simp [flag]
          · exact books.stages exit member }
      exact {
        toEntries := ⟨books.capacity, books.tenants, books.runtimes, books.numbered, books.draining⟩
        toLeases := began
        counted := books.counted
        current := books.current
        served := books.served }

/-- A call of `__exit__` marks its lease. -/
theorem Books.markExit (books : Books maxActiveTenants pool) :
    Books maxActiveTenants (PublicRuntime.markExit number pool) := by
  unfold PublicRuntime.markExit
  split
  · next there =>
    obtain ⟨lease, stored, named, held, -, -⟩ := books.toLeases.found there
    have replaces := books.toLeases.amend stored named
      (fun lease => { lease with released := true }) rfl
    constructor
    case toEntries =>
      exact ⟨books.capacity, books.tenants, books.runtimes, books.numbered, books.draining⟩
    case toLeases =>
      exact books.toLeases.replace there named replaces rfl rfl rfl (.inr ⟨rfl, held⟩)
    case counted =>
      intro entry member
      have kept := outstanding_replaced replaces entry.runtime
      exact (books.counted entry member).trans (Nat.add_right_cancel kept).symm
    case current =>
      intro other member open_ entry listed
      rcases replaces.mem.mp member with rfl | ⟨there, -⟩
      · exact books.current lease stored held entry listed
      · exact books.current other there open_ entry listed
    case served =>
      intro isOpen other member open_
      rcases replaces.mem.mp member with rfl | ⟨there, -⟩
      · exact books.served isOpen lease stored held
      · exact books.served isOpen other there open_
  · exact books

/-- A lease may be exited when the entries count it no more. -/
theorem Books.exited (books : Books maxActiveTenants pool) {lease : TenantRuntimeLease}
    (there : ⟨number, .marked⟩ ∈ pool.exits) (stored : lease ∈ pool.leases)
    (named : lease.number = number) (held : lease.exited = false) (set : lease.released = true)
    {rows : List TenantEntry} {useCounter : Nat}
    (entries : Entries maxActiveTenants { pool with runtimes := rows, useCounter })
    (origin : ∀ entry ∈ rows, ∃ old ∈ pool.runtimes, entry.tenantKey = old.tenantKey ∧
      entry.runtime = old.runtime ∧
      entry.leases = old.leases - if old.runtime = lease.runtime then 1 else 0)
    (renewed : ∀ old ∈ pool.runtimes, ∃ entry ∈ rows, entry.tenantKey = old.tenantKey) :
    Books maxActiveTenants
      { ({ pool with runtimes := rows, useCounter } : TenantRuntimePool).amend number
          fun lease => { lease with exited := true } with
        exits := pool.exits.erase ⟨number, .marked⟩ } := by
  have replaces := books.toLeases.amend stored named
    (fun lease => { lease with exited := true }) rfl
  constructor
  case toEntries =>
    exact ⟨entries.capacity, entries.tenants, entries.runtimes, entries.numbered, entries.draining⟩
  case toLeases => exact books.toLeases.replace there named replaces rfl rfl set (.inl rfl)
  case counted =>
    intro entry member
    obtain ⟨old, listed, -, runtime, count⟩ := origin entry member
    have change := outstanding_replaced replaces entry.runtime
    simp only [held, Bool.true_eq_false, and_false, if_false, and_true, Nat.add_zero] at change
    rw [count, books.counted old listed, ← runtime]
    show _ = (pool.amend number fun lease =>
      { lease with exited := true }).outstanding entry.runtime
    by_cases same : lease.runtime = entry.runtime
    · rw [if_pos same] at change
      rw [if_pos same.symm]
      omega
    · rw [if_neg same] at change
      rw [if_neg fun equal => same equal.symm]
      omega
  case current =>
    intro other member open_ entry listed
    obtain ⟨old, before, key, runtime, -⟩ := origin entry listed
    rw [key, runtime]
    rcases replaces.mem.mp member with rfl | ⟨stored', -⟩
    · cases open_
    · exact books.current other stored' open_ old before
  case served =>
    intro isOpen other member open_
    rcases replaces.mem.mp member with rfl | ⟨stored', -⟩
    · cases open_
    · obtain ⟨old, before, same⟩ := books.served isOpen other stored' open_
      obtain ⟨entry, listed, key⟩ := renewed old before
      exact ⟨entry, listed, key.trans same⟩

theorem final_release_none {tenantKey : String} (absent : pool.entry tenantKey = none) :
    final (release tenantKey) pool = pool := by
  unfold final release
  simp only [get_bind, absent]
  rfl

theorem final_release_some {tenantKey : String} {existing : TenantEntry}
    (found : pool.entry tenantKey = some existing) (leased : 1 ≤ existing.leases) :
    final (release tenantKey) pool =
      pool.use tenantKey fun entry => { entry with leases := entry.leases - 1 } := by
  unfold final release
  simp only [get_bind, found, demand_bind leased]
  rfl

/-- A call of `__exit__` releases its lease, once. -/
theorem Books.endExit (books : Books maxActiveTenants pool) :
    Books maxActiveTenants (PublicRuntime.endExit number pool) := by
  unfold PublicRuntime.endExit
  split
  · next there =>
    obtain ⟨lease, stored, named, held, marked, found⟩ := books.toLeases.found there
    have set : lease.released = true := marked.mpr rfl
    simp only [found]
    cases entry : pool.entry lease.tenantKey with
    | none =>
      -- The runtime was closed while it was leased, so nobody counts the lease.
      rw [final_release_none entry]
      have absent : ∀ old ∈ pool.runtimes, old.tenantKey ≠ lease.tenantKey := fetchOne_none.mp entry
      refine books.exited there stored named held set books.toEntries ?_ fun old listed =>
        ⟨old, listed, rfl⟩
      intro old listed
      have elsewhere : old.runtime ≠ lease.runtime := fun same =>
        absent old listed ((books.current lease stored held old listed).mpr same)
      exact ⟨old, listed, rfl, rfl, by simp [elsewhere]⟩
    | some existing =>
      obtain ⟨listed, key⟩ := fetchOne_some entry
      have runtime := (books.current lease stored held existing listed).mp key
      have counted : 1 ≤ existing.leases := by
        rw [books.counted existing listed]
        exact List.countP_pos_iff.mpr ⟨lease, stored, by simp [runtime, held]⟩
      rw [final_release_some entry counted]
      have replaces := books.toEntries.use listed key (· - 1)
      refine books.exited there stored named held set
        (books.toEntries.replace replaces rfl rfl books.draining) ?_ ?_
      · intro after renewed
        rcases replaces.mem.mp renewed with rfl | ⟨before, apart⟩
        · exact ⟨existing, listed, rfl, rfl, by simp [runtime]⟩
        · have elsewhere : after.runtime ≠ lease.runtime := fun same =>
            apart (((books.current lease stored held after before).mpr same).trans key.symm)
          exact ⟨after, before, rfl, rfl, by simp [elsewhere]⟩
      · intro old before
        by_cases same : old.tenantKey = existing.tenantKey
        · exact ⟨_, replaces.mem.mpr (.inl rfl), same.symm⟩
        · exact ⟨old, replaces.mem.mpr (.inr ⟨before, same⟩), rfl⟩
  · exact books

end Exit

section Draining

variable {number : Nat}

theorem Books.follow (books : Books maxActiveTenants pool) (change : Closer → Closer) :
    Books maxActiveTenants (pool.follow number change) := by
  refine books.reshape id (fun _ _ => ⟨rfl, rfl, rfl⟩) (List.map_id _).symm rfl rfl rfl id ?_
  intro present
  refine books.draining fun absent => present ?_
  simp [TenantRuntimePool.follow, absent, updateWhere]

theorem Books.beginClose (books : Books maxActiveTenants pool) :
    Books maxActiveTenants (PublicRuntime.beginClose pool) := by
  unfold PublicRuntime.beginClose
  split
  · exact books
  · exact books.reshape (fun entry => { entry with closing := true })
      (fun _ _ => ⟨rfl, rfl, rfl⟩) rfl rfl rfl rfl (fun _ => rfl) fun _ => rfl

/-- A step of closing a runtime removes at most an entry of a closed pool. -/
theorem Books.step (books : Books maxActiveTenants pool) (closed : pool.closed = true)
    (closer : Closer) (tenantKey : String) (runtime : Nat) (answer : Answer) :
    Books maxActiveTenants (closer.step tenantKey runtime answer pool) := by
  unfold Closer.step
  cases closer.stage with
  | host =>
    cases answer with
    | error error => exact (books.note _ _).follow _
    | ok passed => exact ((books.note _ _).note _ _).follow _
  | rlm =>
    cases answer with
    | error error => exact books.follow _
    | ok passed => exact books.follow _
  | ownership =>
    cases answer with
    | error error => exact (books.note _ _).follow _
    | ok passed => exact ((books.note _ _).note _ _).follow _
  | removal =>
    dsimp only
    split
    · refine (books.follow _).remove tenantKey fun isOpen => ?_
      have still : pool.closed = false := isOpen
      rw [closed] at still
      cases still
    · exact books.follow _

/-- Closing runtimes outside the lock only removes entries of a closed pool. -/
theorem Books.drain (books : Books maxActiveTenants pool) (answer : Answer) :
    Books maxActiveTenants (PublicRuntime.drain number answer pool) := by
  unfold PublicRuntime.drain
  split
  · exact books
  · next closer found =>
    have closed : pool.closed = true := by
      refine books.draining fun absent => ?_
      rw [absent, fetchOne_nil] at found
      cases found
    split
    · exact books
    · exact books.step closed closer _ _ answer

end Draining

end Books

section Locks

/-- What may happen to a runtime: its lock is released only when its host has been closed, unless
it never came into the pool. -/
structure TenantRuntime.Advances (before after : TenantRuntime) : Prop where
  number : after.number = before.number
  tenantKey : after.tenantKey = before.tenantKey
  pooled : after.pooled = before.pooled
  closed : before.closed = true → after.closed = true
  host : before.host = .closed → after.host = .closed
  guarded : after.pooled = true → after.released = true →
    before.released = true ∨ after.host = .closed

/-- What the locks that were taken, the entries and the calls of `close` say about each other. -/
structure Locks (pool : TenantRuntimePool) : Prop where
  taken : Keyed TenantRuntime.number pool.taken
  known : ∀ runtime ∈ pool.taken, runtime.number < pool.taken.length
  owned : ∀ entry ∈ pool.runtimes, ∃ runtime ∈ pool.taken, runtime.number = entry.runtime ∧
    runtime.tenantKey = entry.tenantKey ∧ runtime.pooled = true
  left : ∀ runtime ∈ pool.taken, runtime.pooled = true →
    runtime.closed = true ∨ ∃ entry ∈ pool.runtimes, entry.runtime = runtime.number
  guarded : ∀ runtime ∈ pool.taken, runtime.pooled = true → runtime.released = true →
    runtime.host = .closed
  calls : Keyed Closer.number pool.closers
  called : ∀ closer ∈ pool.closers, closer.number < pool.closers.length
  ahead : ∀ closer ∈ pool.closers, ∀ next ∈ closer.remaining, next.2 < pool.taken.length
  passed : ∀ closer ∈ pool.closers, ∀ next rest, closer.remaining = next :: rest →
    ∀ runtime ∈ pool.taken, runtime.number = next.2 →
      (closer.stage ≠ .host → runtime.host = .closed) ∧
        (closer.stage = .removal → runtime.closed = true)

theorem Locks.new : Locks newPool where
  taken := .nil
  known := nofun
  owned := nofun
  left := nofun
  guarded := nofun
  calls := .nil
  called := nofun
  ahead := nofun
  passed := nofun

/-- The locks do not depend on leases, or on what an entry says besides its tenant and runtime. -/
theorem Locks.reshape (locks : Locks pool) (change : TenantEntry → TenantEntry)
    (kept : ∀ entry ∈ pool.runtimes, (change entry).tenantKey = entry.tenantKey ∧
      (change entry).runtime = entry.runtime)
    (runtimes : pool'.runtimes = pool.runtimes.map change) (taken : pool'.taken = pool.taken)
    (closers : pool'.closers = pool.closers) : Locks pool' where
  taken := taken ▸ locks.taken
  known := taken ▸ locks.known
  owned := by
    intro entry member
    rw [runtimes] at member
    obtain ⟨stored, there, rfl⟩ := List.mem_map.mp member
    obtain ⟨key, number⟩ := kept stored there
    rw [key, number, taken]
    exact locks.owned stored there
  left := by
    intro runtime member pooled
    rw [taken] at member
    refine (locks.left runtime member pooled).imp_right fun stored => ?_
    obtain ⟨entry, there, same⟩ := stored
    refine ⟨change entry, ?_, (kept entry there).2.trans same⟩
    rw [runtimes]
    exact List.mem_map_of_mem there
  guarded := taken ▸ locks.guarded
  calls := closers ▸ locks.calls
  called := closers ▸ locks.called
  ahead := by
    rw [closers, taken]
    exact locks.ahead
  passed := by
    rw [closers, taken]
    exact locks.passed

/-- Noting how far a runtime has come keeps the locks. -/
theorem Locks.note (locks : Locks pool) (number : Nat) (change : TenantRuntime → TenantRuntime)
    (advances : ∀ runtime ∈ pool.taken, runtime.number = number →
      runtime.Advances (change runtime)) : Locks (pool.note number change) := by
  have forward : ∀ runtime ∈ pool.taken, ∃ after ∈ (pool.note number change).taken,
      runtime.Advances after := by
    intro runtime member
    by_cases here : runtime.number = number
    · exact ⟨change runtime, mem_updateWhere.mpr ⟨runtime, member, if_pos here⟩,
        advances runtime member here⟩
    · exact ⟨runtime, mem_updateWhere.mpr ⟨runtime, member, if_neg here⟩,
        ⟨rfl, rfl, rfl, id, id, fun _ released => .inl released⟩⟩
  have backward : ∀ after ∈ (pool.note number change).taken, ∃ runtime ∈ pool.taken,
      runtime.Advances after := by
    intro after member
    obtain ⟨runtime, there, rfl⟩ := mem_updateWhere.mp member
    by_cases here : runtime.number = number
    · simp only [here, if_true]
      exact ⟨runtime, there, advances runtime there here⟩
    · simp only [here, if_false]
      exact ⟨runtime, there, ⟨rfl, rfl, rfl, id, id, fun _ released => .inl released⟩⟩
  have numbers : (pool.note number change).taken.map TenantRuntime.number =
      pool.taken.map TenantRuntime.number := by
    simp only [TenantRuntimePool.note, updateWhere, List.map_map]
    refine List.map_congr_left fun runtime member => ?_
    by_cases here : runtime.number = number
    · simp only [Function.comp_apply, if_pos here]
      exact (advances runtime member here).number
    · simp only [Function.comp_apply, if_neg here]
  have length : (pool.note number change).taken.length = pool.taken.length := by
    simp [TenantRuntimePool.note]
  constructor
  case taken =>
    rw [Keyed, numbers]
    exact locks.taken
  case known =>
    intro after member
    obtain ⟨runtime, there, advance⟩ := backward after member
    rw [advance.number, length]
    exact locks.known runtime there
  case owned =>
    intro entry member
    obtain ⟨runtime, there, number, key, pooled⟩ := locks.owned entry member
    obtain ⟨after, here, advance⟩ := forward runtime there
    exact ⟨after, here, advance.number.trans number, advance.tenantKey.trans key,
      advance.pooled.trans pooled⟩
  case left =>
    intro after member pooled
    obtain ⟨runtime, there, advance⟩ := backward after member
    rcases locks.left runtime there (advance.pooled ▸ pooled) with closed | ⟨entry, stored, same⟩
    · exact .inl (advance.closed closed)
    · exact .inr ⟨entry, stored, same.trans advance.number.symm⟩
  case guarded =>
    intro after member pooled released
    obtain ⟨runtime, there, advance⟩ := backward after member
    rcases advance.guarded pooled released with before | host
    · exact advance.host (locks.guarded runtime there (advance.pooled ▸ pooled) before)
    · exact host
  case calls => exact locks.calls
  case called => exact locks.called
  case ahead =>
    intro closer member next listed
    rw [length]
    exact locks.ahead closer member next listed
  case passed =>
    intro closer member next rest remaining after listed same
    obtain ⟨runtime, there, advance⟩ := backward after listed
    obtain ⟨host, closed⟩ := locks.passed closer member next rest remaining runtime there
      (advance.number ▸ same)
    exact ⟨fun stage => advance.host (host stage), fun stage => advance.closed (closed stage)⟩

/-- An entry may be removed when its runtime has been closed. -/
theorem Locks.remove (locks : Locks pool) (tenantKey : String)
    (closed : ∀ entry ∈ pool.runtimes, entry.tenantKey = tenantKey → ∀ runtime ∈ pool.taken,
      runtime.number = entry.runtime → runtime.closed = true) : Locks (pool.remove tenantKey) where
  taken := locks.taken
  known := locks.known
  owned := fun entry member => locks.owned entry (List.mem_filter.mp member).1
  left := by
    intro runtime member pooled
    rcases locks.left runtime member pooled with done | ⟨entry, stored, same⟩
    · exact .inl done
    · by_cases here : entry.tenantKey = tenantKey
      · exact .inl (closed entry stored here runtime member same.symm)
      · exact .inr ⟨entry, List.mem_filter.mpr ⟨stored, by simpa using here⟩, same⟩
  guarded := locks.guarded
  calls := locks.calls
  called := locks.called
  ahead := locks.ahead
  passed := locks.passed

/-- A lock may be taken for a runtime that is not in the pool yet. -/
theorem Locks.take (locks : Locks pool) (tenantKey : String) :
    Locks (pool.take tenantKey) := by
  have more : pool.taken.length < (pool.take tenantKey).taken.length := by
    simp [TenantRuntimePool.take]
  constructor
  case taken =>
    refine locks.taken.append (.added _ fun stored there same => ?_)
    have below := locks.known stored there
    simp only at same
    omega
  case known =>
    intro runtime member
    rcases List.mem_append.mp member with old | new
    · exact Nat.lt_trans (locks.known runtime old) more
    · rw [List.mem_singleton.mp new]
      exact more
  case owned =>
    intro entry member
    obtain ⟨runtime, there, rest⟩ := locks.owned entry member
    exact ⟨runtime, List.mem_append_left _ there, rest⟩
  case left =>
    intro runtime member pooled
    rcases List.mem_append.mp member with old | new
    · exact locks.left runtime old pooled
    · rw [List.mem_singleton.mp new] at pooled
      cases pooled
  case guarded =>
    intro runtime member pooled
    rcases List.mem_append.mp member with old | new
    · exact locks.guarded runtime old pooled
    · rw [List.mem_singleton.mp new] at pooled
      cases pooled
  case calls => exact locks.calls
  case called => exact locks.called
  case ahead =>
    exact fun closer member next listed =>
      Nat.lt_trans (locks.ahead closer member next listed) more
  case passed =>
    intro closer member next rest remaining runtime listed same
    rcases List.mem_append.mp listed with old | new
    · exact locks.passed closer member next rest remaining runtime old same
    · -- The runtimes that are being closed were there before.
      have below := locks.ahead closer member next (remaining ▸ List.mem_cons_self)
      rw [List.mem_singleton.mp new] at same
      simp only at same
      omega

/-- A runtime whose lock is held may be put in the pool. -/
theorem Locks.put (locks : Locks pool) (tenantKey : String) (number : Nat)
    (there : ∃ runtime ∈ pool.taken, runtime.number = number ∧ runtime.tenantKey = tenantKey)
    (held : ∀ runtime ∈ pool.taken, runtime.number = number → runtime.released = false) :
    Locks (pool.put tenantKey number) := by
  have forward : ∀ runtime ∈ pool.taken, ∃ after ∈ (pool.put tenantKey number).taken,
      after.number = runtime.number ∧ after.tenantKey = runtime.tenantKey ∧
        (runtime.pooled = true ∨ runtime.number = number → after.pooled = true) := by
    intro runtime member
    refine ⟨_, mem_updateWhere.mpr ⟨runtime, member, rfl⟩, ?_⟩
    by_cases here : runtime.number = number
    · simp only [here, if_true]
      exact ⟨trivial, trivial, fun _ => trivial⟩
    · simp only [here, if_false, or_false]
      exact ⟨trivial, trivial, id⟩
  have backward : ∀ after ∈ (pool.put tenantKey number).taken, ∃ runtime ∈ pool.taken,
      after.number = runtime.number ∧ after.host = runtime.host ∧ after.closed = runtime.closed ∧
        after.released = runtime.released ∧
        (after.pooled = true → runtime.pooled = true ∨ runtime.number = number) := by
    intro after member
    obtain ⟨runtime, stored, rfl⟩ := mem_updateWhere.mp member
    refine ⟨runtime, stored, ?_⟩
    by_cases here : runtime.number = number
    · simp only [here, if_true]
      exact ⟨trivial, trivial, trivial, trivial, fun _ => .inr trivial⟩
    · simp only [here, if_false, or_false]
      exact ⟨trivial, trivial, trivial, trivial, id⟩
  have numbers : (pool.put tenantKey number).taken.map TenantRuntime.number =
      pool.taken.map TenantRuntime.number := updateWhere_column fun _ _ => rfl
  have length : (pool.put tenantKey number).taken.length = pool.taken.length := by
    simp [TenantRuntimePool.put, TenantRuntimePool.note]
  constructor
  case taken =>
    rw [Keyed, numbers]
    exact locks.taken
  case known =>
    intro after member
    obtain ⟨runtime, stored, same, -⟩ := backward after member
    rw [same, length]
    exact locks.known runtime stored
  case owned =>
    intro entry member
    rcases List.mem_append.mp member with old | new
    · obtain ⟨runtime, stored, same, key, pooled⟩ := locks.owned entry old
      obtain ⟨after, here, same', key', pooled'⟩ := forward runtime stored
      exact ⟨after, here, same'.trans same, key'.trans key, pooled' (.inl pooled)⟩
    · obtain ⟨runtime, stored, same, key⟩ := there
      obtain ⟨after, here, same', key', pooled'⟩ := forward runtime stored
      rw [List.mem_singleton.mp new]
      exact ⟨after, here, same'.trans same, key'.trans key, pooled' (.inr same)⟩
  case left =>
    intro after member pooled
    obtain ⟨runtime, stored, same, -, closed, -, pooled'⟩ := backward after member
    rcases pooled' pooled with before | new
    · rcases locks.left runtime stored before with done | ⟨entry, listed, number'⟩
      · exact .inl (closed.trans done)
      · exact .inr ⟨entry, List.mem_append_left _ listed, number'.trans same.symm⟩
    · exact .inr ⟨_, List.mem_append_right _ (List.mem_singleton_self _),
        (same.trans new).symm⟩
  case guarded =>
    intro after member pooled released
    obtain ⟨runtime, stored, -, host, -, released', pooled'⟩ := backward after member
    rcases pooled' pooled with before | new
    · exact host.trans (locks.guarded runtime stored before (released' ▸ released))
    · have unreleased := held runtime stored new
      rw [← released', released] at unreleased
      cases unreleased
  case calls => exact locks.calls
  case called => exact locks.called
  case ahead =>
    intro closer member next listed
    rw [length]
    exact locks.ahead closer member next listed
  case passed =>
    intro closer member next rest remaining after listed same
    obtain ⟨runtime, stored, number', host, closed, -⟩ := backward after listed
    rw [host, closed]
    exact locks.passed closer member next rest remaining runtime stored (number' ▸ same)

/-- A pool that begins to close has every entry ahead of it. -/
theorem Locks.beginClose (locks : Locks pool)
    (numbered : ∀ entry ∈ pool.runtimes, entry.runtime < pool.taken.length) :
    Locks (PublicRuntime.beginClose pool) := by
  unfold PublicRuntime.beginClose
  split
  · exact locks
  · have marked : Locks { pool with
        runtimes := pool.runtimes.map fun entry => { entry with closing := true } } :=
      locks.reshape (fun entry => { entry with closing := true }) (fun _ _ => ⟨rfl, rfl⟩) rfl rfl
        rfl
    constructor
    case taken => exact marked.taken
    case known => exact marked.known
    case owned => exact marked.owned
    case left => exact marked.left
    case guarded => exact marked.guarded
    case calls =>
      refine locks.calls.append (.added _ fun stored there same => ?_)
      have below := locks.called stored there
      simp only at same
      omega
    case called =>
      intro closer member
      simp only [List.length_append, List.length_singleton]
      rcases List.mem_append.mp member with old | new
      · exact Nat.lt_succ_of_lt (locks.called closer old)
      · rw [List.mem_singleton.mp new]
        exact Nat.lt_succ_self _
    case ahead =>
      intro closer member next listed
      rcases List.mem_append.mp member with old | new
      · exact locks.ahead closer old next listed
      · rw [List.mem_singleton.mp new] at listed
        obtain ⟨entry, stored, rfl⟩ := List.mem_map.mp listed
        exact numbered entry stored
    case passed =>
      intro closer member next rest remaining runtime listed same
      rcases List.mem_append.mp member with old | new
      · exact locks.passed closer old next rest remaining runtime listed same
      · rw [List.mem_singleton.mp new]
        exact ⟨fun moved => absurd rfl moved, fun moved => by cases moved⟩

/-- A call of `close` may go on to where its runtime has come. -/
theorem Locks.follow (locks : Locks pool) {closer : Closer} (member : closer ∈ pool.closers)
    (change : Closer → Closer) (same : (change closer).number = closer.number)
    (less : ∀ next ∈ (change closer).remaining, next ∈ closer.remaining)
    (passed : ∀ next rest, (change closer).remaining = next :: rest →
      ∀ runtime ∈ pool.taken, runtime.number = next.2 →
        ((change closer).stage ≠ .host → runtime.host = .closed) ∧
          ((change closer).stage = .removal → runtime.closed = true)) :
    Locks (pool.follow closer.number change) := by
  have replaces : Replaces Closer.number closer (change closer) pool.closers
      (pool.follow closer.number change).closers :=
    locks.calls.replaces member rfl (fun _ _ same => same) same
  have length := congrArg List.length (replaces.column replaces.named)
  simp only [List.length_map] at length
  constructor
  case taken => exact locks.taken
  case known => exact locks.known
  case owned => exact locks.owned
  case left => exact locks.left
  case guarded => exact locks.guarded
  case calls => exact replaces.keyed locks.calls
  case called =>
    intro other listed
    rw [length]
    rcases replaces.mem.mp listed with rfl | ⟨there, -⟩
    · rw [same]
      exact locks.called closer member
    · exact locks.called other there
  case ahead =>
    intro other listed next remains
    rcases replaces.mem.mp listed with rfl | ⟨there, -⟩
    · exact locks.ahead closer member next (less next remains)
    · exact locks.ahead other there next remains
  case passed =>
    intro other listed next rest remaining
    rcases replaces.mem.mp listed with rfl | ⟨there, -⟩
    · exact passed next rest remaining
    · exact locks.passed other there next rest remaining

/-- What was noted of a runtime is there. -/
theorem noted {number : Nat} {change : TenantRuntime → TenantRuntime} {after : TenantRuntime}
    (member : after ∈ (pool.note number change).taken) (named : after.number = number) :
    ∃ runtime ∈ pool.taken, runtime.number = number ∧ after = change runtime := by
  obtain ⟨runtime, stored, rfl⟩ := mem_updateWhere.mp member
  by_cases here : runtime.number = number
  · exact ⟨runtime, stored, here, if_pos here⟩
  · rw [if_neg here] at named
    exact absurd named here

/-- A step of a call of `close` keeps the locks. -/
theorem Locks.step (locks : Locks pool)
    (tenants : Keyed TenantEntry.tenantKey pool.runtimes)
    {closer : Closer} (member : closer ∈ pool.closers)
    {tenantKey : String} {runtime : Nat} {rest : List (String × Nat)}
    (remaining : closer.remaining = (tenantKey, runtime) :: rest) (answer : Answer) :
    Locks (closer.step tenantKey runtime answer pool) := by
  have passed := locks.passed closer member _ _ remaining
  -- A call that has failed at a runtime has done nothing to the next one.
  have failed : ∀ {pool : TenantRuntimePool}, Locks pool → closer ∈ pool.closers → ∀ error,
      Locks (pool.follow closer.number (.failed error)) := by
    intro pool locks member error
    refine locks.follow member _ rfl (fun next listed => List.mem_of_mem_tail listed) ?_
    exact fun _ _ _ _ _ _ => ⟨fun moved => absurd rfl moved, fun moved => by cases moved⟩
  unfold Closer.step
  cases stage : closer.stage with
  | host =>
    have called := locks.note runtime (fun runtime =>
      { runtime with closeCalls := runtime.closeCalls + 1 })
      fun _ _ _ => ⟨rfl, rfl, rfl, id, id, fun _ released => .inl released⟩
    cases answer with
    | error error => exact failed called member error
    | ok done =>
      have closed := called.note runtime (fun runtime => { runtime with host := .closed })
        fun _ _ _ => ⟨rfl, rfl, rfl, id, fun _ => rfl, fun _ _ => .inr rfl⟩
      refine closed.follow member _ rfl (fun _ listed => listed) ?_
      intro next others same after listed number
      rw [remaining] at same
      cases same
      obtain ⟨_, -, -, rfl⟩ := noted listed number
      exact ⟨fun _ => rfl, fun moved => by cases moved⟩
  | rlm =>
    cases answer with
    | error error => exact failed locks member error
    | ok done =>
      refine locks.follow member _ rfl (fun _ listed => listed) ?_
      intro next others same after listed number
      rw [remaining] at same
      cases same
      exact ⟨fun _ => (passed after listed number).1 (by simp [stage]), fun moved => by cases moved⟩
  | ownership =>
    -- The lock is released under a host that has been closed.
    have hosted : ∀ after ∈ pool.taken, after.number = runtime → after.host = .closed :=
      fun after listed number => (passed after listed number).1 (by simp [stage])
    have called := locks.note runtime (fun runtime => { runtime with released := true })
      fun before listed number =>
        ⟨rfl, rfl, rfl, id, id, fun _ _ => .inr (hosted before listed number)⟩
    cases answer with
    | error error => exact failed called member error
    | ok done =>
      have closed := called.note runtime (fun runtime => { runtime with closed := true })
        fun _ _ _ => ⟨rfl, rfl, rfl, fun _ => rfl, id, fun _ released => .inl released⟩
      refine closed.follow member _ rfl (fun _ listed => listed) ?_
      intro next others same after listed number
      rw [remaining] at same
      cases same
      obtain ⟨middle, inside, here, rfl⟩ := noted listed number
      obtain ⟨before, there, first, rfl⟩ := noted inside here
      exact ⟨fun _ => hosted before there first, fun _ => rfl⟩
  | removal =>
    have done : Locks (pool.follow closer.number fun closer =>
        { closer with remaining := closer.remaining.tail, stage := .host }) := by
      refine locks.follow member _ rfl (fun next listed => List.mem_of_mem_tail listed) ?_
      exact fun _ _ _ _ _ _ => ⟨fun moved => absurd rfl moved, fun moved => by cases moved⟩
    dsimp only
    split
    · next current =>
      -- The entry that is removed is the one of the runtime that was closed.
      obtain ⟨entry, found, same⟩ := (Option.any_eq_true _ _).mp current
      obtain ⟨stored, named⟩ := fetchOne_some found
      refine done.remove tenantKey fun other there key after listed number => ?_
      have one := tenants.unique there stored (key.trans named.symm)
      rw [one] at number
      exact (passed after listed (number.trans (of_decide_eq_true same))).2 stage
    · exact done

end Locks

section Acquire

/-- Two notes about one runtime are one. -/
theorem note_note {number : Nat} {first second : TenantRuntime → TenantRuntime}
    (kept : ∀ runtime, (first runtime).number = runtime.number) :
    (pool.note number first).note number second =
      pool.note number fun runtime => second (first runtime) := by
  have same : updateWhere (updateWhere pool.taken (fun runtime => runtime.number = number) first)
      (fun runtime => runtime.number = number) second =
        updateWhere pool.taken (fun runtime => runtime.number = number)
          fun runtime => second (first runtime) := by
    simp only [updateWhere, List.map_map]
    refine List.map_congr_left fun runtime _ => ?_
    by_cases here : runtime.number = number
    · simp only [Function.comp_apply, if_pos here, (kept runtime).trans here, if_true]
    · simp only [Function.comp_apply, if_neg here]
  simp only [TenantRuntimePool.note, same]

/-- A state in which one runtime has advanced, and nothing else has happened. -/
def Advanced (number : Nat) (pool after : TenantRuntimePool)
    (change : TenantRuntime → TenantRuntime) : Prop :=
  after = pool.note number change ∧ ∀ runtime : TenantRuntime, runtime.Advances (change runtime)

/-- Closing a runtime returns when all its closes do, and else raises what one of them does. -/
theorem closeRuntime_leads (number : Nat) (answers : CloseAnswers) :
    Leads (closeRuntime number answers) pool
      (fun _ after => answers.result = .ok () ∧ ∃ change, Advanced number pool after change ∧
        (∀ runtime, (change runtime).closeCalls = runtime.closeCalls + 1) ∧
          ∀ runtime, (change runtime).closed = true)
      (fun error after => answers.result = .error error ∧ ∃ change,
        Advanced number pool after change ∧
          ∀ runtime, (change runtime).closeCalls = runtime.closeCalls + 1) := by
  unfold closeRuntime closeOwnership
  refine .bind (.modify (.bind (.lift (fun _ hosted => ?_) fun error refused => ?_)))
  · refine .bind (.modify (.bind (.lift (fun _ coordinated => ?_) fun error refused => ?_)))
    · refine .bind (.bind (.modify (.lift (fun _ unlocked => .modify ?_) fun error refused => ?_)))
      · refine ⟨by simp [CloseAnswers.result, hosted, coordinated, unlocked], fun runtime =>
          { runtime with
            closeCalls := runtime.closeCalls + 1, host := .closed, released := true
            closed := true },
          ⟨?_, fun _ => ?_⟩, fun _ => rfl, fun _ => rfl⟩
        · simp only [note_note, implies_true]
        · exact ⟨rfl, rfl, rfl, fun _ => rfl, fun _ => rfl, fun _ _ => .inr rfl⟩
      · refine ⟨by simp [CloseAnswers.result, hosted, coordinated, refused, bind, Except.bind],
          fun runtime => { runtime with
            closeCalls := runtime.closeCalls + 1, host := .closed, released := true },
          ⟨?_, fun _ => ?_⟩, fun _ => rfl⟩
        · simp only [note_note, implies_true]
        · exact ⟨rfl, rfl, rfl, id, fun _ => rfl, fun _ _ => .inr rfl⟩
    · refine ⟨by simp [CloseAnswers.result, hosted, refused, bind, Except.bind],
        fun runtime => { runtime with closeCalls := runtime.closeCalls + 1, host := .closed },
        ⟨?_, fun _ => ?_⟩, fun _ => rfl⟩
      · simp only [note_note, implies_true]
      · exact ⟨rfl, rfl, rfl, id, fun _ => rfl, fun _ _ => .inr rfl⟩
  · refine ⟨by simp [CloseAnswers.result, refused, bind, Except.bind], _, ⟨rfl, fun _ => ?_⟩,
      fun _ => rfl⟩
    exact ⟨rfl, rfl, rfl, id, id, fun _ released => .inl released⟩

/-- A pool whose books and locks are in order. -/
structure Sound (maxActiveTenants : Nat) (pool : TenantRuntimePool) : Prop where
  books : Books maxActiveTenants pool
  locks : Locks pool

/-- No runtime with an outstanding lease has been closed once more. -/
def Spared (pool after : TenantRuntimePool) : Prop :=
  ∀ before ∈ pool.taken, ∀ later ∈ after.taken, later.number = before.number →
    later.closeCalls = before.closeCalls ∨ pool.outstanding before.number = 0

theorem Spared.same (locks : Locks pool) (taken : pool'.taken = pool.taken) :
    Spared pool pool' := by
  intro before stored later listed number
  rw [taken] at listed
  rw [locks.taken.unique listed stored number]
  exact .inl rfl

/-- A runtime without outstanding leases may be closed. -/
theorem Spared.note (locks : Locks pool) {number : Nat} {change : TenantRuntime → TenantRuntime}
    (kept : ∀ runtime, (change runtime).number = runtime.number)
    (taken : pool'.taken = (pool.note number change).taken) (free : pool.outstanding number = 0) :
    Spared pool pool' := by
  intro before stored later listed same
  rw [taken] at listed
  obtain ⟨runtime, there, rfl⟩ := mem_updateWhere.mp listed
  by_cases here : runtime.number = number
  · rw [if_pos here, kept] at same
    rw [← same, here]
    exact .inr free
  · rw [if_neg here] at same ⊢
    rw [locks.taken.unique there stored same]
    exact .inl rfl

instance : Std.Total TenantEntry.Before where
  total first second := by
    rcases Nat.lt_trichotomy first.lastUsed second.lastUsed with earlier | same | later
    · exact .inl (.inl earlier)
    · rcases String.le_total first.tenantKey second.tenantKey with below | above
      · exact .inl (.inr ⟨same, below⟩)
      · exact .inr (.inr ⟨same.symm, above⟩)
    · exact .inr (.inl later)

instance : IsTrans TenantEntry TenantEntry.Before where
  trans first second third before after := by
    rcases before with earlier | ⟨same, below⟩
    · rcases after with later | ⟨equal, -⟩
      · exact .inl (Nat.lt_trans earlier later)
      · exact .inl (equal ▸ earlier)
    · rcases after with later | ⟨equal, above⟩
      · exact .inl (same ▸ later)
      · exact .inr ⟨same.trans equal, String.le_trans below above⟩

/-- The least recently used entry is an idle one, and none of the idle ones comes before it. -/
theorem leastRecent_some {evicted : TenantEntry} (found : pool.leastRecent = some evicted) :
    (evicted ∈ pool.runtimes ∧ evicted.leases = 0) ∧
      ∀ other ∈ pool.runtimes, other.leases = 0 → evicted.Before other := by
  have perm := List.perm_insertionSort TenantEntry.Before
    (pool.runtimes.filter fun entry => entry.leases = 0)
  have listed := perm.mem_iff.mp (List.mem_of_mem_head? found)
  refine ⟨by simpa using List.mem_filter.mp listed, fun other stored idle => ?_⟩
  have sorted := List.pairwise_insertionSort TenantEntry.Before
    (pool.runtimes.filter fun entry => entry.leases = 0)
  have member : other ∈ (pool.runtimes.filter fun entry => entry.leases = 0).insertionSort
      TenantEntry.Before :=
    perm.mem_iff.mpr (List.mem_filter.mpr ⟨stored, by simpa using idle⟩)
  -- The first of a sorted list comes before every other one, and not after itself.
  unfold TenantRuntimePool.leastRecent at found
  generalize (pool.runtimes.filter fun entry => entry.leases = 0).insertionSort
    TenantEntry.Before = rows at *
  cases rows with
  | nil => cases member
  | cons first rest =>
    cases found
    rcases List.mem_cons.mp member with rfl | later
    · exact (Std.Total.total other other).elim id id
    · exact (List.pairwise_cons.mp sorted).1 other later

/-- Without a least recently used entry every entry is leased. -/
theorem leastRecent_none (absent : pool.leastRecent = none) :
    ∀ entry ∈ pool.runtimes, entry.leases ≠ 0 := by
  intro entry stored idle
  have listed : entry ∈ (pool.runtimes.filter fun entry => entry.leases = 0).insertionSort
      TenantEntry.Before :=
    (List.perm_insertionSort _ _).mem_iff.mpr (List.mem_filter.mpr ⟨stored, by simpa using idle⟩)
  rw [List.head?_eq_none_iff.mp absent] at listed
  cases listed

section Evict

variable {evicted : TenantEntry} {close : Nat → CloseAnswers}

/-- Nobody has a lease of an idle entry. -/
theorem Books.idle (books : Books maxActiveTenants pool) (stored : evicted ∈ pool.runtimes)
    (unleased : evicted.leases = 0) :
    pool.outstanding evicted.runtime = 0 ∧
      ∀ lease ∈ pool.leases, lease.exited = false → lease.tenantKey ≠ evicted.tenantKey := by
  have none : pool.outstanding evicted.runtime = 0 := by
    rw [← books.counted evicted stored]
    exact unleased
  refine ⟨none, fun lease member held same => ?_⟩
  have runtime := (books.current lease member held evicted stored).mp same.symm
  have absent := List.countP_eq_zero.mp none lease member
  simp [runtime, held] at absent

/-- An entry that is marked closing keeps the pool sound. -/
theorem Sound.mark (sound : Sound maxActiveTenants pool) (tenantKey : String) :
    Sound maxActiveTenants
      (pool.patch tenantKey fun entry => { entry with closing := true }) := by
  refine ⟨sound.books.patch _ _ fun _ => ⟨rfl, rfl, rfl⟩, ?_⟩
  refine sound.locks.reshape (fun entry =>
    if entry.tenantKey = tenantKey then { entry with closing := true } else entry) ?_ rfl rfl rfl
  intro entry _
  by_cases here : entry.tenantKey = tenantKey
  · simp only [here, if_true]
    exact ⟨trivial, trivial⟩
  · simp only [here, if_false]
    exact ⟨trivial, trivial⟩

theorem Sound.advance (sound : Sound maxActiveTenants pool) {number : Nat}
    {change : TenantRuntime → TenantRuntime} (advanced : Advanced number pool pool' change) :
    Sound maxActiveTenants pool' := by
  obtain ⟨rfl, advances⟩ := advanced
  exact ⟨sound.books.note _ _, sound.locks.note _ _ fun runtime _ _ => advances runtime⟩

/-- What is left after the entry of a tenant was marked and removed was there before. -/
theorem mem_of_remove {tenantKey : String} {change : TenantEntry → TenantEntry}
    (kept : ∀ entry, (change entry).tenantKey = entry.tenantKey) {entry : TenantEntry}
    (listed : entry ∈ ((pool.patch tenantKey change).remove tenantKey).runtimes) :
    entry ∈ pool.runtimes := by
  obtain ⟨there, apart⟩ := List.mem_filter.mp listed
  obtain ⟨old, before, rfl⟩ := mem_updateWhere.mp there
  by_cases here : old.tenantKey = tenantKey
  · rw [if_pos here, kept] at apart
    simp [here] at apart
  · rw [if_neg here]
    exact before

/-- Removing the entry of a tenant that has one leaves fewer. -/
theorem length_remove {change : TenantEntry → TenantEntry}
    (kept : ∀ entry, (change entry).tenantKey = entry.tenantKey)
    (stored : evicted ∈ pool.runtimes) :
    ((pool.patch evicted.tenantKey change).remove evicted.tenantKey).runtimes.length <
      pool.runtimes.length := by
  have same : pool.runtimes.length =
      (pool.patch evicted.tenantKey change).runtimes.length := updateWhere_length.symm
  rw [same]
  refine List.length_filter_lt_length_iff_exists.mpr ⟨change evicted, ?_, ?_⟩
  · exact mem_updateWhere.mpr ⟨evicted, stored, if_pos rfl⟩
  · simp [kept]

/-- Making room closes an idle runtime, and removes it when it has been closed. -/
theorem evictIdle_leads (sound : Sound maxActiveTenants pool) :
    Leads (evictIdle maxActiveTenants close) pool
      (fun _ after => Sound maxActiveTenants after ∧ Spared pool after ∧
        after.runtimes.length < maxActiveTenants ∧ after.closed = pool.closed ∧
        after.leases = pool.leases ∧
        (∀ before ∈ pool.taken, ∃ later ∈ after.taken, later.number = before.number) ∧
        ∀ entry ∈ after.runtimes, entry ∈ pool.runtimes)
      (fun _ after => Sound maxActiveTenants after ∧ Spared pool after) := by
  unfold evictIdle
  refine .bind (.get ?_)
  by_cases full : maxActiveTenants ≤ pool.runtimes.length
  · rw [if_pos full]
    cases found : pool.leastRecent with
    | none => exact .throw ⟨sound, .same sound.locks rfl⟩
    | some evicted =>
      obtain ⟨⟨stored, unleased⟩, -⟩ := leastRecent_some found
      obtain ⟨free, idle⟩ := sound.books.idle stored unleased
      have marked := sound.mark evicted.tenantKey
      have kept : ∀ entry : TenantEntry,
          ({ entry with closing := true } : TenantEntry).tenantKey = entry.tenantKey := fun _ => rfl
      refine .bind (.modify (.bind ((closeRuntime_leads _ _).mono ?_ ?_)))
      · intro _ after closed
        obtain ⟨-, change, advanced, -, done⟩ := closed
        have reached := marked.advance advanced
        obtain ⟨rfl, advances⟩ := advanced
        refine .modify ⟨⟨?_, ?_⟩, ?_, ?_, rfl, rfl, ?_, ?_⟩
        · exact reached.books.remove _ fun _ => idle
        · refine reached.locks.remove _ fun entry listed same runtime there number => ?_
          -- The entry that is removed is the one of the runtime that was closed.
          obtain ⟨old, before, rfl⟩ := mem_updateWhere.mp listed
          have marked : (if old.tenantKey = evicted.tenantKey then { old with closing := true }
              else old).runtime = old.runtime ∧
              (if old.tenantKey = evicted.tenantKey then { old with closing := true }
                else old).tenantKey = old.tenantKey := by
            split <;> exact ⟨rfl, rfl⟩
          rw [marked.2] at same
          rw [marked.1, sound.books.tenants.unique before stored same] at number
          obtain ⟨origin, -, -, rfl⟩ := noted there number
          exact done origin
        · exact .note sound.locks (fun runtime => (advances runtime).number) rfl free
        · exact Nat.lt_of_lt_of_le (length_remove kept stored) sound.books.capacity
        · intro before member
          refine ⟨_, mem_updateWhere.mpr ⟨before, member, rfl⟩, ?_⟩
          split
          · exact (advances before).number
          · rfl
        · exact fun entry listed => mem_of_remove kept listed
      · intro error after failed
        obtain ⟨-, change, advanced, -⟩ := failed
        refine ⟨marked.advance advanced, ?_⟩
        obtain ⟨rfl, advances⟩ := advanced
        exact .note sound.locks (fun runtime => (advances runtime).number) rfl free
  · rw [if_neg full]
    exact .pure ⟨sound, .same sound.locks rfl, Nat.lt_of_not_le full, rfl, rfl,
      fun before member => ⟨before, member, rfl⟩, fun _ listed => listed⟩

end Evict

section Open

variable {identity : PublicIdentity} {answers : AcquireAnswers} {tenantKey : String}

/-- The runtime of a lock that has just been taken. -/
def TenantRuntimePool.taking (pool : TenantRuntimePool) (tenantKey : String) : TenantRuntime :=
  ⟨pool.taken.length, tenantKey, .unopened, false, false, 0, false⟩

/-- What may become of a lock while its runtime is opened outside the pool. -/
def Opening (pool : TenantRuntimePool) (tenantKey : String) (after : TenantRuntimePool) : Prop :=
  ∃ change : TenantRuntime → TenantRuntime,
    after = (pool.take tenantKey).note pool.taken.length change ∧
      (∀ runtime, (change runtime).number = runtime.number ∧
        (change runtime).tenantKey = runtime.tenantKey ∧ (change runtime).pooled = runtime.pooled) ∧
      (change (pool.taking tenantKey)).closeCalls = 0

theorem Locks.last (locks : Locks pool) {runtime : TenantRuntime}
    (member : runtime ∈ (pool.take tenantKey).taken) (number : runtime.number = pool.taken.length) :
    runtime = pool.taking tenantKey := by
  rcases List.mem_append.mp member with old | new
  · have below := locks.known runtime old
    omega
  · exact List.mem_singleton.mp new

/-- Whatever happens to a runtime outside the pool, the pool stays sound. -/
theorem Opening.sound (sound : Sound maxActiveTenants pool) {after : TenantRuntimePool}
    (opening : Opening pool tenantKey after) : Sound maxActiveTenants after := by
  obtain ⟨change, rfl, kept, -⟩ := opening
  refine ⟨(sound.books.take tenantKey).note _ _, (sound.locks.take tenantKey).note _ _ ?_⟩
  intro runtime member number
  have new := sound.locks.last member number
  obtain ⟨number, key, pooled⟩ := kept runtime
  rw [new] at number key pooled ⊢
  exact ⟨number, key, pooled, nofun, nofun, fun now => by rw [pooled] at now; cases now⟩

/-- Opening a runtime closes none of the others. -/
theorem Opening.spared (locks : Locks pool) {after : TenantRuntimePool}
    (opening : Opening pool tenantKey after) {later : TenantRuntimePool}
    (taken : ∀ runtime ∈ later.taken, ∃ old ∈ after.taken, runtime.number = old.number ∧
      runtime.closeCalls = old.closeCalls) : Spared pool later := by
  obtain ⟨change, rfl, kept, -⟩ := opening
  intro before stored runtime listed same
  have below := locks.known before stored
  obtain ⟨old, there, number, calls⟩ := taken runtime listed
  rw [calls]
  rw [number] at same
  obtain ⟨origin, was, rfl⟩ := mem_updateWhere.mp there
  by_cases here : origin.number = pool.taken.length
  · rw [if_pos here, (kept origin).1] at same
    omega
  · rw [if_neg here] at same ⊢
    rcases List.mem_append.mp was with old | new
    · rw [locks.taken.unique old stored same]
      exact .inl rfl
    · rw [List.mem_singleton.mp new] at here
      exact absurd rfl here

theorem Opening.take : Opening pool tenantKey (pool.take tenantKey) := by
  refine ⟨id, ?_, fun _ => ⟨rfl, rfl, rfl⟩, rfl⟩
  simp [TenantRuntimePool.note, updateWhere]

/-- A note on the runtime that is being opened. -/
theorem Opening.note {after : TenantRuntimePool} (opening : Opening pool tenantKey after)
    (second : TenantRuntime → TenantRuntime)
    (same : ∀ runtime, (second runtime).number = runtime.number ∧
      (second runtime).tenantKey = runtime.tenantKey ∧ (second runtime).pooled = runtime.pooled ∧
        (second runtime).closeCalls = runtime.closeCalls) :
    Opening pool tenantKey (after.note pool.taken.length second) := by
  obtain ⟨change, rfl, kept, calls⟩ := opening
  rw [note_note fun runtime => (kept runtime).1]
  refine ⟨_, rfl, fun runtime => ?_, ?_⟩
  · obtain ⟨number, key, pooled⟩ := kept runtime
    obtain ⟨number', key', pooled', -⟩ := same (change runtime)
    exact ⟨number'.trans number, key'.trans key, pooled'.trans pooled⟩
  · exact (same _).2.2.2.trans calls

/-- Letting go of a lock while its runtime is opened. -/
theorem closeOwnership_leads {after : TenantRuntimePool} (opening : Opening pool tenantKey after)
    {answer : Answer} {failure : PoolError} :
    Leads (do closeOwnership pool.taken.length answer; throw failure : Program Nat) after
      (fun _ _ => False) (fun _ final => Opening pool tenantKey final) := by
  have released := opening.note (fun runtime => { runtime with released := true })
    fun _ => ⟨rfl, rfl, rfl, rfl⟩
  unfold closeOwnership
  exact .bind (.bind (.modify (.lift (fun _ _ => .throw released) fun _ _ => released)))

/-- Opening a runtime puts it in the pool, leased once, or leaves the entries as they are. -/
theorem openRuntime_leads (sound : Sound maxActiveTenants pool)
    (room : pool.runtimes.length < maxActiveTenants)
    (absent : ∀ entry ∈ pool.runtimes, entry.tenantKey ≠ identity.tenantKey)
    (isOpen : pool.closed = false) :
    Leads (openRuntime identity answers) pool
      (fun _ after => Sound maxActiveTenants after ∧ Spared pool after)
      (fun _ after => Sound maxActiveTenants after ∧ Spared pool after) := by
  have failed : ∀ after, Opening pool identity.tenantKey after →
      Sound maxActiveTenants after ∧ Spared pool after := fun after opening =>
    ⟨opening.sound sound, opening.spared sound.locks fun runtime listed =>
      ⟨runtime, listed, rfl, rfl⟩⟩
  have untouched : Sound maxActiveTenants pool ∧ Spared pool pool := ⟨sound, .same sound.locks rfl⟩
  have gone {after : TenantRuntimePool} (opening : Opening pool identity.tenantKey after)
      (answer : Answer) (failure : PoolError) :
      Leads (do closeOwnership pool.taken.length answer; throw failure : Program Nat) after
        (fun _ after => Sound maxActiveTenants after ∧ Spared pool after)
        (fun _ after => Sound maxActiveTenants after ∧ Spared pool after) :=
    (closeOwnership_leads opening).mono (fun _ _ never => never.elim) fun _ after => failed after
  unfold openRuntime
  refine .bind (.lift (fun _ _ => ?_) fun _ _ => untouched)
  refine .bind (.lift (fun _ _ => ?_) fun _ _ => untouched)
  refine .bind (.get (.bind (.modify ?_)))
  have taken : Opening pool identity.tenantKey (pool.take identity.tenantKey) := .take
  cases answers.host with
  | error error => exact gone taken _ error
  | ok hosted =>
    have opened := taken.note (fun runtime => { runtime with host := .opened })
      fun _ => ⟨rfl, rfl, rfl, rfl⟩
    refine .bind (.modify (.bind (.demand (fun _ => ?_) fun _ => failed _ opened)))
    cases answers.rlm with
    | error error =>
      cases answers.hostAfterRlm with
      | error closing => exact gone opened _ closing
      | ok closed =>
        have ended := opened.note (fun runtime => { runtime with host := .closed })
          fun _ => ⟨rfl, rfl, rfl, rfl⟩
        exact .bind (.modify (gone ended _ error))
    | ok coordinated =>
      refine .bind (.demand (fun _ => ?_) fun _ => failed _ opened)
      obtain ⟨⟨books, locks⟩, -⟩ := failed _ opened
      have number : pool.taken.length <
          ((pool.take identity.tenantKey).note pool.taken.length fun runtime =>
            { runtime with host := .opened }).taken.length := by
        simp [TenantRuntimePool.note, TenantRuntimePool.take]
      refine .bind (.get (.bind (.modify (.pure ⟨⟨?_, ?_⟩, ?_⟩))))
      · refine books.put room absent isOpen number ⟨fun entry listed => ?_, fun lease listed => ?_⟩
        · exact Nat.ne_of_lt (sound.books.numbered entry listed)
        · exact Nat.ne_of_lt (sound.books.leased lease listed)
      · have put := locks.put identity.tenantKey pool.taken.length ?_ ?_
        · exact put.reshape id (fun _ _ => ⟨rfl, rfl⟩) (List.map_id _).symm rfl rfl
        · have new : pool.taking identity.tenantKey ∈ (pool.take identity.tenantKey).taken :=
            List.mem_append_right _ (List.mem_singleton_self _)
          exact ⟨_, mem_updateWhere.mpr ⟨_, new, if_pos rfl⟩, rfl, rfl⟩
        · intro runtime listed same
          obtain ⟨origin, there, named, rfl⟩ := noted listed same
          rw [sound.locks.last there named]
          rfl
      · refine opened.spared sound.locks fun runtime listed => ?_
        obtain ⟨old, there, rfl⟩ := mem_updateWhere.mp listed
        refine ⟨old, there, ?_⟩
        split <;> exact ⟨rfl, rfl⟩

/-- An acquire keeps the pool sound, and closes no runtime with an outstanding lease. -/
theorem acquire_leads (sound : Sound maxActiveTenants pool) :
    Leads (acquire maxActiveTenants identity answers) pool
      (fun _ after => Sound maxActiveTenants after ∧ Spared pool after)
      (fun _ after => Sound maxActiveTenants after ∧ Spared pool after) := by
  have untouched : Sound maxActiveTenants pool ∧ Spared pool pool := ⟨sound, .same sound.locks rfl⟩
  unfold acquire
  refine .bind (.demand (fun _ => ?_) fun _ => untouched)
  refine .bind (.get (.bind (.demand (fun isOpen => ?_) fun _ => untouched)))
  cases found : pool.entry identity.tenantKey with
  | some existing =>
    obtain ⟨stored, named⟩ := fetchOne_some found
    refine .bind (.demand (fun _ => ?_) fun _ => untouched)
    refine .bind (.set (.pure ⟨⟨sound.books.lease stored named, ?_⟩, .same sound.locks rfl⟩))
    refine sound.locks.reshape (fun entry => if entry.tenantKey = identity.tenantKey then
      { entry with leases := entry.leases + 1, lastUsed := pool.useCounter + 1 } else entry)
      ?_ rfl rfl rfl
    intro entry _
    split <;> exact ⟨rfl, rfl⟩
  | none =>
    have absent : ∀ entry ∈ pool.runtimes, entry.tenantKey ≠ identity.tenantKey :=
      fetchOne_none.mp found
    refine .bind ((evictIdle_leads sound).mono ?_ fun _ _ ends => ends)
    intro _ middle ends
    obtain ⟨sound', spared, room, closed, leases, numbers, inside⟩ := ends
    -- What the second part closes is not leased before it, nor before the first part.
    have both : ∀ after, Sound maxActiveTenants after ∧ Spared middle after →
        Sound maxActiveTenants after ∧ Spared pool after := by
      intro after ends
      refine ⟨ends.1, fun before stored later listed same => ?_⟩
      obtain ⟨between, there, number⟩ := numbers before stored
      rcases spared before stored between there number with first | free
      · rcases ends.2 between there later listed (same.trans number.symm) with second | free
        · exact .inl (second.trans first)
        · right
          rw [number] at free
          simpa only [TenantRuntimePool.outstanding, leases] using free
      · exact .inr free
    exact (openRuntime_leads sound' room (fun entry listed => absent entry (inside entry listed))
      (closed.trans isOpen)).mono (fun _ after => both after) fun _ after => both after

end Open

section Full

variable {identity : PublicIdentity} {answers : AcquireAnswers} {evicted : TenantEntry}

/-- One runtime has been closed once more, and nothing has happened to the other ones. -/
def ClosedOnce (number : Nat) (pool after : TenantRuntimePool) : Prop :=
  ∀ runtime ∈ pool.taken, ∃ later ∈ after.taken, later.number = runtime.number ∧
    if runtime.number = number then later.closeCalls = runtime.closeCalls + 1 else later = runtime

/-- A note that counts a close tells of one close. -/
theorem Advanced.closedOnce {number : Nat} {change : TenantRuntime → TenantRuntime}
    (advanced : Advanced number pool pool' change)
    (counts : ∀ runtime, (change runtime).closeCalls = runtime.closeCalls + 1) :
    ClosedOnce number pool pool' := by
  obtain ⟨rfl, advances⟩ := advanced
  intro runtime stored
  refine ⟨_, mem_updateWhere.mpr ⟨runtime, stored, rfl⟩, ?_⟩
  split
  · exact ⟨(advances runtime).number, counts runtime⟩
  · exact ⟨rfl, rfl⟩

/-- Making room closes the least recently used idle runtime, and no other one. -/
theorem evictIdle_full (books : Books maxActiveTenants pool)
    (full : maxActiveTenants ≤ pool.runtimes.length) (found : pool.leastRecent = some evicted)
    (close : Nat → CloseAnswers) :
    Leads (evictIdle maxActiveTenants close) pool
      (fun _ after => (close evicted.runtime).result = .ok () ∧
        ClosedOnce evicted.runtime pool after ∧ after.entry evicted.tenantKey = none)
      (fun error after => (close evicted.runtime).result = .error error ∧
        ClosedOnce evicted.runtime pool after ∧
          after.entry evicted.tenantKey = some { evicted with closing := true }) := by
  obtain ⟨⟨stored, -⟩, -⟩ := leastRecent_some found
  unfold evictIdle
  refine .bind (.get ?_)
  rw [if_pos full, found]
  refine .bind (.modify (.bind ((closeRuntime_leads _ _).mono ?_ ?_)))
  · intro _ _ closed
    obtain ⟨result, change, advanced, counts, -⟩ := closed
    refine .modify ⟨result, advanced.closedOnce counts, ?_⟩
    exact fetchOne_none.mpr fun entry listed => of_decide_eq_true (List.mem_filter.mp listed).2
  · intro error after failed
    obtain ⟨result, change, advanced, counts⟩ := failed
    refine ⟨result, advanced.closedOnce counts, ?_⟩
    obtain ⟨rfl, -⟩ := advanced
    -- The entry is still there, and is marked closing.
    have replaces := books.toEntries.mark stored
    exact (replaces.keyed books.tenants).fetch (replaces.mem.mpr (.inl rfl))

/-- How an acquire goes that needs room in a full pool: nobody can make room when every runtime is
leased, and else only the least recently used idle runtime is closed, once, to make it. -/
def EvictsLeastRecent (maxActiveTenants : Nat) (pool : TenantRuntimePool)
    (identity : PublicIdentity) (answers : AcquireAnswers) : Prop :=
  match pool.leastRecent with
  | none => (∀ entry ∈ pool.runtimes, entry.leases ≠ 0) ∧
      answer (acquire maxActiveTenants identity answers) pool =
        .error (.tenantCapacityExceeded "all bounded tenant runtimes are leased")
  | some evicted => (evicted ∈ pool.runtimes ∧ evicted.leases = 0) ∧
      (∀ other ∈ pool.runtimes, other.leases = 0 → evicted.Before other) ∧
      match (answers.close evicted.runtime).result with
      | .ok () =>
        let room := final (evictIdle maxActiveTenants answers.close) pool
        answer (acquire maxActiveTenants identity answers) pool =
            answer (openRuntime identity answers) room ∧
          ClosedOnce evicted.runtime pool room ∧ room.entry evicted.tenantKey = none
      | .error error =>
        let after := final (acquire maxActiveTenants identity answers) pool
        answer (acquire maxActiveTenants identity answers) pool = .error error ∧
          ClosedOnce evicted.runtime pool after ∧
          after.entry evicted.tenantKey = some { evicted with closing := true }

/-- An acquire of a new tenant in a full pool evicts the least recently used idle runtime. -/
theorem acquire_evicts (books : Books maxActiveTenants pool)
    (valid : IsTenantKey identity.tenantKey)
    (isOpen : pool.closed = false) (absent : pool.entry identity.tenantKey = none)
    (full : maxActiveTenants ≤ pool.runtimes.length) :
    EvictsLeastRecent maxActiveTenants pool identity answers := by
  have goesOn : acquire maxActiveTenants identity answers pool =
      (do evictIdle maxActiveTenants answers.close; openRuntime identity answers : Program Nat)
        pool := by
    unfold acquire
    rw [demand_bind valid, get_bind, demand_bind isOpen, absent]
  have answered : answer (acquire maxActiveTenants identity answers) pool =
      answer (do evictIdle maxActiveTenants answers.close; openRuntime identity answers) pool := by
    simp only [answer, goesOn]
  have ended : final (acquire maxActiveTenants identity answers) pool =
      final (do evictIdle maxActiveTenants answers.close; openRuntime identity answers) pool := by
    simp only [final, goesOn]
  unfold EvictsLeastRecent
  rw [answered, ended]
  cases found : pool.leastRecent with
  | none =>
    have leads : Leads (evictIdle maxActiveTenants answers.close) pool (fun _ _ => False)
        (fun error _ => error =
          .tenantCapacityExceeded "all bounded tenant runtimes are leased") := by
      unfold evictIdle
      refine .bind (.get ?_)
      rw [if_pos full, found]
      exact .throw rfl
    rcases leads.cases with ⟨_, -, never⟩ | ⟨error, raised, rfl⟩
    · exact never.elim
    · exact ⟨leastRecent_none found, (raise_bind raised).1⟩
  | some evicted =>
    obtain ⟨here, least⟩ := leastRecent_some found
    refine ⟨here, least, ?_⟩
    rcases (evictIdle_full books full found answers.close).cases with
      ⟨_, returned, result, room⟩ | ⟨error, raised, result, marked⟩
    · rw [result]
      exact ⟨answer_bind returned, room⟩
    · rw [result]
      refine ⟨(raise_bind raised).1, ?_⟩
      rw [(raise_bind raised).2]
      exact marked

end Full

end Acquire

section Runs

/-- A lease is not exited by two calls that read its flag before either has set it. -/
def ExitsApart (step : PoolStep) (pool : TenantRuntimePool) : Prop :=
  match step with
  | .beginExit lease => ⟨lease, .checked⟩ ∉ pool.exits
  | _ => True

instance (step : PoolStep) (pool : TenantRuntimePool) : Decidable (ExitsApart step pool) := by
  unfold ExitsApart
  split <;> infer_instance

/-- Releasing for a tenant uses its entry, or does nothing. -/
theorem Locks.release (locks : Locks pool) (tenantKey : String) :
    Locks (final (PublicRuntime.release tenantKey) pool) := by
  have leads : Leads (PublicRuntime.release tenantKey) pool (fun _ after => Locks after)
      (fun _ after => Locks after) := by
    unfold PublicRuntime.release
    refine .bind (.get ?_)
    cases pool.entry tenantKey with
    | none => exact .pure locks
    | some entry =>
      refine .bind (.demand (fun _ => .set ?_) fun _ => locks)
      refine locks.reshape (fun entry => if entry.tenantKey = tenantKey then
        { entry with leases := entry.leases - 1, lastUsed := pool.useCounter + 1 } else entry)
        ?_ rfl rfl rfl
      intro entry _
      split <;> exact ⟨rfl, rfl⟩
  rcases leads.cases with ⟨_, -, ends⟩ | ⟨_, -, ends⟩
  · exact ends
  · exact ends

theorem Locks.leave (locks : Locks pool) (runtimes : pool'.runtimes = pool.runtimes)
    (taken : pool'.taken = pool.taken) (closers : pool'.closers = pool.closers) : Locks pool' :=
  locks.reshape id (fun _ _ => ⟨rfl, rfl⟩) (by rw [runtimes, List.map_id]) taken closers

theorem Locks.beginExit (locks : Locks pool) (lease : Nat) :
    Locks (PublicRuntime.beginExit lease pool) := by
  unfold PublicRuntime.beginExit
  split
  · split
    · exact locks
    · exact locks.leave rfl rfl rfl
  · exact locks

theorem Locks.markExit (locks : Locks pool) (lease : Nat) :
    Locks (PublicRuntime.markExit lease pool) := by
  unfold PublicRuntime.markExit
  split
  · exact locks.leave rfl rfl rfl
  · exact locks

theorem Locks.endExit (locks : Locks pool) (lease : Nat) :
    Locks (PublicRuntime.endExit lease pool) := by
  unfold PublicRuntime.endExit
  split
  · split
    · exact (locks.release _).leave rfl rfl rfl
    · exact locks
  · exact locks

/-- A step of a call of `close` that is at some runtime keeps the locks. -/
theorem Locks.drain (locks : Locks pool) (tenants : Keyed TenantEntry.tenantKey pool.runtimes)
    (number : Nat) (answer : Answer) : Locks (PublicRuntime.drain number answer pool) := by
  unfold PublicRuntime.drain
  split
  · exact locks
  · next closer found =>
    split
    · exact locks
    · next remaining => exact locks.step tenants (fetchOne_some found).1 remaining answer

/-- Every step keeps the pool sound. -/
theorem Sound.step {step : PoolStep} (sound : Sound maxActiveTenants pool)
    (apart : ExitsApart step pool) : Sound maxActiveTenants (step.run maxActiveTenants pool) := by
  cases step with
  | acquire identity answers =>
    have leads : Leads (acquire maxActiveTenants identity answers) pool _ _ := acquire_leads sound
    rcases leads.cases with ⟨_, -, ends⟩ | ⟨_, -, ends⟩
    · exact ends.1
    · exact ends.1
  | beginExit lease =>
    exact ⟨sound.books.beginExit apart, sound.locks.beginExit lease⟩
  | markExit lease => exact ⟨sound.books.markExit, sound.locks.markExit lease⟩
  | endExit lease => exact ⟨sound.books.endExit, sound.locks.endExit lease⟩
  | beginClose => exact ⟨sound.books.beginClose, sound.locks.beginClose sound.books.numbered⟩
  | drain closer answer =>
    exact ⟨sound.books.drain answer, sound.locks.drain sound.books.tenants closer answer⟩

/--
The pool of tenant runtimes keeps ownership exact.

In every run in which the exits of one lease do not overlap, whatever fails: there are at most as
many runtimes as allowed and one for each tenant; an entry counts its leases that have not been
exited; an acquire closes no runtime that is leased; a runtime leaves the pool only when its close
returned; the lock of a runtime that came into the pool is released only when its host was closed;
and an acquire that needs room closes only the least recently used idle runtime, which stays when
its close fails.
-/
theorem pool_ownership_exact {steps : List PoolStep}
    (apart : Runs.Allowed (PoolStep.run maxActiveTenants) ExitsApart steps newPool) :
    let pool := Runs.run (PoolStep.run maxActiveTenants) steps newPool
    pool.runtimes.length ≤ maxActiveTenants ∧
    Keyed TenantEntry.tenantKey pool.runtimes ∧
    (∀ entry ∈ pool.runtimes, entry.leases = pool.outstanding entry.runtime ∧
      ∃ runtime ∈ pool.taken, runtime.number = entry.runtime ∧
        runtime.tenantKey = entry.tenantKey) ∧
    (∀ identity answers,
      Spared pool (PoolStep.run maxActiveTenants (.acquire identity answers) pool)) ∧
    (∀ runtime ∈ pool.taken, runtime.pooled = true →
      (∀ entry ∈ pool.runtimes, entry.runtime ≠ runtime.number) → runtime.closed = true) ∧
    (∀ runtime ∈ pool.taken, runtime.pooled = true → runtime.released = true →
      runtime.host = .closed) ∧
    ∀ identity answers, IsTenantKey identity.tenantKey → pool.closed = false →
      pool.entry identity.tenantKey = none → maxActiveTenants ≤ pool.runtimes.length →
        EvictsLeastRecent maxActiveTenants pool identity answers := by
  intro pool
  have sound : Sound maxActiveTenants pool :=
    apart.invariant (fun _ _ apart sound => sound.step apart) ⟨.new, .new⟩
  refine ⟨sound.books.capacity, sound.books.tenants, fun entry stored => ?_, ?_, ?_, ?_, ?_⟩
  · obtain ⟨runtime, there, number, key, -⟩ := sound.locks.owned entry stored
    exact ⟨sound.books.counted entry stored, runtime, there, number, key⟩
  · intro identity answers
    have leads : Leads (acquire maxActiveTenants identity answers) pool _ _ := acquire_leads sound
    rcases leads.cases with ⟨_, -, ends⟩ | ⟨_, -, ends⟩
    · exact ends.2
    · exact ends.2
  · intro runtime stored pooled gone
    rcases sound.locks.left runtime stored pooled with closed | ⟨entry, listed, same⟩
    · exact closed
    · exact absurd same (gone entry listed)
  · exact sound.locks.guarded
  · exact fun identity answers valid isOpen absent full =>
      acquire_evicts sound.books valid isOpen absent full

end Runs

section Sample

/-- A tenant whose key is one hexadecimal digit over and over. -/
def Sample.tenant (digit : Char) : PublicIdentity :=
  ⟨String.ofList (List.replicate 32 digit), "principal", "session"⟩

/-- Everything returns. -/
def Sample.answers : AcquireAnswers where
  close _ := ⟨.ok (), .ok (), .ok ()⟩
  directory := .ok ()
  ownership := .ok ()
  host := .ok ()
  ownershipAfterHost := .ok ()
  rlm := .ok ()
  hostAfterRlm := .ok ()
  ownershipAfterRlm := .ok ()

/-- Everything returns, but the host of the first runtime cannot be closed. -/
def Sample.stuck : AcquireAnswers :=
  { Sample.answers with
    close := fun runtime =>
      ⟨if runtime = 0 then .error (.raised "host") else .ok (), .ok (), .ok ()⟩ }

/-- Neither the coordinator can be opened nor the host be closed again. -/
def Sample.leaking : AcquireAnswers :=
  { Sample.answers with rlm := .error (.raised "rlm"), hostAfterRlm := .error (.raised "host") }

/-- The exit of a lease, from its beginning to its end. -/
def Sample.exit (lease : Nat) : List PoolStep :=
  [.beginExit lease, .markExit lease, .endExit lease]

/-- Two tenants have been served one after the other. -/
def Sample.served : List PoolStep :=
  .acquire (Sample.tenant 'a') Sample.answers :: Sample.exit 0 ++
    .acquire (Sample.tenant 'b') Sample.answers :: Sample.exit 1

/-- A tenant has two leases, and one of them is exited by two calls at once. -/
def Sample.raced : List PoolStep :=
  [.acquire (Sample.tenant 'a') Sample.answers, .acquire (Sample.tenant 'a') Sample.answers,
    .beginExit 0, .beginExit 0, .markExit 0, .markExit 0, .endExit 0, .endExit 0]

/-- A pool for two tenants serves two of them, and a third one after a failed close. -/
theorem pool_ownership_exact_sample :
    let pool := Runs.run (PoolStep.run 2)
      (Sample.served ++ [.acquire (Sample.tenant 'c') Sample.stuck]) newPool
    pool.runtimes.length ≤ 2 ∧ Keyed TenantEntry.tenantKey pool.runtimes ∧
      EvictsLeastRecent 2 pool (Sample.tenant 'c') Sample.answers := by
  have apart : Runs.Allowed (PoolStep.run 2) ExitsApart
      (Sample.served ++ [.acquire (Sample.tenant 'c') Sample.stuck]) newPool := by
    decide +kernel
  obtain ⟨capacity, tenants, -, -, -, -, evicts⟩ := pool_ownership_exact apart
  refine ⟨capacity, tenants, evicts (Sample.tenant 'c') Sample.answers ?_ ?_ ?_ ?_⟩
  · decide +kernel
  · decide +kernel
  · decide +kernel
  · decide +kernel

/-- A third tenant is refused because one idle runtime cannot be closed while another one could be;
a lock is released while the host under it is open; and two exits of one lease take two off. -/
theorem pool_ownership_exact_not :
    (let pool := Runs.run (PoolStep.run 2) Sample.served newPool;
      (∃ entry ∈ pool.runtimes, entry.leases = 0 ∧
        (Sample.stuck.close entry.runtime).result = .ok ()) ∧
      answer (acquire 2 (Sample.tenant 'c') Sample.stuck) pool = .error (.raised "host")) ∧
    (∃ runtime ∈ (Runs.run (PoolStep.run 2)
        [.acquire (Sample.tenant 'a') Sample.leaking] newPool).taken,
      runtime.released = true ∧ runtime.host = .opened) ∧
    (let pool := Runs.run (PoolStep.run 2) Sample.raced newPool;
      ∃ entry ∈ pool.runtimes, entry.leases ≠ pool.outstanding entry.runtime) := by
  decide +kernel

end Sample

end Aar.PublicRuntime
