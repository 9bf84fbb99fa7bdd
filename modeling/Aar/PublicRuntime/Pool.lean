import Aar.Lib.Stateful
import Aar.Lib.Table
import Aar.Schema.Documents
import Mathlib.Data.List.Sort

/-! The bounded pool of tenant runtimes behind the public server, with its leases. -/

namespace Aar.PublicRuntime

open Guarded Stateful Table

/-- The exceptions of the pool, and those of what it opens and closes. -/
inductive PoolError where
  | valueError (message : String)
  | runtimeError (message : String)
  | tenantCapacityExceeded (message : String)
  | raised (message : String)
  deriving DecidableEq

/-- Whether a call on a host, a coordinator, a lock or a directory returns, or what it raises. -/
abbrev Answer := Except PoolError Unit

section State

/-- How far the host of a runtime has come. -/
inductive HostStage where
  | unopened
  | opened
  | closed
  deriving DecidableEq

/-- One ownership lock that was taken, and what has happened to the runtime under it.

A lock is released when its close has been called; a runtime is closed when its close returned. -/
structure TenantRuntime where
  number : Nat
  tenantKey : String
  host : HostStage
  released : Bool
  pooled : Bool
  closeCalls : Nat
  closed : Bool
  deriving DecidableEq

/-- A pool entry: the runtime of a tenant. -/
structure TenantEntry where
  tenantKey : String
  runtime : Nat
  leases : Nat
  lastUsed : Nat
  closing : Bool
  deriving DecidableEq

/-- A lease that was handed out; it has been exited when its `__exit__` has ended. -/
structure TenantRuntimeLease where
  number : Nat
  tenantKey : String
  runtime : Nat
  released : Bool
  exited : Bool
  deriving DecidableEq

/-- What a call of `__exit__` has done: it saw the lease unreleased, or has marked it released. -/
inductive ExitStage where
  | checked
  | marked
  deriving DecidableEq

/-- A call of `__exit__` that is under way. -/
structure LeaseExit where
  lease : Nat
  stage : ExitStage
  deriving DecidableEq

/-- What a call of `TenantRuntimePool.close` does next to the runtime it is at. -/
inductive CloseStage where
  | host
  | rlm
  | ownership
  | removal
  deriving DecidableEq

/-- A call of `TenantRuntimePool.close`: the runtimes that are left, and its first error. -/
structure Closer where
  number : Nat
  remaining : List (String × Nat)
  stage : CloseStage
  firstError : Option PoolError
  deriving DecidableEq

/-- The pool, every lock taken and every lease handed out, and the calls that are under way. -/
structure TenantRuntimePool where
  runtimes : List TenantEntry
  useCounter : Nat
  closed : Bool
  taken : List TenantRuntime
  leases : List TenantRuntimeLease
  exits : List LeaseExit
  closers : List Closer
  deriving DecidableEq

/-- A new pool. -/
def newPool : TenantRuntimePool := ⟨[], 0, false, [], [], [], []⟩

/-- Part of a method of the pool. -/
abbrev Program := EStateM PoolError TenantRuntimePool

/-- Note what happened to one runtime. -/
def TenantRuntimePool.note (pool : TenantRuntimePool) (number : Nat)
    (change : TenantRuntime → TenantRuntime) : TenantRuntimePool :=
  { pool with taken := updateWhere pool.taken (fun runtime => runtime.number = number) change }

/-- Change the entry of one tenant. -/
def TenantRuntimePool.patch (pool : TenantRuntimePool) (tenantKey : String)
    (change : TenantEntry → TenantEntry) : TenantRuntimePool :=
  { pool with
    runtimes := updateWhere pool.runtimes (fun entry => entry.tenantKey = tenantKey) change }

/-- The entry of a tenant. -/
def TenantRuntimePool.entry (pool : TenantRuntimePool) (tenantKey : String) : Option TenantEntry :=
  fetchOne pool.runtimes fun entry => entry.tenantKey = tenantKey

/-- Delete the entry of a tenant. -/
def TenantRuntimePool.remove (pool : TenantRuntimePool) (tenantKey : String) : TenantRuntimePool :=
  { pool with runtimes := pool.runtimes.filter fun entry => entry.tenantKey ≠ tenantKey }

/-- How many leases of a runtime were handed out and have not been exited. -/
def TenantRuntimePool.outstanding (pool : TenantRuntimePool) (runtime : Nat) : Nat :=
  pool.leases.countP fun lease => lease.runtime = runtime ∧ lease.exited = false

end State

section Closing

/-- The answers to the three closes of a runtime. -/
structure CloseAnswers where
  host : Answer
  rlm : Answer
  ownership : Answer

/-- Whether all three closes would return. -/
def CloseAnswers.result (answers : CloseAnswers) : Answer := do
  answers.host
  answers.rlm
  answers.ownership

/-- `RuntimeOwnershipLock.close`, which may raise when it has let go of the lock. -/
def closeOwnership (number : Nat) (answer : Answer) : Program Unit := do
  modify fun pool => pool.note number fun runtime => { runtime with released := true }
  liftM answer

/-- `TenantRuntime.close`. -/
def closeRuntime (number : Nat) (answers : CloseAnswers) : Program Unit := do
  modify fun pool => pool.note number fun runtime =>
    { runtime with closeCalls := runtime.closeCalls + 1 }
  liftM answers.host
  modify fun pool => pool.note number fun runtime => { runtime with host := .closed }
  liftM answers.rlm
  closeOwnership number answers.ownership
  modify fun pool => pool.note number fun runtime => { runtime with closed := true }

end Closing

section Acquiring

/-- A verified public identity. -/
structure PublicIdentity where
  tenantKey : String
  principalId : String
  sessionId : String
  deriving DecidableEq

/-- A path-safe tenant digest. -/
def IsTenantKey (key : String) : Prop :=
  key.length = 32 ∧ key.toList.all fun character => character ∈ "0123456789abcdef".toList

instance (key : String) : Decidable (IsTenantKey key) :=
  inferInstanceAs (Decidable (_ ∧ _))

/-- What everything that an acquire opens or closes answers; runtimes are closed by number. -/
structure AcquireAnswers where
  close : Nat → CloseAnswers
  directory : Answer
  ownership : Answer
  host : Answer
  ownershipAfterHost : Answer
  rlm : Answer
  hostAfterRlm : Answer
  ownershipAfterRlm : Answer

/-- `_next_use` when an entry is used, by a change that is given the new count. -/
def TenantRuntimePool.use (pool : TenantRuntimePool) (tenantKey : String)
    (change : TenantEntry → TenantEntry) : TenantRuntimePool :=
  { pool with useCounter := pool.useCounter + 1 }.patch tenantKey fun entry =>
    { change entry with lastUsed := pool.useCounter + 1 }

/-- Hand out a lease of a runtime. -/
def TenantRuntimePool.handOut (pool : TenantRuntimePool) (tenantKey : String) (runtime : Nat) :
    TenantRuntimePool :=
  { pool with leases := pool.leases ++ [⟨pool.leases.length, tenantKey, runtime, false, false⟩] }

/-- The order in which idle entries are evicted. -/
def TenantEntry.Before (first second : TenantEntry) : Prop :=
  first.lastUsed < second.lastUsed ∨
    (first.lastUsed = second.lastUsed ∧ first.tenantKey ≤ second.tenantKey)

instance : DecidableRel TenantEntry.Before :=
  fun _ _ => inferInstanceAs (Decidable (_ ∨ _))

/-- The least recently used of the entries that have no lease. -/
def TenantRuntimePool.leastRecent (pool : TenantRuntimePool) : Option TenantEntry :=
  ((pool.runtimes.filter fun entry => entry.leases = 0).insertionSort TenantEntry.Before).head?

/-- Make room for one more runtime when the pool is full. -/
def evictIdle (maxActiveTenants : Nat) (close : Nat → CloseAnswers) : Program Unit := do
  let pool ← get
  if maxActiveTenants ≤ pool.runtimes.length then
    match pool.leastRecent with
    | none => throw (.tenantCapacityExceeded "all bounded tenant runtimes are leased")
    | some evicted =>
      modify fun pool => pool.patch evicted.tenantKey fun entry => { entry with closing := true }
      closeRuntime evicted.runtime (close evicted.runtime)
      modify fun pool => pool.remove evicted.tenantKey
  else return ()

/-- A lock of a tenant, with no host under it yet. -/
def TenantRuntimePool.take (pool : TenantRuntimePool) (tenantKey : String) : TenantRuntimePool :=
  { pool with taken :=
      pool.taken ++ [⟨pool.taken.length, tenantKey, .unopened, false, false, 0, false⟩] }

/-- Put an open runtime in the pool, leased once. -/
def TenantRuntimePool.put (pool : TenantRuntimePool) (tenantKey : String) (number : Nat) :
    TenantRuntimePool :=
  let pooled := pool.note number fun runtime => { runtime with pooled := true }
  { pooled with
    useCounter := pool.useCounter + 1
    runtimes := pool.runtimes ++ [⟨tenantKey, number, 1, pool.useCounter + 1, false⟩] }

/-- Open the runtime of a tenant under a new lock, and lease it. -/
def openRuntime (identity : PublicIdentity) (answers : AcquireAnswers) : Program Nat := do
  liftM answers.directory
  liftM answers.ownership
  let number := (← get).taken.length
  modify fun pool => pool.take identity.tenantKey
  match answers.host with
  | .error error =>
    closeOwnership number answers.ownershipAfterHost
    throw error
  | .ok () =>
    modify fun pool => pool.note number fun runtime => { runtime with host := .opened }
    demand (TokenPattern identity.principalId) (.valueError "validation error for PrincipalRef")
    match answers.rlm with
    | .error error =>
      match answers.hostAfterRlm with
      | .error closing =>
        -- `finally` lets go of the lock although the host is still open.
        closeOwnership number answers.ownershipAfterRlm
        throw closing
      | .ok () =>
        modify fun pool => pool.note number fun runtime => { runtime with host := .closed }
        closeOwnership number answers.ownershipAfterRlm
        throw error
    | .ok () =>
      demand (TokenPattern identity.sessionId) (.valueError "validation error for SessionRef")
      let lease := (← get).leases.length
      modify fun pool =>
        (pool.put identity.tenantKey number).handOut identity.tenantKey number
      return lease

/-- `TenantRuntimePool.acquire`, all of it under the lock of the pool. -/
def acquire (maxActiveTenants : Nat) (identity : PublicIdentity) (answers : AcquireAnswers) :
    Program Nat := do
  demand (IsTenantKey identity.tenantKey)
    (.valueError "tenant identity is not a path-safe opaque digest")
  let pool ← get
  demand (pool.closed = false) (.runtimeError "tenant runtime pool is closed")
  match pool.entry identity.tenantKey with
  | some existing =>
    demand (existing.closing = false) (.tenantCapacityExceeded "tenant runtime is closing")
    let used := pool.use identity.tenantKey fun entry => { entry with leases := entry.leases + 1 }
    set (used.handOut identity.tenantKey existing.runtime)
    return pool.leases.length
  | none =>
    evictIdle maxActiveTenants answers.close
    openRuntime identity answers

end Acquiring

section Leaving

/-- Change one lease. -/
def TenantRuntimePool.amend (pool : TenantRuntimePool) (number : Nat)
    (change : TenantRuntimeLease → TenantRuntimeLease) : TenantRuntimePool :=
  { pool with leases := updateWhere pool.leases (fun lease => lease.number = number) change }

/-- `__exit__` begins: it goes on when the lease has not been released. -/
def beginExit (number : Nat) (pool : TenantRuntimePool) : TenantRuntimePool :=
  match fetchOne pool.leases fun lease => lease.number = number with
  | some lease =>
    if lease.released then pool else { pool with exits := ⟨number, .checked⟩ :: pool.exits }
  | none => pool

/-- `__exit__` marks the lease released. -/
def markExit (number : Nat) (pool : TenantRuntimePool) : TenantRuntimePool :=
  if ⟨number, .checked⟩ ∈ pool.exits then
    { pool.amend number fun lease => { lease with released := true } with
      exits := ⟨number, .marked⟩ :: pool.exits.erase ⟨number, .checked⟩ }
  else pool

/-- `_release` of the lease of a tenant. -/
def release (tenantKey : String) : Program Unit := do
  let pool ← get
  match pool.entry tenantKey with
  | none => return ()
  | some entry =>
    demand (1 ≤ entry.leases) (.runtimeError "tenant runtime lease underflow")
    set (pool.use tenantKey fun entry => { entry with leases := entry.leases - 1 })

/-- `__exit__` releases the lease, and ends. -/
def endExit (number : Nat) (pool : TenantRuntimePool) : TenantRuntimePool :=
  if ⟨number, .marked⟩ ∈ pool.exits then
    match fetchOne pool.leases fun lease => lease.number = number with
    | some lease =>
      let released := final (release lease.tenantKey) pool
      { released.amend number fun lease => { lease with exited := true } with
        exits := pool.exits.erase ⟨number, .marked⟩ }
    | none => pool
  else pool

/-- `close` begins: no tenant is served any more, and every runtime is to be closed. -/
def beginClose (pool : TenantRuntimePool) : TenantRuntimePool :=
  if pool.closed ∧ pool.runtimes = [] then pool else
    { pool with
      closed := true
      runtimes := pool.runtimes.map fun entry => { entry with closing := true }
      closers := pool.closers ++ [{
        number := pool.closers.length
        remaining := pool.runtimes.map fun entry => (entry.tenantKey, entry.runtime)
        stage := .host
        firstError := none }] }

/-- Change one call of `close`. -/
def TenantRuntimePool.follow (pool : TenantRuntimePool) (number : Nat)
    (change : Closer → Closer) : TenantRuntimePool :=
  { pool with closers := updateWhere pool.closers (fun closer => closer.number = number) change }

/-- A call of `close` has failed to close the runtime it is at, and goes on to the next. -/
def Closer.failed (error : PoolError) (closer : Closer) : Closer :=
  { closer with
    remaining := closer.remaining.tail
    stage := .host
    firstError := some (closer.firstError.getD error) }

/-- One step of a call of `close` that is at a runtime. -/
def Closer.step (closer : Closer) (tenantKey : String) (runtime : Nat) (answer : Answer)
    (pool : TenantRuntimePool) : TenantRuntimePool :=
  match closer.stage with
  | .host =>
    let called := pool.note runtime fun runtime =>
      { runtime with closeCalls := runtime.closeCalls + 1 }
    match answer with
    | .error error => called.follow closer.number (.failed error)
    | .ok () =>
      (called.note runtime fun runtime => { runtime with host := .closed }).follow closer.number
        fun closer => { closer with stage := .rlm }
  | .rlm =>
    match answer with
    | .error error => pool.follow closer.number (.failed error)
    | .ok () => pool.follow closer.number fun closer => { closer with stage := .ownership }
  | .ownership =>
    let called := pool.note runtime fun runtime => { runtime with released := true }
    match answer with
    | .error error => called.follow closer.number (.failed error)
    | .ok () =>
      (called.note runtime fun runtime => { runtime with closed := true }).follow closer.number
        fun closer => { closer with stage := .removal }
  | .removal =>
    let done := pool.follow closer.number fun closer =>
      { closer with remaining := closer.remaining.tail, stage := .host }
    if (pool.entry tenantKey).any fun entry => entry.runtime = runtime then done.remove tenantKey
    else done

/-- One step of a call of `close`, outside the lock of the pool but for the removal. -/
def drain (number : Nat) (answer : Answer) (pool : TenantRuntimePool) : TenantRuntimePool :=
  match fetchOne pool.closers fun closer => closer.number = number with
  | none => pool
  | some closer =>
    match closer.remaining with
    | [] => pool
    | (tenantKey, runtime) :: _ => closer.step tenantKey runtime answer pool

/-- What happens next: a call under the lock of the pool, or one step of a call outside it. -/
inductive PoolStep where
  | acquire (identity : PublicIdentity) (answers : AcquireAnswers)
  | beginExit (lease : Nat)
  | markExit (lease : Nat)
  | endExit (lease : Nat)
  | beginClose
  | drain (closer : Nat) (answer : Answer)

/-- The pool after a step. -/
def PoolStep.run (maxActiveTenants : Nat) (step : PoolStep) (pool : TenantRuntimePool) :
    TenantRuntimePool :=
  match step with
  | .acquire identity answers =>
    final (PublicRuntime.acquire maxActiveTenants identity answers) pool
  | .beginExit lease => PublicRuntime.beginExit lease pool
  | .markExit lease => PublicRuntime.markExit lease pool
  | .endExit lease => PublicRuntime.endExit lease pool
  | .beginClose => PublicRuntime.beginClose pool
  | .drain closer answer => PublicRuntime.drain closer answer pool

end Leaving

end Aar.PublicRuntime
