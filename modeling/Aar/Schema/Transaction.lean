import Aar.Lib.Guarded
import Aar.Schema.Rows

/-! Transactions: one operation's rows are read, changed, and written back, or nothing changes. -/

namespace Aar

open Guarded

/-- What a transaction leaves in its scope: what identifies the operation is not written. -/
def Scope.settle (s written : Scope) : Scope :=
  { written with operation := s.operation, generation := s.generation, others := s.others }

namespace Db

/-- The rows of one operation. -/
def lookup (db : Db) (operation : String) : Option OpRecord :=
  (db.operations.find? fun entry => decide (entry.1 = operation)).map Prod.snd

/-- What a transaction on one operation sees. -/
def scope (db : Db) (operation : String) (record : OpRecord) : Scope :=
  { toOpRecord := record
    operation
    generation := db.generation
    lastSequence := db.lastSequence
    catalog := db.catalog
    others := (db.operations.filter fun entry => entry.1 ≠ operation).map Prod.snd }

/-- Put one operation's rows in place of the stored ones. -/
def replace (operations : List (String × OpRecord)) (operation : String) (record : OpRecord) :
    List (String × OpRecord) :=
  operations.map fun entry => if entry.1 = operation then (entry.1, record) else entry

/-- Putting rows in place keeps the primary keys. -/
theorem replace_keys (operations : List (String × OpRecord)) (operation : String)
    (record : OpRecord) :
    (replace operations operation record).map Prod.fst = operations.map Prod.fst := by
  simp only [replace, List.map_map]
  refine List.map_congr_left fun entry _ => ?_
  by_cases here : entry.1 = operation <;> simp [here]

/-- Write one operation's rows back. -/
def commit (db : Db) (operation : String) (s : Scope) : Db :=
  { db with
    lastSequence := s.lastSequence
    catalog := s.catalog
    operations := replace db.operations operation s.toOpRecord
    primaryKey := by rw [replace_keys]; exact db.primaryKey }

/-- Visit the listed operations in order, rewriting the selected ones. -/
def sweep (selected : OpRecord → Prop) [DecidablePred selected] (change : Scope → Scope)
    (db : Db) : List (String × OpRecord) → Db
  | [] => db
  | (operation, record) :: rest =>
    if selected record then
      sweep selected change (db.commit operation (change (db.scope operation record))) rest
    else sweep selected change db rest

/-- Run a transaction on one operation, raising the given error when the operation is unknown. -/
def transact {α : Type} (db : Db) (operation : String) (missing : Err)
    (body : Scope → Except Err (Scope × α)) : Except Err (Db × α) := do
  let record ← orRaise (db.lookup operation) missing
  let outcome ← body (db.scope operation record)
  return (db.commit operation outcome.1, outcome.2)

/-- Run a transaction that returns nothing beyond its writes. -/
def update (db : Db) (operation : String) (missing : Err) (body : Scope → Except Err Scope) :
    Except Err Db := do
  let record ← orRaise (db.lookup operation) missing
  let s ← body (db.scope operation record)
  return db.commit operation s

section Lookup

variable {db : Db} {operation : String}

/-- Writing one operation back changes what is found under its name and nothing else. -/
theorem lookup_commit {s : Scope} {other : String} :
    (db.commit operation s).lookup other =
      if other = operation then (db.lookup other).map fun _ => s.toOpRecord
      else db.lookup other := by
  -- Rewriting an entry keeps its key, so the same entry is found.
  simp only [lookup, commit]
  induction db.operations with
  | nil => simp [replace]
  | cons entry rest ih =>
    rcases entry with ⟨key, stored⟩
    by_cases hit : key = other
    · by_cases here : other = operation <;> simp [replace, hit, here]
    · have miss : ¬ (if key = operation then (key, s.toOpRecord) else (key, stored)).1 = other := by
        split <;> exact hit
      simpa [replace, List.find?_cons, hit, miss] using ih

/-- Every stored entry is found under its key. -/
theorem lookup_of_mem {record : OpRecord} (member : (operation, record) ∈ db.operations) :
    db.lookup operation = some record := by
  -- Keys are distinct, so the first entry under the key is this one.
  have distinct := db.primaryKey
  simp only [lookup, Option.map_eq_some_iff]
  refine ⟨(operation, record), ?_, rfl⟩
  revert distinct member
  induction db.operations with
  | nil => simp
  | cons entry rest ih =>
    rcases entry with ⟨key, stored⟩
    intro member distinct
    simp only [List.map_cons, List.nodup_cons, List.mem_map, not_exists, not_and] at distinct
    rcases List.mem_cons.mp member with same | later
    · simp [← same]
    · have differ : key ≠ operation := fun same => distinct.1 _ later same.symm
      simpa [List.find?_cons, differ] using ih later distinct.2

/-- A found operation is stored under its key. -/
theorem mem_of_lookup {record : OpRecord} (found : db.lookup operation = some record) :
    (operation, record) ∈ db.operations := by
  simp only [lookup, Option.map_eq_some_iff] at found
  rcases found with ⟨⟨key, stored⟩, found, rfl⟩
  have hit := List.find?_some found
  simp only [decide_eq_true_eq] at hit
  exact hit ▸ List.mem_of_find?_eq_some found

/-- Writing one operation back keeps the runtime generation. -/
@[simp] theorem generation_commit {s : Scope} :
    (db.commit operation s).generation = db.generation := rfl

/-- A scope shows the rows of its operation. -/
@[simp] theorem scope_toOpRecord {record : OpRecord} :
    (db.scope operation record).toOpRecord = record := rfl

/-- A scope shows the runtime generation. -/
@[simp] theorem scope_generation {record : OpRecord} :
    (db.scope operation record).generation = db.generation := rfl

/-- A transaction succeeds through its body on the operation's rows. -/
theorem transact_ok {α : Type} {missing : Err} {body : Scope → Except Err (Scope × α)}
    {db' : Db} {value : α} :
    db.transact operation missing body = .ok (db', value) ↔
      ∃ record s, db.lookup operation = some record ∧
        body (db.scope operation record) = .ok (s, value) ∧ db.commit operation s = db' := by
  simp only [transact, bind_ok, orRaise_ok, pure_ok, Prod.mk.injEq, Prod.exists]
  constructor
  · rintro ⟨record, found, s, _, ran, written, rfl⟩
    exact ⟨record, s, found, ran, written⟩
  · rintro ⟨record, s, found, ran, written⟩
    exact ⟨record, found, s, value, ran, written, rfl⟩

/-- An update succeeds through its body on the operation's rows. -/
theorem update_ok {missing : Err} {body : Scope → Except Err Scope} {db' : Db} :
    db.update operation missing body = .ok db' ↔
      ∃ record s, db.lookup operation = some record ∧
        body (db.scope operation record) = .ok s ∧ db.commit operation s = db' := by
  simp only [update, bind_ok, orRaise_ok, pure_ok]
  constructor
  · rintro ⟨record, found, s, ran, written⟩
    exact ⟨record, s, found, ran, written⟩
  · rintro ⟨record, s, found, ran, written⟩
    exact ⟨record, found, s, ran, written⟩

/-- Writing one operation back shows the written rows, under the identity it was read with. -/
theorem scope_commit {record : OpRecord} {s : Scope} :
    (db.commit operation s).scope operation s.toOpRecord = (db.scope operation record).settle s := by
  -- The entries under other keys are not rewritten.
  have others : (replace db.operations operation s.toOpRecord).filter
      (fun entry => entry.1 ≠ operation) =
        db.operations.filter fun entry => entry.1 ≠ operation := by
    induction db.operations with
    | nil => rfl
    | cons entry rest ih =>
      simp only [replace, List.map_cons, List.filter_cons] at ih ⊢
      by_cases here : entry.1 = operation <;> simpa [here] using ih
  simp only [scope, commit, Scope.settle, others]

/-- Writing back what was read changes nothing. -/
theorem commit_unchanged {record : OpRecord} (found : db.lookup operation = some record) :
    db.commit operation (db.scope operation record) = db := by
  -- The entry under the name is the one that was read, so rewriting it is the identity.
  have same : replace db.operations operation record = db.operations := by
    refine (List.map_congr_left fun entry member => ?_).trans (List.map_id _)
    rcases entry with ⟨key, stored⟩
    by_cases here : key = operation
    · subst here
      cases found.symm.trans (lookup_of_mem member)
      simp
    · simp [here]
  simp only [commit, scope, same]

/-- Nothing is found exactly under the names that are not stored. -/
theorem lookup_none : db.lookup operation = none ↔ operation ∉ db.operations.map Prod.fst := by
  simp only [lookup, Option.map_eq_none_iff, List.find?_eq_none, decide_eq_true_eq, List.mem_map,
    not_exists, not_and]

/-- A sweep stores no new name and drops none. -/
theorem sweep_keys {selected : OpRecord → Prop} [DecidablePred selected]
    {change : Scope → Scope} (entries : List (String × OpRecord)) (db : Db) :
    (sweep selected change db entries).operations.map Prod.fst = db.operations.map Prod.fst := by
  induction entries generalizing db with
  | nil => rfl
  | cons entry rest ih =>
    rcases entry with ⟨key, record⟩
    by_cases chosen : selected record
    · simp only [sweep, chosen, if_true]
      exact (ih _).trans (replace_keys _ _ _)
    · simp only [sweep, chosen, if_false]
      exact ih db

/-- A rewrite of one operation's rows leaves what all operations share as a transaction would. -/
structure Shared (s s' : Scope) : Prop where
  catalog : s'.catalog = s.catalog
  lastSequence : s.lastSequence ≤ s'.lastSequence

/-- A sweep keeps the runtime generation and, when its rewrite does, what operations share. -/
theorem sweep_keeps (selected : OpRecord → Prop) [DecidablePred selected]
    {change : Scope → Scope} (kept : ∀ s, Shared s (change s))
    (entries : List (String × OpRecord)) (db : Db) :
    (sweep selected change db entries).generation = db.generation ∧
      (sweep selected change db entries).catalog = db.catalog ∧
      db.lastSequence ≤ (sweep selected change db entries).lastSequence := by
  induction entries generalizing db with
  | nil => exact ⟨rfl, rfl, Nat.le_refl _⟩
  | cons entry rest ih =>
    rcases entry with ⟨key, record⟩
    by_cases chosen : selected record
    · simp only [sweep, chosen, if_true]
      obtain ⟨generation, catalog, later⟩ := ih (db.commit key (change (db.scope key record)))
      have here := kept (db.scope key record)
      exact ⟨generation, catalog.trans here.catalog, Nat.le_trans here.lastSequence later⟩
    · simp only [sweep, chosen, if_false]
      exact ih db

/-- A sweep over distinct stored operations rewrites each selected one once, and no other. -/
theorem lookup_sweep (selected : OpRecord → Prop) [DecidablePred selected]
    {change : Scope → Scope} (kept : ∀ s, Shared s (change s))
    (entries : List (String × OpRecord)) (db : Db) (distinct : (entries.map Prod.fst).Nodup)
    (stored : ∀ entry ∈ entries, selected entry.2 → db.lookup entry.1 = some entry.2)
    (other : String) :
    ((∀ record, (other, record) ∈ entries → ¬ selected record) ∧
        (sweep selected change db entries).lookup other = db.lookup other) ∨
      ∃ before record, (other, record) ∈ entries ∧ selected record ∧
        before.toOpRecord = record ∧ before.operation = other ∧
        before.generation = db.generation ∧ before.catalog = db.catalog ∧
        db.lastSequence ≤ before.lastSequence ∧
        (change before).lastSequence ≤ (sweep selected change db entries).lastSequence ∧
        (sweep selected change db entries).lookup other = some (change before).toOpRecord := by
  -- A rewrite touches its own key only, so the entries still to be visited stay as they were.
  induction entries generalizing db with
  | nil => exact .inl ⟨fun record member => absurd member List.not_mem_nil, rfl⟩
  | cons entry rest ih =>
    rcases entry with ⟨key, record⟩
    simp only [List.map_cons, List.nodup_cons, List.mem_map, not_exists, not_and] at distinct
    by_cases chosen : selected record
    · have here := stored (key, record) List.mem_cons_self chosen
      have shared := kept (db.scope key record)
      simp only [sweep, chosen, if_true]
      have unvisited : ∀ entry ∈ rest, selected entry.2 →
          (db.commit key (change (db.scope key record))).lookup entry.1 = some entry.2 := by
        intro entry later picked
        have differ : entry.1 ≠ key := fun same => distinct.1 entry later same
        rw [lookup_commit, if_neg differ]
        exact stored entry (List.mem_cons_of_mem _ later) picked
      by_cases same : other = key
      · subst same
        rcases ih _ distinct.2 unvisited with ⟨-, same⟩ | ⟨_, _, member, -⟩
        · refine .inr ⟨db.scope other record, record, List.mem_cons_self, chosen, rfl, rfl, rfl,
            rfl, Nat.le_refl _, ?_, ?_⟩
          · exact (sweep_keeps selected kept rest
              (db.commit other (change (db.scope other record)))).2.2
          · rw [same, lookup_commit, if_pos rfl, here, Option.map_some]
        · exact absurd rfl (distinct.1 _ member)
      · rcases ih _ distinct.2 unvisited with ⟨spared, left⟩ |
          ⟨before, found, member, picked, record, name, generation, catalog, later, rest⟩
        · rw [lookup_commit, if_neg same] at left
          refine .inl ⟨fun stored member => ?_, left⟩
          rcases List.mem_cons.mp member with equal | later
          · cases equal
            exact absurd rfl same
          · exact spared stored later
        · exact .inr ⟨before, found, List.mem_cons_of_mem _ member, picked, record, name,
            generation, catalog.trans shared.catalog, Nat.le_trans shared.lastSequence later,
            rest⟩
    · simp only [sweep, chosen, if_false]
      have unvisited := fun entry later => stored entry (List.mem_cons_of_mem _ later)
      rcases ih db distinct.2 unvisited with ⟨spared, left⟩ | ⟨before, found, member, rest⟩
      · refine .inl ⟨fun stored member => ?_, left⟩
        rcases List.mem_cons.mp member with equal | later
        · cases equal
          exact chosen
        · exact spared stored later
      · exact .inr ⟨before, found, List.mem_cons_of_mem _ member, rest⟩

end Lookup

end Db

end Aar
