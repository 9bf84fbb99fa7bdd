import Mathlib.Data.List.Nodup
import Aar.Lib.Dictionary
import Aar.Lib.Guarded

/-! Traversals with a worklist: every record that requests lead to is read, each key once. -/

namespace Traversal

open Guarded

/-- Records that requests name by a key, and the further requests that a record makes. -/
structure Graph (ρ κ ν ε : Type) where
  key : ρ → κ
  read : ρ → Except ε ν
  edges : ν → List ρ
  /-- The check that a request passes whose key was read before. -/
  again : ν → ρ → Except ε Unit
  /-- The keys of all records, which bound the traversal. -/
  known : List κ
  within : ∀ {request record}, read request = .ok record → key request ∈ known

namespace Graph

variable {ρ κ ν ε : Type} [DecidableEq κ] (graph : Graph ρ κ ν ε)

/-- The keys that are not read yet. -/
def unread (found : Dictionary κ ν) : List κ :=
  graph.known.filter fun key => (found.get key).isNone

/-- A key that is read for the first time is unread no longer. -/
theorem unread_set {found : Dictionary κ ν} {request : ρ} {record : ν}
    (new : found.get (graph.key request) = none) (read : graph.read request = .ok record) :
    (graph.unread (found.set (graph.key request) record)).length <
      (graph.unread found).length := by
  have fewer : graph.unread (found.set (graph.key request) record) =
      (graph.unread found).filter fun key => key ≠ graph.key request := by
    unfold unread
    rw [List.filter_filter]
    refine List.filter_congr fun key _ => ?_
    rw [Dictionary.get_set]
    by_cases same : key = graph.key request
    · simp [same]
    · simp [same]
  rw [fewer]
  -- The key itself is among the unread ones, and it is the one left out.
  have member : graph.key request ∈ graph.unread found :=
    List.mem_filter.mpr ⟨graph.within read, by simp [new]⟩
  refine List.length_filter_lt_length_iff_exists.mpr ⟨_, member, by simp⟩

/-- Read what the pending requests lead to, depth first. -/
def walk : List ρ → Dictionary κ ν → Except ε (Dictionary κ ν)
  | [], found => .ok found
  | request :: pending, found =>
    match _new : found.get (graph.key request) with
    | some record => do
      graph.again record request
      walk pending found
    | none =>
      match _read : graph.read request with
      | .error error => .error error
      | .ok record =>
        walk (graph.edges record ++ pending) (found.set (graph.key request) record)
termination_by pending found => ((graph.unread found).length, pending.length)
decreasing_by
  · exact Prod.Lex.right _ (Nat.lt_succ_self _)
  · exact Prod.Lex.left _ _ (graph.unread_set _new _read)

/-- A request that the given ones lead to. -/
inductive Reaches (roots : List ρ) : ρ → Prop
  | root {request : ρ} (listed : request ∈ roots) : Reaches roots request
  | edge {request next : ρ} {record : ν} (reached : Reaches roots request)
    (read : graph.read request = .ok record) (edge : next ∈ graph.edges record) :
    Reaches roots next

/-- The requests of one key read one record, and the check of a repeated one says that it does. -/
structure Coherent : Prop where
  again : ∀ {first second record}, graph.read first = .ok record →
    graph.key second = graph.key first →
      (graph.again record second = .ok () ↔ graph.read second = .ok record)
  functional : ∀ {first second record other}, graph.read first = .ok record →
    graph.read second = .ok other → graph.key second = graph.key first → other = record

/-- A request is answered by the records that were read. -/
def Served (found : Dictionary κ ν) (request : ρ) : Prop :=
  ∃ record, found.get (graph.key request) = some record ∧ graph.read request = .ok record

/-- What holds of the pending requests and of the records that were read. -/
structure Closing (roots pending : List ρ) (found : Dictionary κ ν) : Prop where
  reached : ∀ request ∈ pending, graph.Reaches roots request
  origin : ∀ {key record}, found.get key = some record →
    ∃ request, graph.Reaches roots request ∧ graph.key request = key ∧
      graph.read request = .ok record
  started : ∀ request ∈ roots, request ∈ pending ∨ graph.Served found request
  followed : ∀ {key record}, found.get key = some record →
    ∀ request ∈ graph.edges record, request ∈ pending ∨ graph.Served found request

variable {graph} {roots pending : List ρ} {found result : Dictionary κ ν} {request : ρ} {record : ν}

theorem Closing.start : graph.Closing roots roots .empty where
  reached _ listed := .root listed
  origin absent := by simp at absent
  started _ listed := .inl listed
  followed absent := by simp at absent

/-- A request that was served before is done. -/
theorem Closing.skip (closing : graph.Closing roots (request :: pending) found)
    (served : graph.Served found request) : graph.Closing roots pending found := by
  have done : ∀ other, other ∈ request :: pending ∨ graph.Served found other →
      other ∈ pending ∨ graph.Served found other := by
    rintro other (listed | served)
    · rcases List.mem_cons.mp listed with rfl | later
      · exact .inr served
      · exact .inl later
    · exact .inr served
  exact {
    reached := fun other later => closing.reached other (List.mem_cons_of_mem _ later)
    origin := closing.origin
    started := fun other listed => done other (closing.started other listed)
    followed := fun stored other edge => done other (closing.followed stored other edge) }

/-- A request that is read is done, and the requests of its record are pending. -/
theorem Closing.visit (closing : graph.Closing roots (request :: pending) found)
    (new : found.get (graph.key request) = none) (read : graph.read request = .ok record) :
    graph.Closing roots (graph.edges record ++ pending)
      (found.set (graph.key request) record) := by
  have here := closing.reached request List.mem_cons_self
  have served : graph.Served (found.set (graph.key request) record) request :=
    ⟨record, by simp [Dictionary.get_set], read⟩
  -- What was served before has another key, so that it is served still.
  have kept : ∀ other, graph.Served found other →
      graph.Served (found.set (graph.key request) record) other := by
    rintro other ⟨stored, held, same⟩
    refine ⟨stored, ?_, same⟩
    rw [Dictionary.get_set, if_neg fun equal => ?_]
    · exact held
    · rw [equal, new] at held
      cases held
  have done : ∀ other, other ∈ request :: pending ∨ graph.Served found other →
      other ∈ graph.edges record ++ pending ∨
        graph.Served (found.set (graph.key request) record) other := by
    rintro other (listed | before)
    · rcases List.mem_cons.mp listed with rfl | later
      · exact .inr served
      · exact .inl (List.mem_append_right _ later)
    · exact .inr (kept other before)
  refine ⟨fun other listed => ?_, fun {key stored} held => ?_,
    fun other listed => done other (closing.started other listed),
    fun {key stored} held other edge => ?_⟩
  · rcases List.mem_append.mp listed with edge | later
    · exact .edge here read edge
    · exact closing.reached other (List.mem_cons_of_mem _ later)
  · rw [Dictionary.get_set] at held
    split at held
    · cases held
      exact ⟨request, here, ‹key = _›.symm, read⟩
    · exact closing.origin held
  · rw [Dictionary.get_set] at held
    split at held
    · cases held
      exact .inl (List.mem_append_left _ edge)
    · exact done other (closing.followed held other edge)

/-- A traversal that returns has served every pending request, and all that they lead to. -/
theorem Closing.walked (coherent : graph.Coherent) (closing : graph.Closing roots pending found)
    (returned : graph.walk pending found = .ok result) : graph.Closing roots [] result := by
  fun_induction graph.walk pending found with
  | case1 found =>
    cases returned
    exact closing
  | case2 request pending found record held ih =>
    simp only [bind_ok] at returned
    obtain ⟨_, passed, rest⟩ := returned
    obtain ⟨first, -, same, read⟩ := closing.origin held
    exact ih (closing.skip ⟨record, held, (coherent.again read same.symm).mp passed⟩) rest
  | case3 => cases returned
  | case4 request pending found new record read ih => exact ih (closing.visit new read) returned

/-- A traversal returns when everything that the roots lead to can be read. -/
theorem Closing.returns (coherent : graph.Coherent) (closing : graph.Closing roots pending found)
    (readable : ∀ request, graph.Reaches roots request →
      ∃ record, graph.read request = .ok record) :
    ∃ result, graph.walk pending found = .ok result := by
  fun_induction graph.walk pending found with
  | case1 found => exact ⟨found, rfl⟩
  | case2 request pending found record held ih =>
    obtain ⟨first, -, same, read⟩ := closing.origin held
    obtain ⟨other, answer⟩ := readable request (closing.reached request List.mem_cons_self)
    cases coherent.functional read answer same.symm
    rw [(coherent.again read same.symm).mpr answer]
    exact ih (closing.skip ⟨record, held, answer⟩)
  | case3 request pending found new error refused =>
    obtain ⟨record, read⟩ := readable request (closing.reached request List.mem_cons_self)
    rw [refused] at read
    cases read
  | case4 request pending found new record read ih => exact ih (closing.visit new read)

/-- The records of a traversal are exactly those that its roots lead to. -/
theorem collect_exact (coherent : graph.Coherent)
    (returned : graph.walk roots .empty = .ok result) {key : κ} :
    result.get key = some record ↔
      ∃ request, graph.Reaches roots request ∧ graph.key request = key ∧
        graph.read request = .ok record := by
  have closing := Closing.walked coherent .start returned
  -- Everything that is reached is served, from the roots on.
  have served : ∀ request, graph.Reaches roots request → graph.Served result request := by
    intro request reached
    induction reached with
    | root listed => exact (closing.started _ listed).resolve_left (by simp)
    | edge _ read edge ih =>
      obtain ⟨record, held, same⟩ := ih
      rw [read] at same
      cases same
      exact (closing.followed held _ edge).resolve_left (by simp)
  constructor
  · exact closing.origin
  · rintro ⟨request, reached, same, read⟩
    obtain ⟨stored, held, answer⟩ := served request reached
    rw [read] at answer
    cases answer
    exact same ▸ held

/-- A traversal returns exactly when everything that its roots lead to can be read. -/
theorem collect_returns (coherent : graph.Coherent) :
    (∃ result, graph.walk roots .empty = .ok result) ↔
      ∀ request, graph.Reaches roots request → ∃ record, graph.read request = .ok record := by
  constructor
  · rintro ⟨result, returned⟩ request reached
    have closing := Closing.walked coherent .start returned
    induction reached with
    | root listed =>
      obtain ⟨record, -, read⟩ := (closing.started _ listed).resolve_left (by simp)
      exact ⟨record, read⟩
    | edge before read edge _ =>
      have held := (collect_exact coherent returned).mpr ⟨_, before, rfl, read⟩
      obtain ⟨record, -, answer⟩ := (closing.followed held _ edge).resolve_left (by simp)
      exact ⟨record, answer⟩
  · exact Closing.returns coherent .start

end Graph

end Traversal
