import Mathlib.Data.List.Basic
import Mathlib.Data.List.Count
import Mathlib.Data.List.Forall2
import Aar.Lib.Guarded
import Mathlib.Algebra.Ring.Nat

/-! Relational tables as lists of rows, with the guarded statements a transaction runs on them. -/

namespace Table

open Guarded

variable {ρ ε : Type}

/-- The first row that satisfies the condition. -/
def fetchOne (rows : List ρ) (matching : ρ → Prop) [DecidablePred matching] : Option ρ :=
  rows.find? fun row => decide (matching row)

/-- The matching row with the largest value of a column. -/
def fetchMax (rows : List ρ) (matching : ρ → Prop) [DecidablePred matching]
    (column : ρ → Nat) : Option ρ :=
  rows.foldl (fun best row =>
    if matching row ∧ (best.all fun stored => column stored < column row) then some row
    else best) none

/-- Rewrite every row that satisfies the condition. -/
def updateWhere (rows : List ρ) (matching : ρ → Prop) [DecidablePred matching]
    (change : ρ → ρ) : List ρ :=
  rows.map fun row => if matching row then change row else row

/-- Rewrite the one matching row, raising unless exactly one row was changed. -/
def updateOne (rows : List ρ) (matching : ρ → Prop) [DecidablePred matching]
    (change : ρ → ρ) (error : ε) : Except ε (List ρ) := do
  require (rows.countP (fun row => decide (matching row)) = 1) error
  return updateWhere rows matching change

/-- Append a row, raising when an existing row clashes with it. -/
def insertUnique (rows : List ρ) (clash : ρ → Prop) [DecidablePred clash]
    (row : ρ) (error : ε) : Except ε (List ρ) := do
  require (∀ existing ∈ rows, ¬ clash existing) error
  return rows ++ [row]

/-- Rewrite the row of a table that holds at most one row, when it matches. -/
def patchWhere (row : Option ρ) (matching : ρ → Prop) [DecidablePred matching]
    (change : ρ → ρ) : Option ρ :=
  row.map fun stored => if matching stored then change stored else stored

/-- Rewrite the row of a table that holds at most one row, raising unless it is there and matches. -/
def patchOne (row : Option ρ) (matching : ρ → Prop) [DecidablePred matching]
    (change : ρ → ρ) (error : ε) : Except ε (Option ρ) := do
  let stored ← orRaise row error
  require (matching stored) error
  return some (change stored)

/-- The largest value of a column, with zero for an empty table. -/
def maxOf (rows : List ρ) (column : ρ → Nat) : Nat :=
  (rows.map column).foldl max 0

section Reading

variable {rows : List ρ} {matching : ρ → Prop} [DecidablePred matching] {row : ρ}

theorem fetchOne_some (found : fetchOne rows matching = some row) :
    row ∈ rows ∧ matching row :=
  ⟨List.mem_of_find?_eq_some found, by simpa using List.find?_some found⟩

theorem fetchOne_none : fetchOne rows matching = none ↔ ∀ row ∈ rows, ¬ matching row := by
  simp [fetchOne, List.find?_eq_none]

private theorem foldl_fetchMax (matching : ρ → Prop) [DecidablePred matching]
    (column : ρ → Nat) (rows : List ρ) (start : Option ρ) :
    let final := rows.foldl (fun best row =>
      if matching row ∧ (best.all fun stored => column stored < column row) then some row
      else best) start
    (∀ row, final = some row → start = some row ∨ (row ∈ rows ∧ matching row)) ∧
      (∀ row, start = some row → ∃ last, final = some last ∧ column row ≤ column last) ∧
      ∀ row ∈ rows, matching row → ∃ last, final = some last ∧ column row ≤ column last := by
  -- The accumulator is the best row so far: it is kept unless a matching row beats it.
  induction rows generalizing start with
  | nil => exact ⟨fun row same => .inl same, fun row same => ⟨row, same, Nat.le_refl _⟩, by simp⟩
  | cons head rest ih =>
    simp only [List.foldl_cons]
    by_cases better : matching head ∧ (start.all fun stored => column stored < column head)
    · simp only [better.1, better.2, and_self, if_true]
      obtain ⟨origin, kept, bounds⟩ := ih (some head)
      obtain ⟨last, final, above⟩ := kept head rfl
      refine ⟨fun row same => ?_, fun row same => ⟨last, final, ?_⟩, fun row member holds => ?_⟩
      · rcases origin row same with same | ⟨member, holds⟩
        · cases same; exact .inr ⟨List.mem_cons_self, better.1⟩
        · exact .inr ⟨List.mem_cons_of_mem _ member, holds⟩
      · have less := better.2
        simp only [same, Option.all_some, decide_eq_true_eq] at less
        omega
      · rcases List.mem_cons.mp member with rfl | later
        · exact ⟨last, final, above⟩
        · exact bounds row later holds
    · simp only [better, if_false]
      obtain ⟨origin, kept, bounds⟩ := ih start
      refine ⟨fun row same => ?_, kept, fun row member holds => ?_⟩
      · rcases origin row same with same | ⟨member, holds⟩
        · exact .inl same
        · exact .inr ⟨List.mem_cons_of_mem _ member, holds⟩
      · rcases List.mem_cons.mp member with rfl | later
        · rcases start with _ | best
          · simp [holds] at better
          · obtain ⟨last, final, above⟩ := kept best rfl
            simp only [holds, Option.all_some, decide_eq_true_eq, true_and, Nat.not_lt] at better
            exact ⟨last, final, by omega⟩
        · exact bounds row later holds

/-- The fetched maximum is stored, matches, and is not exceeded by another matching row. -/
theorem fetchMax_some {column : ρ → Nat} (found : fetchMax rows matching column = some row) :
    row ∈ rows ∧ matching row ∧ ∀ other ∈ rows, matching other → column other ≤ column row := by
  obtain ⟨origin, -, bounds⟩ := foldl_fetchMax matching column rows none
  rcases origin row found with absent | ⟨member, holds⟩
  · cases absent
  · refine ⟨member, holds, fun other stored matched => ?_⟩
    obtain ⟨last, final, above⟩ := bounds other stored matched
    rw [← fetchMax, found] at final
    cases final
    exact above

/-- No maximum is fetched exactly when no stored row matches. -/
theorem fetchMax_none {column : ρ → Nat} (absent : fetchMax rows matching column = none) :
    ∀ stored ∈ rows, ¬ matching stored := by
  intro stored member holds
  obtain ⟨-, -, bounds⟩ := foldl_fetchMax matching column rows none
  obtain ⟨last, final, -⟩ := bounds stored member holds
  rw [← fetchMax, absent] at final
  cases final

@[simp] theorem fetchOne_nil : fetchOne ([] : List ρ) matching = none := rfl

end Reading

section Writing

variable {rows changed : List ρ} {matching clash : ρ → Prop} [DecidablePred matching]
  [DecidablePred clash] {change : ρ → ρ} {error : ε} {row : ρ}

theorem mem_updateWhere :
    row ∈ updateWhere rows matching change ↔
      ∃ stored ∈ rows, (if matching stored then change stored else stored) = row := by
  simp [updateWhere]

@[simp] theorem updateWhere_length : (updateWhere rows matching change).length = rows.length := by
  simp [updateWhere]

/-- A column the rewrite leaves alone reads the same from the rewritten table. -/
theorem updateWhere_column {γ : Type} {column : ρ → γ}
    (kept : ∀ stored, matching stored → column (change stored) = column stored) :
    (updateWhere rows matching change).map column = rows.map column := by
  -- Only matching rows are rewritten, and those keep the column.
  simp only [updateWhere, List.map_map]
  refine List.map_congr_left fun stored _ => ?_
  by_cases holds : matching stored <;> simp [holds, kept]

/-- A rewrite that matches nothing changes nothing. -/
theorem updateWhere_none (absent : ∀ stored ∈ rows, ¬ matching stored) :
    updateWhere rows matching change = rows := by
  refine (List.map_congr_left fun stored member => ?_).trans (List.map_id rows)
  simp [absent stored member]

/-- Selecting rows by what a rewrite keeps may be done before it or after it. -/
theorem filter_updateWhere {keep : ρ → Bool}
    (kept : ∀ stored, matching stored → keep (change stored) = keep stored) :
    (updateWhere rows matching change).filter keep =
      updateWhere (rows.filter keep) matching change := by
  induction rows with
  | nil => rfl
  | cons first rest ih =>
    have same : keep (if matching first then change first else first) = keep first := by
      split
      · next holds => exact kept first holds
      · rfl
    simp only [updateWhere, List.map_cons, List.filter_cons, same] at ih ⊢
    cases keep first <;> simp [ih]

/-- A rewrite that matches only the last row changes only that one. -/
theorem updateWhere_last {done : List ρ} (apart : ∀ stored ∈ done, ¬ matching stored)
    (matched : matching row) :
    updateWhere (done ++ [row]) matching change = done ++ [change row] := by
  have before : updateWhere done matching change = done := updateWhere_none apart
  simp only [updateWhere] at before
  simp only [updateWhere, List.map_append, before, List.map_cons, List.map_nil, if_pos matched]

/-- A guarded rewrite succeeds exactly when one row matched. -/
@[simp] theorem updateOne_ok :
    updateOne rows matching change error = .ok changed ↔
      rows.countP (fun row => decide (matching row)) = 1 ∧
        updateWhere rows matching change = changed := by
  simp [updateOne]

@[simp] theorem insertUnique_ok :
    insertUnique rows clash row error = .ok changed ↔
      (∀ existing ∈ rows, ¬ clash existing) ∧ rows ++ [row] = changed := by
  simp [insertUnique]

/-- A guarded rewrite of a single row succeeds exactly when the row is there and matches. -/
@[simp] theorem patchOne_ok {single patched : Option ρ} :
    patchOne single matching change error = .ok patched ↔
      ∃ stored, single = some stored ∧ matching stored ∧ some (change stored) = patched := by
  simp [patchOne]

/-- A table in which exactly one row matches has a matching row. -/
theorem exists_of_countP_one (one : rows.countP (fun row => decide (matching row)) = 1) :
    ∃ row ∈ rows, matching row := by
  have positive : 0 < rows.countP (fun row => decide (matching row)) := by omega
  simpa using List.countP_pos_iff.mp positive

/-- Exactly one row matches when every matching row has the key of a stored one. -/
theorem countP_one {γ : Type} {column : ρ → γ} (distinct : (rows.map column).Nodup)
    (member : row ∈ rows) (matched : matching row)
    (same : ∀ other ∈ rows, matching other → column other = column row) :
    rows.countP (fun row => decide (matching row)) = 1 := by
  induction rows with
  | nil => cases member
  | cons first rest ih =>
    obtain ⟨apart, distinct⟩ := List.nodup_cons.mp distinct
    have later := fun other there => same other (List.mem_cons_of_mem _ there)
    rcases List.mem_cons.mp member with rfl | there
    · -- The first row matches, and a later one would have its key.
      rw [List.countP_cons_of_pos (by simpa using matched)]
      refine congrArg (· + 1) (List.countP_eq_zero.mpr fun other there hit => apart ?_)
      rw [← later other there (by simpa using hit)]
      exact List.mem_map_of_mem there
    · have skips : ¬ matching first := fun hit => apart (by
        rw [same first List.mem_cons_self hit]
        exact List.mem_map_of_mem there)
      rw [List.countP_cons_of_neg (by simpa using skips)]
      exact ih distinct there later

end Writing

section Aging

variable {related : ρ → ρ → Prop} {rows rows' : List ρ} {matching : ρ → Prop}
  [DecidablePred matching] {change : ρ → ρ}

/-- Rewriting relates the tables row by row when every rewritten row is related to its origin. -/
theorem updateWhere_aged (same : ∀ row, related row row)
    (changed : ∀ row ∈ rows, matching row → related row (change row)) :
    List.Forall₂ related rows (updateWhere rows matching change) := by
  induction rows with
  | nil => exact .nil
  | cons row rest ih =>
    refine .cons ?_ (ih fun row member => changed row (List.mem_cons_of_mem _ member))
    by_cases matched : matching row
    · simpa [matched] using changed row List.mem_cons_self matched
    · simpa [matched] using same row

/-- A rewrite that covers every live row and stops what it rewrites leaves no live row. -/
theorem updateWhere_stops {live : ρ → Prop} (covers : ∀ row ∈ rows, live row → matching row)
    (stops : ∀ row, matching row → ¬ live (change row)) :
    ∀ row ∈ updateWhere rows matching change, ¬ live row := by
  intro row member alive
  obtain ⟨stored, there, same⟩ := mem_updateWhere.mp member
  by_cases matched : matching stored
  · rw [if_pos matched] at same
    exact stops stored matched (same ▸ alive)
  · rw [if_neg matched] at same
    exact matched (covers stored there (same ▸ alive))

/-- Every row of the later table comes from a row of the earlier one. -/
theorem aged_from (aged : List.Forall₂ related rows rows') {new : ρ} (member : new ∈ rows') :
    ∃ old ∈ rows, related old new := by
  induction aged with
  | nil => cases member
  | cons first _ ih =>
    rcases List.mem_cons.mp member with rfl | later
    · exact ⟨_, List.mem_cons_self, first⟩
    · obtain ⟨old, stored, kept⟩ := ih later
      exact ⟨old, List.mem_cons_of_mem _ stored, kept⟩

/-- Every row of the earlier table becomes a row of the later one. -/
theorem aged_to (aged : List.Forall₂ related rows rows') {old : ρ} (member : old ∈ rows) :
    ∃ new ∈ rows', related old new := by
  induction aged with
  | nil => cases member
  | cons first _ ih =>
    rcases List.mem_cons.mp member with rfl | later
    · exact ⟨_, List.mem_cons_self, first⟩
    · obtain ⟨new, stored, kept⟩ := ih later
      exact ⟨new, List.mem_cons_of_mem _ stored, kept⟩

/-- A column that related rows agree on reads the same from both tables. -/
theorem aged_column {γ : Type} {column : ρ → γ} (aged : List.Forall₂ related rows rows')
    (same : ∀ old new, related old new → column new = column old) :
    rows'.map column = rows.map column := by
  induction aged with
  | nil => rfl
  | cons first _ ih => rw [List.map_cons, List.map_cons, same _ _ first, ih]

end Aging

section Columns

variable {rows : List ρ} {column : ρ → Nat}

private theorem foldl_max_ge (values : List Nat) (start : Nat) :
    start ≤ values.foldl max start ∧ ∀ value ∈ values, value ≤ values.foldl max start := by
  -- The accumulator only grows, so both bounds pass through every later value.
  induction values generalizing start with
  | nil => simp
  | cons head rest ih =>
    obtain ⟨grown, bounds⟩ := ih (max start head)
    simp only [List.foldl_cons, List.mem_cons, forall_eq_or_imp]
    exact ⟨by omega, by omega, bounds⟩

private theorem foldl_max_mem (values : List Nat) (start : Nat) :
    values.foldl max start = start ∨ values.foldl max start ∈ values := by
  induction values generalizing start with
  | nil => simp
  | cons head rest ih =>
    rcases ih (max start head) with same | member
    · rw [List.foldl_cons, same]
      rcases Nat.le_total start head with le | le
      · right; simp [Nat.max_eq_right le]
      · left; exact Nat.max_eq_left le
    · exact .inr (List.mem_cons_of_mem _ member)

theorem le_maxOf {row : ρ} (member : row ∈ rows) : column row ≤ maxOf rows column :=
  (foldl_max_ge _ 0).2 _ (List.mem_map_of_mem member)

theorem maxOf_congr {other : ρ → Nat} (same : ∀ row ∈ rows, column row = other row) :
    maxOf rows column = maxOf rows other := by
  rw [maxOf, maxOf, List.map_congr_left same]

/-- A positive maximum is attained by a stored row. -/
theorem maxOf_attained (positive : 0 < maxOf rows column) :
    ∃ row ∈ rows, column row = maxOf rows column := by
  rcases foldl_max_mem (rows.map column) 0 with zero | member
  · simp [maxOf, zero] at positive
  · simpa [maxOf] using member

end Columns

end Table
