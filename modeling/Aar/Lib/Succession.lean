import Mathlib.Data.List.Nodup
import Aar.Lib.Table

/-! Tables whose rows are numbered in the order they were added, and whose last row may be live. -/

variable {ρ : Type} {number : ρ → Nat} {live : ρ → Prop} {rows rows' : List ρ} {row other : ρ}

/-- The rows are numbered from one without gaps, and only the last one may be live. -/
structure Succession (number : ρ → Nat) (live : ρ → Prop) (rows : List ρ) : Prop where
  numbered : rows.map number = List.range' 1 rows.length
  latest : ∀ row ∈ rows, live row → number row = rows.length

/-- Rows that have the numbers of their places are numbered without gaps. -/
theorem map_eq_range' {start : Nat}
    (counts : ∀ (index : Nat) (row : ρ), rows[index]? = some row → number row = start + index) :
    rows.map number = List.range' start rows.length := by
  refine List.ext_getElem? fun index => ?_
  rw [List.getElem?_map]
  cases found : rows[index]? with
  | none =>
    rw [List.getElem?_eq_none_iff] at found
    rw [List.getElem?_eq_none (by simpa using found)]
    rfl
  | some row =>
    have within := (List.getElem?_eq_some_iff.mp found).1
    rw [List.getElem?_range' within, Option.map_some, counts index row found]
    congr 1
    omega

namespace Succession

theorem nil : Succession number live [] where
  numbered := rfl
  latest _ member := absurd member List.not_mem_nil

/-- Every number is between one and the number of rows. -/
theorem bounds (succession : Succession number live rows) (member : row ∈ rows) :
    1 ≤ number row ∧ number row ≤ rows.length := by
  have listed : number row ∈ List.range' 1 rows.length := by
    rw [← succession.numbered]
    exact List.mem_map_of_mem member
  rw [List.mem_range'_1] at listed
  omega

/-- A number names one row only. -/
theorem injective (succession : Succession number live rows) (member : row ∈ rows)
    (stored : other ∈ rows) (same : number row = number other) : row = other := by
  have distinct : (rows.map number).Nodup := by
    rw [succession.numbered]
    exact List.nodup_range'
  exact List.inj_on_of_nodup_map distinct member stored same

/-- At most one row is live. -/
theorem unique (succession : Succession number live rows) (member : row ∈ rows)
    (stored : other ∈ rows) (alive : live row) (living : live other) : row = other :=
  succession.injective member stored
    ((succession.latest row member alive).trans (succession.latest other stored living).symm)

/-- At most one row is counted as live. -/
theorem countP_le_one [DecidablePred live] (succession : Succession number live rows) :
    rows.countP (fun row => decide (live row)) ≤ 1 := by
  -- Rows are distinct, so two live ones would be one row.
  have distinct : rows.Nodup := by
    refine List.Nodup.of_map number ?_
    rw [succession.numbered]
    exact List.nodup_range'
  rw [List.countP_eq_length_filter]
  cases alive : rows.filter fun row => decide (live row) with
  | nil => simp
  | cons first rest =>
    cases rest with
    | nil => simp
    | cons second rest =>
      have kept := distinct.filter fun row => decide (live row)
      rw [alive] at kept
      have living : ∀ row ∈ [first, second], row ∈ rows ∧ live row := by
        intro row member
        have listed : row ∈ rows.filter fun row => decide (live row) := by
          rw [alive]
          exact List.mem_append_left rest member
        simpa using List.mem_filter.mp listed
      have one := living first (by simp)
      have two := living second (by simp)
      have same := succession.unique one.1 two.1 one.2 two.2
      simp [same] at kept

/-- The largest number is the number of rows. -/
theorem maxOf (succession : Succession number live rows) :
    Table.maxOf rows number = rows.length := by
  refine Nat.le_antisymm ?_ ?_
  · by_cases positive : 0 < Table.maxOf rows number
    · obtain ⟨row, member, same⟩ := Table.maxOf_attained positive
      rw [← same]
      exact (succession.bounds member).2
    · omega
  · by_cases empty : rows.length = 0
    · omega
    · have listed : rows.length ∈ rows.map number := by
        rw [succession.numbered, List.mem_range'_1]
        omega
      obtain ⟨row, member, same⟩ := List.mem_map.mp listed
      rw [← same]
      exact Table.le_maxOf member

/-- Rows that keep their numbers and never come to life stay a succession. -/
theorem evolve {related : ρ → ρ → Prop} (succession : Succession number live rows)
    (aged : List.Forall₂ related rows rows')
    (numbers : ∀ old new, related old new → number new = number old)
    (lives : ∀ old new, related old new → live new → live old) :
    Succession number live rows' := by
  have size := aged.length_eq
  have same : rows'.map number = rows.map number := Table.aged_column aged numbers
  refine ⟨by rw [same, succession.numbered, size], fun new member alive => ?_⟩
  obtain ⟨old, stored, kept⟩ := Table.aged_from aged member
  rw [numbers old new kept, succession.latest old stored (lives old new kept alive), size]

/-- A next row may be added, live or not, when no row is live. -/
theorem append (succession : Succession number live rows) (idle : ∀ row ∈ rows, ¬ live row)
    (next : number row = rows.length + 1) : Succession number live (rows ++ [row]) where
  numbered := by
    rw [List.map_append, succession.numbered, List.map_singleton, next, List.length_append,
      List.length_singleton, List.range'_concat]
    simp [Nat.add_comm]
  latest stored member alive := by
    rcases List.mem_append.mp member with old | new
    · exact absurd alive (idle stored old)
    · rw [List.mem_singleton.mp new, next]
      simp

end Succession
