import Mathlib.Data.List.Basic
import Mathlib.Logic.Relation
import Mathlib.Tactic.Common

/-! Relations whose steps lower a rank: where steps lead to finitely many places, those without a
cycle. -/

namespace Ranked

universe u

variable {α : Type u} {step : α → α → Prop}

/-- Every step lowers the rank. -/
def LowersRank (step : α → α → Prop) (rank : α → Nat) : Prop :=
  ∀ here there, step here there → rank there < rank here

/-- Some rank is lowered by every step. -/
def HasRank (step : α → α → Prop) : Prop := ∃ rank, LowersRank step rank

/-- No place leads back to itself. -/
def Acyclic (step : α → α → Prop) : Prop := ∀ here, ¬ Relation.TransGen step here here

/-- Several steps lower the rank as well. -/
theorem LowersRank.along {rank : α → Nat} (lowers : LowersRank step rank) {here there : α}
    (steps : Relation.TransGen step here there) : rank there < rank here := by
  induction steps with
  | single one => exact lowers _ _ one
  | tail _ last ih => exact Nat.lt_trans (lowers _ _ last) ih

theorem HasRank.acyclic (ranked : HasRank step) : Acyclic step := by
  obtain ⟨rank, lowers⟩ := ranked
  intro here cycle
  exact Nat.lt_irrefl _ (lowers.along cycle)

open Classical in
/-- The number of listed places that a place leads to. -/
noncomputable def reach (step : α → α → Prop) (places : List α) (here : α) : Nat :=
  (places.filter fun there => Relation.TransGen step here there).length

open Classical in
/-- A step to a listed place reaches fewer places when there is no cycle. -/
theorem reach_lt {places : List α} (acyclic : Acyclic step) {here there : α}
    (one : step here there) (listed : there ∈ places) :
    reach step places there < reach step places here := by
  have further : ∀ place, Relation.TransGen step there place → Relation.TransGen step here place :=
    fun _ steps => .head one steps
  unfold reach
  -- The place itself is reached before the step, and not after it.
  induction places with
  | nil => cases listed
  | cons place rest ih =>
    have kept : (rest.filter fun place => Relation.TransGen step there place).length ≤
        (rest.filter fun place => Relation.TransGen step here place).length := by
      refine List.Sublist.length_le (List.monotone_filter_right rest fun place after => ?_)
      simpa using further place (by simpa using after)
    by_cases same : there = place
    · subst same
      rw [List.filter_cons_of_neg (by simpa using acyclic there),
        List.filter_cons_of_pos (by simpa using Relation.TransGen.single one), List.length_cons]
      exact Nat.lt_succ_of_le kept
    · have later := ih ((List.mem_cons.mp listed).resolve_left same)
      by_cases after : Relation.TransGen step there place
      · rw [List.filter_cons_of_pos (by simpa using after),
          List.filter_cons_of_pos (by simpa using further place after), List.length_cons,
          List.length_cons]
        exact Nat.succ_lt_succ later
      · rw [List.filter_cons_of_neg (by simpa using after)]
        refine Nat.lt_of_lt_of_le later (List.Sublist.length_le ?_)
        exact (List.sublist_cons_self place rest).filter _

/-- Where steps lead to listed places only, having no cycle is having a rank. -/
theorem acyclic_iff {places : List α} (listed : ∀ here there, step here there → there ∈ places) :
    Acyclic step ↔ HasRank step := by
  constructor
  · intro acyclic
    exact ⟨reach step places, fun here there one => reach_lt acyclic one (listed here there one)⟩
  · exact HasRank.acyclic

end Ranked
