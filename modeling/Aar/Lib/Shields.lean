import Mathlib.Data.List.Basic
import Mathlib.Tactic.Common

/-! Lists of which some items raise and others refuse, and which come first. -/

section Shields

universe u

variable {α : Type u} {raises refuses : α → Prop} {item : α} {list : List α}

/-- Whatever raises in a list comes after something that refuses. -/
def Shielded (raises refuses : α → Prop) (list : List α) : Prop :=
  ∀ before item after, list = before ++ item :: after → raises item →
    ∃ earlier ∈ before, refuses earlier

/-- The first item may not raise, and it shields the others if it refuses. -/
theorem shielded_cons : Shielded raises refuses (item :: list) ↔
    ¬ raises item ∧ (refuses item ∨ Shielded raises refuses list) := by
  constructor
  · intro shielded
    refine ⟨fun raised => ?_, or_iff_not_imp_left.mpr fun passed before other after split => ?_⟩
    · obtain ⟨_, member, -⟩ := shielded [] item list rfl raised
      cases member
    · intro raised
      obtain ⟨earlier, member, refused⟩ :=
        shielded (item :: before) other after (congrArg (item :: ·) split) raised
      rcases List.mem_cons.mp member with rfl | member
      · exact absurd refused passed
      · exact ⟨earlier, member, refused⟩
  · rintro ⟨quiet, shield⟩ before other after split raised
    cases before with
    | nil =>
      cases split
      exact absurd raised quiet
    | cons first before =>
      cases split
      rcases shield with refused | shielded
      · exact ⟨_, List.mem_cons_self, refused⟩
      · obtain ⟨earlier, member, refused⟩ := shielded before other after rfl raised
        exact ⟨earlier, List.mem_cons_of_mem _ member, refused⟩

theorem shielded_of_quiet (quiet : ∀ item ∈ list, ¬ raises item) :
    Shielded raises refuses list := by
  rintro before item after rfl raised
  exact absurd raised (quiet item (by simp))

end Shields
