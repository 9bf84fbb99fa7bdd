import Mathlib.Data.List.Basic
import Mathlib.Data.List.Infix

/-! Scripts: what is asked for next depends on the steps so far, and every step fulfils it. -/

namespace Scripts

variable {α β : Type} {next : List α → Option β} {fulfils : Nat → β → α → Prop}
  {steps longer : List α} {step : α} {ask : β}

/-- Every step fulfils what the script asks for after the steps before it. -/
def Follows (next : List α → Option β) (fulfils : Nat → β → α → Prop) (steps : List α) : Prop :=
  ∀ index step, steps[index]? = some step →
    ∃ ask, next (steps.take index) = some ask ∧ fulfils index ask step

theorem Follows.nil : Follows next fulfils [] := by
  intro index step found
  simp at found

/-- Steps go on to follow a script when the next one fulfils what is asked for. -/
theorem Follows.snoc (follows : Follows next fulfils steps) (asked : next steps = some ask)
    (fulfilled : fulfils steps.length ask step) : Follows next fulfils (steps ++ [step]) := by
  intro index other found
  rcases Nat.lt_trichotomy index steps.length with before | rfl | beyond
  · rw [List.getElem?_append_left before] at found
    obtain ⟨earlier, asks, holds⟩ := follows index other found
    exact ⟨earlier, by rw [List.take_append_of_le_length (by omega), asks], holds⟩
  · rw [List.getElem?_concat_length] at found
    cases found
    exact ⟨ask, by rw [List.take_left, asked], fulfilled⟩
  · have bound : steps.length + 1 ≤ index := beyond
    rw [List.getElem?_eq_none (by simpa using bound)] at found
    cases found

/-- What fulfils an ask may be replaced by what it implies. -/
theorem Follows.imp {fulfils' : Nat → β → α → Prop} (follows : Follows next fulfils steps)
    (implies : ∀ index ask step, fulfils index ask step → fulfils' index ask step) :
    Follows next fulfils' steps := by
  intro index step found
  obtain ⟨ask, asked, holds⟩ := follows index step found
  exact ⟨ask, asked, implies index ask step holds⟩

/-- A first part of the steps that lacks one is followed by what the script asks for there. -/
theorem Follows.asked (follows : Follows next fulfils longer) (first : steps <+: longer)
    (shorter : steps.length < longer.length) :
    ∃ ask step, longer[steps.length]? = some step ∧ next steps = some ask ∧
      fulfils steps.length ask step := by
  have found : longer[steps.length]? = some longer[steps.length] :=
    List.getElem?_eq_getElem shorter
  obtain ⟨ask, asked, holds⟩ := follows _ _ found
  refine ⟨ask, _, found, ?_, holds⟩
  rw [← asked, ← List.prefix_iff_eq_take.mp first]

/-- A first part after which nothing is asked for is all there is. -/
theorem Follows.finished (follows : Follows next fulfils longer) (first : steps <+: longer)
    (ended : next steps = none) : steps = longer := by
  by_contra apart
  have shorter : steps.length < longer.length :=
    Nat.lt_of_le_of_ne first.length_le fun same => apart (first.eq_of_length same)
  obtain ⟨ask, -, -, asked, -⟩ := follows.asked first shorter
  cases ended.symm.trans asked

/-- When every ask is fulfilled in one way only, two lists of steps agree as far as both go. -/
theorem Follows.agrees {left right : List α}
    (unique : ∀ index ask first second, fulfils index ask first → fulfils index ask second →
      first = second)
    (follows : Follows next fulfils left) (follows' : Follows next fulfils right)
    {count : Nat} (within : count ≤ left.length) (within' : count ≤ right.length) :
    left.take count = right.take count := by
  induction count with
  | zero => simp
  | succ count ih =>
    have same := ih (by omega) (by omega)
    -- Both lists have fulfilled the same ask after the same steps.
    obtain ⟨ask, asked, holds⟩ := follows count left[count] (List.getElem?_eq_getElem within)
    obtain ⟨ask', asked', holds'⟩ := follows' count right[count] (List.getElem?_eq_getElem within')
    rw [same, asked'] at asked
    cases asked
    rw [List.take_add_one, List.take_add_one, same, List.getElem?_eq_getElem within,
      List.getElem?_eq_getElem within', unique _ _ _ _ holds holds']

/-- When every ask is fulfilled in one way only, a script has one finished list of steps. -/
theorem Follows.unique {left right : List α}
    (unique : ∀ index ask first second, fulfils index ask first → fulfils index ask second →
      first = second)
    (follows : Follows next fulfils left) (follows' : Follows next fulfils right)
    (ended : next left = none) (ended' : next right = none) : left = right := by
  rcases Nat.le_total left.length right.length with shorter | shorter
  · have same := follows.agrees unique follows' le_rfl shorter
    rw [List.take_length] at same
    exact follows'.finished (List.prefix_iff_eq_take.mpr same) ended
  · have same := follows.agrees unique follows' shorter le_rfl
    rw [List.take_length] at same
    exact (follows.finished (List.prefix_iff_eq_take.mpr same.symm) ended').symm

end Scripts
