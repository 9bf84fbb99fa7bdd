import Mathlib.Data.List.Sort
import Mathlib.Order.Basic

/-! Lists sorted by a key, and lists that are sorted without a repetition. -/

namespace Sorting

variable {α κ : Type} [LinearOrder κ] {key : α → κ} {items left right : List α} {item : α}

/-- `sorted` with a key: equal keys stay in the order that they had. -/
def sortedBy (key : α → κ) (items : List α) : List α :=
  items.insertionSort fun left right => key left ≤ key right

/-- Keys that are sorted and without a repetition. -/
def SortedUnique (keys : List κ) : Prop := keys.Pairwise (· < ·)

instance (keys : List κ) : Decidable (SortedUnique keys) :=
  inferInstanceAs (Decidable (keys.Pairwise (· < ·)))

@[simp] theorem mem_sortedBy : item ∈ sortedBy key items ↔ item ∈ items :=
  List.mem_insertionSort _

theorem sortedBy_perm : (sortedBy key items).Perm items := List.perm_insertionSort _ items

/-- Items with different keys are sorted into an order without a repetition. -/
theorem sortedUnique_sortedBy (distinct : (items.map key).Nodup) :
    SortedUnique ((sortedBy key items).map key) := by
  have : Std.Total fun left right : α => key left ≤ key right := ⟨fun _ _ => le_total _ _⟩
  have : IsTrans α fun left right => key left ≤ key right := ⟨fun _ _ _ => le_trans⟩
  have sorted := List.pairwise_insertionSort (fun left right : α => key left ≤ key right) items
  have apart : ((sortedBy key items).map key).Nodup :=
    ((sortedBy_perm.map key).nodup_iff).mpr distinct
  -- What is in order and different is strictly in order.
  exact (List.pairwise_map.mpr sorted).imp₂
    (fun _ _ less different => lt_of_le_of_ne less different) apart

theorem SortedUnique.nodup {keys : List κ} (sorted : SortedUnique keys) : keys.Nodup :=
  sorted.imp fun less => ne_of_lt less

/-- Two lists that are sorted by unique keys and have the same members are one list. -/
theorem sortedUnique_ext (first : SortedUnique (left.map key))
    (second : SortedUnique (right.map key)) (same : ∀ item, item ∈ left ↔ item ∈ right) :
    left = right := by
  have alike : left.Perm right := (List.perm_ext_iff_of_nodup (List.Nodup.of_map _ first.nodup)
    (List.Nodup.of_map _ second.nodup)).mpr same
  exact List.Perm.eq_of_pairwise (fun _ _ _ _ less more => absurd less (lt_asymm more))
    (List.pairwise_map.mp first) (List.pairwise_map.mp second) alike

theorem sortedBy_sorted (sorted : SortedUnique (items.map key)) : sortedBy key items = items :=
  sortedUnique_ext (sortedUnique_sortedBy sorted.nodup) sorted fun _ => mem_sortedBy

end Sorting
