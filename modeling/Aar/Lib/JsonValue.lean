import Aar.Lib.Utf8
import Mathlib.Data.List.Lex
import Mathlib.Data.List.Nodup
import Mathlib.Data.List.Perm.Subperm
import Mathlib.Data.List.Sort

/-! JSON values, when two of them are equal, and the form in which their keys are sorted. -/

namespace StrictJson

open Utf8

/-- A JSON value, an object being listed entry by entry. -/
inductive Value where
  | null
  | bool (flag : Bool)
  | int (number : Int)
  | str (text : Text)
  | arr (items : List Value)
  | obj (entries : List (Text × Value))

section Equality

mutual

/-- Two JSON values are equal, whatever the order of their keys. -/
def Value.Same : Value → Value → Prop
  | .null, .null => True
  | .bool left, .bool right => left = right
  | .int left, .int right => left = right
  | .str left, .str right => left = right
  | .arr left, .arr right => SameItems left right
  | .obj left, .obj right => left.length = right.length ∧ SameEntries left right
  | _, _ => False

/-- Two arrays hold equal items in the same places. -/
def SameItems : List Value → List Value → Prop
  | [], [] => True
  | left :: leftRest, right :: rightRest => left.Same right ∧ SameItems leftRest rightRest
  | _, _ => False

/-- Every entry of an object has an equal value under its key in another one. -/
def SameEntries : List (Text × Value) → List (Text × Value) → Prop
  | [], _ => True
  | (key, left) :: rest, right =>
    (∃ value, (key, value) ∈ right ∧ left.Same value) ∧ SameEntries rest right

end

mutual

/-- No object of a value has a key twice. -/
def Value.Distinct : Value → Prop
  | .null | .bool _ | .int _ | .str _ => True
  | .arr items => DistinctItems items
  | .obj entries => (entries.map Prod.fst).Nodup ∧ DistinctEntries entries

/-- No object within an array has a key twice. -/
def DistinctItems : List Value → Prop
  | [] => True
  | item :: rest => item.Distinct ∧ DistinctItems rest

/-- No object within an object's values has a key twice. -/
def DistinctEntries : List (Text × Value) → Prop
  | [] => True
  | (_, item) :: rest => item.Distinct ∧ DistinctEntries rest

end

mutual

/-- No string or key of a value has a surrogate. -/
def Value.Encodable : Value → Prop
  | .null | .bool _ | .int _ => True
  | .str text => Whole text
  | .arr items => EncodableItems items
  | .obj entries => EncodableEntries entries

/-- No string within an array has a surrogate. -/
def EncodableItems : List Value → Prop
  | [] => True
  | item :: rest => item.Encodable ∧ EncodableItems rest

/-- No key and no string within an object has a surrogate. -/
def EncodableEntries : List (Text × Value) → Prop
  | [] => True
  | (key, item) :: rest => Whole key ∧ item.Encodable ∧ EncodableEntries rest

end

/-- The values of an object are distinct in their keys one by one. -/
theorem distinctEntries_iff {entries : List (Text × Value)} :
    DistinctEntries entries ↔ ∀ entry ∈ entries, entry.2.Distinct := by
  induction entries with
  | nil => simp [DistinctEntries]
  | cons entry rest ih => simp [DistinctEntries, ih]

/-- The items of an array are encodable one by one. -/
theorem encodableItems_iff {items : List Value} :
    EncodableItems items ↔ ∀ item ∈ items, item.Encodable := by
  induction items with
  | nil => simp [EncodableItems]
  | cons item rest ih => simp [EncodableItems, ih]

/-- The entries of an object are encodable one by one. -/
theorem encodableEntries_iff {entries : List (Text × Value)} :
    EncodableEntries entries ↔ ∀ entry ∈ entries, Whole entry.1 ∧ entry.2.Encodable := by
  induction entries with
  | nil => simp [EncodableEntries]
  | cons entry rest ih => simp [EncodableEntries, ih, and_assoc]

/-- The entries of an object that are found in another one are found one by one. -/
theorem sameEntries_iff {left right : List (Text × Value)} :
    SameEntries left right ↔
      ∀ entry ∈ left, ∃ value, (entry.1, value) ∈ right ∧ entry.2.Same value := by
  induction left with
  | nil => simp [SameEntries]
  | cons entry rest ih =>
    obtain ⟨key, value⟩ := entry
    simp [SameEntries, ih]

end Equality

section Sorting

variable {β : Type} {entries first second : List (Text × β)}

/-- Entries in the order of their keys. -/
def sortEntries (entries : List (Text × β)) : List (Text × β) :=
  entries.insertionSort fun left right => left.1 ≤ right.1

theorem sortEntries_perm (entries : List (Text × β)) : (sortEntries entries).Perm entries :=
  List.perm_insertionSort _ _

@[simp] theorem mem_sortEntries {entry : Text × β} :
    entry ∈ sortEntries entries ↔ entry ∈ entries :=
  (sortEntries_perm entries).mem_iff

/-- Sorted entries are in the order of their keys. -/
theorem sortEntries_sorted (entries : List (Text × β)) :
    (sortEntries entries).Pairwise fun left right => left.1 ≤ right.1 := by
  have total : Std.Total fun left right : Text × β => left.1 ≤ right.1 :=
    ⟨fun left right => le_total left.1 right.1⟩
  have transitive : IsTrans (Text × β) fun left right => left.1 ≤ right.1 :=
    ⟨fun _ _ _ => le_trans⟩
  exact List.pairwise_insertionSort _ _

theorem sortEntries_of_sorted (sorted : entries.Pairwise fun left right => left.1 ≤ right.1) :
    sortEntries entries = entries :=
  List.Pairwise.insertionSort_eq sorted

@[simp] theorem sortEntries_idem (entries : List (Text × β)) :
    sortEntries (sortEntries entries) = sortEntries entries :=
  sortEntries_of_sorted (sortEntries_sorted entries)

theorem sortEntries_keys : ((sortEntries entries).map Prod.fst).Nodup ↔
    (entries.map Prod.fst).Nodup :=
  ((sortEntries_perm entries).map Prod.fst).nodup_iff

/-- The same entries under distinct keys have one order. -/
theorem sortEntries_eq_of_perm (keys : (first.map Prod.fst).Nodup) (same : first.Perm second) :
    sortEntries first = sortEntries second := by
  have alike : (sortEntries first).Perm (sortEntries second) :=
    ((sortEntries_perm first).trans same).trans (sortEntries_perm second).symm
  refine List.Perm.eq_of_pairwise ?_ (sortEntries_sorted first) (sortEntries_sorted second) alike
  intro left right inside there before after
  -- Two entries with the same key are one entry.
  have member : right ∈ sortEntries first := alike.mem_iff.mpr there
  exact List.inj_on_of_nodup_map (sortEntries_keys.mpr keys) inside member
    (le_antisymm before after)

/-- Sorting entries whose values are changed is changing sorted entries. -/
theorem sortEntries_map {γ : Type} (change : β → γ) (entries : List (Text × β)) :
    sortEntries (entries.map fun entry => (entry.1, change entry.2)) =
      (sortEntries entries).map fun entry => (entry.1, change entry.2) := by
  unfold sortEntries
  exact (List.map_insertionSort _ _ (fun entry : Text × β => (entry.1, change entry.2)) entries
    fun _ _ _ _ => Iff.rfl).symm

mutual

/-- A value with the keys of its objects in order. -/
def Value.sorted : Value → Value
  | .null => .null
  | .bool flag => .bool flag
  | .int number => .int number
  | .str text => .str text
  | .arr items => .arr (sortedItems items)
  | .obj entries => .obj (sortEntries (sortedEntries entries))

/-- The items of an array with the keys of their objects in order. -/
def sortedItems : List Value → List Value
  | [] => []
  | item :: rest => item.sorted :: sortedItems rest

/-- The entries of an object with the keys of their objects in order. -/
def sortedEntries : List (Text × Value) → List (Text × Value)
  | [] => []
  | (key, item) :: rest => (key, item.sorted) :: sortedEntries rest

end

/-- Every value of an object is sorted. -/
theorem sortedEntries_eq (entries : List (Text × Value)) :
    sortedEntries entries = entries.map fun entry => (entry.1, entry.2.sorted) := by
  induction entries with
  | nil => rfl
  | cons entry rest ih =>
    obtain ⟨key, item⟩ := entry
    rw [sortedEntries, ih, List.map_cons]

@[simp] theorem sortedEntries_keys (entries : List (Text × Value)) :
    (sortedEntries entries).map Prod.fst = entries.map Prod.fst := by
  rw [sortedEntries_eq, List.map_map]
  rfl

end Sorting

section Canonical

mutual

/-- Values that are equal have one sorted form. -/
theorem Value.Same.sorted_eq : ∀ {left right : Value}, left.Distinct → right.Distinct →
    left.Same right → left.sorted = right.sorted
  | .null, .null, _, _, _ => rfl
  | .bool _, .bool _, _, _, same => congrArg Value.bool same
  | .int _, .int _, _, _, same => congrArg Value.int same
  | .str _, .str _, _, _, same => congrArg Value.str same
  | .arr left, .arr right, one, other, same => by
    rw [Value.sorted, Value.sorted, SameItems.sorted_eq one other same]
  | .obj left, .obj right, one, other, same => by
    obtain ⟨length, same⟩ := same
    -- Each sorted entry is one of the other object, and both have as many.
    have inside := SameEntries.sorted_subset one.2 (distinctEntries_iff.mp other.2) same
    have keys : ((sortedEntries left).map Prod.fst).Nodup := by
      rw [sortedEntries_keys]
      exact one.1
    have alike : (sortedEntries left).Perm (sortedEntries right) := by
      refine (List.subperm_of_subset (List.Nodup.of_map _ keys) inside).perm_of_length_le ?_
      rw [sortedEntries_eq, sortedEntries_eq, List.length_map, List.length_map, length]
    rw [Value.sorted, Value.sorted, sortEntries_eq_of_perm keys alike]

/-- Arrays that are equal have one sorted form. -/
theorem SameItems.sorted_eq : ∀ {left right : List Value}, DistinctItems left →
    DistinctItems right → SameItems left right → sortedItems left = sortedItems right
  | [], [], _, _, _ => rfl
  | _ :: _, _ :: _, one, other, same => by
    rw [sortedItems, sortedItems, Value.Same.sorted_eq one.1 other.1 same.1,
      SameItems.sorted_eq one.2 other.2 same.2]

/-- The sorted entries of an object are among those of an equal one. -/
theorem SameEntries.sorted_subset : ∀ {left right : List (Text × Value)}, DistinctEntries left →
    (∀ entry ∈ right, entry.2.Distinct) → SameEntries left right →
      sortedEntries left ⊆ sortedEntries right
  | [], _, _, _, _ => List.nil_subset _
  | (key, item) :: rest, right, one, other, same => by
    obtain ⟨⟨value, member, equal⟩, later⟩ := same
    rw [sortedEntries, List.cons_subset]
    refine ⟨?_, SameEntries.sorted_subset one.2 other later⟩
    rw [Value.Same.sorted_eq one.1 (other _ member) equal, sortedEntries_eq]
    exact List.mem_map_of_mem (f := fun entry : Text × Value => (entry.1, entry.2.sorted)) member

end

mutual

/-- Values with one sorted form are equal. -/
theorem Value.same_of_sorted_eq : ∀ {left right : Value}, left.sorted = right.sorted →
    left.Same right
  | .null, right, equal => by cases right <;> simp_all [Value.sorted, Value.Same]
  | .bool _, right, equal => by cases right <;> simp_all [Value.sorted, Value.Same]
  | .int _, right, equal => by cases right <;> simp_all [Value.sorted, Value.Same]
  | .str _, right, equal => by cases right <;> simp_all [Value.sorted, Value.Same]
  | .arr left, right, equal => by
    cases right with
    | arr right =>
      rw [Value.sorted, Value.sorted] at equal
      exact sameItems_of_sorted_eq (Value.arr.inj equal)
    | null | bool _ | int _ | str _ | obj _ => simp [Value.sorted] at equal
  | .obj left, right, equal => by
    cases right with
    | obj right =>
      rw [Value.sorted, Value.sorted] at equal
      -- One order of the entries means that they are the same entries.
      have alike : (sortedEntries left).Perm (sortedEntries right) :=
        (sortEntries_perm _).symm.trans
          ((Value.obj.inj equal ▸ .refl _ :
            (sortEntries (sortedEntries left)).Perm (sortEntries (sortedEntries right))).trans
              (sortEntries_perm _))
      have length := alike.length_eq
      rw [sortedEntries_eq, sortedEntries_eq, List.length_map, List.length_map] at length
      exact ⟨length, sameEntries_of_sorted_subset alike.subset⟩
    | null | bool _ | int _ | str _ | arr _ => simp [Value.sorted] at equal

/-- Arrays with one sorted form are equal. -/
theorem sameItems_of_sorted_eq : ∀ {left right : List Value},
    sortedItems left = sortedItems right → SameItems left right
  | [], [], _ => trivial
  | [], _ :: _, equal => by simp [sortedItems] at equal
  | _ :: _, [], equal => by simp [sortedItems] at equal
  | left :: _, right :: _, equal => by
    rw [sortedItems, sortedItems] at equal
    obtain ⟨first, rest⟩ := List.cons.inj equal
    exact ⟨Value.same_of_sorted_eq first, sameItems_of_sorted_eq rest⟩

/-- An object whose sorted entries are those of another one has its entries. -/
theorem sameEntries_of_sorted_subset : ∀ {left right : List (Text × Value)},
    sortedEntries left ⊆ sortedEntries right → SameEntries left right
  | [], _, _ => trivial
  | (key, item) :: rest, right, inside => by
    rw [sortedEntries, List.cons_subset] at inside
    obtain ⟨member, later⟩ := inside
    refine ⟨?_, sameEntries_of_sorted_subset later⟩
    rw [sortedEntries_eq] at member
    obtain ⟨entry, there, same⟩ := List.mem_map.mp member
    obtain ⟨keys, values⟩ := Prod.mk.inj same
    exact ⟨entry.2, by rw [← keys]; exact there, Value.same_of_sorted_eq values.symm⟩

end

theorem same_iff_sorted {left right : Value} (one : left.Distinct) (other : right.Distinct) :
    left.Same right ↔ left.sorted = right.sorted :=
  ⟨Value.Same.sorted_eq one other, Value.same_of_sorted_eq⟩

theorem sortedEntries_sort (entries : List (Text × Value)) :
    sortedEntries (sortEntries entries) = sortEntries (sortedEntries entries) := by
  rw [sortedEntries_eq, sortedEntries_eq, sortEntries_map]

mutual

/-- A sorted value is its own sorted form. -/
theorem Value.sorted_idem : ∀ value : Value, value.sorted.sorted = value.sorted
  | .null | .bool _ | .int _ | .str _ => rfl
  | .arr items => by rw [Value.sorted, Value.sorted, sortedItems_idem items]
  | .obj entries => by
    rw [Value.sorted, Value.sorted, sortedEntries_sort, sortEntries_idem,
      sortedEntries_idem entries]

/-- Sorted items are their own sorted forms. -/
theorem sortedItems_idem : ∀ items : List Value,
    sortedItems (sortedItems items) = sortedItems items
  | [] => rfl
  | item :: rest => by
    rw [sortedItems, sortedItems, Value.sorted_idem item, sortedItems_idem rest]

/-- Sorted values of an object are their own sorted forms. -/
theorem sortedEntries_idem : ∀ entries : List (Text × Value),
    sortedEntries (sortedEntries entries) = sortedEntries entries
  | [] => rfl
  | (_, item) :: rest => by
    rw [sortedEntries, sortedEntries, Value.sorted_idem item, sortedEntries_idem rest]

end

mutual

/-- Sorting keeps the keys of every object distinct. -/
theorem Value.Distinct.sorted : ∀ {value : Value}, value.Distinct → value.sorted.Distinct
  | .null, _ | .bool _, _ | .int _, _ | .str _, _ => trivial
  | .arr items, distinct => @DistinctItems.sorted items distinct
  | .obj entries, distinct => by
    refine ⟨?_, ?_⟩
    · rw [sortEntries_keys, sortedEntries_keys]
      exact distinct.1
    · have each := distinctEntries_iff.mp (DistinctEntries.sorted distinct.2)
      exact distinctEntries_iff.mpr fun entry member => each entry (mem_sortEntries.mp member)

/-- Sorting keeps the keys of the objects of an array distinct. -/
theorem DistinctItems.sorted : ∀ {items : List Value}, DistinctItems items →
    DistinctItems (sortedItems items)
  | [], _ => trivial
  | _ :: _, distinct => ⟨Value.Distinct.sorted distinct.1, DistinctItems.sorted distinct.2⟩

/-- Sorting keeps the keys of the objects of an object distinct. -/
theorem DistinctEntries.sorted : ∀ {entries : List (Text × Value)}, DistinctEntries entries →
    DistinctEntries (sortedEntries entries)
  | [], _ => trivial
  | _ :: _, distinct => ⟨Value.Distinct.sorted distinct.1, DistinctEntries.sorted distinct.2⟩

end

mutual

/-- Sorting keeps every string. -/
theorem Value.encodable_sorted : ∀ value : Value, value.sorted.Encodable ↔ value.Encodable
  | .null | .bool _ | .int _ | .str _ => Iff.rfl
  | .arr items => encodable_sortedItems items
  | .obj entries => by
    rw [← encodable_sortedEntries_iff entries]
    show EncodableEntries (sortEntries (sortedEntries entries)) ↔ _
    rw [encodableEntries_iff, encodableEntries_iff]
    simp only [mem_sortEntries]

/-- Sorting keeps every string of an array. -/
theorem encodable_sortedItems : ∀ items : List Value,
    EncodableItems (sortedItems items) ↔ EncodableItems items
  | [] => Iff.rfl
  | item :: rest => and_congr (Value.encodable_sorted item) (encodable_sortedItems rest)

/-- Sorting the values of an object keeps every string. -/
theorem encodable_sortedEntries_iff : ∀ entries : List (Text × Value),
    EncodableEntries (sortedEntries entries) ↔ (Value.obj entries).Encodable
  | [] => Iff.rfl
  | (_, item) :: rest => and_congr Iff.rfl
      (and_congr (Value.encodable_sorted item) (encodable_sortedEntries_iff rest))

end

theorem Value.same_sorted (value : Value) : value.sorted.Same value :=
  Value.same_of_sorted_eq (Value.sorted_idem value)

end Canonical

end StrictJson
