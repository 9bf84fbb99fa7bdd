import Mathlib.Data.Set.Insert
import Aar.Lib.Guarded

/-! Loops that check each item, and loops that add items to a state while it stays consistent. -/

namespace Accumulation

open Guarded

variable {σ α β ε : Type}

/-- A loop of checks passes exactly when every check does. -/
theorem forM_ok {items : List α} {check : α → Except ε Unit} {passed : Unit} :
    items.forM check = .ok passed ↔ ∀ item ∈ items, check item = .ok () := by
  induction items with
  | nil => simp
  | cons item rest ih =>
    have split : (item :: rest).forM check = (check item >>= fun _ => rest.forM check) := rfl
    rw [split, bind_ok, List.forall_mem_cons]
    simp only [ih]
    constructor
    · rintro ⟨_, first, later⟩
      exact ⟨first, later⟩
    · rintro ⟨first, later⟩
      exact ⟨(), first, later⟩

/-- A loop that validates and keeps every item returns them all, when each of them is valid. -/
theorem mapM_ok {items : List α} {read : α → Except ε β} {value : α → β}
    (each : ∀ item ∈ items, read item = .ok (value item)) :
    items.mapM read = .ok (items.map value) := by
  induction items with
  | nil => rfl
  | cons item rest ih =>
    have later := ih fun other member => each other (List.mem_cons_of_mem _ member)
    rw [List.mapM_cons, each item List.mem_cons_self, later]
    rfl

/-- A loop whose every step leaves the state as it is leaves it as it is. -/
theorem foldlM_same {step : σ → α → Except ε σ} {state : σ} {inputs : List α}
    (each : ∀ input ∈ inputs, step state input = .ok state) :
    inputs.foldlM step state = .ok state := by
  induction inputs with
  | nil => rfl
  | cons input rest ih =>
    rw [List.foldlM_cons, each input List.mem_cons_self, ok_bind]
    exact ih fun other member => each other (List.mem_cons_of_mem _ member)

/-- A loop that checks each item and collects its name, and no name twice, has checked all items and
collected all their names. -/
theorem foldlM_collects {κ : Type} {name : α → κ} {step : List κ → α → Except ε (List κ)}
    {fits : α → Prop} {inputs : List α} {seen after : List κ}
    (each : ∀ input ∈ inputs, ∀ seen after, step seen input = .ok after ↔
      fits input ∧ name input ∉ seen ∧ after = name input :: seen) :
    inputs.foldlM step seen = .ok after ↔ (∀ input ∈ inputs, fits input) ∧
      (inputs.map name).Nodup ∧ (∀ input ∈ inputs, name input ∉ seen) ∧
      after = (inputs.map name).reverse ++ seen := by
  induction inputs generalizing seen with
  | nil =>
    rw [List.foldlM_nil, pure_ok]
    simp [eq_comm]
  | cons input rest ih =>
    have later := fun {seen : List κ} =>
      @ih seen fun other member => each other (List.mem_cons_of_mem _ member)
    simp only [List.foldlM_cons, bind_ok, each input List.mem_cons_self, later]
    constructor
    · rintro ⟨_, ⟨first, new, rfl⟩, fit, distinct, apart, rfl⟩
      refine ⟨List.forall_mem_cons.mpr ⟨first, fit⟩, ?_, ?_, by simp⟩
      · refine List.nodup_cons.mpr ⟨fun again => ?_, distinct⟩
        obtain ⟨other, member, same⟩ := List.mem_map.mp again
        exact apart other member (same ▸ List.mem_cons_self)
      · exact List.forall_mem_cons.mpr
          ⟨new, fun other member hit => apart other member (List.mem_cons_of_mem _ hit)⟩
    · rintro ⟨fit, distinct, apart, rfl⟩
      obtain ⟨first, fit⟩ := List.forall_mem_cons.mp fit
      obtain ⟨new, apart⟩ := List.forall_mem_cons.mp apart
      obtain ⟨once, distinct⟩ := List.nodup_cons.mp distinct
      refine ⟨_, ⟨first, new, rfl⟩, fit, distinct, fun other member hit => ?_, by simp⟩
      rcases List.mem_cons.mp hit with same | before
      · exact once (same ▸ List.mem_map_of_mem member)
      · exact apart other member before

/-- The items of a list, as a set of what they stand for. -/
def listed (item : α → β) (inputs : List α) : Set β :=
  {value | ∃ input ∈ inputs, item input = value}

@[simp] theorem listed_nil {item : α → β} : listed item [] = ∅ := by
  simp [listed]

theorem listed_cons {item : α → β} {input : α} {rest : List α} :
    listed item (input :: rest) = insert (item input) (listed item rest) := by
  ext value
  simp [listed, eq_comm]

/-- The items of a list with one more at its end. -/
theorem listed_append {item : α → β} {inputs : List α} {last : α} :
    listed item (inputs ++ [last]) = insert (item last) (listed item inputs) := by
  ext value
  simp [listed, or_and_right, exists_or, or_comm, eq_comm]

/-- A step that adds one item to what a state holds, as long as that stays consistent. -/
structure Adds (step : σ → α → Except ε σ) (sound : σ → Prop) (admissible : α → Prop)
    (content : σ → Set β) (item : α → β) (consistent : Set β → Prop) : Prop where
  antitone : ∀ {small large}, small ⊆ large → consistent large → consistent small
  succeeds : ∀ {state input}, sound state → admissible input → consistent (content state) →
    ((∃ after, step state input = .ok after) ↔ consistent (insert (item input) (content state)))
  adds : ∀ {state input after}, sound state → admissible input →
    step state input = .ok after →
      sound after ∧ content after = insert (item input) (content state)

variable {step : σ → α → Except ε σ} {sound : σ → Prop} {admissible : α → Prop}
  {content : σ → Set β} {item : α → β} {consistent : Set β → Prop}

/-- A loop of additions ends with everything added. -/
theorem Adds.fold_adds (adding : Adds step sound admissible content item consistent)
    {inputs : List α} (allowed : ∀ input ∈ inputs, admissible input) {state after : σ}
    (holding : sound state) (folded : inputs.foldlM step state = .ok after) :
    sound after ∧ content after = content state ∪ listed item inputs := by
  induction inputs generalizing state with
  | nil =>
    cases folded
    exact ⟨holding, by simp⟩
  | cons input rest ih =>
    simp only [List.foldlM_cons, bind_ok] at folded
    obtain ⟨next, stepped, later⟩ := folded
    obtain ⟨kept, grown⟩ := adding.adds holding (allowed input List.mem_cons_self) stepped
    obtain ⟨last, whole⟩ :=
      ih (fun other member => allowed other (List.mem_cons_of_mem _ member)) kept later
    refine ⟨last, ?_⟩
    rw [whole, grown, listed_cons, Set.insert_union, Set.union_insert]

/-- A loop of additions goes through exactly when all items together are consistent. -/
theorem Adds.fold_succeeds (adding : Adds step sound admissible content item consistent)
    {inputs : List α} (allowed : ∀ input ∈ inputs, admissible input) {state : σ}
    (holding : sound state) (lawful : consistent (content state)) :
    (∃ after, inputs.foldlM step state = .ok after) ↔
      consistent (content state ∪ listed item inputs) := by
  induction inputs generalizing state with
  | nil =>
    simp only [List.foldlM_nil, listed_nil, Set.union_empty]
    exact ⟨fun _ => lawful, fun _ => ⟨state, rfl⟩⟩
  | cons input rest ih =>
    have here := allowed input List.mem_cons_self
    have later : ∀ other ∈ rest, admissible other :=
      fun other member => allowed other (List.mem_cons_of_mem _ member)
    have whole : content state ∪ listed item (input :: rest) =
        insert (item input) (content state) ∪ listed item rest := by
      rw [listed_cons, Set.insert_union, Set.union_insert]
    rw [whole]
    simp only [List.foldlM_cons, bind_ok]
    constructor
    · rintro ⟨after, next, stepped, rest⟩
      obtain ⟨kept, grown⟩ := adding.adds holding here stepped
      have consistentNext := (adding.succeeds holding here lawful).mp ⟨next, stepped⟩
      have := (ih later kept (grown ▸ consistentNext)).mp ⟨after, rest⟩
      rwa [grown] at this
    · intro together
      -- The first item is consistent with the state, since all of them are.
      have first := adding.antitone Set.subset_union_left together
      obtain ⟨next, stepped⟩ := (adding.succeeds holding here lawful).mpr first
      obtain ⟨kept, grown⟩ := adding.adds holding here stepped
      obtain ⟨after, rest⟩ := (ih later kept (grown ▸ first)).mpr (grown ▸ together)
      exact ⟨after, next, stepped, rest⟩

end Accumulation
