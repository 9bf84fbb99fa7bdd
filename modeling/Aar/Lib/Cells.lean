import Aar.Lib.Keyed

/-! Tables read through their primary key: a statement on one key changes one cell of the table. -/

namespace Table

open Guarded

variable {ρ κ ε : Type} [DecidableEq κ] {key : ρ → κ} {rows : List ρ} {name other : κ}

/-- The row under a key. -/
def cell (key : ρ → κ) (rows : List ρ) (name : κ) : Option ρ :=
  fetchOne rows fun row => key row = name

/-- Rewrite the row under a key, if it passes a guard. -/
def patchCell (key : ρ → κ) (rows : List ρ) (name : κ) (guard : ρ → Prop) [DecidablePred guard]
    (change : ρ → ρ) : List ρ :=
  updateWhere rows (fun row => key row = name ∧ guard row) change

/-- Rewrite the row under a key, raising unless it is there and passes a guard. The key is primary,
so at most one row is rewritten. -/
def updateCell (key : ρ → κ) (rows : List ρ) (name : κ) (guard : ρ → Prop) [DecidablePred guard]
    (change : ρ → ρ) (error : ε) : Except ε (List ρ) := do
  require ((cell key rows name).any fun row => guard row) error
  return patchCell key rows name guard change

@[simp] theorem cell_nil : cell key [] name = none := rfl

theorem cell_some {row : ρ} (found : cell key rows name = some row) :
    row ∈ rows ∧ key row = name :=
  fetchOne_some found

theorem cell_cons {row : ρ} :
    cell key (row :: rows) name = if key row = name then some row else cell key rows name := by
  by_cases here : key row = name <;> simp [cell, fetchOne, here]

/-- A rewrite under one key changes that cell and no other. -/
theorem cell_patchCell {guard : ρ → Prop} [DecidablePred guard] {change : ρ → ρ}
    (kept : ∀ row, key (change row) = key row) :
    cell key (patchCell key rows name guard change) other =
      if other = name then (cell key rows name).map fun row => if guard row then change row else row
      else cell key rows other := by
  induction rows with
  | nil => simp [cell, patchCell, updateWhere, fetchOne]
  | cons row rest ih =>
    have first : patchCell key (row :: rest) name guard change =
        (if key row = name ∧ guard row then change row else row) ::
          patchCell key rest name guard change := rfl
    -- Rewriting a row keeps its key, so the same row is found first.
    have same : key (if key row = name ∧ guard row then change row else row) = key row := by
      split
      · exact kept row
      · rfl
    rw [first, cell_cons, cell_cons, cell_cons, same, ih]
    by_cases named : other = name
    · subst named
      by_cases here : key row = other <;> by_cases passes : guard row <;> simp [here, passes]
    · by_cases here : key row = other
      · simp [named, here]
      · simp [named, here]

/-- Every row stays in its place, as a row it is related to. -/
def InPlace (related : ρ → ρ → Prop) (rows rows' : List ρ) : Prop :=
  rows'.length = rows.length ∧
    ∀ (index : Nat) (row : ρ), rows[index]? = some row →
      ∃ row', rows'[index]? = some row' ∧ related row row'

theorem InPlace.refl {related : ρ → ρ → Prop} (same : ∀ row, related row row) (rows : List ρ) :
    InPlace related rows rows :=
  ⟨rfl, fun _ row found => ⟨row, found, same row⟩⟩

/-- A row of the later table was a row it is related to. -/
theorem InPlace.back {related : ρ → ρ → Prop} {rows' : List ρ} {index : Nat} {row' : ρ}
    (stays : InPlace related rows rows') (found : rows'[index]? = some row') :
    ∃ row, rows[index]? = some row ∧ related row row' := by
  have within : index < rows.length := by
    rw [← stays.1]
    exact (List.getElem?_eq_some_iff.mp found).1
  obtain ⟨other, there, holds⟩ := stays.2 index _ (List.getElem?_eq_getElem within)
  cases found.symm.trans there
  exact ⟨_, List.getElem?_eq_getElem within, holds⟩

/-- A patch leaves every row in its place, when the rows it changes are related to their images. -/
theorem InPlace.patch {related : ρ → ρ → Prop} {guard : ρ → Prop} [DecidablePred guard]
    {change : ρ → ρ} (same : ∀ row, related row row)
    (changed : ∀ row ∈ rows, key row = name → guard row → related row (change row)) :
    InPlace related rows (patchCell key rows name guard change) := by
  refine ⟨by simp [patchCell, updateWhere], fun index row found => ?_⟩
  refine ⟨if key row = name ∧ guard row then change row else row, ?_, ?_⟩
  · simp only [patchCell, updateWhere, List.getElem?_map, found, Option.map_some]
  split
  · next hit => exact changed row (List.mem_of_getElem? found) hit.1 hit.2
  · exact same row

/-- One cell goes from one row to another, and every other cell stays. -/
structure Rewrites (key : ρ → κ) (name : κ) (row row' : ρ) (rows rows' : List ρ) : Prop where
  found : cell key rows name = some row
  cells : ∀ other, cell key rows' other = if other = name then some row' else cell key rows other

theorem Rewrites.here {row row' : ρ} (rewrites : Rewrites key name row row' rows rows') :
    cell key rows' name = some row' := by
  rw [rewrites.cells name, if_pos rfl]

/-- A row after a rewrite is the rewritten one, or it was there under another key. -/
theorem Rewrites.origin {row row' later : ρ} (rewrites : Rewrites key name row row' rows rows')
    (found : cell key rows' other = some later) :
    (other = name ∧ later = row') ∨ (other ≠ name ∧ cell key rows other = some later) := by
  rw [rewrites.cells other] at found
  by_cases here : other = name
  · rw [if_pos here] at found
    cases found
    exact .inl ⟨here, rfl⟩
  · rw [if_neg here] at found
    exact .inr ⟨here, found⟩

/-- A patch rewrites the cell when the stored row passes the guard, and leaves it otherwise. -/
theorem patch_rewrites {row : ρ} (guard : ρ → Prop) [DecidablePred guard] (change : ρ → ρ)
    (kept : ∀ row, key (change row) = key row) (found : cell key rows name = some row) :
    Rewrites key name row (if guard row then change row else row) rows
      (patchCell key rows name guard change) where
  found := found
  cells other := by
    rw [cell_patchCell kept, found]
    rfl

/-- A guarded rewrite succeeds exactly when the row is there and passes. -/
theorem updateCell_ok {guard : ρ → Prop} [DecidablePred guard] {change : ρ → ρ} {error : ε}
    {rows' : List ρ} : updateCell key rows name guard change error = .ok rows' ↔
      (∃ row, cell key rows name = some row ∧ guard row) ∧
        patchCell key rows name guard change = rows' := by
  simp [updateCell, Option.any_eq_true]

/-- A guarded rewrite that succeeds rewrites a row that passed the guard. -/
theorem update_rewrites {guard : ρ → Prop} [DecidablePred guard] {change : ρ → ρ} {error : ε}
    {rows' : List ρ} (updated : updateCell key rows name guard change error = .ok rows')
    (kept : ∀ row, key (change row) = key row) :
    ∃ row, guard row ∧ Rewrites key name row (change row) rows rows' := by
  obtain ⟨⟨row, found, passes⟩, rfl⟩ := updateCell_ok.mp updated
  have rewrites := patch_rewrites guard change kept found
  rw [if_pos passes] at rewrites
  exact ⟨row, passes, rewrites⟩

/-- Adding a row fills its cell, unless the cell was filled already. -/
theorem cell_append {row : ρ} :
    cell key (rows ++ [row]) other =
      (cell key rows other).or (if key row = other then some row else none) := by
  simp only [cell, fetchOne, List.find?_append, List.find?_cons, List.find?_nil]
  by_cases here : key row = other <;> simp [here]

section Keeping

variable {related : ρ → ρ → Prop} {rows' rows'' : List ρ} {row row' : ρ}

/-- Every row of the earlier table is still there, as a row it is related to. -/
def Kept (key : ρ → κ) (related : ρ → ρ → Prop) (rows rows' : List ρ) : Prop :=
  ∀ name row, cell key rows name = some row →
    ∃ row', cell key rows' name = some row' ∧ related row row'

theorem Kept.refl (same : ∀ row, related row row) : Kept key related rows rows :=
  fun _ row found => ⟨row, found, same row⟩

/-- Rows that are kept over two stretches are kept over both. -/
theorem Kept.trans (compose : ∀ {first second third}, related first second →
      related second third → related first third)
    (left : Kept key related rows rows') (right : Kept key related rows' rows'') :
    Kept key related rows rows'' := by
  intro name row found
  obtain ⟨between, there, earlier⟩ := left name row found
  obtain ⟨last, here, later⟩ := right name between there
  exact ⟨last, here, compose earlier later⟩

/-- A rewrite of one cell keeps the rows when the cell keeps its own. -/
theorem Rewrites.kept (rewrites : Rewrites key name row row' rows rows')
    (same : ∀ row, related row row) (later : related row row') : Kept key related rows rows' := by
  intro other old found
  rw [rewrites.cells other]
  by_cases here : other = name
  · subst here
    cases rewrites.found.symm.trans found
    exact ⟨row', if_pos rfl, later⟩
  · exact ⟨old, by rw [if_neg here, found], same old⟩

theorem Kept.append (same : ∀ row, related row row) :
    Kept key related rows (rows ++ [row]) := by
  intro other old found
  exact ⟨old, by rw [cell_append, found]; rfl, same old⟩

/-- A missing cell was missing before. -/
theorem Kept.missing (kept : Kept key related rows rows') (absent : cell key rows' name = none) :
    cell key rows name = none := by
  cases found : cell key rows name with
  | none => rfl
  | some row =>
    obtain ⟨row', there, -⟩ := kept name row found
    cases absent.symm.trans there

end Keeping

section Replacing

variable {row row' : ρ} {rows' : List ρ}

/-- A cell under a unique key splits the table around its row. -/
theorem Keyed.split (keyed : Keyed key rows) (found : cell key rows name = some row) :
    key row = name ∧ ∃ before after, rows = before ++ row :: after ∧
      ∀ other ∈ before ++ after, key other ≠ key row := by
  obtain ⟨member, named⟩ := cell_some found
  obtain ⟨before, after, rfl⟩ := List.append_of_mem member
  refine ⟨named, before, after, rfl, fun other there same => ?_⟩
  simp only [Keyed, List.map_append, List.map_cons] at keyed
  have distinct := (List.nodup_middle.mp keyed).notMem
  rw [← List.map_append] at distinct
  exact distinct (same ▸ List.mem_map_of_mem there)

/-- A patch under a unique key replaces its row. -/
theorem patch_replaces (guard : ρ → Prop) [DecidablePred guard] (change : ρ → ρ)
    (kept : ∀ row, key (change row) = key row) (keyed : Keyed key rows)
    (found : cell key rows name = some row) :
    Replaces key row (if guard row then change row else row) rows
      (patchCell key rows name guard change) := by
  obtain ⟨named, before, after, rfl, apart⟩ := keyed.split found
  have same : key (if guard row then change row else row) = key row := by
    split
    · exact kept row
    · rfl
  -- The rows before and after it have other keys, so the patch skips them.
  have skips : ∀ others : List ρ, (∀ other ∈ others, key other ≠ key row) →
      others.map (fun other => if key other = name ∧ guard other then change other else other) =
        others := by
    intro others elsewhere
    refine (List.map_congr_left fun other there => ?_).trans (List.map_id others)
    exact if_neg fun hit => elsewhere other there (hit.1.trans named.symm)
  have patched : patchCell key (before ++ row :: after) name guard change =
      before ++ (if guard row then change row else row) :: after := by
    have left := skips before fun other there => apart other (List.mem_append_left _ there)
    have right := skips after fun other there => apart other (List.mem_append_right _ there)
    rw [patchCell, updateWhere, List.map_append, List.map_cons, left, right]
    simp [named]
  rw [patched]
  exact .intro before after apart same

/-- A guarded update under a unique key replaces a row that passed the guard. -/
theorem update_replaces {guard : ρ → Prop} [DecidablePred guard] {change : ρ → ρ} {error : ε}
    (updated : updateCell key rows name guard change error = .ok rows') (keyed : Keyed key rows)
    (kept : ∀ row, key (change row) = key row) :
    ∃ row, cell key rows name = some row ∧ guard row ∧ Replaces key row (change row) rows rows' := by
  obtain ⟨⟨row, found, passes⟩, rfl⟩ := updateCell_ok.mp updated
  have replaces := patch_replaces guard change kept keyed found
  rw [if_pos passes] at replaces
  exact ⟨row, found, passes, replaces⟩

end Replacing

end Table
