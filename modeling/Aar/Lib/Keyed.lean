import Mathlib.Data.List.Nodup
import Aar.Lib.Table

/-! Tables that gain rows under new keys and replace rows under their keys. -/

namespace Table

variable {ρ κ : Type} {key : ρ → κ} {rows rows' rows'' : List ρ} {row : ρ}

/-- The table stays as it is, or gains one row under a new key. -/
inductive Appended (key : ρ → κ) (rows : List ρ) : List ρ → Prop where
  | same : Appended key rows rows
  | added (row : ρ) (fresh : ∀ stored ∈ rows, key stored ≠ key row) :
      Appended key rows (rows ++ [row])

/-- No two rows share a key. -/
def Keyed (key : ρ → κ) (rows : List ρ) : Prop := (rows.map key).Nodup

theorem Keyed.nil : Keyed key [] := List.nodup_nil

theorem Appended.keeps (appended : Appended key rows rows') (member : row ∈ rows) :
    row ∈ rows' := by
  cases appended with
  | same => exact member
  | added => exact List.mem_append_left _ member

/-- Adding a row under a new key leaves every key unique. -/
theorem Keyed.append (keyed : Keyed key rows) (appended : Appended key rows rows') :
    Keyed key rows' := by
  cases appended with
  | same => exact keyed
  | added row fresh =>
    -- The new key is none of the stored ones, which were distinct already.
    have apart : key row ∉ rows.map key := by
      intro stored
      obtain ⟨other, member, same⟩ := List.mem_map.mp stored
      exact fresh other member same
    simp only [Keyed, List.map_append, List.map_cons, List.map_nil]
    exact List.nodup_append.mpr ⟨keyed, by simp, by
      intro value listed other new same
      rw [List.mem_singleton.mp new] at same
      exact apart (same ▸ listed)⟩

theorem Keyed.unique (keyed : Keyed key rows) {other : ρ} (member : row ∈ rows)
    (stored : other ∈ rows) (same : key row = key other) : row = other :=
  List.inj_on_of_nodup_map keyed member stored same

/-- A table with a row has several exactly when it has a row under another key. -/
theorem Keyed.several (keyed : Keyed key rows) (member : row ∈ rows) :
    1 < rows.length ↔ ∃ other ∈ rows, key other ≠ key row := by
  rcases rows with _ | ⟨first, _ | ⟨second, rest⟩⟩
  · cases member
  · -- The only row has its own key.
    obtain rfl := List.mem_singleton.mp member
    simp
  · have apart : key first ≠ key second := by
      simp only [Keyed, List.map_cons, List.nodup_cons, List.mem_cons, not_or] at keyed
      exact keyed.1.1
    refine ⟨fun _ => ?_, fun _ => by simp⟩
    by_cases same : key first = key row
    · exact ⟨second, by simp, fun equal => apart (same.trans equal.symm)⟩
    · exact ⟨first, by simp, same⟩

/-- The row found under a stored row's key is that row. -/
theorem Keyed.fetch [DecidableEq κ] (keyed : Keyed key rows) (member : row ∈ rows) :
    fetchOne rows (fun stored => key stored = key row) = some row := by
  cases found : fetchOne rows (fun stored => key stored = key row) with
  | none => exact absurd rfl (fetchOne_none.mp found row member)
  | some other =>
    obtain ⟨stored, same⟩ := fetchOne_some found
    rw [keyed.unique stored member same]

/-- A value fetches the row that has it as its key. -/
theorem Keyed.fetch_iff [DecidableEq κ] (keyed : Keyed key rows) {value : κ} :
    fetchOne rows (fun stored => key stored = value) = some row ↔ row ∈ rows ∧ key row = value := by
  constructor
  · exact fetchOne_some
  · rintro ⟨member, same⟩
    subst same
    exact keyed.fetch member

section Replacing

variable {row' : ρ}

/-- The only row under a key is replaced by another row under that key. -/
inductive Replaces (key : ρ → κ) (row row' : ρ) : List ρ → List ρ → Prop where
  | intro (before after : List ρ) (apart : ∀ other ∈ before ++ after, key other ≠ key row)
      (same : key row' = key row) :
      Replaces key row row' (before ++ row :: after) (before ++ row' :: after)

theorem Replaces.named (replaces : Replaces key row row' rows rows') : key row' = key row := by
  cases replaces with
  | intro _ _ _ same => exact same

/-- A column that the row keeps stays as it is. -/
theorem Replaces.column {γ : Type} {column : ρ → γ} (replaces : Replaces key row row' rows rows')
    (kept : column row' = column row) : rows'.map column = rows.map column := by
  cases replaces with
  | intro before after apart same => simp [kept]

/-- A row of the replaced table is the new row, or was there under another key. -/
theorem Replaces.mem (replaces : Replaces key row row' rows rows') {other : ρ} :
    other ∈ rows' ↔ other = row' ∨ (other ∈ rows ∧ key other ≠ key row) := by
  cases replaces with
  | intro before after apart same =>
    have elsewhere := apart other
    simp only [List.mem_append, List.mem_cons] at elsewhere ⊢
    constructor
    · rintro (left | rfl | right)
      · exact .inr ⟨.inl left, elsewhere (.inl left)⟩
      · exact .inl rfl
      · exact .inr ⟨.inr (.inr right), elsewhere (.inr right)⟩
    · rintro (rfl | ⟨left | rfl | right, apart⟩)
      · exact .inr (.inl rfl)
      · exact .inl left
      · exact absurd rfl apart
      · exact .inr (.inr right)

theorem Replaces.old (replaces : Replaces key row row' rows rows') : row ∈ rows := by
  cases replaces with
  | intro before after apart same => simp

/-- The replaced row was the only one under its key. -/
theorem Replaces.only (replaces : Replaces key row row' rows rows') {other : ρ}
    (member : other ∈ rows) (same : key other = key row) : other = row := by
  cases replaces with
  | intro before after apart _ =>
    simp only [List.mem_append, List.mem_cons] at member apart
    rcases member with left | rfl | right
    · exact absurd same (apart other (.inl left))
    · rfl
    · exact absurd same (apart other (.inr right))

/-- A rewrite that matches one row, and keeps its key, replaces that row. -/
theorem Keyed.replaces {matching : ρ → Prop} [DecidablePred matching] {change : ρ → ρ}
    (keyed : Keyed key rows) (member : row ∈ rows) (matched : matching row)
    (only : ∀ other ∈ rows, matching other → key other = key row)
    (same : key (change row) = key row) :
    Replaces key row (change row) rows (updateWhere rows matching change) := by
  obtain ⟨before, after, rfl⟩ := List.append_of_mem member
  have apart : ∀ other ∈ before ++ after, key other ≠ key row := by
    intro other there equal
    have distinct := keyed
    simp only [Keyed, List.map_append, List.map_cons] at distinct
    obtain ⟨-, last, across⟩ := List.nodup_append.mp distinct
    rcases List.mem_append.mp there with left | right
    · exact across _ (List.mem_map_of_mem left) _ List.mem_cons_self equal
    · exact (List.nodup_cons.mp last).1 (equal ▸ List.mem_map_of_mem right)
  have kept : ∀ part, (∀ other ∈ part, other ∈ before ++ after) →
      updateWhere part matching change = part := fun part inside =>
    updateWhere_none fun other there hit => apart other (inside other there)
      (only other (by
        rcases List.mem_append.mp (inside other there) with left | right
        · exact List.mem_append_left _ left
        · exact List.mem_append_right _ (List.mem_cons_of_mem _ right)) hit)
  have left := kept before fun other there => List.mem_append_left _ there
  have right := kept after fun other there => List.mem_append_right _ there
  simp only [updateWhere] at left right
  simp only [updateWhere, List.map_append, List.map_cons, left, right, if_pos matched]
  exact .intro before after apart same

theorem Replaces.same (replaces : Replaces key row row rows rows') : rows' = rows := by
  cases replaces with
  | intro => rfl

theorem Replaces.keyed (replaces : Replaces key row row' rows rows') (keyed : Keyed key rows) :
    Keyed key rows' := by
  rw [Keyed, replaces.column replaces.named]
  exact keyed

/-- A sum over the table changes by what the row contributes. -/
theorem Replaces.sum (replaces : Replaces key row row' rows rows') (value : ρ → Nat) :
    (rows'.map value).sum + value row = (rows.map value).sum + value row' := by
  cases replaces with
  | intro before after apart same =>
    simp only [List.map_append, List.map_cons, List.sum_append, List.sum_cons]
    omega

/-- A count over the table changes by whether the row counts. -/
theorem Replaces.countP (replaces : Replaces key row row' rows rows') (kind : ρ → Bool) :
    rows'.countP kind + (if kind row then 1 else 0) =
      rows.countP kind + if kind row' then 1 else 0 := by
  cases replaces with
  | intro before after apart same =>
    simp only [List.countP_append, List.countP_cons]
    omega

end Replacing

section Carrying

variable {related : ρ → ρ → Prop} {row' : ρ}

/-- Every row of the earlier table has a row it is related to in the later one. -/
def Carries (related : ρ → ρ → Prop) (rows rows' : List ρ) : Prop :=
  ∀ row ∈ rows, ∃ row' ∈ rows', related row row'

theorem Carries.refl (same : ∀ row, related row row) : Carries related rows rows :=
  fun row member => ⟨row, member, same row⟩

/-- Rows that are carried over two stretches are carried over both. -/
theorem Carries.trans (compose : ∀ {first second third}, related first second →
      related second third → related first third)
    (left : Carries related rows rows') (right : Carries related rows' rows'') :
    Carries related rows rows'' := by
  intro row member
  obtain ⟨between, there, earlier⟩ := left row member
  obtain ⟨last, here, later⟩ := right between there
  exact ⟨last, here, compose earlier later⟩

/-- A replaced row is carried when it is related to its replacement. -/
theorem Replaces.carries (replaces : Replaces key row row' rows rows')
    (same : ∀ row, related row row) (later : related row row') : Carries related rows rows' := by
  intro other member
  cases replaces with
  | intro before after apart _ =>
    simp only [List.mem_append, List.mem_cons] at member ⊢
    rcases member with left | rfl | right
    · exact ⟨other, .inl left, same other⟩
    · exact ⟨row', .inr (.inl rfl), later⟩
    · exact ⟨other, .inr (.inr right), same other⟩

theorem Carries.append (same : ∀ row, related row row) (more : List ρ) :
    Carries related rows (rows ++ more) :=
  fun row member => ⟨row, List.mem_append_left _ member, same row⟩

end Carrying

end Table
