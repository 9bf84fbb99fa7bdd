import Mathlib.Data.List.Pairwise

/-! Reading an ordered log in pages, from the cursor that the page before left behind. -/

namespace Cursor

variable {α : Type} {key : α → Nat} {rows added : List α} {cursor middle next : Nat}

/-- The rows stand in strictly increasing order of their keys. -/
def Ordered (key : α → Nat) (rows : List α) : Prop :=
  rows.Pairwise fun first second => key first < key second

/-- The rows after a cursor. -/
def after (key : α → Nat) (cursor : Nat) (rows : List α) : List α :=
  rows.filter fun row => cursor < key row

/-- The rows after one cursor, up to another. -/
def between (key : α → Nat) (cursor next : Nat) (rows : List α) : List α :=
  rows.filter fun row => cursor < key row ∧ key row ≤ next

/-- The cursor that a page leaves behind: the key of its last row, or where the page began. -/
def behind (key : α → Nat) (cursor : Nat) (page : List α) : Nat :=
  (page.getLast?.map key).getD cursor

/-- Pages with the same keys leave the same cursor behind. -/
theorem behind_congr {β : Type} {other : β → Nat} {page : List α} {page' : List β}
    (same : page.map key = page'.map other) : behind key cursor page = behind other cursor page' := by
  simp only [behind, ← List.getLast?_map, same]

/-- A page leaves behind the cursor it began after, or the key of one of its rows. -/
theorem behind_cases (key : α → Nat) (cursor : Nat) (page : List α) :
    behind key cursor page = cursor ∨ ∃ row ∈ page, key row = behind key cursor page := by
  unfold behind
  cases last : page.getLast? with
  | none => exact .inl rfl
  | some row => exact .inr ⟨row, List.mem_of_getLast? last, rfl⟩

theorem Ordered.after (ordered : Ordered key rows) (cursor : Nat) :
    Ordered key (after key cursor rows) :=
  List.Pairwise.filter _ ordered

theorem lt_of_mem_after {row : α} (member : row ∈ after key cursor rows) : cursor < key row := by
  simpa using (List.mem_filter.mp member).2

/-- A page that begins after a cursor leaves no smaller cursor behind. -/
theorem le_behind {page : List α} (later : ∀ row ∈ page, cursor < key row) :
    cursor ≤ behind key cursor page := by
  unfold behind
  cases last : page.getLast? with
  | none => exact Nat.le_refl _
  | some row => exact Nat.le_of_lt (later row (List.mem_of_getLast? last))

/-- The cursor that a page leaves behind separates the page from what follows it. -/
theorem behind_separates (cursor : Nat) {page rest : List α} (ordered : Ordered key (page ++ rest))
    (later : ∀ row ∈ rest, cursor < key row) :
    (∀ row ∈ page, key row ≤ behind key cursor page) ∧
      ∀ row ∈ rest, behind key cursor page < key row := by
  obtain ⟨inside, -, across⟩ := List.pairwise_append.mp ordered
  -- Either nothing was read, or the last row that was read decides.
  rcases List.eq_nil_or_concat page with rfl | ⟨before, last, rfl⟩
  · exact ⟨nofun, later⟩
  · have cursorIs : behind key cursor (before.concat last) = key last := by simp [behind]
    rw [cursorIs]
    rw [List.concat_eq_append] at inside across ⊢
    refine ⟨fun row member => ?_, fun row member => across last (by simp) row member⟩
    rcases List.mem_append.mp member with earlier | equal
    · have below := (List.pairwise_append.mp inside).2.2 row earlier last (by simp)
      exact Nat.le_of_lt below
    · exact Nat.le_of_eq (congrArg key (List.mem_singleton.mp equal))

/-- A page holds exactly the rows between its cursor and the one it leaves behind. -/
theorem between_behind (ordered : Ordered key rows) (cursor count : Nat) :
    between key cursor (behind key cursor ((after key cursor rows).take count)) rows =
      (after key cursor rows).take count := by
  -- The rows after the cursor are the page and the rest.
  have parts := List.take_append_drop count (after key cursor rows)
  have sorted := ordered.after cursor
  rw [← parts] at sorted
  obtain ⟨inside, outside⟩ := behind_separates cursor sorted fun row member =>
    lt_of_mem_after (List.mem_of_mem_drop member)
  generalize behind key cursor ((after key cursor rows).take count) = next at inside outside ⊢
  have first : between key cursor next rows =
      (after key cursor rows).filter fun row => key row ≤ next := by
    rw [between, after, List.filter_filter]
    refine List.filter_congr fun row _ => ?_
    rw [Bool.decide_and, Bool.and_comm]
  have whole : ((after key cursor rows).filter fun row => key row ≤ next) =
      ((after key cursor rows).take count ++ (after key cursor rows).drop count).filter
        fun row => key row ≤ next := by rw [parts]
  rw [first, whole, List.filter_append, List.filter_eq_self.mpr, List.filter_eq_nil_iff.mpr, List.append_nil]
  · intro row member
    have above := outside row member
    simpa using above
  · intro row member
    simpa using inside row member

/-- Some row comes after a page exactly when the page left out some of the rows. -/
theorem after_behind (ordered : Ordered key rows) (cursor count : Nat) :
    after key (behind key cursor ((after key cursor rows).take count)) rows =
      (after key cursor rows).drop count := by
  have parts := List.take_append_drop count (after key cursor rows)
  have sorted := ordered.after cursor
  rw [← parts] at sorted
  obtain ⟨inside, outside⟩ := behind_separates cursor sorted fun row member =>
    lt_of_mem_after (List.mem_of_mem_drop member)
  have forward : cursor ≤ behind key cursor ((after key cursor rows).take count) :=
    le_behind fun row member => lt_of_mem_after (List.mem_of_mem_take member)
  generalize behind key cursor ((after key cursor rows).take count) = next at *
  -- What comes after the later cursor comes after the earlier one.
  have first : after key next rows =
      (after key cursor rows).filter fun row => next < key row := by
    rw [after, after, List.filter_filter]
    refine List.filter_congr fun row _ => ?_
    by_cases later : next < key row
    · simp [later, Nat.lt_of_le_of_lt forward later]
    · simp [later]
  have whole : ((after key cursor rows).filter fun row => next < key row) =
      ((after key cursor rows).take count ++ (after key cursor rows).drop count).filter
        fun row => next < key row := by rw [parts]
  rw [first, whole, List.filter_append, List.filter_eq_nil_iff.mpr, List.filter_eq_self.mpr, List.nil_append]
  · intro row member
    simpa using outside row member
  · intro row member
    have below := inside row member
    simpa using below

/-- The rows up to a later cursor are those up to an earlier one and those between the two. -/
theorem between_append (ordered : Ordered key rows) (first : cursor ≤ middle)
    (second : middle ≤ next) :
    between key cursor next rows =
      between key cursor middle rows ++ between key middle next rows := by
  induction rows with
  | nil => rfl
  | cons row rest ih =>
    obtain ⟨head, tail⟩ := List.pairwise_cons.mp ordered
    have later := ih tail
    by_cases inside : key row ≤ middle
    · -- The row belongs to the first part, if it is read at all.
      have outside : ¬ middle < key row := Nat.not_lt.mpr inside
      have below : key row ≤ next := Nat.le_trans inside second
      simp only [between] at later ⊢
      rw [List.filter_cons_of_neg (p := fun row => decide (middle < key row ∧ key row ≤ next))
        (by simp [outside])]
      by_cases inner : cursor < key row
      · rw [List.filter_cons_of_pos (by simp [inner, below]),
          List.filter_cons_of_pos (by simp [inner, inside]), later, List.cons_append]
      · rw [List.filter_cons_of_neg (by simp [inner]), List.filter_cons_of_neg (by simp [inner]),
          later]
    · -- No row from here on belongs to the first part.
      have above : middle < key row := Nat.lt_of_not_le inside
      have none : between key cursor middle (row :: rest) = [] := by
        refine List.filter_eq_nil_iff.mpr fun other member => ?_
        have beyond : middle < key other := by
          rcases List.mem_cons.mp member with rfl | member
          · exact above
          · exact Nat.lt_trans above (head other member)
        simp only [decide_eq_true_eq, not_and, Nat.not_le]
        exact fun _ => beyond
      rw [none, List.nil_append]
      refine List.filter_congr fun other member => ?_
      have beyond : middle < key other := by
        rcases List.mem_cons.mp member with rfl | member
        · exact above
        · exact Nat.lt_trans above (head other member)
      simp [beyond, Nat.lt_of_le_of_lt first beyond]

/-- Rows that are appended beyond a cursor do not change what was read up to it. -/
theorem between_grown (beyond : ∀ row ∈ added, next < key row) :
    between key cursor next (rows ++ added) = between key cursor next rows := by
  have nothing : between key cursor next added = [] := by
    refine List.filter_eq_nil_iff.mpr fun row member => ?_
    have above := beyond row member
    simp only [decide_eq_true_eq, not_and, Nat.not_le]
    exact fun _ => above
  rw [between] at nothing
  rw [between, List.filter_append, nothing, List.append_nil, between]

/-- When no row comes after a cursor, everything lies up to it. -/
theorem between_all (positive : ∀ row ∈ rows, cursor < key row)
    (nothing : ∀ row ∈ rows, ¬ next < key row) : between key cursor next rows = rows := by
  refine List.filter_eq_self.mpr fun row member => ?_
  have above := positive row member
  have below := Nat.le_of_not_lt (nothing row member)
  simp [above, below]

end Cursor
