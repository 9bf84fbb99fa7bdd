import Mathlib.Data.List.Nodup

/-! Dictionaries: entries in some order, each key once. -/

/-- A dictionary, listed entry by entry. -/
structure Dictionary (κ α : Type) where
  entries : List (κ × α)
  distinct : (entries.map Prod.fst).Nodup

namespace Dictionary

variable {κ α : Type}

/-- The dictionary without entries. -/
def empty : Dictionary κ α := ⟨[], List.nodup_nil⟩

/-- How many keys a dictionary has. -/
def length (dictionary : Dictionary κ α) : Nat := dictionary.entries.length

variable [DecidableEq κ]

/-- The value under a key. -/
def get (dictionary : Dictionary κ α) (key : κ) : Option α :=
  (dictionary.entries.find? fun entry => entry.1 = key).map Prod.snd

/-- A dictionary with a value put in the place of a key, or at the end under a new key. -/
def set (dictionary : Dictionary κ α) (key : κ) (value : α) : Dictionary κ α :=
  if known : key ∈ dictionary.entries.map Prod.fst then
    { entries := dictionary.entries.map fun entry => if entry.1 = key then (key, value) else entry
      distinct := by
        have same : (dictionary.entries.map fun entry =>
            if entry.1 = key then (key, value) else entry).map Prod.fst =
              dictionary.entries.map Prod.fst := by
          rw [List.map_map]
          refine List.map_congr_left fun entry _ => ?_
          by_cases here : entry.1 = key
          · simp [here]
          · simp [here]
        rw [same]
        exact dictionary.distinct }
  else
    { entries := dictionary.entries ++ [(key, value)]
      distinct := by
        rw [List.map_append, List.map_singleton]
        exact List.nodup_append.mpr ⟨dictionary.distinct, List.nodup_singleton _, by
          intro stored member new here same
          rw [List.mem_singleton.mp here] at same
          exact known ((show stored = key from same) ▸ member)⟩ }

/-- A dictionary without a key. -/
def pop (dictionary : Dictionary κ α) (key : κ) : Dictionary κ α where
  entries := dictionary.entries.filter fun entry => entry.1 ≠ key
  distinct := dictionary.distinct.sublist (List.filter_sublist.map _)

variable {dictionary : Dictionary κ α} {key : κ} {value : α} {entry : κ × α}

/-- The only entry of a key is found under it. -/
theorem find_of_mem {entries : List (κ × α)} (keys : (entries.map Prod.fst).Nodup)
    (member : (key, value) ∈ entries) :
    entries.find? (fun entry => entry.1 = key) = some (key, value) := by
  cases first : entries.find? (fun entry => entry.1 = key) with
  | none =>
    have other := List.find?_eq_none.mp first _ member
    simp at other
  | some entry =>
    -- Two entries with the same key are one entry.
    have same : entry.1 = key := by simpa using List.find?_some first
    rw [List.inj_on_of_nodup_map keys (List.mem_of_find?_eq_some first) member same]

/-- An entry is the one that was put in, or it was there before. -/
theorem mem_set (member : entry ∈ (dictionary.set key value).entries) :
    entry = (key, value) ∨ entry ∈ dictionary.entries := by
  unfold set at member
  split at member
  · obtain ⟨stored, inside, same⟩ := List.mem_map.mp member
    split at same
    · exact .inl same.symm
    · exact .inr (same ▸ inside)
  · rcases List.mem_append.mp member with inside | last
    · exact .inr inside
    · exact .inl (List.mem_singleton.mp last)

/-- A key has the value that it has an entry with. -/
theorem get_eq_some : dictionary.get key = some value ↔ (key, value) ∈ dictionary.entries := by
  unfold get
  constructor
  · intro held
    obtain ⟨entry, found, same⟩ := Option.map_eq_some_iff.mp held
    have matched : entry.1 = key := by simpa using List.find?_some found
    rw [← matched, ← same]
    exact List.mem_of_find?_eq_some found
  · intro member
    rw [find_of_mem dictionary.distinct member]
    rfl

@[simp] theorem get_empty : (empty : Dictionary κ α).get key = none := rfl

/-- An entry of the dictionary after a value was put in is the new one, or one of another key. -/
theorem mem_set_iff {other : κ} {held : α} : (other, held) ∈ (dictionary.set key value).entries ↔
    (other = key ∧ held = value) ∨ (other ≠ key ∧ (other, held) ∈ dictionary.entries) := by
  unfold set
  split
  · rename_i known
    obtain ⟨⟨stored, old⟩, inside, same⟩ := List.mem_map.mp known
    constructor
    · intro member
      obtain ⟨⟨first, second⟩, listed, made⟩ := List.mem_map.mp member
      by_cases here : first = key
      · rw [if_pos here] at made
        cases made
        exact .inl ⟨rfl, rfl⟩
      · rw [if_neg here] at made
        cases made
        exact .inr ⟨here, listed⟩
    · intro described
      rcases described with ⟨rfl, rfl⟩ | ⟨different, listed⟩
      · exact List.mem_map.mpr ⟨_, inside, if_pos same⟩
      · exact List.mem_map.mpr ⟨_, listed, if_neg different⟩
  · rename_i unknown
    constructor
    · intro member
      rcases List.mem_append.mp member with listed | last
      · exact .inr ⟨fun same => unknown (List.mem_map.mpr ⟨_, listed, same⟩), listed⟩
      · cases List.mem_singleton.mp last
        exact .inl ⟨rfl, rfl⟩
    · intro described
      rcases described with ⟨rfl, rfl⟩ | ⟨-, listed⟩
      · exact List.mem_append_right _ List.mem_cons_self
      · exact List.mem_append_left _ listed

/-- Putting a value in changes what its key has, and nothing else. -/
theorem get_set {other : κ} : (dictionary.set key value).get other =
    if other = key then some value else dictionary.get other := by
  refine Option.ext fun held => ?_
  rw [get_eq_some, mem_set_iff]
  by_cases same : other = key
  · simp [same, eq_comm]
  · simp [same, get_eq_some]

theorem entries_set (new : key ∉ dictionary.entries.map Prod.fst) :
    (dictionary.set key value).entries = dictionary.entries ++ [(key, value)] := by
  simp [set, new]

/-- A dictionary made of entries with different keys has just these. -/
theorem foldl_set (entries : List (κ × α)) (start : Dictionary κ α)
    (distinct : ((start.entries ++ entries).map Prod.fst).Nodup) :
    (entries.foldl (fun made entry => made.set entry.1 entry.2) start).entries =
      start.entries ++ entries := by
  induction entries generalizing start with
  | nil => simp
  | cons entry rest ih =>
    have new : entry.1 ∉ start.entries.map Prod.fst := by
      intro known
      rw [List.map_append] at distinct
      exact (List.nodup_append.mp distinct).2.2 _ known _ List.mem_cons_self rfl
    have put : (start.set entry.1 entry.2).entries = start.entries ++ [entry] := entries_set new
    rw [List.foldl_cons, ih _ (by rw [put]; simpa using distinct), put]
    simp

theorem mem_pop (member : entry ∈ (dictionary.pop key).entries) : entry ∈ dictionary.entries :=
  List.mem_of_mem_filter member

end Dictionary
