import Mathlib.Data.List.Basic
import Mathlib.Data.List.Pairwise

/-! A record beside the log of its past: what the log says about the record when entries are true. -/

namespace Journal

/-- How records and entries are read: what both show, and what of a record never changes. -/
structure Reading (ρ ε σ ι : Type) where
  shown : ρ → σ
  entry : ε → σ
  revision : σ → Nat
  sequence : ε → Nat
  intent : ρ → ι
  Sound : ρ → Prop

/-- A record, its entries in the order they were written, and the last sequence number given out. -/
structure Log (ρ ε : Type) where
  record : ρ
  entries : List ε
  last : Nat

variable {ρ ε σ ι : Type} {read : Reading ρ ε σ ι} {faithful : Prop} {log log' log'' : Log ρ ε}

/-- The log with one more entry. -/
def Log.append (read : Reading ρ ε σ ι) (log : Log ρ ε) (entry : ε) : Log ρ ε :=
  { log with entries := log.entries ++ [entry], last := read.sequence entry }

/-- What one transaction may do to a log: note the record as it is, or move it and note that.

The entries are true, and the moves one revision each, only when the transaction is faithful. -/
inductive Extends (read : Reading ρ ε σ ι) (faithful : Prop) (start : Log ρ ε) : Log ρ ε → Prop where
  | same : Extends read faithful start start
  | later {log : Log ρ ε} {last : Nat} (before : Extends read faithful start log)
      (grown : log.last ≤ last) : Extends read faithful start { log with last }
  | noted {log : Log ρ ε} {entry : ε} (before : Extends read faithful start log)
      (next : log.last < read.sequence entry)
      (shows : faithful → read.entry entry = read.shown log.record) :
      Extends read faithful start (log.append read entry)
  | moved {log : Log ρ ε} {record : ρ} {entry : ε} (before : Extends read faithful start log)
      (next : log.last < read.sequence entry)
      (intent : read.intent record = read.intent log.record)
      (raised : faithful →
        read.revision (read.shown record) = read.revision (read.shown log.record) + 1)
      (sound : faithful → read.Sound record)
      (shows : faithful → read.entry entry = read.shown record) :
      Extends read faithful start ({ log with record }.append read entry)

/-- Whatever a transaction writes, the intent of the record stays and sequence numbers grow. -/
theorem Extends.keeps (extends_ : Extends read faithful log log') :
    read.intent log'.record = read.intent log.record ∧ log.last ≤ log'.last := by
  induction extends_ with
  | same => exact ⟨rfl, Nat.le_refl _⟩
  | later _ grown ih => exact ⟨ih.1, Nat.le_trans ih.2 grown⟩
  | noted _ next _ ih => exact ⟨ih.1, Nat.le_trans ih.2 (Nat.le_of_lt next)⟩
  | moved _ next intent _ _ _ ih =>
    exact ⟨intent.trans ih.1, Nat.le_trans ih.2 (Nat.le_of_lt next)⟩

/-- A transaction only appends entries, numbered after the last number given out before it. -/
theorem Extends.grown (extends_ : Extends read faithful log log') :
    ∃ added, log'.entries = log.entries ++ added ∧
      added.Pairwise (fun first second => read.sequence first < read.sequence second) ∧
      ∀ entry ∈ added, log.last < read.sequence entry ∧ read.sequence entry ≤ log'.last := by
  -- One more entry has a greater number than everything that was appended before it.
  have append : ∀ {between : Log ρ ε} {entry : ε}, log.last ≤ between.last →
      between.last < read.sequence entry →
      (∃ added, between.entries = log.entries ++ added ∧
        added.Pairwise (fun first second => read.sequence first < read.sequence second) ∧
        ∀ entry ∈ added, log.last < read.sequence entry ∧
          read.sequence entry ≤ between.last) →
      ∃ added, (between.append read entry).entries = log.entries ++ added ∧
        added.Pairwise (fun first second => read.sequence first < read.sequence second) ∧
        ∀ other ∈ added, log.last < read.sequence other ∧
          read.sequence other ≤ (between.append read entry).last := by
    intro between entry later next before
    obtain ⟨added, same, ordered, numbered⟩ := before
    refine ⟨added ++ [entry], ?_, ?_, ?_⟩
    · simp only [Log.append, same, List.append_assoc]
    · refine List.pairwise_append.mpr ⟨ordered, List.pairwise_singleton _ _, ?_⟩
      intro first member second new
      rw [List.mem_singleton.mp new]
      exact Nat.lt_of_le_of_lt (numbered first member).2 next
    · intro other member
      rcases List.mem_append.mp member with old | new
      · obtain ⟨above, below⟩ := numbered other old
        exact ⟨above, Nat.le_trans below (Nat.le_of_lt next)⟩
      · rw [List.mem_singleton.mp new]
        exact ⟨Nat.lt_of_le_of_lt later next, Nat.le_refl _⟩
  induction extends_ with
  | same => exact ⟨[], by simp, List.Pairwise.nil, nofun⟩
  | later _ grown ih =>
    obtain ⟨added, same, ordered, numbered⟩ := ih
    refine ⟨added, same, ordered, fun entry member => ?_⟩
    exact ⟨(numbered entry member).1, Nat.le_trans (numbered entry member).2 grown⟩
  | noted before next _ ih => exact append before.keeps.2 next ih
  | moved before next _ _ _ _ ih => exact append before.keeps.2 next ih

/-- A transaction that is faithful under one condition is faithful under a stronger one. -/
theorem Extends.weaken {stronger : Prop} (extends_ : Extends read faithful log log')
    (implies : stronger → faithful) : Extends read stronger log log' := by
  induction extends_ with
  | same => exact .same
  | later _ grown ih => exact .later ih grown
  | noted _ next shows ih => exact .noted ih next fun holds => shows (implies holds)
  | moved _ next intent raised sound shows ih =>
    exact .moved ih next intent (fun holds => raised (implies holds))
      (fun holds => sound (implies holds)) fun holds => shows (implies holds)

/-- An earlier entry says no more than a later one, and the same when it has the same revision. -/
def Precedes (read : Reading ρ ε σ ι) (first second : ε) : Prop :=
  read.sequence first < read.sequence second ∧
    read.revision (read.entry first) ≤ read.revision (read.entry second) ∧
    (read.revision (read.entry first) = read.revision (read.entry second) →
      read.entry first = read.entry second)

/-- The log tells the truth: entries are in order, and the last one shows the record. -/
structure Truthful (read : Reading ρ ε σ ι) (log : Log ρ ε) : Prop where
  sound : read.Sound log.record
  ordered : log.entries.Pairwise (Precedes read)
  numbered : ∀ entry ∈ log.entries, read.sequence entry ≤ log.last
  behind : ∀ entry ∈ log.entries,
    read.revision (read.entry entry) ≤ read.revision (read.shown log.record) ∧
      (read.revision (read.entry entry) = read.revision (read.shown log.record) →
        read.entry entry = read.shown log.record)
  latest : ∃ entry, log.entries.getLast? = some entry ∧ read.entry entry = read.shown log.record

/-- A log that tells the truth still does after an entry that shows the record. -/
theorem Truthful.note {entry : ε} (truthful : Truthful read log)
    (next : log.last < read.sequence entry) (shows : read.entry entry = read.shown log.record) :
    Truthful read (log.append read entry) where
  sound := truthful.sound
  ordered := by
    refine List.pairwise_append.mpr ⟨truthful.ordered, List.pairwise_singleton _ _, ?_⟩
    intro first member second new
    rw [List.mem_singleton.mp new]
    -- Every earlier entry lies behind the record, which the new entry shows.
    obtain ⟨below, equal⟩ := truthful.behind first member
    refine ⟨Nat.lt_of_le_of_lt (truthful.numbered first member) next, ?_, ?_⟩ <;> rw [shows]
    · exact below
    · exact equal
  numbered := by
    intro other member
    rcases List.mem_append.mp member with old | new
    · exact Nat.le_trans (truthful.numbered other old) (Nat.le_of_lt next)
    · rw [List.mem_singleton.mp new]
      exact Nat.le_refl _
  behind := by
    intro other member
    rcases List.mem_append.mp member with old | new
    · exact truthful.behind other old
    · rw [List.mem_singleton.mp new, shows]
      exact ⟨Nat.le_refl _, fun _ => rfl⟩
  latest := ⟨entry, by simp [Log.append], shows⟩

/-- A log that tells the truth still does after its record moved and an entry shows the move. -/
theorem Truthful.move {record : ρ} {entry : ε} (truthful : Truthful read log)
    (next : log.last < read.sequence entry)
    (raised : read.revision (read.shown record) = read.revision (read.shown log.record) + 1)
    (sound : read.Sound record) (shows : read.entry entry = read.shown record) :
    Truthful read ({ log with record }.append read entry) where
  sound := sound
  ordered := by
    refine List.pairwise_append.mpr ⟨truthful.ordered, List.pairwise_singleton _ _, ?_⟩
    intro first member second new
    rw [List.mem_singleton.mp new]
    -- The moved record has a revision that no earlier entry has.
    obtain ⟨below, -⟩ := truthful.behind first member
    refine ⟨Nat.lt_of_le_of_lt (truthful.numbered first member) next, ?_, fun same => ?_⟩
    · rw [shows]
      omega
    · rw [shows] at same
      omega
  numbered := by
    intro other member
    rcases List.mem_append.mp member with old | new
    · exact Nat.le_trans (truthful.numbered other old) (Nat.le_of_lt next)
    · rw [List.mem_singleton.mp new]
      exact Nat.le_refl _
  behind := by
    intro other member
    rcases List.mem_append.mp member with old | new
    · obtain ⟨below, -⟩ := truthful.behind other old
      refine ⟨?_, fun same => ?_⟩
      · show read.revision (read.entry other) ≤ read.revision (read.shown record)
        omega
      · have equal : read.revision (read.entry other) = read.revision (read.shown record) := same
        omega
    · rw [List.mem_singleton.mp new, shows]
      exact ⟨Nat.le_refl _, fun _ => rfl⟩
  latest := ⟨entry, by simp [Log.append], shows⟩

/-- A faithful transaction keeps a log truthful. -/
theorem Extends.truthful (extends_ : Extends read faithful log log') (holds : faithful)
    (truthful : Truthful read log) : Truthful read log' := by
  induction extends_ with
  | same => exact truthful
  | later _ grown ih =>
    exact ⟨ih.sound, ih.ordered, fun entry member => Nat.le_trans (ih.numbered entry member) grown,
      ih.behind, ih.latest⟩
  | noted _ next shows ih => exact ih.note next (shows holds)
  | moved _ next _ raised sound shows ih =>
    exact ih.move next (raised holds) (sound holds) (shows holds)

/-- In a truthful log the last entry has the highest sequence number. -/
theorem Truthful.last_highest (truthful : Truthful read log) :
    ∃ entry ∈ log.entries, ∀ other ∈ log.entries, read.sequence other ≤ read.sequence entry := by
  obtain ⟨last, found, -⟩ := truthful.latest
  obtain ⟨before, split⟩ := List.getLast?_eq_some_iff.mp found
  have ordered := truthful.ordered
  rw [split] at ordered ⊢
  refine ⟨last, List.mem_append_right _ (List.mem_singleton_self last), fun other member => ?_⟩
  rcases List.mem_append.mp member with old | new
  · have below := (List.pairwise_append.mp ordered).2.2 other old last (List.mem_singleton_self last)
    exact Nat.le_of_lt below.1
  · exact Nat.le_of_eq (congrArg read.sequence (List.mem_singleton.mp new))

/-- In a truthful log the entry with the highest sequence number shows the record. -/
theorem Truthful.highest (truthful : Truthful read log) {entry : ε} (member : entry ∈ log.entries)
    (highest : ∀ other ∈ log.entries, read.sequence other ≤ read.sequence entry) :
    read.entry entry = read.shown log.record := by
  obtain ⟨last, found, shows⟩ := truthful.latest
  obtain ⟨before, split⟩ := List.getLast?_eq_some_iff.mp found
  have ordered := truthful.ordered
  rw [split] at member ordered highest
  -- Sequence numbers increase, so only the last entry can have the highest one.
  rcases List.mem_append.mp member with old | new
  · have below := (List.pairwise_append.mp ordered).2.2 entry old last (List.mem_singleton_self last)
    have above := highest last (List.mem_append_right _ (List.mem_singleton_self last))
    exact absurd below.1 (Nat.not_lt.mpr above)
  · rw [List.mem_singleton.mp new]
    exact shows

/-- In a truthful log revisions never decrease, and entries with one revision show the same. -/
theorem Truthful.pairwise (truthful : Truthful read log) {first second : ε}
    (before : [first, second].Sublist log.entries) :
    read.revision (read.entry first) ≤ read.revision (read.entry second) ∧
      (read.revision (read.entry first) = read.revision (read.entry second) →
        read.entry first = read.entry second) := by
  have ordered := truthful.ordered.sublist before
  exact (List.pairwise_pair.mp ordered).2

end Journal
