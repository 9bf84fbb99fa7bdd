import Mathlib.Tactic.Common

/-! Streams that are delivered in chunks of any size, and lines that end with a mark. -/

namespace Chunked

variable {α : Type}

section Cutting

variable [DecidableEq α] {mark : α} {input line rest : List α}

/-- What stands before the first mark, and what stands after it. -/
def cut (mark : α) : List α → Option (List α × List α)
  | [] => none
  | item :: rest =>
    if item = mark then some ([], rest)
    else (cut mark rest).map fun parts => (item :: parts.1, parts.2)

/-- A line is cut off exactly when it stands before the first mark. -/
theorem cut_eq_some : cut mark input = some (line, rest) ↔
    mark ∉ line ∧ input = line ++ mark :: rest := by
  induction input generalizing line with
  | nil => simp [cut]
  | cons item others ih =>
    rw [cut]
    by_cases same : item = mark
    · -- The mark stands at the start, so the line before it is empty.
      rw [if_pos same]
      cases line with
      | nil => simp [same, eq_comm]
      | cons first later =>
        refine iff_of_false (by simp) fun both => both.1 ?_
        rw [← (List.cons.inj both.2).1, same]
        exact List.mem_cons_self
    · rw [if_neg same, Option.map_eq_some_iff]
      constructor
      · intro ⟨⟨before, after⟩, found, equal⟩
        obtain ⟨rfl, rfl⟩ := Prod.mk.inj equal
        obtain ⟨apart, rfl⟩ := ih.mp found
        exact ⟨List.not_mem_cons_of_ne_of_not_mem (Ne.symm same) apart, rfl⟩
      · intro ⟨apart, equal⟩
        cases line with
        | nil => exact absurd (List.cons.inj equal).1 same
        | cons first later =>
          obtain ⟨rfl, others⟩ := List.cons.inj equal
          exact ⟨(later, rest), ih.mpr ⟨List.not_mem_of_not_mem_cons apart, others⟩, rfl⟩

/-- Nothing is cut off exactly when there is no mark. -/
theorem cut_eq_none : cut mark input = none ↔ mark ∉ input := by
  induction input with
  | nil => simp [cut]
  | cons item others ih =>
    rw [cut]
    by_cases same : item = mark
    · simp [same]
    · rw [if_neg same, Option.map_eq_none_iff, ih]
      simp [Ne.symm same]

end Cutting

section Streams

/-- What a peer has written and the transport has not delivered yet. The transport decides at each
call how much it delivers, and how it says that nothing is left. -/
structure Stream (α : Type) where
  remaining : List α
  sizes : Nat → Nat
  calls : Nat
  silent : Bool

/-- The transport delivers no more than it is asked for, and something as long as there is any. -/
def Stream.receive (stream : Stream α) (limit : Nat) : Option (List α) × Stream α :=
  let size := max 1 (min limit (stream.sizes stream.calls))
  match stream.remaining with
  | [] => (if stream.silent then some [] else none, { stream with calls := stream.calls + 1 })
  | first :: rest =>
    (some ((first :: rest).take size),
      { stream with remaining := (first :: rest).drop size, calls := stream.calls + 1 })

variable {stream stream' : Stream α} {limit : Nat} {chunk : List α}

/-- A chunk stands at the start of what remains. -/
theorem Stream.receive_split (received : stream.receive limit = (some chunk, stream')) :
    stream.remaining = chunk ++ stream'.remaining := by
  unfold Stream.receive at received
  cases left : stream.remaining with
  | nil =>
    simp only [left] at received
    obtain ⟨ended, rfl⟩ := Prod.mk.inj received
    split at ended
    · obtain rfl := Option.some.inj ended
      rfl
    · cases ended
  | cons first rest =>
    simp only [left] at received
    obtain ⟨taken, rfl⟩ := Prod.mk.inj received
    rw [← Option.some.inj taken]
    exact (List.take_append_drop _ _).symm

/-- A chunk is empty only when nothing remains. -/
theorem Stream.receive_nonempty (received : stream.receive limit = (some chunk, stream'))
    (some_left : stream.remaining ≠ []) : chunk ≠ [] := by
  unfold Stream.receive at received
  cases left : stream.remaining with
  | nil => exact absurd left some_left
  | cons first rest =>
    simp only [left] at received
    obtain ⟨taken, -⟩ := Prod.mk.inj received
    rw [← Option.some.inj taken]
    have size : max 1 (min limit (stream.sizes stream.calls)) ≠ 0 := by omega
    simp [size]

/-- A transport that delivers nothing has nothing left. -/
theorem Stream.receive_none (received : stream.receive limit = (none, stream')) :
    stream.remaining = [] ∧ stream'.remaining = [] := by
  unfold Stream.receive at received
  cases left : stream.remaining with
  | nil =>
    simp only [left] at received
    obtain ⟨-, rfl⟩ := Prod.mk.inj received
    exact ⟨rfl, rfl⟩
  | cons first rest =>
    simp only [left] at received
    obtain ⟨taken, -⟩ := Prod.mk.inj received
    cases taken

end Streams

end Chunked
