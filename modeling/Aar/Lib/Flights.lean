import Mathlib.Data.List.Perm.Subperm

/-! Invocations in flight, counted by kind as they enter and leave. -/

namespace Flights

variable {φ : Type} {flights : List φ} {flight : φ} {kind : φ → Prop}
  [DecidablePred kind]

/-- How many invocations of a kind are in flight. -/
def count (kind : φ → Prop) [DecidablePred kind] (flights : List φ) : Nat :=
  flights.countP fun flight => kind flight

@[simp] theorem count_nil : count kind [] = 0 := rfl

theorem count_enter (kind : φ → Prop) [DecidablePred kind] :
    count kind (flight :: flights) = count kind flights + if kind flight then 1 else 0 := by
  simp [count, List.countP_cons]

theorem count_pos (member : flight ∈ flights) (holds : kind flight) : 0 < count kind flights :=
  List.countP_pos_iff.mpr ⟨flight, member, decide_eq_true holds⟩

theorem count_eq_zero : count kind flights = 0 ↔ ∀ flight ∈ flights, ¬ kind flight := by
  simp [count, List.countP_eq_zero]

/-- An invocation that leaves is one fewer of its kind. -/
theorem count_leave [DecidableEq φ] (kind : φ → Prop) [DecidablePred kind]
    (member : flight ∈ flights) :
    count kind (flights.erase flight) + (if kind flight then 1 else 0) = count kind flights := by
  -- Putting it back in front only changes the order.
  have back : count kind flights = count kind (flight :: flights.erase flight) :=
    (List.perm_cons_erase member).countP_eq _
  rw [back, count_enter]

theorem count_leave_le [DecidableEq φ] : count kind (flights.erase flight) ≤ count kind flights :=
  List.erase_sublist.countP_le

/-- A kind within another one is counted at most as often. -/
theorem count_mono {wider : φ → Prop} [DecidablePred wider]
    (within : ∀ flight ∈ flights, kind flight → wider flight) :
    count kind flights ≤ count wider flights :=
  List.countP_mono_left fun flight member holds => by
    simp only [decide_eq_true_eq] at holds ⊢
    exact within flight member holds

/-- Of a kind that is at most once in flight, none is left when one leaves. -/
theorem count_leave_only [DecidableEq φ] (single : count kind flights ≤ 1) (member : flight ∈ flights)
    (holds : kind flight) : count kind (flights.erase flight) = 0 := by
  have fewer := count_leave kind member
  rw [if_pos holds] at fewer
  omega

section Holders

variable {ρ : Type} {holders : List ρ} {holder : ρ} {held : ρ → Option φ}

/-- What the holders hold, one by one, is in flight. -/
def Held (held : ρ → Option φ) (holders : List ρ) (flights : List φ) : Prop :=
  (holders.filterMap held).Subperm flights

theorem Held.member (all : Held held holders flights) (member : holder ∈ holders)
    (holds : held holder = some flight) : flight ∈ flights :=
  all.subset (List.mem_filterMap.mpr ⟨holder, member, holds⟩)

theorem Held.leave [DecidableEq ρ] (all : Held held holders flights) (holder : ρ) :
    Held held (holders.erase holder) flights :=
  (List.erase_sublist.filterMap held).subperm.trans all

theorem Held.enter (all : Held held holders flights) (holds : held holder = none) :
    Held held (holder :: holders) flights := by
  rw [Held, List.filterMap_cons_none holds]
  exact all

/-- What a holder held is over with it. -/
theorem Held.drop [DecidableEq ρ] [DecidableEq φ] (all : Held held holders flights)
    (member : holder ∈ holders) (holds : held holder = some flight) :
    Held held (holders.erase holder) (flights.erase flight) := by
  have back : (holders.filterMap held).Perm (flight :: (holders.erase holder).filterMap held) := by
    have moved := (List.perm_cons_erase member).filterMap held
    rwa [List.filterMap_cons_some holds] at moved
  have less := (back.symm.subperm.trans all).erase flight
  rwa [List.erase_cons_head] at less

/-- A holder comes with what it holds. -/
theorem Held.take (all : Held held holders flights) (holds : held holder = some flight) :
    Held held (holder :: holders) (flight :: flights) := by
  rw [Held, List.filterMap_cons_some holds]
  exact List.subperm_cons flight |>.mpr all

/-- What nobody holds comes and goes freely. -/
theorem Held.free [DecidableEq φ] (all : Held held holders flights)
    (unheld : ∀ holder ∈ holders, held holder ≠ some flight) :
    Held held holders (flights.erase flight) := by
  have less := List.Subperm.erase flight all
  have absent : flight ∉ holders.filterMap held := by
    intro there
    obtain ⟨holder, member, holds⟩ := List.mem_filterMap.mp there
    exact unheld holder member holds
  rwa [List.erase_of_not_mem absent] at less

theorem Held.add (all : Held held holders flights) (flight : φ) :
    Held held holders (flight :: flights) :=
  all.trans (List.sublist_cons_self flight flights).subperm

end Holders

end Flights
