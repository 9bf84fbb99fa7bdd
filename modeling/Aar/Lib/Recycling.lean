import Mathlib.Data.List.Basic
import Mathlib.Tactic.Common

/-! A population whose members carry recycled names, and what a name tells of a member. -/

namespace Recycling

/-- The members ever born, those that still carry their names, and those among them that live. -/
structure Population (μ : Type) where
  born : List μ
  present : List μ
  alive : List μ
  deriving DecidableEq

namespace Population

variable {μ ν : Type} [DecidableEq μ] {name : μ → ν} {p q r : Population μ}
  {member expected handle : μ}

/-- No member has been born. -/
def empty : Population μ := ⟨[], [], []⟩

/-- A member is born. -/
def bear (member : μ) (p : Population μ) : Population μ :=
  ⟨member :: p.born, member :: p.present, member :: p.alive⟩

/-- A member dies and keeps its name for now. -/
def die (member : μ) (p : Population μ) : Population μ :=
  { p with alive := p.alive.filter fun other => other ≠ member }

/-- A dead member gives its name up. -/
def bury (member : μ) (p : Population μ) : Population μ :=
  { p with present := p.present.filter fun other => other ≠ member ∨ other ∈ p.alive }

/-- All members go at once. -/
def clear (p : Population μ) : Population μ := { p with present := [], alive := [] }

/-- Who carries a name. -/
def lookup [DecidableEq ν] (name : μ → ν) (p : Population μ) (wanted : ν) : Option μ :=
  p.present.find? fun member => name member = wanted

/-- Only the born carry names, only they live, and no two carry one name at a time. -/
structure Named (name : μ → ν) (p : Population μ) : Prop where
  born : ∀ member ∈ p.present, member ∈ p.born
  present : ∀ member ∈ p.alive, member ∈ p.present
  unique : ∀ first ∈ p.present, ∀ second ∈ p.present, name first = name second → first = second

/-- One population comes after another: nobody of the first one comes back. -/
structure Later (p q : Population μ) : Prop where
  born : ∀ member ∈ p.born, member ∈ q.born
  present : ∀ member ∈ p.born, member ∈ q.present → member ∈ p.present
  alive : ∀ member ∈ p.born, member ∈ q.alive → member ∈ p.alive

section Passage

omit [DecidableEq μ] in
theorem Later.refl : Later p p :=
  ⟨fun _ born => born, fun _ _ here => here, fun _ _ here => here⟩

omit [DecidableEq μ] in
/-- What comes after a later population comes after the first one. -/
theorem Later.trans (first : Later p q) (second : Later q r) : Later p r where
  born member born := second.born member (first.born member born)
  present member born here :=
    first.present member born (second.present member (first.born member born) here)
  alive member born here :=
    first.alive member born (second.alive member (first.born member born) here)

omit [DecidableEq μ] in
/-- A population comes before the birth of a new member. -/
theorem later_bear (fresh : member ∉ p.born) : Later p (p.bear member) := by
  -- Whoever was born before is not the one who is born now.
  have other : ∀ {old}, old ∈ p.born → old ≠ member := fun born same => fresh (same ▸ born)
  refine ⟨fun old born => List.mem_cons_of_mem _ born, fun old born here => ?_,
    fun old born here => ?_⟩
  · exact (List.mem_cons.mp here).resolve_left (other born)
  · exact (List.mem_cons.mp here).resolve_left (other born)

theorem later_die : Later p (p.die member) :=
  ⟨fun _ born => born, fun _ _ here => here, fun _ _ here => (List.mem_filter.mp here).1⟩

theorem later_bury : Later p (p.bury member) :=
  ⟨fun _ born => born, fun _ _ here => (List.mem_filter.mp here).1, fun _ _ here => here⟩

omit [DecidableEq μ] in
theorem later_clear : Later p p.clear :=
  ⟨fun _ born => born, fun _ _ here => absurd here List.not_mem_nil,
    fun _ _ here => absurd here List.not_mem_nil⟩

end Passage

section Naming

omit [DecidableEq μ] in
theorem Named.empty : Named name (Population.empty : Population μ) := by
  constructor <;> simp [Population.empty]

omit [DecidableEq μ] in
/-- A birth under a free name keeps the names apart. -/
theorem Named.bear (named : Named name p) (free : ∀ other ∈ p.present, name other ≠ name member) :
    Named name (p.bear member) := by
  refine ⟨?_, ?_, ?_⟩
  · intro other here
    rcases List.mem_cons.mp here with rfl | here
    · exact List.mem_cons_self
    · exact List.mem_cons_of_mem _ (named.born other here)
  · intro other here
    rcases List.mem_cons.mp here with rfl | here
    · exact List.mem_cons_self
    · exact List.mem_cons_of_mem _ (named.present other here)
  · intro first here second there same
    -- The new name is free, so equal names are both old or both the new one's.
    rcases List.mem_cons.mp here with new | old <;> rcases List.mem_cons.mp there with newer | older
    · rw [new, newer]
    · exact absurd (new ▸ same.symm) (free second older)
    · exact absurd (newer ▸ same) (free first old)
    · exact named.unique first old second older same

theorem Named.die (named : Named name p) : Named name (p.die member) :=
  ⟨named.born, fun other here => named.present other (List.mem_filter.mp here).1, named.unique⟩

/-- A burial keeps the names apart. -/
theorem Named.bury (named : Named name p) : Named name (p.bury member) where
  born other here := named.born other (List.mem_filter.mp here).1
  present other here :=
    List.mem_filter.mpr ⟨named.present other here, decide_eq_true (Or.inr here)⟩
  unique first here second there :=
    named.unique first (List.mem_filter.mp here).1 second (List.mem_filter.mp there).1

omit [DecidableEq μ] in
theorem Named.clear : Named name p.clear := by
  constructor <;> simp [Population.clear]

omit [DecidableEq μ] in
theorem Named.dead (named : Named name p) (gone : expected ∉ p.present) : expected ∉ p.alive :=
  fun here => gone (named.present expected here)

end Naming

section Lookup

variable [DecidableEq ν]

omit [DecidableEq μ] in
theorem lookup_some {wanted : ν} (found : p.lookup name wanted = some member) :
    member ∈ p.present ∧ name member = wanted :=
  ⟨List.mem_of_find?_eq_some found, by simpa using List.find?_some found⟩

omit [DecidableEq μ] in
/-- A name that somebody carries is looked up to them. -/
theorem Named.lookup (named : Named name p) (here : member ∈ p.present) :
    p.lookup name (name member) = some member := by
  cases found : p.lookup name (name member) with
  | none =>
    rw [Population.lookup, List.find?_eq_none] at found
    exact absurd (decide_eq_true rfl) (found member here)
  | some other =>
    obtain ⟨there, same⟩ := lookup_some found
    rw [named.unique other there member here same]

omit [DecidableEq μ] in
theorem Named.gone (named : Named name p)
    (other : p.lookup name (name expected) ≠ some expected) : expected ∉ p.present :=
  fun here => other (named.lookup here)

end Lookup

section Handles

/-- A handle is on a member that was born, and on the expected one while that one is there. -/
def Exact (p : Population μ) (expected handle : μ) : Prop :=
  handle ∈ p.born ∧ (expected ∈ p.present → handle = expected)

omit [DecidableEq μ] in
/-- A handle opened by the name of the expected member. -/
theorem Named.exact [DecidableEq ν] (named : Named name p)
    (opened : p.lookup name (name expected) = some handle) : Exact p expected handle := by
  obtain ⟨here, _⟩ := lookup_some opened
  refine ⟨named.born handle here, fun there => ?_⟩
  rw [named.lookup there] at opened
  exact (Option.some.inj opened).symm

omit [DecidableEq μ] in
/-- A handle stays exact, since nobody comes back. -/
theorem Exact.later (exact : Exact p expected handle) (born : expected ∈ p.born)
    (later : Later p q) : Exact q expected handle :=
  ⟨later.born handle exact.1, fun there => exact.2 (later.present expected born there)⟩

end Handles

end Population

end Recycling
