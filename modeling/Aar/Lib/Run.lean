import Mathlib.Logic.Basic
import Mathlib.Tactic.Common

/-! Runs of a deterministic system over a list of inputs, with the rules that follow a run. -/

namespace Runs

variable {σ ι : Type} {step : ι → σ → σ}

/-- The state after a list of inputs, taken in order. -/
def run (step : ι → σ → σ) (inputs : List ι) (start : σ) : σ :=
  inputs.foldl (fun state input => step input state) start

/-- A state that some list of inputs leads to. -/
def Reachable (step : ι → σ → σ) (start state : σ) : Prop :=
  ∃ inputs, run step inputs start = state

@[simp] theorem run_nil {start : σ} : run step [] start = start := rfl

@[simp] theorem run_cons {input : ι} {rest : List ι} {start : σ} :
    run step (input :: rest) start = run step rest (step input start) := rfl

theorem run_append {first second : List ι} {start : σ} :
    run step (first ++ second) start = run step second (run step first start) :=
  List.foldl_append

theorem Reachable.refl {start : σ} : Reachable step start start := ⟨[], rfl⟩

/-- A run from a reachable state ends in a reachable state. -/
theorem Reachable.run {start state : σ} (reached : Reachable step start state)
    (inputs : List ι) : Reachable step start (Runs.run step inputs state) := by
  rcases reached with ⟨before, rfl⟩
  exact ⟨before ++ inputs, run_append⟩

/-- What every admitted step preserves, a run of admitted steps preserves. -/
theorem run_induction {admitted : ι → σ → Prop} {holds : σ → Prop}
    (preserved : ∀ input state, admitted input state → holds state → holds (step input state))
    {inputs : List ι} {start : σ} (holding : holds start)
    (allowed : ∀ before input after, inputs = before ++ input :: after →
      admitted input (run step before start)) :
    holds (run step inputs start) := by
  -- The next input is admitted in the start, and the rest in the state it leads to.
  induction inputs generalizing start with
  | nil => exact holding
  | cons input rest ih =>
    refine ih (preserved input start (allowed [] input rest rfl) holding) ?_
    intro before next after split
    simpa using allowed (input :: before) next after (by simp [split])

/-- An invariant of every step holds along every run. -/
theorem run_invariant {holds : σ → Prop}
    (preserved : ∀ input state, holds state → holds (step input state))
    {inputs : List ι} {start : σ} (holding : holds start) : holds (run step inputs start) :=
  run_induction (fun input state (_ : True) => preserved input state) holding
    fun _ _ _ _ => trivial

/-- An invariant that holds in the start holds in every reachable state. -/
theorem Reachable.invariant {holds : σ → Prop} {start state : σ}
    (reached : Reachable step start state) (holding : holds start)
    (preserved : ∀ input state, holds state → holds (step input state)) : holds state := by
  rcases reached with ⟨inputs, rfl⟩
  exact run_invariant preserved holding

/-- A reflexive and transitive relation that every step respects relates the ends of a run. -/
theorem run_related {holds : σ → Prop} {related : σ → σ → Prop}
    (preserved : ∀ input state, holds state → holds (step input state))
    (refl : ∀ state, related state state)
    (trans : ∀ first second third, related first second → related second third →
      related first third)
    (respected : ∀ input state, holds state → related state (step input state))
    {inputs : List ι} {start : σ} (holding : holds start) :
    related start (run step inputs start) := by
  induction inputs generalizing start with
  | nil => exact refl start
  | cons input rest ih =>
    exact trans _ _ _ (respected input start holding) (ih (preserved input start holding))

/-- What does not hold in the start and holds at the end of a run was brought about by a step. -/
theorem run_arises (holds : σ → Prop) {inputs : List ι} {start : σ} (first : ¬ holds start)
    (last : holds (run step inputs start)) :
    ∃ before input after, inputs = before ++ input :: after ∧
      ¬ holds (run step before start) ∧ holds (step input (run step before start)) := by
  induction inputs generalizing start with
  | nil => exact absurd last first
  | cons input rest ih =>
    by_cases here : holds (step input start)
    · exact ⟨[], input, rest, rfl, first, here⟩
    · obtain ⟨before, later, after, rfl, still, arises⟩ := ih here last
      exact ⟨input :: before, later, after, rfl, still, arises⟩

section Allowance

variable {admitted : ι → σ → Prop} {holds : σ → Prop} {first second : List ι} {start : σ}

/-- A run whose every input is admitted in the state it meets. -/
def Allowed (step : ι → σ → σ) (admitted : ι → σ → Prop) : List ι → σ → Prop
  | [], _ => True
  | input :: rest, state => admitted input state ∧ Allowed step admitted rest (step input state)

instance Allowed.decide [∀ input state, Decidable (admitted input state)] :
    ∀ (inputs : List ι) (start : σ), Decidable (Allowed step admitted inputs start)
  | [], _ => inferInstanceAs (Decidable True)
  | input :: rest, state =>
    have := Allowed.decide rest (step input state)
    inferInstanceAs (Decidable (_ ∧ _))

/-- A run is allowed exactly when its first part is and the rest is from there. -/
theorem allowed_append : Allowed step admitted (first ++ second) start ↔
    Allowed step admitted first start ∧ Allowed step admitted second (run step first start) := by
  induction first generalizing start with
  | nil => simp [Allowed]
  | cons input rest ih => simp [Allowed, ih, and_assoc]

/-- What holds of every input of an allowed run is admitted with it. -/
theorem Allowed.with {also : ι → Prop} (allow : Allowed step admitted first start)
    (all : ∀ input ∈ first, also input) :
    Allowed step (fun input state => admitted input state ∧ also input) first start := by
  induction first generalizing start with
  | nil => trivial
  | cons input rest ih =>
    exact ⟨⟨allow.1, all input List.mem_cons_self⟩,
      ih allow.2 fun later member => all later (List.mem_cons_of_mem _ member)⟩

/-- What every admitted step preserves, an allowed run preserves. -/
theorem Allowed.invariant
    (preserved : ∀ input state, admitted input state → holds state → holds (step input state))
    (allow : Allowed step admitted first start) (holding : holds start) :
    holds (run step first start) := by
  induction first generalizing start with
  | nil => exact holding
  | cons input rest ih => exact ih allow.2 (preserved input start allow.1 holding)

/-- A reflexive and transitive relation that admitted steps respect relates the ends of a run. -/
theorem Allowed.related (related : σ → σ → Prop) (refl : ∀ state, related state state)
    (trans : ∀ first second third, related first second → related second third →
      related first third)
    (preserved : ∀ input state, admitted input state → holds state → holds (step input state))
    (respected : ∀ input state, admitted input state → holds state →
      related state (step input state))
    (allow : Allowed step admitted first start) (holding : holds start) :
    related start (run step first start) := by
  induction first generalizing start with
  | nil => exact refl start
  | cons input rest ih =>
    exact trans _ _ _ (respected input start allow.1 holding)
      (ih allow.2 (preserved input start allow.1 holding))

end Allowance

/-- How many inputs of a run are counted in the state they meet. -/
def count (step : ι → σ → σ) (counted : ι → σ → Bool) : List ι → σ → Nat
  | [], _ => 0
  | input :: rest, state =>
    (if counted input state then 1 else 0) + count step counted rest (step input state)

/-- A measure that every step raises by one exactly when it is counted ends at its count. -/
theorem run_counted (holds : σ → Prop) (counted : ι → σ → Bool) (measure : σ → Nat)
    {inputs : List ι} (preserved : ∀ input ∈ inputs, ∀ state, holds state →
      holds (step input state) ∧
        measure (step input state) = measure state + if counted input state then 1 else 0)
    {start : σ} (holding : holds start) :
    measure (run step inputs start) = measure start + count step counted inputs start := by
  induction inputs generalizing start with
  | nil => rfl
  | cons input rest ih =>
    obtain ⟨kept, raised⟩ := preserved input List.mem_cons_self start holding
    rw [run_cons, ih (fun later member => preserved later (List.mem_cons_of_mem _ member)) kept,
      raised, count, Nat.add_assoc]

end Runs
