import Aar.Lib.Guarded

/-! Computations that change a state and may raise, keeping the state they have reached. -/

namespace Stateful

variable {ε σ α β : Type}

/-- A computation without a state of its own runs in any state. -/
instance liftExcept : MonadLift (Except ε) (EStateM ε σ) where
  monadLift
    | .ok value => pure value
    | .error error => throw error

/-- Continue only when the condition holds, else raise in the present state. -/
def demand (condition : Prop) [Decidable condition] (error : ε) : EStateM ε σ Unit :=
  liftM (Guarded.require condition error)

/-- The state a computation ends in, whether it returns or raises. -/
def final (program : EStateM ε σ α) (start : σ) : σ :=
  match program start with
  | .ok _ state => state
  | .error _ state => state

/-- What a computation returns or raises. -/
def answer (program : EStateM ε σ α) (start : σ) : Except ε α :=
  match program start with
  | .ok value _ => .ok value
  | .error error _ => .error error

/-- Where a computation ends: one postcondition for its results, one for its errors. -/
def Leads (program : EStateM ε σ α) (start : σ) (returned : α → σ → Prop)
    (raised : ε → σ → Prop) : Prop :=
  match program start with
  | .ok value state => returned value state
  | .error error state => raised error state

/-- A result that is only dressed up is the dressed up answer. -/
theorem answer_bind_pure {program : EStateM ε σ α} {start : σ} {change : α → β} :
    answer (program >>= fun value => pure (change value)) start =
      (answer program start).map change := by
  unfold answer
  show (match EStateM.bind program (fun value => pure (change value)) start with
    | .ok value _ => Except.ok value
    | .error error _ => Except.error error) = _
  unfold EStateM.bind
  cases program start <;> rfl

/-- A sequence whose first part returns is answered by the rest. -/
theorem answer_bind {program : EStateM ε σ α} {rest : α → EStateM ε σ β} {start : σ} {value : α}
    (returns : answer program start = .ok value) :
    answer (program >>= rest) start = answer (rest value) (final program start) := by
  unfold answer final at *
  show (match EStateM.bind program rest start with
    | .ok value _ => Except.ok value
    | .error error _ => Except.error error) = _
  unfold EStateM.bind
  cases ran : program start with
  | ok found state =>
    simp only [ran, Except.ok.injEq] at returns ⊢
    rw [returns]
  | error error state => simp [ran] at returns

/-- A sequence whose first part raises ends there. -/
theorem raise_bind {program : EStateM ε σ α} {rest : α → EStateM ε σ β} {start : σ} {error : ε}
    (raises : answer program start = .error error) :
    answer (program >>= rest) start = .error error ∧
      final (program >>= rest) start = final program start := by
  unfold answer final at *
  show (match EStateM.bind program rest start with
      | .ok value _ => Except.ok value
      | .error error _ => Except.error error) = _ ∧
    (match EStateM.bind program rest start with
      | .ok _ state => state
      | .error _ state => state) = _
  unfold EStateM.bind
  cases ran : program start with
  | ok value state => simp [ran] at raises
  | error found state =>
    simp only [ran, Except.error.injEq] at raises ⊢
    exact ⟨raises, trivial⟩

theorem get_bind {rest : σ → EStateM ε σ β} {start : σ} :
    (do let state ← get; rest state) start = rest start start := rfl

/-- A demand whose condition holds is passed. -/
theorem demand_bind {condition : Prop} [Decidable condition] {error : ε} {rest : EStateM ε σ β}
    (holds : condition) : (do demand condition error; rest) = rest := by
  funext start
  show EStateM.bind (demand condition error) (fun _ => rest) start = rest start
  simp [demand, Guarded.require, holds, EStateM.bind, liftM, monadLift, MonadLift.monadLift, pure,
    EStateM.pure]

section Rules

variable {program : EStateM ε σ α} {start : σ} {returned : α → σ → Prop} {raised : ε → σ → Prop}

theorem Leads.pure {value : α} (holds : returned value start) :
    Leads (Pure.pure value) start returned raised := holds

theorem Leads.throw {error : ε} (holds : raised error start) :
    Leads (throw error : EStateM ε σ α) start returned raised := holds

/-- A sequence is followed from the state that its first part reaches. -/
theorem Leads.bind {rest : α → EStateM ε σ β} {done : β → σ → Prop}
    (first : Leads program start (fun value state => Leads (rest value) state done raised) raised) :
    Leads (program >>= rest) start done raised := by
  unfold Leads at first ⊢
  show match EStateM.bind program rest start with
    | .ok value state => done value state
    | .error error state => raised error state
  unfold EStateM.bind
  -- The first part either returns, and the rest runs, or raises, and the sequence does.
  cases ran : program start with
  | ok value state => simpa only [ran] using first
  | error error state => simpa only [ran] using first

theorem Leads.get {read : σ → σ → Prop} (holds : read start start) :
    Leads (MonadState.get : EStateM ε σ σ) start read raised := holds

theorem Leads.set {state : σ} {written : PUnit → σ → Prop} (holds : written ⟨⟩ state) :
    Leads (MonadStateOf.set state : EStateM ε σ PUnit) start written raised := holds

theorem Leads.modify {change : σ → σ} {written : PUnit → σ → Prop}
    (holds : written ⟨⟩ (change start)) :
    Leads (modify change : EStateM ε σ PUnit) start written raised := holds

/-- A computation without a state returns or raises and leaves the state as it is. -/
theorem Leads.lift {pure : Except ε α} (result : ∀ value, pure = .ok value → returned value start)
    (error : ∀ error, pure = .error error → raised error start) :
    Leads (liftM pure : EStateM ε σ α) start returned raised := by
  cases pure with
  | ok value => exact result value rfl
  | error refused => exact error refused rfl

/-- A demand leaves the state as it is and returns exactly under its condition. -/
theorem Leads.demand {condition : Prop} [Decidable condition] {error : ε}
    {passed : Unit → σ → Prop} (result : condition → passed () start)
    (refused : ¬ condition → raised error start) :
    Leads (demand condition error) start passed raised := by
  unfold Stateful.demand
  refine Leads.lift (fun _ passes => result (Guarded.require_ok.mp passes)) ?_
  intro found raises
  by_cases holds : condition
  · simp [Guarded.require, holds] at raises
  · have same : error = found := by simpa [Guarded.require, holds] using raises
    exact same ▸ refused holds

/-- Both postconditions may be weakened. -/
theorem Leads.mono {returned' : α → σ → Prop} {raised' : ε → σ → Prop}
    (leads : Leads program start returned raised)
    (results : ∀ value state, returned value state → returned' value state)
    (errors : ∀ error state, raised error state → raised' error state) :
    Leads program start returned' raised' := by
  unfold Leads at leads ⊢
  cases ran : program start with
  | ok value state => exact results value state (by simpa only [ran] using leads)
  | error error state => exact errors error state (by simpa only [ran] using leads)

/-- What a computation that returns has returned, in the state it ends in. -/
theorem Leads.answered (leads : Leads program start returned raised) {value : α}
    (answered : answer program start = .ok value) :
    returned value (Stateful.final program start) := by
  unfold Leads at leads
  unfold answer at answered
  unfold Stateful.final
  cases ran : program start with
  | ok found state =>
    simp only [ran, Except.ok.injEq] at answered leads ⊢
    exact answered ▸ leads
  | error error state => simp [ran] at answered

/-- What holds of how a computation ends, by its answer and the state it ends in. -/
theorem Leads.ends (related : Except ε α → σ → Prop)
    (leads : Leads program start (fun value => related (.ok value))
      fun error => related (.error error)) :
    related (answer program start) (Stateful.final program start) := by
  unfold Leads at leads
  unfold answer Stateful.final
  cases ran : program start with
  | ok value state => simpa only [ran] using leads
  | error error state => simpa only [ran] using leads

/-- A computation returns, or it raises. -/
theorem Leads.cases (leads : Leads program start returned raised) :
    (∃ value, answer program start = .ok value ∧ returned value (Stateful.final program start)) ∨
      ∃ error, answer program start = .error error ∧
        raised error (Stateful.final program start) := by
  unfold Leads at leads
  unfold answer Stateful.final
  cases ran : program start with
  | ok value state => exact .inl ⟨value, rfl, by simpa only [ran] using leads⟩
  | error error state => exact .inr ⟨error, rfl, by simpa only [ran] using leads⟩

end Rules

end Stateful
