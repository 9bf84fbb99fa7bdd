import Mathlib.Logic.Basic
import Mathlib.Tactic.Common

/-! Fallible computations read back as the guards they passed and the values they produced. -/

namespace Guarded

universe u v

variable {ε : Type u} {α β : Type v}

/-- Continue only when the condition holds. -/
def require (condition : Prop) [Decidable condition] (error : ε) : Except ε Unit :=
  if condition then .ok () else .error error

/-- Read an optional value, raising when it is absent. -/
def orRaise (value : Option α) (error : ε) : Except ε α :=
  match value with
  | some found => .ok found
  | none => .error error

/-- Read the only element of a list, raising unless there is exactly one. -/
def theOnly (values : List α) (error : ε) : Except ε α :=
  match values with
  | [single] => .ok single
  | _ => .error error

/-- Run a check only when the condition holds. -/
def runWhen (condition : Prop) [Decidable condition] (check : Except ε Unit) : Except ε Unit :=
  if condition then check else .ok ()

/-- A passed guard is exactly its condition. -/
@[simp] theorem require_ok {condition : Prop} [Decidable condition] {error : ε} {passed : Unit} :
    require condition error = .ok passed ↔ condition := by
  -- The two branches of the guard are the two truth values of its condition.
  by_cases holds : condition <;> simp [require, holds]

theorem require_error {condition : Prop} [Decidable condition] {raised error : ε} :
    require condition raised = .error error ↔ ¬ condition ∧ raised = error := by
  by_cases holds : condition <;> simp [require, holds]

/-- A conditional check passes exactly when the condition implies it. -/
@[simp] theorem runWhen_ok {condition : Prop} [Decidable condition] {check : Except ε Unit}
    {passed : Unit} : runWhen condition check = .ok passed ↔ (condition → check = .ok ()) := by
  by_cases holds : condition <;> simp [runWhen, holds]

@[simp] theorem orRaise_ok {value : Option α} {error : ε} {found : α} :
    orRaise value error = .ok found ↔ value = some found := by
  cases value <;> simp [orRaise]

theorem orRaise_error {value : Option α} {raised error : ε} :
    orRaise value raised = .error error ↔ value = none ∧ raised = error := by
  cases value <;> simp [orRaise]

@[simp] theorem theOnly_ok {values : List α} {error : ε} {single : α} :
    theOnly values error = .ok single ↔ values = [single] := by
  rcases values with _ | ⟨head, _ | ⟨next, rest⟩⟩ <;> simp [theOnly]

/-- A sequence succeeds exactly when its first part does and the rest succeeds from there. -/
@[simp] theorem bind_ok {first : Except ε α} {rest : α → Except ε β} {result : β} :
    (first >>= rest) = .ok result ↔ ∃ value, first = .ok value ∧ rest value = .ok result := by
  cases first <;> simp [Bind.bind, Except.bind]

/-- A sequence fails exactly when its first part does or the rest does from there. -/
theorem bind_error {first : Except ε α} {rest : α → Except ε β} {error : ε} :
    (first >>= rest) = .error error ↔
      first = .error error ∨ ∃ value, first = .ok value ∧ rest value = .error error := by
  cases first <;> simp [Bind.bind, Except.bind]

theorem ok_bind {value : α} {rest : α → Except ε β} : ((.ok value : Except ε α) >>= rest) = rest value :=
  rfl

@[simp] theorem map_ok {change : α → β} {first : Except ε α} {result : β} :
    (change <$> first) = .ok result ↔ ∃ value, first = .ok value ∧ change value = result := by
  cases first <;> simp [Functor.map, Except.map]

@[simp] theorem pure_ok {value result : α} :
    (pure value : Except ε α) = .ok result ↔ value = result := by
  simp [Pure.pure, Except.pure]

@[simp] theorem throw_ok {error : ε} {result : α} :
    ¬ (throw error : Except ε α) = .ok result := by
  simp [throw, throwThe, MonadExceptOf.throw]

/-- A choice between two computations succeeds through the branch that was taken. -/
theorem ite_ok {condition : Prop} [Decidable condition] {left right : Except ε α} {result : α} :
    (if condition then left else right) = .ok result ↔
      (condition ∧ left = .ok result) ∨ (¬condition ∧ right = .ok result) := by
  by_cases holds : condition <;> simp [holds]

theorem toOption_ok {first : Except ε α} {result : α} :
    first.toOption = some result ↔ first = .ok result := by
  cases first <;> simp [Except.toOption]

end Guarded
