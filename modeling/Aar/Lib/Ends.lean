import Aar.Lib.Guarded

/-! Fallible computations with two postconditions: one for their results, one for their errors. -/

namespace Guarded

universe u

variable {ε : Type u} {α β : Type} {allowed : ε → Prop} {mid : α → Prop} {post : β → Prop}

/-- A result satisfies the postcondition, and an error is one of the allowed ones. -/
def Ends (allowed : ε → Prop) (post : α → Prop) : Except ε α → Prop
  | .ok value => post value
  | .error error => allowed error

namespace Ends

theorem error {error : ε} (holds : allowed error) :
    Ends allowed post (.error error : Except ε β) := holds

/-- A sequence ends well when its rest does from every result of its first part. -/
theorem bind {first : Except ε α} {rest : α → Except ε β} (left : Ends allowed mid first)
    (right : ∀ value, mid value → Ends allowed post (rest value)) :
    Ends allowed post (first >>= rest) := by
  cases first with
  | ok value => exact right value left
  | error error => exact left

/-- A guard ends well when its error is allowed and the rest ends well under its condition. -/
theorem require {condition : Prop} [Decidable condition] {error : ε} {rest : Unit → Except ε β}
    (left : ¬ condition → allowed error) (right : condition → Ends allowed post (rest ())) :
    Ends allowed post (Guarded.require condition error >>= rest) := by
  by_cases holds : condition
  · simpa [Guarded.require, holds, Bind.bind, Except.bind] using right holds
  · simpa [Guarded.require, holds, Bind.bind, Except.bind, Ends] using left holds

/-- A read ends well when its error is allowed and the rest ends well from what was there. -/
theorem orRaise {value : Option α} {error : ε} {rest : α → Except ε β}
    (left : value = none → allowed error)
    (right : ∀ found, value = some found → Ends allowed post (rest found)) :
    Ends allowed post (Guarded.orRaise value error >>= rest) := by
  cases value with
  | none => exact left rfl
  | some found => exact right found rfl

/-- Errors may be renamed where they are raised. -/
theorem mapError {ε' : Type u} {allowed' : ε' → Prop} {change : ε → ε'} {first : Except ε β}
    (ends : Ends allowed post first) (errors : ∀ error, allowed error → allowed' (change error)) :
    Ends allowed' post (first.mapError change) := by
  cases first with
  | ok value => exact ends
  | error error => exact errors error ends

theorem result {first : Except ε β} {value : β} (ends : Ends allowed post first)
    (ran : first = .ok value) : post value := by
  subst ran
  exact ends

theorem raised {first : Except ε β} {error : ε} (ends : Ends allowed post first)
    (ran : first = .error error) : allowed error := by
  subst ran
  exact ends

end Ends

end Guarded
