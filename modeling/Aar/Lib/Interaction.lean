/-! Programs that ask their surroundings and continue with what is answered. -/

namespace Interactions

/-- A program that has ended, or asks and goes on with any answer it may get. -/
inductive Interaction (Ask Answer Out : Type) where
  | done (out : Out)
  | ask (question : Ask) (next : Answer → Interaction Ask Answer Out)

variable {State Ask Answer Out : Type}

/-- Run a program against surroundings that answer each question and may change with it. -/
def Interaction.run (respond : State → Ask → Answer × State) :
    Interaction Ask Answer Out → State → Out × State
  | .done out, state => (out, state)
  | .ask question next, state =>
    let answered := respond state question
    (next answered.1).run respond answered.2

variable {respond : State → Ask → Answer × State}

/-- What every answer preserves, every program preserves. -/
theorem Interaction.run_invariant (holds : State → Prop)
    (preserved : ∀ state question, holds state → holds (respond state question).2)
    (program : Interaction Ask Answer Out) {start : State} (holding : holds start) :
    holds (program.run respond start).2 := by
  -- The rest of the program runs from the state that its first question leads to.
  induction program generalizing start with
  | done out => exact holding
  | ask question next hypothesis =>
    exact hypothesis _ (preserved start question holding)

end Interactions
