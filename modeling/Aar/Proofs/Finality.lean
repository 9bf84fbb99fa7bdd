import Aar.Proofs.Restart

/-! An operation that has ended keeps its outcome, and is never attempted again. -/

namespace Aar

open Guarded Table Registry

section Finality

variable {H : Hashing} {db : Db} {operation : String} {record : OpRecord}

/-- Once an operation has ended, its outcome and its list of attempts stay as they are. -/
def Final (s s' : OpRecord) : Prop :=
  s.row.state.Terminal → SameOutcome s.row s'.row ∧
    s'.attempts.map AttemptRow.attemptId = s.attempts.map AttemptRow.attemptId

/-- Outcomes stay the same step after step. -/
theorem SameOutcome.trans {first second third : OperationRow} (before : SameOutcome first second)
    (after : SameOutcome second third) : SameOutcome first third :=
  ⟨after.state.trans before.state, after.certainty.trans before.certainty,
    after.recordRevision.trans before.recordRevision, after.resultJson.trans before.resultJson,
    after.failure.trans before.failure⟩

/-- In every run, whatever the clocks read, ended operations stay as they ended. -/
theorem final_progress :
    Progress H Unrestricted (fun _ => True) (fun s => Owned s.toOpRecord) fun s s' =>
      Final s.toOpRecord s'.toOpRecord where
  refl s := fun _ => ⟨.refl s.row, rfl⟩
  trans first second third before after := by
    intro terminal
    obtain ⟨outcome, attempts⟩ := before terminal
    obtain ⟨again, listed⟩ := after (outcome.state ▸ terminal)
    exact ⟨outcome.trans again, listed.trans attempts⟩
  step _ s s' _ step owned := by
    intro terminal
    cases step.owns owned with
    | aged aged =>
      exact ⟨aged.final terminal, aged_column aged.attempts fun _ _ ages => ages.attemptId⟩
    | claimed claimed =>
      -- Only an accepted operation is claimed.
      exact absurd (claimed.accepted ▸ terminal) (by decide)

/-- A terminal operation keeps its outcome and gets no new attempt, whatever is called later. -/
theorem terminal_outcome_final (reached : db.Reachable H)
    (found : db.lookup operation = some record) (terminal : record.row.state.Terminal)
    (later : List Event) :
    ∃ record', (Runs.run (Event.step H) later db).lookup operation = some record' ∧
      record'.row.state = record.row.state ∧ record'.row.certainty = record.row.certainty ∧
      record'.row.recordRevision = record.row.recordRevision ∧
      record'.row.resultJson = record.row.resultJson ∧
      record'.row.failure = record.row.failure ∧
      record'.attempts.map AttemptRow.attemptId = record.attempts.map AttemptRow.attemptId := by
  obtain ⟨record', there, final⟩ := final_progress.run owned_invariant
    (fun event (_ : event ∈ later) => trivial) (owned_invariant.reachable reached) found
  obtain ⟨outcome, attempts⟩ := final terminal
  exact ⟨record', there, outcome.state, outcome.certainty, outcome.recordRevision,
    outcome.resultJson, outcome.failure, attempts⟩

/-- A job that succeeded is found again, ended as it was, after any further calls. -/
theorem terminal_outcome_final_sample :
    ∃ record, (Sample.db Sample.succeeded).lookup "op" = some record ∧
      record.row.resultJson = some "result" ∧
      ∀ later : List Event, ∃ record',
        (Runs.run (Event.step .readable) later (Sample.db Sample.succeeded)).lookup "op" =
          some record' ∧ record'.row.resultJson = some "result" := by
  have ended : ((Sample.db Sample.succeeded).lookup "op").any fun record =>
      record.row.state = .succeeded ∧ record.row.resultJson = some "result" := by decide +kernel
  simp only [Option.any_eq_true, decide_eq_true_eq] at ended
  obtain ⟨record, found, state, result⟩ := ended
  refine ⟨record, found, result, fun later => ?_⟩
  have terminal : record.row.state.Terminal := by
    rw [state]
    decide
  obtain ⟨record', there, -, -, -, kept, -⟩ :=
    terminal_outcome_final (Sample.reachable _) found terminal later
  exact ⟨record', there, kept.trans result⟩

end Finality

end Aar
