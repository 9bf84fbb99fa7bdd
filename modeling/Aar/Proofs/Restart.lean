import Aar.Proofs.Ownership

/-! What a restart fences: everything of the running operations, and nothing of the others. -/

namespace Aar

open Guarded Table Registry

section Local

variable {s : Scope}

theorem restarted_idle (now : Nat) (idle : s.row.state ≠ .running) :
    (restarted now s).attempts = s.attempts ∧ (restarted now s).leases = s.leases ∧
      (restarted now s).row.state = s.row.state := by
  simp only [restarted, idle, if_false]
  split <;> exact ⟨rfl, rfl, rfl⟩

theorem restarted_accepted (now : Nat) (accepted : s.row.state = .accepted) :
    (restarted now s).row.state = .accepted ∧
      (restarted now s).row.runtimeGeneration = s.generation + 1 := by
  simp only [restarted, accepted, if_true]
  exact ⟨accepted, rfl⟩

/-- A restart marks a running operation for reconciliation. -/
theorem restarted_running (now : Nat) (running : s.row.state = .running) :
    (restarted now s).row.state = .indeterminate ∧
      (restarted now s).row.reconciliationRequired = true := by
  have unqueued : ¬ s.row.state = .accepted := by rw [running]; decide
  simp only [restarted, if_neg unqueued, if_pos running, fenceRunning, insertEvent]
  cases latestRunning _ <;> exact ⟨rfl, rfl⟩

/-- A restart leaves a running operation without an owner. -/
theorem restarted_quiet (now : Nat) (owned : Owned s.toOpRecord) (running : s.row.state = .running) :
    Quiet (restarted now s).toOpRecord := by
  have unqueued : ¬ s.row.state = .accepted := by rw [running]; decide
  have rows : (restarted now s).toOpRecord =
      (fenceRunning now { s with generation := s.generation + 1 }).toOpRecord := by
    simp only [restarted, if_neg unqueued, if_pos running]
  rw [rows]
  cases found : latestRunning { s with generation := s.generation + 1 } with
  | none =>
    -- Nothing runs, so nothing is held either.
    have idle : ∀ row ∈ s.attempts, ¬ row.Live := fetchMax_none found
    simp only [fenceRunning, insertEvent, found]
    refine ⟨idle, fun lease member held => ?_⟩
    obtain ⟨attempt, stored, runs⟩ := owned.running running lease member held
    exact idle attempt stored runs
  | some attempt =>
    obtain ⟨member, runs, -⟩ := fetchMax_some found
    have last := owned.attempts.latest attempt member runs
    simp only [fenceRunning, insertEvent, abandonAttempt, found]
    constructor
    · refine updateWhere_stops (fun row stored alive => ?_) (fun _ _ runs => by cases runs)
      rw [owned.attempts.latest row stored alive, last]
    · refine updateWhere_stops (fun row stored alive => ⟨?_, alive⟩) (fun _ _ held => by cases held)
      rw [owned.leases.latest row stored alive, owned.paired, last]

end Local

section Restart

variable {H : Hashing} {clock : Clock} {db : Db}

/-- After a restart nothing runs and nothing is held; accepted operations are rebound, running
ones wait for reconciliation, and ended ones keep their outcome. -/
structure RestartFences (clock : Clock) (db : Db) : Prop where
  fenced : ∀ operation record, (startRuntime clock db).lookup operation = some record →
    record.row.state ≠ .running ∧ Quiet record
  accepted : ∀ operation record, db.lookup operation = some record →
    record.row.state = .accepted →
    ∃ record', (startRuntime clock db).lookup operation = some record' ∧
      record'.row.state = .accepted ∧
      record'.row.runtimeGeneration = (startRuntime clock db).generation
  running : ∀ operation record, db.lookup operation = some record →
    record.row.state = .running →
    ∃ record', (startRuntime clock db).lookup operation = some record' ∧
      record'.row.state = .indeterminate ∧ record'.row.reconciliationRequired = true
  terminal : ∀ operation record, db.lookup operation = some record →
    record.row.state.Terminal →
    ∃ record', (startRuntime clock db).lookup operation = some record' ∧
      SameOutcome record.row record'.row

/-- A restart fences everything exactly when whatever does not run has no owner left. -/
theorem startRuntime_fences (reached : db.Reachable H) :
    RestartFences clock db ↔ ∀ operation record, db.lookup operation = some record →
      record.row.state ≠ .running → Quiet record := by
  constructor
  · intro fences operation record found idle
    obtain ⟨before, rfl, -, -, -, -, -, ended⟩ := lookup_startRuntime found
    obtain ⟨attempts, leases, -⟩ := restarted_idle (clock 0) idle
    obtain ⟨-, quiet⟩ := fences.fenced operation _ ended
    exact ⟨attempts ▸ quiet.attempts, leases ▸ quiet.leases⟩
  · intro quiet
    refine ⟨fun operation record there => ?_, fun operation record found state => ?_,
      fun operation record found state => ?_, fun operation record found terminal => ?_⟩
    · -- A restart adds no operation, so the fenced one was stored before.
      obtain ⟨before, found⟩ := startRuntime_known there
      have owned : Owned before := owned_invariant.reachable reached operation before found
      obtain ⟨s, rfl, -, -, -, -, -, ended⟩ := lookup_startRuntime found
      cases ended.symm.trans there
      by_cases running : s.row.state = .running
      · refine ⟨?_, restarted_quiet (clock 0) owned running⟩
        rw [(restarted_running (clock 0) running).1]
        decide
      · obtain ⟨attempts, leases, state⟩ := restarted_idle (clock 0) running
        obtain ⟨stopped, released⟩ := quiet operation s.toOpRecord found running
        exact ⟨state ▸ running, attempts ▸ stopped, leases ▸ released⟩
    · obtain ⟨s, rfl, -, generation, -, -, -, ended⟩ := lookup_startRuntime found
      obtain ⟨accepted, rebound⟩ := restarted_accepted (clock 0) state
      refine ⟨_, ended, accepted, ?_⟩
      rw [rebound, generation, startRuntime_keeps.1]
    · obtain ⟨s, rfl, -, -, -, -, -, ended⟩ := lookup_startRuntime found
      exact ⟨_, ended, restarted_running (clock 0) state⟩
    · obtain ⟨s, rfl, -, -, -, -, -, ended⟩ := lookup_startRuntime found
      exact ⟨_, ended, (restarted_aged (clock 0)).final terminal⟩

/-- The claimed job succeeds through the unfenced transition, and the process stops. -/
def Sample.succeeded : List Event :=
  Sample.running "op" .callerDelegated ++
    [(Call.on "op" (.registry (.succeed "result" 1 false))).atTime 3]

/-- The attempt of an operation that ended without finishing it survives the restart. -/
theorem startRuntime_fences_not :
    (Sample.db Sample.succeeded).Reachable .readable ∧
      ¬ RestartFences (fun _ => 4) (Sample.db Sample.succeeded) := by
  refine ⟨Sample.reachable _, fun fences => ?_⟩
  have runs : ((startRuntime (fun _ => 4) (Sample.db Sample.succeeded)).lookup "op").any
      fun record => record.attempts.any fun row => row.state = runningAttempt := by
    decide +kernel
  simp only [Option.any_eq_true, List.any_eq_true, decide_eq_true_eq] at runs
  obtain ⟨record, found, row, member, alive⟩ := runs
  exact (fences.fenced "op" record found).2.attempts row member alive

/-- A restart fences the claimed job of a run in which everything else has no owner. -/
theorem startRuntime_fences_sample :
    RestartFences (fun _ => 4) (Sample.db (Sample.running "op" .callerDelegated)) := by
  refine (startRuntime_fences (Sample.reachable _)).mpr fun operation record found idle => ?_
  have runs : ∀ entry ∈ (Sample.db (Sample.running "op" .callerDelegated)).operations,
      entry.2.row.state = .running := by decide +kernel
  exact absurd (runs _ (Db.mem_of_lookup found)) idle

end Restart

end Aar
