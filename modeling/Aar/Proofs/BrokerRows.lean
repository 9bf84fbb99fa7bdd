import Aar.Broker.Journal

/-! What each transaction of the broker call journal does to its rows. -/

namespace Aar.Broker

open Guarded Table

/-- A call that has succeeded or failed. -/
def BrokerCall.Ended (call : BrokerCall) : Prop := call.state = .succeeded ∨ call.state = .failed

/-- A call that a reconciliation has resolved, quarantined or compensated. -/
def BrokerCall.Reconciled (call : BrokerCall) : Prop :=
  ∃ action, call.reconciliationAction = some action ∧ action ≠ .pending

namespace BrokerJournal

variable {H : Hashing} {budget : Budget} {calls calls' : List BrokerCall} {row : BrokerCall}
  {invocation : Invocation} {authority : Except BrokerError Unit} {control : OperationControl}
  {response : BrokerResponse} {sequence : Nat}

/-- The budget still holds a usage on top of another one. -/
def Fits (budget : Budget) (used more : BrokerUsage) : Prop :=
  (used.add more).Valid ∧ Within budget (used.add more)

theorem fits_iff {used more : BrokerUsage} :
    (do let total ← used.plus more; assertBudget budget total) = .ok () ↔
      Fits budget used more := by
  simp [BrokerUsage.plus, assertBudget, Fits]

/-- What an admission can end with, and what it does to the rows. -/
inductive Admits (H : Hashing) (budget : Budget) (invocation : Invocation)
    (calls : List BrokerCall) : Admitted → List BrokerCall → Prop where
  | replayed {row : BrokerCall} {response : BrokerResponse} (member : row ∈ calls)
      (named : row.idempotencyKey = invocation.idempotencyKey) (succeeded : row.state = .succeeded)
      (stored : row.responseJson = some response) :
      Admits H budget invocation calls (.replayed response) calls
  | reopened {row : BrokerCall} {used : BrokerUsage} {calls' : List BrokerCall}
      (found : callAt calls row.sequence = some row)
      (named : row.idempotencyKey = invocation.idempotencyKey)
      (rejected : row.state = .rejectedBeforeSend) (unanswered : row.responseJson = none)
      (spent : usage calls = .ok used) (fits : Fits budget used invocation.usage)
      (replaces : Replaces BrokerCall.sequence row (reopened invocation row) calls calls') :
      Admits H budget invocation calls (.started row.sequence used) calls'
  | inserted {used : BrokerUsage}
      (fresh : ∀ row ∈ calls, row.idempotencyKey ≠ invocation.idempotencyKey)
      (spent : usage calls = .ok used) (fits : Fits budget used invocation.usage) :
      Admits H budget invocation calls (.started (maxOf calls (·.sequence) + 1) used)
        (calls ++ [startedCall H invocation (maxOf calls (·.sequence) + 1)])

/-- What the row of the same key leaves to do. -/
theorem existingCall_ok {found : Option BrokerResponse × Option Nat}
    (ran : existingCall H invocation calls = .ok found) :
    (found = (none, none) ∧ ∀ row ∈ calls, row.idempotencyKey ≠ invocation.idempotencyKey) ∨
    ∃ row ∈ calls, row.idempotencyKey = invocation.idempotencyKey ∧
      ((∃ response, found = (some response, none) ∧ row.state = .succeeded ∧
          row.responseJson = some response) ∨
        (found = (none, some row.sequence) ∧ row.state = .rejectedBeforeSend ∧
          row.responseJson = none)) := by
  simp only [existingCall] at ran
  split at ran
  next absent =>
    cases ran
    exact .inl ⟨rfl, fetchOne_none.mp absent⟩
  next row stored =>
    obtain ⟨member, named⟩ := fetchOne_some stored
    simp only [bind_ok, require_ok] at ran
    obtain ⟨_, -, ran⟩ := ran
    refine .inr ⟨row, member, named, ?_⟩
    split at ran
    next response state answered =>
      simp only [bind_ok, require_ok, pure_ok] at ran
      obtain ⟨_, -, _, -, rfl⟩ := ran
      exact .inl ⟨response, rfl, state, answered⟩
    next state unanswered =>
      simp only [pure_ok] at ran
      exact .inr ⟨ran.symm, state, unanswered⟩
    next => simp only [throw_ok] at ran

/-- An admission ends in one of its three ways. -/
theorem admit_ok {result : Admitted} (keyed : Keyed BrokerCall.sequence calls)
    (ran : admitCall H budget invocation authority control calls = .ok (result, calls')) :
    Admits H budget invocation calls result calls' := by
  simp only [admitCall, bind_ok, runWhen_ok] at ran
  obtain ⟨_, -, _, -, found, existing, ran⟩ := ran
  rcases existingCall_ok existing with ⟨rfl, fresh⟩ | ⟨row, member, named,
    ⟨response, rfl, succeeded, stored⟩ | ⟨rfl, rejected, unanswered⟩⟩
  · simp only [bind_ok, pure_ok, Prod.mk.injEq] at ran
    obtain ⟨used, spent, total, added, _, within, rfl, rfl⟩ := ran
    exact .inserted fresh spent (fits_iff.mp (by simp only [added, ok_bind, within]))
  · simp only [pure_ok, Prod.mk.injEq] at ran
    obtain ⟨rfl, rfl⟩ := ran
    exact .replayed member named succeeded stored
  · simp only [bind_ok, pure_ok, Prod.mk.injEq] at ran
    obtain ⟨used, spent, total, added, _, within, rows, updated, rfl, rfl⟩ := ran
    obtain ⟨other, there, -, replaces⟩ := update_replaces updated keyed fun _ => rfl
    -- The row under the sequence of the row of the key is that row.
    have found : callAt calls row.sequence = some row := keyed.fetch member
    cases found.symm.trans there
    exact .reopened found named rejected unanswered spent
      (fits_iff.mp (by simp only [added, ok_bind, within])) replaces

/-- What a reconciliation can do to the rows: nothing, or end or mark one started call. -/
inductive Applies (H : Hashing) (row : BrokerCall) (authorityDigest : Digest) (now : Nat)
    (calls : List BrokerCall) : Decision → List BrokerCall → Prop where
  | nothing {decision : Decision} : Applies H row authorityDigest now calls decision calls
  | resolved {stored : BrokerCall} {calls' : List BrokerCall} {response : BrokerResponse}
      {committedUsage : Option BrokerUsage} {action : BrokerReconciliationAction}
      {reasonCode : String} {reconciliation : BrokerCallReconciliation}
      (found : callAt calls row.sequence = some stored) (started : stored.state = .started)
      (acts : reconciliation.action = action)
      (replaces : Replaces BrokerCall.sequence stored
        (resolved H reconciliation response committedUsage now stored) calls calls') :
      Applies H row authorityDigest now calls
        (.resolve response committedUsage action reasonCode) calls'
  | unresolved {stored : BrokerCall} {calls' : List BrokerCall}
      {committedUsage : Option BrokerUsage} {action : BrokerReconciliationAction}
      {reasonCode : String} {compensation : Option String}
      {reconciliation : BrokerCallReconciliation}
      (found : callAt calls row.sequence = some stored) (started : stored.state = .started)
      (acts : reconciliation.action = action)
      (replaces : Replaces BrokerCall.sequence stored
        (unresolved reconciliation committedUsage now stored) calls calls') :
      Applies H row authorityDigest now calls
        (.unresolved action reasonCode compensation committedUsage) calls'

/-- A decision is carried out in one of these ways. -/
theorem apply_ok {decision : Decision} {authorityDigest : Digest} {now : Nat}
    (keyed : Keyed BrokerCall.sequence calls)
    (ran : apply H row authorityDigest now calls decision = .ok calls') :
    Applies H row authorityDigest now calls decision calls' := by
  cases decision with
  | resolve response committedUsage action reasonCode =>
    simp only [apply, resolveStartedCall, bind_ok, orRaise_ok, require_ok] at ran
    obtain ⟨stored, found, _, -, _, -, ran⟩ := ran
    split at ran
    · simp only [bind_ok, require_ok, pure_ok] at ran
      obtain ⟨_, -, rfl⟩ := ran
      exact .nothing
    · simp only [bind_ok, require_ok] at ran
      obtain ⟨_, started, updated⟩ := ran
      obtain ⟨other, there, -, replaces⟩ := update_replaces updated keyed fun _ => rfl
      cases found.symm.trans there
      exact .resolved found started rfl replaces
  | unresolved action reasonCode compensation committedUsage =>
    simp only [apply, recordUnresolvedReconciliation, bind_ok, orRaise_ok, require_ok] at ran
    obtain ⟨stored, found, _, -, ran⟩ := ran
    split at ran
    · simp only [bind_ok, require_ok, pure_ok] at ran
      obtain ⟨_, -, rfl⟩ := ran
      exact .nothing
    · next started =>
      obtain ⟨other, there, -, replaces⟩ := update_replaces ran keyed fun _ => rfl
      cases found.symm.trans there
      exact .unresolved found (not_not.mp started) rfl replaces

theorem startedCall_fresh (H : Hashing) (invocation : Invocation) (calls : List BrokerCall) :
    ∀ row ∈ calls,
    row.sequence ≠ (startedCall H invocation (maxOf calls (·.sequence) + 1)).sequence := by
  intro row member same
  have bound : row.sequence ≤ maxOf calls (·.sequence) := le_maxOf member
  simp only [startedCall] at same
  omega

end BrokerJournal

end Aar.Broker
