import Aar.Lib.Script
import Aar.Lib.Succession
import Aar.Proofs.BrokerCalls
import Aar.Rlm.Engine

/-! What the calls of an engine run, and the passes over them, do to the rows of the journal. -/

namespace Aar.Rlm

open Guarded Table Broker BrokerJournal

/-- The columns of a call that nothing writes after its admission. -/
structure CallIdentity where
  sequence : Nat
  method : BrokerMethodName
  grantId : String
  idempotencyKey : String
  requestDigest : Digest
  responseModel : String

/-- What a call is, whatever becomes of it. -/
def identity (call : BrokerCall) : CallIdentity where
  sequence := call.sequence
  method := call.method
  grantId := call.grantId
  idempotencyKey := call.idempotencyKey
  requestDigest := call.requestDigest
  responseModel := call.responseModel

/-- A call was sent, a success has its digest, and a response is of the model that was asked for. -/
structure Sound (H : Hashing) (call : BrokerCall) : Prop where
  sent : call.state ≠ .rejectedBeforeSend
  sealed : call.state = .succeeded → Sealed H call
  typed : ∀ response, call.responseJson = some response → response.model = call.responseModel

/-- What a call keeps while others act on the journal. -/
structure Moves (H : Hashing) (call call' : BrokerCall) : Prop where
  same : identity call' = identity call
  sound : Sound H call → Sound H call'

variable {H : Hashing} {budget : Budget} {b : BrokerSystem} {call : AdmittedCall}
  {calls calls' : List BrokerCall} {row : BrokerCall} {event : BrokerEvent}

theorem Moves.refl (row : BrokerCall) : Moves H row row := ⟨rfl, id⟩

theorem Moves.failed (code : String) (action : Option BrokerReconciliationAction) :
    Moves H row (failed code action row) where
  same := rfl
  sound sound := ⟨by simp [BrokerJournal.failed], by simp [BrokerJournal.failed], sound.typed⟩

theorem Moves.succeeded {response : BrokerResponse} {usage : BrokerUsage}
    (typed : response.model = row.responseModel) :
    Moves H row (succeeded H response usage row) where
  same := rfl
  sound _ := by
    refine ⟨by simp [BrokerJournal.succeeded], fun _ => by simp [Sealed, BrokerJournal.succeeded], ?_⟩
    rintro other ⟨⟩
    exact typed

theorem Moves.demoted (error : BrokerError) : Moves H row (demoted error row) where
  same := rfl
  sound sound := ⟨by simp [BrokerJournal.demoted], by simp [BrokerJournal.demoted], sound.typed⟩

/-- A call that a pass resolves with a response of its model keeps what it is. -/
theorem Moves.resolved {reconciliation : BrokerCallReconciliation} {response : BrokerResponse}
    {committedUsage : Option BrokerUsage} {now : Nat} (typed : response.model = row.responseModel) :
    Moves H row (resolved H reconciliation response committedUsage now row) where
  same := rfl
  sound _ := by
    refine ⟨by simp [BrokerJournal.resolved], fun _ => by simp [Sealed, BrokerJournal.resolved], ?_⟩
    rintro other ⟨⟩
    exact typed

theorem Moves.unresolved {reconciliation : BrokerCallReconciliation}
    {committedUsage : Option BrokerUsage} {now : Nat} :
    Moves H row (unresolved reconciliation committedUsage now row) where
  same := rfl
  sound sound := by
    refine ⟨?_, ?_, sound.typed⟩ <;> simp only [BrokerJournal.unresolved] <;> split <;> simp

theorem Sound.started (asked : Invocation) (sequence : Nat) :
    Sound H (startedCall H asked sequence) where
  sent := by simp [startedCall]
  sealed := by simp [startedCall]
  typed := by simp [startedCall]

/-- What a pass carries out leaves every row in its place. -/
theorem apply_moves {decision : Decision} {authorityDigest : Digest} {now : Nat}
    (keyed : Keyed BrokerCall.sequence calls)
    (ran : BrokerJournal.apply H row authorityDigest now calls decision = .ok calls') :
    InPlace (Moves H) calls calls' := by
  -- A row under the sequence of the decision is the row that the checks have read.
  have only : ∀ stored other, callAt calls row.sequence = some stored → other ∈ calls →
      other.sequence = row.sequence → other = stored := by
    intro stored other found member named
    obtain ⟨there, same⟩ := cell_some found
    exact keyed.unique member there (named.trans same.symm)
  cases decision with
  | resolve response committedUsage action reasonCode =>
    simp only [BrokerJournal.apply, resolveStartedCall, bind_ok, orRaise_ok, require_ok] at ran
    obtain ⟨stored, found, _, -, _, typed, ran⟩ := ran
    split at ran
    · simp only [bind_ok, require_ok, pure_ok] at ran
      obtain ⟨_, -, rfl⟩ := ran
      exact .refl Moves.refl calls
    · simp only [bind_ok, require_ok, updateCell_ok] at ran
      obtain ⟨_, -, -, rfl⟩ := ran
      refine .patch Moves.refl fun other member named _ => .resolved ?_
      rw [only stored other found member named]
      exact typed.symm
  | unresolved action reasonCode compensation committedUsage =>
    simp only [BrokerJournal.apply, recordUnresolvedReconciliation, bind_ok, orRaise_ok,
      require_ok] at ran
    obtain ⟨stored, found, _, -, ran⟩ := ran
    split at ran
    · simp only [bind_ok, require_ok, pure_ok] at ran
      obtain ⟨_, -, rfl⟩ := ran
      exact .refl Moves.refl calls
    · obtain ⟨-, rfl⟩ := updateCell_ok.mp ran
      exact .patch Moves.refl fun _ _ _ _ => .unresolved

/-- An event of an engine run or of a pass that admits no call; runs are never rejected. -/
def Plain : BrokerEvent → Prop
  | .admitCall _ _ _ => False
  | .recheck _ authority => authority = .ok ()
  | _ => True

/-- The rows of an answered call expect a response of the model that it asks for. -/
def Typed (calls : List BrokerCall) : BrokerEvent → Prop
  | .answer call _ => ∀ row ∈ calls, row.sequence = call.sequence →
    row.responseModel = call.invocation.responseModel
  | _ => True

/-- An event that admits no call leaves every row in its place. -/
theorem step_moves (keyed : Keyed BrokerCall.sequence b.calls) (plain : Plain event)
    (typed : Typed b.calls event) :
    InPlace (Moves H) b.calls (BrokerSystem.step H budget event b).calls := by
  have stays : InPlace (Moves H) b.calls b.calls := .refl Moves.refl b.calls
  have placed : ∀ (flight : BrokerFlight) (act : BrokerSystem → BrokerSystem),
      InPlace (Moves H) b.calls (act (b.leave flight)).calls →
        InPlace (Moves H) b.calls (b.from_ flight act).calls := fun flight act acts =>
    @BrokerSystem.from_holds b flight (fun after => InPlace (Moves H) b.calls after.calls) act stays
      fun _ => acts
  cases event <;> simp only [BrokerSystem.step]
  case admitCall => exact plain.elim
  case recheck call authority =>
    refine placed _ _ ?_
    rw [show authority = .ok () from plain]
    exact stays
  case answer call answer =>
    refine placed _ _ ?_
    cases answer with
    | indeterminate => exact stays
    | quarantined reasonCode => exact .patch Moves.refl fun _ _ _ _ => .failed _ _
    | raised code => exact .patch Moves.refl fun _ _ _ _ => .failed _ _
    | responded response committedUsage =>
      simp only [BrokerSystem.answer]
      split
      · next same =>
        refine .patch Moves.refl fun row member named _ => .succeeded ?_
        exact same.trans (typed row member named).symm
      · exact .patch Moves.refl fun _ _ _ _ => .failed _ _
  case settle call response usage postCheck =>
    refine placed _ _ ?_
    simp only [BrokerSystem.settle]
    split
    · exact .patch Moves.refl fun _ _ _ _ => .demoted _
    · exact stays
  case startPass => exact stays
  case decide row rows finding =>
    refine placed _ _ ?_
    split
    · exact stays
    · exact stays
  case apply row decision rows authorityDigest now =>
    refine placed _ _ ?_
    simp only [BrokerSystem.apply]
    split
    · exact stays
    · next ran => exact apply_moves keyed ran
  case stop => exact stays

/-- What a call keeps while others act on the journal, none of them too late for it. -/
structure Keeps (H : Hashing) (call call' : BrokerCall) : Prop extends Moves H call call' where
  later : call.Later call'

/-- A timely event that admits no call keeps the journal in order and every row in its place. -/
theorem step_keeps (H : Hashing) (budget : Budget) (orderly : b.Orderly) 
    (timely : BrokerSystem.Timely event b) (plain : Plain event) (typed : Typed b.calls event) :
    (BrokerSystem.step H budget event b).Orderly ∧
      InPlace (Keeps H) b.calls (BrokerSystem.step H budget event b).calls := by
  have advanced : BrokerSystem.Advances b (BrokerSystem.step H budget event b) := orderly.step timely
  have moved : InPlace (Moves H) b.calls (BrokerSystem.step H budget event b).calls :=
    step_moves orderly.keyed plain typed
  obtain ⟨after, carries⟩ := advanced
  obtain ⟨length, moves⟩ := moved
  refine ⟨after, length, fun index row found => ?_⟩
  obtain ⟨row', here, move⟩ := moves index row found
  obtain ⟨other, there, later⟩ := carries row (List.mem_of_getElem? found)
  -- Both have the sequence of the row.
  have named : other.sequence = row'.sequence :=
    later.sequence.trans (congrArg CallIdentity.sequence move.same).symm
  obtain rfl := after.keyed.unique there (List.mem_of_getElem? here) named
  exact ⟨other, here, move, later⟩

section Flights

variable {response : BrokerResponse} {usage : BrokerUsage} {answer : CallAnswer}

theorem recheck_flights (member : .admitted call ∈ b.flights) :
    (BrokerSystem.step H budget (.recheck call (.ok ())) b).flights =
      .calling call :: b.flights.erase (.admitted call) := by
  simp [BrokerSystem.step, BrokerSystem.from_, member, BrokerSystem.recheck, BrokerSystem.send,
    BrokerSystem.enter, BrokerSystem.leave]

/-- A call that settles is over. -/
theorem settle_flights (H : Hashing) (budget : Budget) (check : Except BrokerError Unit)
    (member : .settling call response usage ∈ b.flights) :
    (BrokerSystem.step H budget (.settle call response usage check) b).flights =
      b.flights.erase (.settling call response usage) := by
  simp only [BrokerSystem.step, BrokerSystem.from_, if_pos member, BrokerSystem.settle]
  split <;> rfl

/-- A call with an answer that is refused is over. -/
theorem refused_flights {error : RlmError} (member : .calling call ∈ b.flights)
    (refused : RlmSystem.refusal call answer = some error) :
    (BrokerSystem.step H budget (.answer call answer) b).flights =
      b.flights.erase (.calling call) := by
  simp only [BrokerSystem.step, BrokerSystem.from_, if_pos member]
  cases answer with
  | indeterminate | quarantined | raised => rfl
  | responded response committedUsage =>
    simp only [RlmSystem.refusal] at refused
    split at refused
    · cases refused
    · next apart => simp only [BrokerSystem.answer, if_neg apart]; rfl

/-- A call with a response of its model settles. -/
theorem answered_flights {committedUsage : BrokerUsage} (member : .calling call ∈ b.flights)
    (same : response.model = call.invocation.responseModel) :
    (BrokerSystem.step H budget (.answer call (.responded response committedUsage)) b).flights =
      .settling call response (BrokerSystem.actualUsage call committedUsage) ::
        b.flights.erase (.calling call) := by
  simp only [BrokerSystem.step, BrokerSystem.from_, if_pos member, BrokerSystem.answer, if_pos same]
  rfl

end Flights

section Admission

variable {invocation : Invocation} {control : OperationControl}

/-- What the admission of a step's call ends with: its receipt, a started call, or a refusal. -/
inductive CallAdmits (H : Hashing) (invocation : Invocation) (calls : List BrokerCall) :
    Except BrokerError (Broker.Admitted × List BrokerCall) → Prop where
  | replayed {row : BrokerCall} {response : BrokerResponse} (member : row ∈ calls)
      (named : row.idempotencyKey = invocation.idempotencyKey) (succeeded : row.state = .succeeded)
      (stored : row.responseJson = some response) :
      CallAdmits H invocation calls (.ok (.replayed response, calls))
  | started {used : BrokerUsage}
      (fresh : ∀ row ∈ calls, row.idempotencyKey ≠ invocation.idempotencyKey) :
      CallAdmits H invocation calls (.ok (.started (maxOf calls (·.sequence) + 1) used,
        calls ++ [startedCall H invocation (maxOf calls (·.sequence) + 1)]))
  | refused {error : BrokerError} (plain : ∀ message, error ≠ .callConflict message) :
      CallAdmits H invocation calls (.error error)

/-- A sum of usages is refused by validation only. -/
theorem plus_error {first second : BrokerUsage} {error : BrokerError}
    (raised : first.plus second = .error error) (message : String) :
    error ≠ .callConflict message := by
  rintro rfl
  by_cases valid : (first.add second).Valid
  · simp [BrokerUsage.plus, require, valid, ok_bind, Pure.pure, Except.pure] at raised
  · simp [BrokerUsage.plus, require, valid, Bind.bind, Except.bind] at raised

/-- A usage that cannot be summed up is refused by validation only. -/
theorem usage_error {error : BrokerError} (raised : BrokerJournal.usage calls = .error error)
    (message : String) : error ≠ .callConflict message := by
  suffices from_ : ∀ (rows : List BrokerCall) (total : BrokerUsage),
      rows.foldlM (fun total call =>
        if call.state = .started then .ok total else total.plus call.usage) total = .error error →
      error ≠ .callConflict message from from_ calls {} raised
  intro rows
  induction rows with
  | nil => intro total impossible; cases impossible
  | cons row rest ih =>
    intro total ran
    rw [List.foldlM_cons] at ran
    cases first : (if row.state = .started then Except.ok total else total.plus row.usage) with
    | ok sum =>
      rw [first] at ran
      exact ih sum ran
    | error early =>
      rw [first] at ran
      cases ran
      split at first
      · cases first
      · exact plus_error first message

/-- The budget refuses by its own error. -/
theorem limit_error {used more : BrokerUsage} {error : BrokerError}
    (raised : (do let total ← used.plus more; assertBudget budget total) = .error error)
    (message : String) : error ≠ .callConflict message := by
  cases sum : used.plus more with
  | error early =>
    rw [sum] at raised
    cases raised
    exact plus_error sum message
  | ok total =>
    rw [sum] at raised
    rintro rfl
    simp only [Bind.bind, Except.bind, assertBudget, require] at raised
    split at raised <;> simp at raised

/-- Every row under the key of an invocation was admitted for the same request. -/
def Agrees (H : Hashing) (invocation : Invocation) (calls : List BrokerCall) : Prop :=
  ∀ row ∈ calls, row.idempotencyKey = invocation.idempotencyKey →
    row.requestDigest = H.text invocation.requestJson ∧
      row.responseModel = invocation.responseModel

/-- The row of a key is refused only when it has no success yet. -/
theorem existing_error {error : BrokerError} (sound : ∀ row ∈ calls, Sound H row)
    (agrees : Agrees H invocation calls)
    (raised : existingCall H invocation calls = .error error) (message : String) :
    error ≠ .callConflict message := by
  simp only [existingCall] at raised
  split at raised
  · cases raised
  · next row stored =>
    obtain ⟨member, named⟩ := fetchOne_some stored
    obtain ⟨same, model⟩ := agrees row member named
    simp only [same, require, if_true, ok_bind] at raised
    split at raised
    · next response state answered =>
      have sealed := (sound row member).sealed state
      have typed := (sound row member).typed response answered
      have digest : row.responseDigest = some (H.text response.json) := by
        simpa [answered] using sealed.1.symm
      simp only [typed, model, digest, if_true, ok_bind] at raised
      cases raised
    · cases raised
    · rintro rfl
      cases raised

/-- An admission that asks for no control is refused only by the row of its key or by a limit. -/
theorem admit_error {error : BrokerError} (sound : ∀ row ∈ calls, Sound H row)
    (agrees : Agrees H invocation calls) (unchecked : invocation.checked = false)
    (free : invocation.expectedControlRevision = none)
    (unguarded : invocation.requireNotCancelled = false)
    (raised : admitCall H budget invocation (.ok ()) control calls = .error error)
    (message : String) : error ≠ .callConflict message := by
  have passed : runWhen invocation.checked (.ok () : Except BrokerError Unit) = .ok () := by
    simp [unchecked]
  have open_ : checkControl invocation control = .ok () := by
    simp [checkControl, free, unguarded]
  simp only [admitCall, passed, open_, ok_bind] at raised
  cases existing : existingCall H invocation calls with
  | error early =>
    rw [existing] at raised
    cases raised
    exact existing_error sound agrees existing message
  | ok found =>
    rw [existing, ok_bind] at raised
    rcases existingCall_ok existing with ⟨rfl, -⟩ | ⟨row, member, -, ⟨response, rfl, -⟩ |
      ⟨-, rejected, -⟩⟩
    · cases spent : BrokerJournal.usage calls with
      | error early =>
        rw [spent] at raised
        cases raised
        exact usage_error spent message
      | ok used =>
        simp only [spent, ok_bind] at raised
        cases limits : (do
            let total ← used.plus invocation.usage
            assertBudget budget total : Except BrokerError Unit) with
        | error early =>
          have same : early = error := by
            cases sum : used.plus invocation.usage with
            | error first =>
              rw [sum] at raised limits
              cases raised
              cases limits
              rfl
            | ok total =>
              rw [sum, ok_bind] at raised limits
              rw [limits] at raised
              cases raised
              rfl
          exact same ▸ limit_error limits message
        | ok passed =>
          simp only [bind_ok] at limits
          obtain ⟨total, sum, within⟩ := limits
          rw [sum, ok_bind, within, ok_bind] at raised
          cases raised
    · cases raised
    · exact absurd rejected (sound row member).sent

/-- The admission of a call that asks for no control ends in one of these ways. -/
theorem admit_cases (budget : Budget) (control : OperationControl)
    (keyed : Keyed BrokerCall.sequence calls) (sound : ∀ row ∈ calls, Sound H row)
    (agrees : Agrees H invocation calls) (unchecked : invocation.checked = false)
    (free : invocation.expectedControlRevision = none)
    (unguarded : invocation.requireNotCancelled = false) :
    CallAdmits H invocation calls (admitCall H budget invocation (.ok ()) control calls) := by
  cases ran : admitCall H budget invocation (.ok ()) control calls with
  | error error => exact .refused (admit_error sound agrees unchecked free unguarded ran)
  | ok result =>
    obtain ⟨admitted, calls'⟩ := result
    cases BrokerJournal.admit_ok keyed ran with
    | replayed member named succeeded stored => exact .replayed member named succeeded stored
    | reopened found _ rejected => exact absurd rejected (sound _ (cell_some found).1).sent
    | inserted fresh => exact .started fresh

end Admission

end Aar.Rlm
