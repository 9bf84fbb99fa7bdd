import Aar.Lib.Flights
import Aar.Proofs.BrokerRows
import Aar.Proofs.Replays

/-! Reconciled broker calls are final as long as no late answer meets a call that has ended. -/

namespace Aar.Broker

open Guarded Table BrokerJournal

/-- What a broker call keeps: its identity, the response it ended with, and its reconciliation. -/
structure BrokerCall.Later (call call' : BrokerCall) : Prop where
  sequence : call'.sequence = call.sequence
  key : call'.idempotencyKey = call.idempotencyKey
  ended : call.Ended → call'.Ended ∧ call'.responseJson = call.responseJson ∧
    call'.reconciliationAction = call.reconciliationAction
  reconciled : call.Reconciled → call' = call

namespace BrokerCall

variable {call call' : BrokerCall}

theorem Later.refl (call : BrokerCall) : Later call call where
  sequence := rfl
  key := rfl
  ended ended := ⟨ended, rfl, rfl⟩
  reconciled _ := rfl

/-- What a call keeps over two stretches it keeps over both. -/
theorem Later.trans {first second third : BrokerCall} (left : Later first second)
    (right : Later second third) : Later first third where
  sequence := right.sequence.trans left.sequence
  key := right.key.trans left.key
  ended ended := by
    obtain ⟨ended', response, action⟩ := left.ended ended
    obtain ⟨ended'', response', action'⟩ := right.ended ended'
    exact ⟨ended'', response'.trans response, action'.trans action⟩
  reconciled reconciled := by
    obtain rfl := left.reconciled reconciled
    exact right.reconciled reconciled

theorem carries_trans {first second third : List BrokerCall} (left : Carries Later first second)
    (right : Carries Later second third) : Carries Later first third :=
  Carries.trans Later.trans left right

theorem Later.of_open (sequence : call'.sequence = call.sequence)
    (key : call'.idempotencyKey = call.idempotencyKey) (opened : ¬ call.Ended)
    (pending : ¬ call.Reconciled) : Later call call' where
  sequence := sequence
  key := key
  ended ended := absurd ended opened
  reconciled reconciled := absurd reconciled pending

theorem not_ended_of_started (started : call.state = .started) : ¬ call.Ended := by
  simp [Ended, started]

theorem not_ended_of_rejected (rejected : call.state = .rejectedBeforeSend) : ¬ call.Ended := by
  simp [Ended, rejected]

end BrokerCall

/-- The call an invocation is about; a pass is about none. -/
def BrokerFlight.call : BrokerFlight → Option AdmittedCall
  | admitted call | calling call | settling call _ _ => some call
  | passing _ | deciding _ _ _ => none

/-- The invocation has been admitted and has not entered the provider. -/
def BrokerFlight.Unsent (sequence : Nat) : BrokerFlight → Prop
  | admitted call => call.sequence = sequence
  | _ => False

/-- The invocation has been admitted and has no answer of the provider. -/
def BrokerFlight.Waiting (sequence : Nat) : BrokerFlight → Prop
  | admitted call | calling call => call.sequence = sequence
  | _ => False

instance (sequence : Nat) : DecidablePred (BrokerFlight.Unsent sequence)
  | .admitted call => inferInstanceAs (Decidable (call.sequence = sequence))
  | .calling _ | .settling _ _ _ | .passing _ | .deciding _ _ _ =>
    inferInstanceAs (Decidable False)

instance (sequence : Nat) : DecidablePred (BrokerFlight.Waiting sequence)
  | .admitted call | .calling call => inferInstanceAs (Decidable (call.sequence = sequence))
  | .settling _ _ _ | .passing _ | .deciding _ _ _ => inferInstanceAs (Decidable False)

theorem BrokerFlight.Unsent.waiting {sequence : Nat} {flight : BrokerFlight}
    (unsent : flight.Unsent sequence) : flight.Waiting sequence := by
  cases flight
  case admitted => exact unsent
  all_goals exact unsent.elim

theorem BrokerFlight.Waiting.about {sequence : Nat} {flight : BrokerFlight}
    (waits : flight.Waiting sequence) : ∃ call, flight.call = some call ∧ call.sequence = sequence := by
  cases flight
  case admitted call | calling call => exact ⟨call, rfl, waits⟩
  all_goals exact waits.elim

namespace BrokerSystem

variable {H : Hashing} {budget : Budget} {s : BrokerSystem} {flight : BrokerFlight}
  {call : AdmittedCall} {row row' : BrokerCall} {calls' : List BrokerCall} {key : String}
  {response : BrokerResponse} {sequence : Nat}

theorem from_holds {holds : BrokerSystem → Prop} {act : BrokerSystem → BrokerSystem}
    (stays : holds s) (acts : flight ∈ s.flights → holds (act (s.leave flight))) :
    holds (s.from_ flight act) := by
  by_cases member : flight ∈ s.flights
  · rw [from_, if_pos member]
    exact acts member
  · rw [from_, if_neg member]
    exact stays

/-- How many invocations of a sequence have not entered the provider. -/
def unsent (sequence : Nat) (s : BrokerSystem) : Nat :=
  Flights.count (BrokerFlight.Unsent sequence) s.flights

/-- How many invocations of a sequence have no answer of the provider. -/
def waiting (sequence : Nat) (s : BrokerSystem) : Nat :=
  Flights.count (BrokerFlight.Waiting sequence) s.flights

/-- What holds in every state of a run in which no late answer meets a call that has ended. -/
structure Orderly (s : BrokerSystem) : Prop where
  keyed : Keyed BrokerCall.sequence s.calls
  named : Keyed BrokerCall.idempotencyKey s.calls
  flying : ∀ flight ∈ s.flights, ∀ call, flight.call = some call →
    ∃ row ∈ s.calls, row.sequence = call.sequence ∧
      row.idempotencyKey = call.invocation.idempotencyKey
  single : ∀ sequence, s.waiting sequence ≤ 1
  sent : ∀ row ∈ s.calls, s.unsent row.sequence + s.entered.count row.idempotencyKey ≤ 1
  rejected : ∀ row ∈ s.calls, row.state = .rejectedBeforeSend →
    s.waiting row.sequence = 0 ∧ row.idempotencyKey ∉ s.entered
  known : ∀ key ∈ s.entered, ∃ row ∈ s.calls, row.idempotencyKey = key
  opened : ∀ row ∈ s.calls, ¬ row.Ended → row.responseJson = none ∧ ¬ row.Reconciled
  settled : ∀ call response usage, .settling call response usage ∈ s.flights →
    ∃ row ∈ s.calls, row.sequence = call.sequence ∧ row.Ended ∧
      row.responseJson = some response ∧ ¬ row.Reconciled
  returned : ∀ key response, (key, response) ∈ s.returned →
    ∃ row ∈ s.calls, row.idempotencyKey = key ∧ row.Ended ∧ row.responseJson = some response

/-- The empty journal is in order. -/
theorem Orderly.empty : Orderly empty where
  keyed := .nil
  named := .nil
  flying _ member := absurd member List.not_mem_nil
  single _ := Nat.zero_le _
  sent _ member := absurd member List.not_mem_nil
  rejected _ member := absurd member List.not_mem_nil
  known _ member := absurd member List.not_mem_nil
  opened _ member := absurd member List.not_mem_nil
  settled _ _ _ member := absurd member List.not_mem_nil
  returned _ _ member := absurd member List.not_mem_nil

theorem unsent_le : s.unsent sequence ≤ s.waiting sequence :=
  Flights.count_mono fun _ _ => BrokerFlight.Unsent.waiting

theorem waiting_enter : (s.enter flight).waiting sequence =
    s.waiting sequence + if flight.Waiting sequence then 1 else 0 :=
  Flights.count_enter _

theorem unsent_enter : (s.enter flight).unsent sequence =
    s.unsent sequence + if flight.Unsent sequence then 1 else 0 :=
  Flights.count_enter _

theorem Orderly.unused (orderly : Orderly s) (fresh : ∀ row ∈ s.calls, row.sequence ≠ sequence) :
    s.waiting sequence = 0 := by
  refine Flights.count_eq_zero.mpr fun flight member waits => ?_
  obtain ⟨call, about, same⟩ := waits.about
  obtain ⟨row, stored, named, -⟩ := orderly.flying flight member call about
  exact fresh row stored (named.trans same)

/-- A journal stays in order when a flight leaves. -/
theorem Orderly.leave (orderly : Orderly s) (flight : BrokerFlight) :
    Orderly (s.leave flight) where
  keyed := orderly.keyed
  named := orderly.named
  flying other member := orderly.flying other (List.mem_of_mem_erase member)
  single sequence := Nat.le_trans Flights.count_leave_le (orderly.single sequence)
  sent row member := Nat.le_trans (Nat.add_le_add_right Flights.count_leave_le _)
    (orderly.sent row member)
  rejected row member rejected := by
    obtain ⟨free, never⟩ := orderly.rejected row member rejected
    have fewer : (s.leave flight).waiting row.sequence ≤ s.waiting row.sequence :=
      Flights.count_leave_le
    exact ⟨by omega, never⟩
  known := orderly.known
  opened := orderly.opened
  settled call response usage member :=
    orderly.settled call response usage (List.mem_of_mem_erase member)
  returned := orderly.returned

/-- A journal stays in order when a row is replaced by what it may become. -/
theorem Orderly.replace (orderly : Orderly s)
    (replaces : Replaces BrokerCall.sequence row row' s.calls calls') (later : row.Later row')
    (opened : ¬ row'.Ended → row'.responseJson = none ∧ ¬ row'.Reconciled)
    (rejected : row'.state = .rejectedBeforeSend →
      s.waiting row.sequence = 0 ∧ row.idempotencyKey ∉ s.entered) :
    Orderly (s.store calls') := by
  have carries : Carries BrokerCall.Later s.calls calls' :=
    replaces.carries BrokerCall.Later.refl later
  -- A row of the new table is the replacement or was there before.
  have origin : ∀ other ∈ calls', other = row' ∨ other ∈ s.calls := fun other member =>
    (replaces.mem.mp member).imp_right And.left
  refine ⟨replaces.keyed orderly.keyed, ?_, fun flight member call about => ?_, orderly.single,
    fun other member => ?_, fun other member state => ?_, fun key member => ?_,
    fun other member opens => ?_, fun call response usage member => ?_,
    fun key response member => ?_⟩
  · change (calls'.map BrokerCall.idempotencyKey).Nodup
    rw [replaces.column later.key]
    exact orderly.named
  · obtain ⟨stored, there, same, named⟩ := orderly.flying flight member call about
    obtain ⟨stored', here, after⟩ := carries stored there
    exact ⟨stored', here, after.sequence.trans same, after.key.trans named⟩
  · rcases origin other member with rfl | before
    · rw [later.sequence, later.key]
      exact orderly.sent row replaces.old
    · exact orderly.sent other before
  · rcases origin other member with rfl | before
    · rw [later.sequence, later.key]
      exact rejected state
    · exact orderly.rejected other before state
  · obtain ⟨stored, there, named⟩ := orderly.known key member
    obtain ⟨stored', here, after⟩ := carries stored there
    exact ⟨stored', here, after.key.trans named⟩
  · rcases origin other member with rfl | before
    · exact opened opens
    · exact orderly.opened other before opens
  · obtain ⟨stored, there, same, ended, answered, free⟩ :=
      orderly.settled call response usage member
    obtain ⟨stored', here, after⟩ := carries stored there
    obtain ⟨ended', kept, action⟩ := after.ended ended
    refine ⟨stored', here, after.sequence.trans same, ended', kept.trans answered, ?_⟩
    simpa only [BrokerCall.Reconciled, action] using free
  · obtain ⟨stored, there, named, ended, answered⟩ := orderly.returned key response member
    obtain ⟨stored', here, after⟩ := carries stored there
    obtain ⟨ended', kept, -⟩ := after.ended ended
    exact ⟨stored', here, after.key.trans named, ended', kept.trans answered⟩

/-- A journal stays in order when a new call is inserted. -/
theorem Orderly.insert (orderly : Orderly s) (fresh : ∀ stored ∈ s.calls, stored.sequence ≠ row.sequence)
    (unnamed : ∀ stored ∈ s.calls, stored.idempotencyKey ≠ row.idempotencyKey)
    (started : row.state = .started) (unanswered : row.responseJson = none)
    (pending : ¬ row.Reconciled) : Orderly (s.store (s.calls ++ [row])) := by
  have free := orderly.unused fresh
  -- Nothing has entered the provider under a new key.
  have unknown : row.idempotencyKey ∉ s.entered := fun member => by
    obtain ⟨stored, there, same⟩ := orderly.known _ member
    exact unnamed stored there same
  have origin : ∀ other ∈ s.calls ++ [row], other ∈ s.calls ∨ other = row := fun other member => by
    simpa using member
  have kept : ∀ {holds : BrokerCall → Prop}, (∃ stored ∈ s.calls, holds stored) →
      ∃ stored ∈ s.calls ++ [row], holds stored := fun ⟨stored, there, holds⟩ =>
    ⟨stored, List.mem_append_left _ there, holds⟩
  refine ⟨orderly.keyed.append (.added row fresh), orderly.named.append (.added row unnamed),
    fun flight member call about => kept (orderly.flying flight member call about), orderly.single,
    fun other member => ?_, fun other member state => ?_,
    fun key member => kept (orderly.known key member), fun other member opens => ?_,
    fun call response usage member => kept (orderly.settled call response usage member),
    fun key response member => kept (orderly.returned key response member)⟩
  · rcases origin other member with before | rfl
    · exact orderly.sent other before
    · have none_ : s.unsent other.sequence = 0 := Nat.le_zero.mp (free ▸ unsent_le)
      change s.unsent other.sequence + s.entered.count other.idempotencyKey ≤ 1
      rw [none_, List.count_eq_zero.mpr unknown]
      exact Nat.zero_le _
  · rcases origin other member with before | rfl
    · exact orderly.rejected other before state
    · rw [started] at state
      cases state
  · rcases origin other member with before | rfl
    · exact orderly.opened other before opens
    · exact ⟨unanswered, pending⟩

/-- A journal stays in order when the only invocation of an open call waits for the provider. -/
theorem Orderly.wait {entered : List String} (orderly : Orderly s) (about : flight.call = some call)
    (waits : flight.Waiting call.sequence) (member : row ∈ s.calls)
    (same : row.sequence = call.sequence)
    (named : row.idempotencyKey = call.invocation.idempotencyKey)
    (opened : row.state ≠ .rejectedBeforeSend) (free : s.waiting call.sequence = 0)
    (grown : ∀ key ∈ entered, key = call.invocation.idempotencyKey ∨ key ∈ s.entered)
    (others : ∀ key, key ≠ call.invocation.idempotencyKey →
      entered.count key = s.entered.count key)
    (once : (if flight.Unsent call.sequence then 1 else 0) +
      entered.count call.invocation.idempotencyKey ≤ 1) :
    Orderly { s.enter flight with entered } := by
  have elsewhere : ∀ sequence, sequence ≠ call.sequence → ¬ flight.Waiting sequence := by
    intro sequence apart there
    obtain ⟨other, about', at_⟩ := there.about
    cases about.symm.trans about'
    exact apart at_.symm
  have unsent_free : s.unsent call.sequence = 0 := Nat.le_zero.mp (free ▸ unsent_le)
  -- A row of another sequence has another key.
  have apart : ∀ other ∈ s.calls, other.sequence ≠ call.sequence →
      other.idempotencyKey ≠ call.invocation.idempotencyKey := fun other there distinct hit =>
    distinct ((congrArg _ (orderly.named.unique there member (hit.trans named.symm))).trans same)
  have here : ∀ other ∈ s.calls, other.sequence = call.sequence → other = row :=
    fun other there at_ => orderly.keyed.unique there member (at_.trans same.symm)
  refine ⟨orderly.keyed, orderly.named, fun other there call' about' => ?_, fun sequence => ?_,
    fun other there => ?_, fun other there state => ?_, fun key there => ?_, orderly.opened,
    fun call' response usage there => ?_, orderly.returned⟩
  · rcases List.mem_cons.mp there with rfl | before
    · cases about.symm.trans about'
      exact ⟨row, member, same, named⟩
    · exact orderly.flying other before call' about'
  · change (s.enter flight).waiting sequence ≤ 1
    rw [waiting_enter]
    by_cases at_ : sequence = call.sequence
    · rw [at_, free, if_pos waits]
    · rw [if_neg (elsewhere sequence at_)]
      exact orderly.single sequence
  · change (s.enter flight).unsent other.sequence + entered.count other.idempotencyKey ≤ 1
    rw [unsent_enter]
    by_cases at_ : other.sequence = call.sequence
    · obtain rfl := here other there at_
      rw [at_, named, unsent_free, Nat.zero_add]
      exact once
    · have passed : ¬ flight.Unsent other.sequence := fun unsent =>
        elsewhere other.sequence at_ unsent.waiting
      rw [if_neg passed, others _ (apart other there at_)]
      exact orderly.sent other there
  · change (s.enter flight).waiting other.sequence = 0 ∧ other.idempotencyKey ∉ entered
    have at_ : other.sequence ≠ call.sequence := fun at_ => opened (here other there at_ ▸ state)
    obtain ⟨none_, never⟩ := orderly.rejected other there state
    rw [waiting_enter, if_neg (elsewhere other.sequence at_)]
    refine ⟨none_, ?_⟩
    rw [← List.count_eq_zero, others _ (apart other there at_), List.count_eq_zero]
    exact never
  · rcases grown key there with rfl | before
    · exact ⟨row, member, named⟩
    · exact orderly.known key before
  · rcases List.mem_cons.mp there with hit | before
    · subst hit
      exact waits.elim
    · exact orderly.settled call' response usage before

/-- A journal stays in order when a flight enters that waits for no provider. -/
theorem Orderly.enter (orderly : Orderly s) (passed : ∀ sequence, ¬ flight.Waiting sequence)
    (flying : ∀ call, flight.call = some call → ∃ row ∈ s.calls, row.sequence = call.sequence ∧
      row.idempotencyKey = call.invocation.idempotencyKey)
    (settled : ∀ call response usage, flight = .settling call response usage →
      ∃ row ∈ s.calls, row.sequence = call.sequence ∧ row.Ended ∧
        row.responseJson = some response ∧ ¬ row.Reconciled) : Orderly (s.enter flight) := by
  have waiting_same : ∀ sequence, (s.enter flight).waiting sequence = s.waiting sequence :=
    fun sequence => by rw [waiting_enter, if_neg (passed sequence), Nat.add_zero]
  have unsent_same : ∀ sequence, (s.enter flight).unsent sequence = s.unsent sequence :=
    fun sequence => by
      rw [unsent_enter, if_neg fun unsent => passed sequence unsent.waiting, Nat.add_zero]
  refine ⟨orderly.keyed, orderly.named, fun other member => ?_, fun sequence => ?_,
    fun row member => ?_, fun row member state => ?_, orderly.known, orderly.opened,
    fun call response usage member => ?_, orderly.returned⟩
  · rcases List.mem_cons.mp member with rfl | before
    · exact flying
    · exact orderly.flying other before
  · rw [waiting_same]
    exact orderly.single sequence
  · rw [unsent_same]
    exact orderly.sent row member
  · rw [waiting_same]
    exact orderly.rejected row member state
  · rcases List.mem_cons.mp member with same | before
    · exact settled call response usage same.symm
    · exact orderly.settled call response usage before

/-- A journal stays in order when the response of an ended call is returned. -/
theorem Orderly.return_ (orderly : Orderly s)
    (ended : ∃ row ∈ s.calls, row.idempotencyKey = key ∧ row.Ended ∧
      row.responseJson = some response) : Orderly (s.return_ key response) := by
  refine { orderly with returned := fun other answer member => ?_ }
  rcases List.mem_cons.mp member with same | before
  · cases same
    exact ended
  · exact orderly.returned other answer before

/-- What an answer of the provider may meet: a call that is still started. -/
def Timely : BrokerEvent → BrokerSystem → Prop
  | .answer call answer, s => answer ≠ .indeterminate → .calling call ∈ s.flights →
    ∀ row ∈ s.calls, row.sequence = call.sequence → row.state = .started
  | _, _ => True

/-- What one step does: the journal stays in order, and every call keeps what it has. -/
def Advances (s s' : BrokerSystem) : Prop :=
  Orderly s' ∧ Carries BrokerCall.Later s.calls s'.calls

theorem Orderly.stays (orderly : Orderly s') (same : s'.calls = s.calls) : Advances s s' :=
  ⟨orderly, same ▸ Carries.refl BrokerCall.Later.refl⟩

/-- An invocation in flight has the row of its sequence, under its key. -/
theorem Orderly.located (orderly : Orderly s) (member : flight ∈ s.flights)
    (about : flight.call = some call) :
    ∃ row ∈ s.calls, callAt s.calls call.sequence = some row ∧ row.sequence = call.sequence ∧
      row.idempotencyKey = call.invocation.idempotencyKey := by
  obtain ⟨row, stored, same, named⟩ := orderly.flying flight member call about
  have found : callAt s.calls row.sequence = some row := orderly.keyed.fetch stored
  rw [same] at found
  exact ⟨row, stored, found, same, named⟩

theorem Orderly.not_rejected (orderly : Orderly s) (member : flight ∈ s.flights)
    (waits : flight.Waiting row.sequence) (stored : row ∈ s.calls) :
    row.state ≠ .rejectedBeforeSend := by
  intro state
  have none_ := (orderly.rejected row stored state).1
  have waiting : 0 < s.waiting row.sequence := Flights.count_pos member waits
  omega

theorem Orderly.never_sent (orderly : Orderly s) (member : flight ∈ s.flights)
    (unsent : flight.Unsent row.sequence) (stored : row ∈ s.calls) :
    s.entered.count row.idempotencyKey = 0 := by
  have once := orderly.sent row stored
  have waiting : 0 < s.unsent row.sequence := Flights.count_pos member unsent
  omega

/-- A journal stays in order when the invocation of a started call is admitted. -/
theorem Orderly.admitted (orderly : Orderly s) (call : AdmittedCall) (member : row ∈ s.calls)
    (same : row.sequence = call.sequence)
    (named : row.idempotencyKey = call.invocation.idempotencyKey) (started : row.state = .started)
    (free : s.waiting call.sequence = 0) (never : call.invocation.idempotencyKey ∉ s.entered) :
    Orderly (s.enter (.admitted call)) := by
  have opened : row.state ≠ .rejectedBeforeSend := by simp [started]
  refine orderly.wait rfl rfl member same named opened free (fun _ => .inr) (fun _ _ => rfl) ?_
  rw [List.count_eq_zero.mpr never]
  split <;> simp

/-- An admission advances. -/
theorem Orderly.admitCall {invocation : Invocation} {authority : Except BrokerError Unit}
    {control : OperationControl} (orderly : Orderly s) :
    Advances s (s.admitCall H budget invocation authority control) := by
  simp only [BrokerSystem.admitCall]
  split
  next => exact orderly.stays rfl
  next response calls ran =>
    cases BrokerJournal.admit_ok orderly.keyed ran with
    | replayed member named succeeded stored =>
      exact (orderly.return_ ⟨_, member, named, .inl succeeded, stored⟩).stays rfl
  next sequence used calls ran =>
    cases BrokerJournal.admit_ok orderly.keyed ran with
    | @reopened row _ _ found named rejected unanswered _ _ replaces =>
      -- The row was rejected, so no invocation waits for it and none was ever sent.
      obtain ⟨free, never⟩ := orderly.rejected row replaces.old rejected
      have opened := BrokerCall.not_ended_of_rejected rejected
      obtain ⟨-, pending⟩ := orderly.opened row replaces.old opened
      have later : row.Later (BrokerJournal.reopened invocation row) :=
        .of_open rfl rfl opened pending
      have stored := orderly.replace replaces later (fun _ => ⟨unanswered, pending⟩) nofun
      have here : BrokerJournal.reopened invocation row ∈ (s.store calls).calls :=
        replaces.mem.mpr (.inl rfl)
      refine ⟨stored.admitted ⟨invocation, row.sequence, used⟩ here rfl named rfl free ?_,
        replaces.carries BrokerCall.Later.refl later⟩
      rw [← named]
      exact never
    | inserted fresh _ _ =>
      have unused := startedCall_fresh H invocation s.calls
      have stored := orderly.insert unused fresh rfl rfl (by simp [BrokerCall.Reconciled, startedCall])
      have here : startedCall H invocation (maxOf s.calls (·.sequence) + 1) ∈
          (s.store (s.calls ++ [startedCall H invocation (maxOf s.calls (·.sequence) + 1)])).calls :=
        List.mem_append_right _ List.mem_cons_self
      refine ⟨stored.admitted ⟨invocation, _, used⟩ here rfl rfl rfl
        (orderly.unused unused) fun member => ?_, Carries.append BrokerCall.Later.refl _⟩
      obtain ⟨other, there, same⟩ := orderly.known _ member
      exact fresh other there same

/-- The step from an admission to the provider, or to a rejection, advances. -/
theorem Orderly.recheck {authority : Except BrokerError Unit} (orderly : Orderly s)
    (member : .admitted call ∈ s.flights) :
    Advances s ((s.leave (.admitted call)).recheck call authority) := by
  obtain ⟨row, stored, found, same, named⟩ := orderly.located member rfl
  have unsent : (BrokerFlight.admitted call).Unsent row.sequence := same.symm
  have left := orderly.leave (.admitted call)
  have free : (s.leave (.admitted call)).waiting row.sequence = 0 :=
    Flights.count_leave_only (orderly.single _) member unsent.waiting
  have never := orderly.never_sent member unsent stored
  have sent : Advances s ((s.leave (.admitted call)).send call) := by
    refine Orderly.stays ?_ rfl
    have waits : (BrokerFlight.calling call).Waiting call.sequence := rfl
    refine left.wait rfl waits stored same named (orderly.not_rejected member unsent.waiting stored)
      (same ▸ free) (fun key => List.mem_cons.mp) (fun key apart => ?_) ?_
    · exact List.count_cons_of_ne apart.symm
    · have passed : ¬ (BrokerFlight.calling call).Unsent call.sequence := id
      rw [if_neg passed, List.count_cons_self, ← named]
      change 0 + (s.entered.count row.idempotencyKey + 1) ≤ 1
      omega
  cases authority with
  | ok => exact sent
  | error error =>
    simp only [BrokerSystem.recheck]
    split
    · have replaces := patch_replaces (·.state = .started) (BrokerJournal.rejected error)
        (fun _ => rfl) orderly.keyed found
      by_cases started : row.state = .started
      · rw [if_pos started] at replaces
        have opened := BrokerCall.not_ended_of_started started
        have pending := orderly.opened row stored opened
        have later : row.Later (BrokerJournal.rejected error row) := .of_open rfl rfl opened pending.2
        exact ⟨left.replace replaces later (fun _ => pending) fun _ =>
          ⟨free, List.count_eq_zero.mp never⟩, replaces.carries BrokerCall.Later.refl later⟩
      · rw [if_neg started] at replaces
        exact ⟨left.replace replaces (.refl row) (left.opened row stored) (left.rejected row stored),
          replaces.carries BrokerCall.Later.refl (.refl row)⟩
    · exact sent

/-- A completion of a started call advances. -/
theorem Orderly.complete (orderly : Orderly s) (member : row ∈ s.calls)
    (started : row.state = .started) (same : row.sequence = sequence) (change : BrokerCall → BrokerCall)
    (kept : ∀ call, (change call).sequence = call.sequence)
    (key : (change row).idempotencyKey = row.idempotencyKey) (ended : (change row).Ended) :
    Advances s (s.store (patchCell BrokerCall.sequence s.calls sequence (fun _ => True) change)) ∧
      change row ∈ patchCell BrokerCall.sequence s.calls sequence (fun _ => True) change := by
  have found : callAt s.calls sequence = some row := by
    rw [← same]
    exact orderly.keyed.fetch member
  have replaces := patch_replaces (fun _ => True) change kept orderly.keyed found
  rw [if_pos trivial] at replaces
  have opened := BrokerCall.not_ended_of_started started
  have later : row.Later (change row) :=
    .of_open (kept row) key opened (orderly.opened row member opened).2
  refine ⟨⟨orderly.replace replaces later (fun opens => absurd ended opens) fun state => ?_,
    replaces.carries BrokerCall.Later.refl later⟩, replaces.mem.mpr (.inl rfl)⟩
  exact absurd ended (BrokerCall.not_ended_of_rejected state)

/-- The answer of a provider advances when its call is still started. -/
theorem Orderly.answer {answer : CallAnswer} (orderly : Orderly s)
    (member : .calling call ∈ s.flights) (timely : Timely (.answer call answer) s) :
    Advances s ((s.leave (.calling call)).answer H budget call answer) := by
  obtain ⟨row, stored, found, same, named⟩ := orderly.located member rfl
  have left := orderly.leave (.calling call)
  have fails : ∀ code action, row.state = .started → Advances s
      ((s.leave (.calling call)).store (patchCell BrokerCall.sequence s.calls call.sequence
        (fun _ => True) (failed code action))) := fun code action started =>
    (left.complete stored started same (failed code action) (fun _ => rfl) rfl (.inr rfl)).1
  cases answer with
  | indeterminate => exact left.stays rfl
  | quarantined reasonCode => exact fails _ _ (timely nofun member row stored same)
  | raised code => exact fails _ _ (timely nofun member row stored same)
  | responded response committedUsage =>
    have started := timely nofun member row stored same
    simp only [BrokerSystem.answer]
    split
    · generalize actualUsage call committedUsage = usage
      obtain ⟨⟨kept, carries⟩, here⟩ := left.complete stored started same
        (succeeded H response usage) (fun _ => rfl) rfl (.inl rfl)
      obtain ⟨-, pending⟩ := orderly.opened row stored (BrokerCall.not_ended_of_started started)
      have entered : Orderly (((s.leave (.calling call)).store (recordSucceeded H call.sequence
          response usage s.calls)).enter (.settling call response usage)) := by
        refine kept.enter (fun _ => id) ?_ ?_
        · rintro _ ⟨⟩
          exact ⟨_, here, same, named⟩
        · rintro _ _ _ ⟨⟩
          exact ⟨_, here, same, .inl rfl, rfl, pending⟩
      exact ⟨{ entered with }, carries⟩
    · exact fails _ _ started

/-- The end of an invocation whose success is stored advances. -/
theorem Orderly.settle {usage : BrokerUsage} {postCheck : Except BrokerError Unit}
    (orderly : Orderly s) (member : .settling call response usage ∈ s.flights) :
    Advances s ((s.leave (.settling call response usage)).settle budget call response usage
      postCheck) := by
  obtain ⟨row, stored, found, same, named⟩ := orderly.located member rfl
  obtain ⟨other, there, at_, ended, answered, pending⟩ := orderly.settled call response usage member
  obtain rfl := orderly.keyed.unique there stored (at_.trans same.symm)
  have left := orderly.leave (.settling call response usage)
  simp only [BrokerSystem.settle]
  split
  next error _ =>
    have replaces := patch_replaces (·.state = .succeeded) (demoted error) (fun _ => rfl)
      orderly.keyed found
    -- The call ended with this response, and no reconciliation has touched it.
    have later : other.Later (if other.state = .succeeded then demoted error other else other) := by
      split
      · exact ⟨rfl, rfl, fun _ => ⟨.inr rfl, rfl, rfl⟩, fun reconciled => absurd reconciled pending⟩
      · exact .refl other
    have ended' := (later.ended ended).1
    refine ⟨left.replace replaces later (fun opens => absurd ended' opens) fun state => ?_,
      replaces.carries BrokerCall.Later.refl later⟩
    exact absurd ended' (BrokerCall.not_ended_of_rejected state)
  next => exact (left.return_ ⟨other, there, named, ended, answered⟩).stays rfl

/-- What a reconciliation carries out advances. -/
theorem Orderly.apply {decision : Decision} {rows : List BrokerCall} {authorityDigest : Digest}
    {now : Nat} (orderly : Orderly s) :
    Advances s (s.apply H row decision rows authorityDigest now) := by
  have enters : ∀ {s : BrokerSystem}, Orderly s → Orderly (s.enter (.passing rows)) :=
    fun orderly => orderly.enter (fun _ => id) nofun nofun
  simp only [BrokerSystem.apply]
  split
  next => exact orderly.stays rfl
  next calls ran =>
    cases apply_ok orderly.keyed ran with
    | nothing => exact (enters orderly).stays rfl
    | @resolved stored _ response committedUsage _ _ reconciliation found started _ replaces =>
      have opened := BrokerCall.not_ended_of_started started
      have later : stored.Later (resolved H reconciliation response committedUsage now stored) :=
        .of_open rfl rfl opened (orderly.opened stored replaces.old opened).2
      have kept := orderly.replace replaces later (fun opens => absurd (.inl rfl) opens) nofun
      exact ⟨enters kept, replaces.carries BrokerCall.Later.refl later⟩
    | @unresolved stored _ committedUsage _ _ _ reconciliation found started _ replaces =>
      have opened := BrokerCall.not_ended_of_started started
      have pending := orderly.opened stored replaces.old opened
      have later : stored.Later (unresolved reconciliation committedUsage now stored) :=
        .of_open rfl rfl opened pending.2
      -- The call stays started only when it is marked as pending.
      have kept := orderly.replace replaces later (fun opens => ⟨pending.1, ?_⟩) fun state => ?_
      · exact ⟨enters kept, replaces.carries BrokerCall.Later.refl later⟩
      · rintro ⟨action, acts, apart⟩
        refine opens (.inr ?_)
        have acted : reconciliation.action = action := Option.some.inj acts
        simp [unresolved, acted, apart]
      · simp only [unresolved] at state
        split at state <;> cases state

/-- One timely step advances. -/
theorem Orderly.step {event : BrokerEvent} (orderly : Orderly s) (timely : Timely event s) :
    Advances s (step H budget event s) := by
  have placed : ∀ (flight : BrokerFlight) (act : BrokerSystem → BrokerSystem),
      (flight ∈ s.flights → Advances s (act (s.leave flight))) → Advances s (s.from_ flight act) :=
    fun _ _ => from_holds (orderly.stays rfl)
  have enters : ∀ {s' : BrokerSystem} {flight : BrokerFlight}, flight.call = none → Orderly s' →
      Orderly (s'.enter flight) := by
    intro s' flight free orderly
    refine orderly.enter (fun sequence waits => ?_) (fun call about => ?_) fun call _ _ about => ?_
    · obtain ⟨call, about, -⟩ := waits.about
      cases free.symm.trans about
    · cases free.symm.trans about
    · subst about
      cases free
  cases event <;> simp only [BrokerSystem.step]
  case admitCall => exact orderly.admitCall
  case recheck call authority =>
    refine placed _ _ fun member => ?_
    exact orderly.recheck member
  case answer call answer =>
    refine placed _ _ fun member => ?_
    exact orderly.answer member timely
  case settle call response usage postCheck =>
    refine placed _ _ fun member => ?_
    exact orderly.settle member
  case startPass => exact (enters rfl orderly).stays rfl
  case decide row rows finding =>
    refine placed _ _ fun member => ?_
    have left := orderly.leave (.passing (row :: rows))
    split
    · exact left.stays rfl
    · exact (enters rfl left).stays rfl
  case apply row decision rows authorityDigest now =>
    refine placed _ _ fun member => ?_
    exact (orderly.leave (.deciding row decision rows)).apply
  case stop flight => exact (orderly.leave flight).stays rfl

/-- The calls of a key are final from one state to a later one: the provider was entered at most
once, a reconciled call stays as it is, and all returned responses are equal. -/
structure CallsFinal (key : String) (before after : BrokerSystem) : Prop where
  once : after.entered.count key ≤ 1
  reconciled : ∀ row ∈ before.calls, row.idempotencyKey = key → row.Reconciled → row ∈ after.calls
  agreed : ∀ first second, (key, first) ∈ after.returned → (key, second) ∈ after.returned →
    first = second

/-- Along a run in which every answer meets a call that is still started, the calls of every key are
final. -/
theorem broker_calls_final {events later : List BrokerEvent}
    (allow : Runs.Allowed (step H budget) Timely (events ++ later) BrokerSystem.empty)
    (key : String) :
    CallsFinal key (Runs.run (step H budget) events BrokerSystem.empty)
      (Runs.run (step H budget) (events ++ later) BrokerSystem.empty) := by
  rw [Runs.run_append]
  generalize reached : Runs.run (step H budget) events BrokerSystem.empty = before
  generalize ended : Runs.run (step H budget) later before = after
  obtain ⟨early, late⟩ := Runs.allowed_append.mp allow
  have preserved : ∀ event s, Timely event s → Orderly s → Orderly (step H budget event s) :=
    fun _ _ timely orderly => (orderly.step timely).1
  rw [reached] at late
  have start : Orderly before := reached ▸ early.invariant preserved .empty
  have last : Orderly after := ended ▸ late.invariant preserved start
  have carries : Carries BrokerCall.Later before.calls after.calls := ended ▸
    late.related (fun s s' => Carries BrokerCall.Later s.calls s'.calls)
      (fun _ => Carries.refl BrokerCall.Later.refl)
      (fun _ _ _ => BrokerCall.carries_trans) preserved
      (fun _ _ timely orderly => (orderly.step timely).2) start
  refine ⟨?_, fun row member named reconciled => ?_, fun first second one other => ?_⟩
  · by_cases never : key ∈ after.entered
    · obtain ⟨row, stored, rfl⟩ := last.known key never
      exact Nat.le_trans (Nat.le_add_left _ _) (last.sent row stored)
    · rw [List.count_eq_zero.mpr never]
      exact Nat.zero_le _
  · obtain ⟨row', there, stays⟩ := carries row member
    rw [← stays.reconciled reconciled]
    exact there
  · -- Both are the response of the one call under the key.
    obtain ⟨row, stored, named, -, answered⟩ := last.returned key first one
    obtain ⟨row', stored', named', -, answered'⟩ := last.returned key second other
    cases last.named.unique stored stored' (named.trans named'.symm)
    exact Option.some.inj (answered.symm.trans answered')

instance : ∀ event s, Decidable (Timely event s)
  | .answer call answer, s => inferInstanceAs (Decidable (answer ≠ .indeterminate →
      .calling call ∈ s.flights → ∀ row ∈ s.calls, row.sequence = call.sequence →
        row.state = .started))
  | .admitCall _ _ _, _ | .recheck _ _, _ | .settle _ _ _ _, _ | .startPass, _ | .decide _ _ _, _
  | .apply _ _ _ _ _, _ | .stop _, _ => inferInstanceAs (Decidable True)

/-- A query of the evidence provider. -/
def Sample.query : Invocation where
  method := .evidenceQuery
  grantId := "grant"
  idempotencyKey := "key"
  requestJson := "question"
  responseModel := "BrokerReceipt"
  usage := {}
  expectedControlRevision := none
  requireNotCancelled := false
  checked := false
  metered := false
  charges := nofun
  compensates := nofun
  meters := nofun

/-- The query, admitted as the first call of its operation. -/
def Sample.queried : AdmittedCall := ⟨Sample.query, 1, {}⟩

/-- An answer of the evidence provider. -/
def Sample.receipt (value : String) : BrokerResponse := ⟨"BrokerReceipt", value⟩

/-- The query has entered the provider. -/
def Sample.asked : List BrokerEvent :=
  [.admitCall Sample.query (.ok ()) ⟨0, false⟩, .recheck Sample.queried (.ok ())]

/-- A reconciliation pass replays the query, whose first call is still in flight. -/
def Sample.replayed : List BrokerEvent :=
  let row := startedCall .readable Sample.query 1
  [.startPass, .decide row [] (.recovered (Sample.receipt "replayed")),
    .apply row (.resolve (Sample.receipt "replayed") none .safeReplay "broker_safe_read_replayed") []
      "authority" 2000,
    .admitCall Sample.query (.ok ()) ⟨0, false⟩]

/-- A query is answered, and a later invocation repeats its answer. -/
theorem broker_calls_final_sample :
    CallsFinal "key"
      (Runs.run (step .readable { wallTimeMs := 1000 }) (Sample.asked ++ [.startPass])
        BrokerSystem.empty)
      (Runs.run (step .readable { wallTimeMs := 1000 })
        (Sample.asked ++ [.startPass] ++
          [.answer Sample.queried (.responded (Sample.receipt "answer") {}),
            .settle Sample.queried (Sample.receipt "answer") {} (.ok ()),
            .admitCall Sample.query (.ok ()) ⟨0, false⟩]) BrokerSystem.empty) :=
  broker_calls_final (by decide +kernel) "key"

instance (call : BrokerCall) : Decidable call.Reconciled :=
  decidable_of_iff (call.reconciliationAction.any (· ≠ .pending)) (by
    simp [BrokerCall.Reconciled, Option.any_eq_true])

/-- A late answer overwrites a call that a reconciliation has resolved, and another response than
the one that was returned before is returned for it. -/
theorem broker_calls_final_not :
    ∃ events later key,
      let before := Runs.run (step .readable { wallTimeMs := 1000 }) events BrokerSystem.empty
      let after := Runs.run (step .readable { wallTimeMs := 1000 }) later before
      (∃ row ∈ before.calls, row.idempotencyKey = key ∧ row.Reconciled ∧ row ∉ after.calls) ∧
        ∃ first second, (key, first) ∈ after.returned ∧ (key, second) ∈ after.returned ∧
          first ≠ second := by
  refine ⟨Sample.asked ++ Sample.replayed,
    [.answer Sample.queried (.responded (Sample.receipt "answer") {}),
      .settle Sample.queried (Sample.receipt "answer") {} (.ok ())], "key", ?_⟩
  constructor
  · have shown : ((Runs.run (step .readable { wallTimeMs := 1000 })
        (Sample.asked ++ Sample.replayed) BrokerSystem.empty).calls.any fun row =>
          row.idempotencyKey = "key" ∧ row.Reconciled ∧
            row ∉ (Runs.run (step .readable { wallTimeMs := 1000 })
              [.answer Sample.queried (.responded (Sample.receipt "answer") {}),
                .settle Sample.queried (Sample.receipt "answer") {} (.ok ())]
              (Runs.run (step .readable { wallTimeMs := 1000 })
                (Sample.asked ++ Sample.replayed) BrokerSystem.empty)).calls) = true := by
      decide +kernel
    simpa only [List.any_eq_true, decide_eq_true_eq] using shown
  · exact ⟨Sample.receipt "replayed", Sample.receipt "answer", by decide +kernel⟩

end BrokerSystem

end Aar.Broker
