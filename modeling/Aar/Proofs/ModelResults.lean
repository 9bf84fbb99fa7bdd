import Aar.Lib.Flights
import Aar.Proofs.ModelRows
import Aar.Proofs.Replays

/-! Committed model results are final as long as no late failure meets them. -/

namespace Aar.Broker

open Guarded Table

/-- The call an invocation is about. -/
def ModelFlight.call : ModelFlight → CallId
  | admitted intent | requesting intent | received intent _ | recovering intent _
  | lookingUp intent => intent.call

/-- The response an invocation carries towards its commit. -/
def ModelFlight.response : ModelFlight → Option ModelResponse
  | received _ response | recovering _ response => some response
  | admitted _ | requesting _ | lookingUp _ => none

/-- The invocation has stored its intent for a call and has not called the provider. -/
def ModelFlight.Unsent (call : CallId) : ModelFlight → Prop
  | admitted intent => intent.call = call
  | _ => False

/-- The invocation has stored its intent for a call and has no answer of the provider. -/
def ModelFlight.Unanswered (call : CallId) : ModelFlight → Prop
  | admitted intent | requesting intent => intent.call = call
  | _ => False

instance (call : CallId) : DecidablePred (ModelFlight.Unsent call)
  | .admitted intent => inferInstanceAs (Decidable (intent.call = call))
  | .requesting _ | .received _ _ | .recovering _ _ | .lookingUp _ =>
    inferInstanceAs (Decidable False)

instance (call : CallId) : DecidablePred (ModelFlight.Unanswered call)
  | .admitted intent | .requesting intent => inferInstanceAs (Decidable (intent.call = call))
  | .received _ _ | .recovering _ _ | .lookingUp _ => inferInstanceAs (Decidable False)

theorem ModelFlight.Unsent.unanswered {call : CallId} {flight : ModelFlight}
    (unsent : flight.Unsent call) : flight.Unanswered call := by
  cases flight
  case admitted => exact unsent
  all_goals exact unsent.elim

theorem ModelFlight.Unanswered.about {call : CallId} {flight : ModelFlight}
    (unanswered : flight.Unanswered call) : flight.call = call := by
  cases flight
  case admitted | requesting => exact unanswered
  all_goals exact unanswered.elim

namespace ModelSystem

variable {H : Hashing} {s s' : ModelSystem} {call : CallId} {flight : ModelFlight}
  {intent : ModelIntent} {response : ModelResponse} {tables : ModelTables}

/-- How many invocations have stored the intent of a call and not called the provider. -/
def unsent (call : CallId) (s : ModelSystem) : Nat :=
  Flights.count (ModelFlight.Unsent call) s.flights

/-- How many invocations of a call wait for the provider. -/
def unanswered (call : CallId) (s : ModelSystem) : Nat :=
  Flights.count (ModelFlight.Unanswered call) s.flights

/-- What holds in every state of a run in which no late failure meets a result. -/
structure Consistent (s : ModelSystem) : Prop where
  absent : ∀ call, s.tables.execution call = none →
    (∀ flight ∈ s.flights, flight.call ≠ call) ∧ call ∉ s.sends
  once : ∀ call, s.unsent call + s.sends.count call ≤ 1
  single : ∀ call, s.unanswered call ≤ 1
  answered : ∀ call row, s.tables.execution call = some row →
    row.state = .providerTerminalReceipt → s.unanswered call = 0
  carried : ∀ flight ∈ s.flights, ∀ response, flight.response = some response →
    ∃ row, s.tables.execution flight.call = some row ∧ ModelTables.Holds response row
  returned : ∀ call response, (call, response) ∈ s.returned →
    ∃ row, s.tables.execution call = some row ∧ row.state = .resultCommitted ∧
      row.response = some response

theorem Consistent.empty : Consistent empty where
  absent _ _ := ⟨fun _ member => absurd member List.not_mem_nil, List.not_mem_nil⟩
  once _ := by simp [unsent, ModelSystem.empty]
  single _ := by simp [unanswered, ModelSystem.empty]
  answered _ _ _ _ := rfl
  carried _ member := absurd member List.not_mem_nil
  returned _ _ member := absurd member List.not_mem_nil

theorem unsent_le : s.unsent call ≤ s.unanswered call :=
  Flights.count_mono fun _ _ => ModelFlight.Unsent.unanswered

theorem unanswered_eq_zero (none_ : ∀ flight ∈ s.flights, flight.call ≠ call) :
    s.unanswered call = 0 :=
  Flights.count_eq_zero.mpr fun flight member waits => none_ flight member waits.about

theorem unanswered_enter : (s.enter flight).unanswered call =
    s.unanswered call + if flight.Unanswered call then 1 else 0 :=
  Flights.count_enter _

theorem unsent_enter : (s.enter flight).unsent call =
    s.unsent call + if flight.Unsent call then 1 else 0 :=
  Flights.count_enter _

/-- A system stays consistent when an invocation leaves. -/
theorem Consistent.leave (consistent : Consistent s) (flight : ModelFlight) :
    Consistent (s.leave flight) where
  absent call missing := by
    obtain ⟨apart, unsent⟩ := consistent.absent call missing
    exact ⟨fun other member => apart other (List.mem_of_mem_erase member), unsent⟩
  once call := by
    have fewer : (s.leave flight).unsent call ≤ s.unsent call := Flights.count_leave_le
    have once := consistent.once call
    simp only [ModelSystem.leave] at fewer ⊢
    omega
  single call := Nat.le_trans Flights.count_leave_le (consistent.single call)
  answered call row found received := by
    have none_ := consistent.answered call row found received
    have fewer : (s.leave flight).unanswered call ≤ s.unanswered call :=
      Flights.count_leave_le
    omega
  carried other member := consistent.carried other (List.mem_of_mem_erase member)
  returned := consistent.returned

/-- A system stays consistent under tables that keep its results. -/
theorem Consistent.store (consistent : Consistent s) (keeps : s.tables.Keeps tables)
    (receipts : ∀ call row, tables.execution call = some row →
      row.state = .providerTerminalReceipt →
        s.tables.execution call = some row ∨ s.unanswered call = 0) :
    Consistent (s.store tables) where
  absent call missing := consistent.absent call (keeps.missing missing)
  once := consistent.once
  single := consistent.single
  answered call row found received := by
    rcases receipts call row found received with before | free
    · exact consistent.answered call row before received
    · exact free
  carried other member response carries := by
    obtain ⟨row, found, holds⟩ := consistent.carried other member response carries
    obtain ⟨row', there, later⟩ := keeps _ row found
    exact ⟨row', there, holds.later later⟩
  returned call response member := by
    obtain ⟨row, found, committed, stored⟩ := consistent.returned call response member
    obtain ⟨row', there, later⟩ := keeps call row found
    obtain rfl := later.committed committed
    exact ⟨row', there, committed, stored⟩

/-- A system stays consistent when an invocation that waits for nothing goes on. -/
theorem Consistent.enter (consistent : Consistent s) (passed : ∀ call, ¬ flight.Unanswered call)
    (known : ∃ row, s.tables.execution flight.call = some row)
    (carried : ∀ response, flight.response = some response →
      ∃ row, s.tables.execution flight.call = some row ∧ ModelTables.Holds response row) :
    Consistent (s.enter flight) := by
  have unanswered_same : ∀ call, (s.enter flight).unanswered call = s.unanswered call :=
    fun call => by rw [unanswered_enter, if_neg (passed call), Nat.add_zero]
  have unsent_same : ∀ call, (s.enter flight).unsent call = s.unsent call :=
    fun call => by rw [unsent_enter, if_neg fun unsent => passed call unsent.unanswered, Nat.add_zero]
  refine ⟨fun call missing => ?_, fun call => ?_, fun call => ?_, fun call row found received => ?_,
    fun other member => ?_, consistent.returned⟩
  · obtain ⟨apart, unsent⟩ := consistent.absent call missing
    refine ⟨fun other member => ?_, unsent⟩
    rcases List.mem_cons.mp member with rfl | before
    · rintro rfl
      obtain ⟨row, found⟩ := known
      cases missing.symm.trans found
    · exact apart other before
  · rw [unsent_same]
    exact consistent.once call
  · rw [unanswered_same]
    exact consistent.single call
  · rw [unanswered_same]
    exact consistent.answered call row found received
  · rcases List.mem_cons.mp member with rfl | before
    · exact carried
    · exact consistent.carried other before

/-- A system stays consistent when the committed response of a call is returned. -/
theorem Consistent.return_ (consistent : Consistent s)
    (committed : ∃ row, s.tables.execution call = some row ∧ row.state = .resultCommitted ∧
      row.response = some response) : Consistent (s.return_ call response) where
  absent := consistent.absent
  once := consistent.once
  single := consistent.single
  answered := consistent.answered
  carried := consistent.carried
  returned other answer member := by
    rcases List.mem_cons.mp member with same | before
    · cases same
      exact committed
    · exact consistent.returned other answer before

theorem Consistent.answers (consistent : Consistent s)
    (answers : ModelTables.Answers call response s.tables tables) :
    Consistent ((s.store tables).return_ call response) :=
  (consistent.store answers.keeps fun other row found received =>
    .inl (answers.receipts other row found received)).return_ answers.committed

/-- A system stays consistent when an open call has its only invocation wait for the provider. -/
theorem Consistent.wait {sends : List CallId} (consistent : Consistent s) (call : CallId)
    (waits : flight.Unanswered call)
    (known : ∃ row, s.tables.execution call = some row ∧ row.state ≠ .providerTerminalReceipt)
    (free : s.unanswered call = 0) (others : ∀ other, other ≠ call → sends.count other =
      s.sends.count other)
    (once : (if flight.Unsent call then 1 else 0) + sends.count call ≤ 1) :
    Consistent { s.enter flight with sends } := by
  obtain ⟨row, found, opened⟩ := known
  have about := waits.about
  have elsewhere : ∀ other, other ≠ call → ¬ flight.Unanswered other := fun other apart waits =>
    apart (waits.about.symm.trans about)
  have unsent_free : s.unsent call = 0 := Nat.le_zero.mp (free ▸ unsent_le)
  refine ⟨fun other missing => ?_, fun other => ?_, fun other => ?_, fun other stored there received => ?_,
    fun other member response carries => ?_, consistent.returned⟩
  · have apart : other ≠ call := by
      rintro rfl
      cases missing.symm.trans found
    obtain ⟨gone, never⟩ := consistent.absent other missing
    refine ⟨fun next member => ?_, ?_⟩
    · rcases List.mem_cons.mp member with rfl | before
      · exact fun same => apart (same.symm.trans about)
      · exact gone next before
    · rw [← List.count_eq_zero, others other apart, List.count_eq_zero]
      exact never
  · change (s.enter flight).unsent other + sends.count other ≤ 1
    rw [unsent_enter]
    by_cases here : other = call
    · subst here
      omega
    · have passed : ¬ flight.Unsent other := fun unsent => elsewhere other here unsent.unanswered
      rw [if_neg passed, others other here]
      exact consistent.once other
  · change (s.enter flight).unanswered other ≤ 1
    rw [unanswered_enter]
    by_cases here : other = call
    · subst here
      simp [waits, free]
    · rw [if_neg (elsewhere other here)]
      exact consistent.single other
  · change (s.enter flight).unanswered other = 0
    have apart : other ≠ call := by
      rintro rfl
      cases found.symm.trans there
      exact opened received
    rw [unanswered_enter, if_neg (elsewhere other apart)]
    exact consistent.answered other stored there received
  · rcases List.mem_cons.mp member with rfl | before
    · -- What waits for an answer carries none.
      cases other
      case admitted | requesting => cases carries
      all_goals exact waits.elim
    · exact consistent.carried other before response carries

/-- A system stays consistent when the intent of a new call is stored. -/
theorem Consistent.admitIntent (consistent : Consistent s)
    (missing : s.tables.execution intent.call = none) :
    Consistent ((s.store { s.tables with
      executions := s.tables.executions ++ [ModelTables.intentRow H intent] }).enter
        (.admitted intent)) := by
  obtain ⟨apart, unsent⟩ := consistent.absent intent.call missing
  have none_ : s.sends.count intent.call = 0 := List.count_eq_zero.mpr unsent
  have stored : Consistent (s.store { s.tables with
      executions := s.tables.executions ++ [ModelTables.intentRow H intent] }) := by
    -- The new row is started, so every receipt was there before.
    refine consistent.store .append fun other row found received => .inl ?_
    refine ModelTables.receipt_append ?_ found received
    exact nofun
  have added : ({ s.tables with executions := s.tables.executions ++
      [ModelTables.intentRow H intent] } : ModelTables).execution intent.call =
        some (ModelTables.intentRow H intent) := by
    rw [ModelTables.execution_append, missing]
    exact if_pos rfl
  have waits : ModelFlight.Unanswered intent.call (.admitted intent) := rfl
  refine stored.wait intent.call waits
    ⟨_, added, nofun⟩ (unanswered_eq_zero apart) (fun _ _ => rfl) ?_
  change _ + s.sends.count intent.call ≤ 1
  rw [none_]
  split <;> simp

/-- What an event may meet so that results stay: a failure no committed result, a quarantine no
terminal receipt. -/
def Admissible : ModelEvent → ModelSystem → Prop
  | .answer intent (.failed _ _), s => .requesting intent ∈ s.flights →
    ∀ row ∈ s.tables.execution intent.call, row.state ≠ .resultCommitted
  | .lookup intent (.failed _ _), s => .lookingUp intent ∈ s.flights →
    ∀ row ∈ s.tables.execution intent.call, row.state ≠ .providerTerminalReceipt
  | _, _ => True

instance : ∀ event s, Decidable (Admissible event s)
  | .answer intent (.failed _ _), s => inferInstanceAs (Decidable (.requesting intent ∈ s.flights →
      ∀ row ∈ s.tables.execution intent.call, row.state ≠ .resultCommitted))
  | .lookup intent (.failed _ _), s => inferInstanceAs (Decidable (.lookingUp intent ∈ s.flights →
      ∀ row ∈ s.tables.execution intent.call, row.state ≠ .providerTerminalReceipt))
  | .answer _ (.responded _), _ | .lookup _ (.found _), _ | .lookup _ .absent, _
  | .lookup _ .raised, _ | .bind _ _, _ | .invoke _ _, _ | .send _, _ | .commit _ _, _
  | .reconcile _ _, _ | .recover _ _, _ | .recordCaller _ _ _ _ _, _ | .stop _, _ =>
    inferInstanceAs (Decidable True)

theorem Consistent.known (consistent : Consistent s) (member : flight ∈ s.flights) :
    ∃ row, s.tables.execution flight.call = some row := by
  cases found : s.tables.execution flight.call with
  | none => exact absurd rfl ((consistent.absent _ found).1 flight member)
  | some row => exact ⟨row, rfl⟩

/-- The only waiting invocation of a call leaves none behind, and its row has no receipt. -/
theorem Consistent.waiting (consistent : Consistent s) (call : CallId) (member : flight ∈ s.flights)
    (waits : flight.Unanswered call) :
    (s.leave flight).unanswered call = 0 ∧
      ∃ row, s.tables.execution call = some row ∧ row.state ≠ .providerTerminalReceipt := by
  refine ⟨Flights.count_leave_only (consistent.single call) member waits, ?_⟩
  obtain ⟨row, found⟩ := consistent.known member
  rw [waits.about] at found
  refine ⟨row, found, fun received => ?_⟩
  have none_ := consistent.answered call row found received
  have waiting : 0 < s.unanswered call := Flights.count_pos member waits
  omega

/-- A send is the first one of its call. -/
theorem Consistent.send (consistent : Consistent s) (member : .admitted intent ∈ s.flights) :
    Consistent { (s.leave (.admitted intent)).enter (.requesting intent) with
      sends := intent.call :: s.sends } := by
  obtain ⟨free, known⟩ := consistent.waiting intent.call member rfl
  have fewer : (s.leave (.admitted intent)).unsent intent.call + _ = s.unsent intent.call :=
    Flights.count_leave (ModelFlight.Unsent intent.call) member
  have once := consistent.once intent.call
  rw [if_pos (show ModelFlight.Unsent intent.call (.admitted intent) from rfl)] at fewer
  have waits : ModelFlight.Unanswered intent.call (.requesting intent) := rfl
  refine (consistent.leave (.admitted intent)).wait intent.call waits known free
    (fun other apart => ?_) ?_
  · exact List.count_cons_of_ne apart.symm
  · rw [if_neg (show ¬ ModelFlight.Unsent intent.call (.requesting intent) from id),
      List.count_cons_self]
    omega

/-- The answer of a provider leaves a consistent system that keeps its results. -/
theorem Consistent.answer {answer : ProviderAnswer} (consistent : Consistent s)
    (member : .requesting intent ∈ s.flights) (admissible : Admissible (.answer intent answer) s) :
    Consistent ((s.leave (.requesting intent)).answer H intent answer) ∧
      s.tables.Keeps ((s.leave (.requesting intent)).answer H intent answer).tables := by
  obtain ⟨free, row, found, opened⟩ := consistent.waiting intent.call member rfl
  have left := consistent.leave (.requesting intent)
  cases answer with
  | failed failure code =>
    -- The failure meets a row with neither a receipt nor a result.
    have moves := ModelTables.recordFailure_moves failure code found
    have keeps := ModelTables.keeps_of_moves moves (.of_open (admissible member row found) opened)
    refine ⟨left.store keeps fun call later there received => ?_, keeps⟩
    rcases moves.origin there with ⟨-, rfl⟩ | ⟨-, before⟩
    · cases failure <;> cases received
    · exact .inl before
  | responded response =>
    simp only [ModelSystem.answer]
    cases stored : (s.leave (.requesting intent)).tables.storeReceipt H intent.call response with
    | error => exact ⟨left, .refl _⟩
    | ok tables =>
      obtain ⟨row, started, moves⟩ := ModelTables.storeReceipt_ok stored
      have keeps := ModelTables.keeps_of_moves moves (.of_open (by simp [started]) (by simp [started]))
      refine ⟨(left.store keeps fun call later there _ => ?_).enter (fun _ => id)
        ⟨_, moves.here⟩ fun _ carries => ?_, keeps⟩
      · rcases moves.origin there with ⟨rfl, -⟩ | ⟨-, before⟩
        · exact .inr free
        · exact .inl before
      · cases carries
        exact ⟨_, moves.here, .inl rfl, rfl⟩

/-- A transaction that answers leaves a consistent system that keeps its results. -/
theorem Consistent.conclude
    {outcome : Except ModelBrokerError (ModelResponse × ModelTables)} (consistent : Consistent s)
    (answers : ∀ answer tables, outcome = .ok (answer, tables) →
      ModelTables.Answers call answer s.tables tables) :
    Consistent (s.conclude call outcome) ∧ s.tables.Keeps (s.conclude call outcome).tables := by
  cases outcome with
  | error => exact ⟨consistent, .refl _⟩
  | ok result =>
    exact ⟨consistent.answers (answers _ _ rfl), (answers _ _ rfl).keeps⟩

/-- The commit of a received response leaves a consistent system that keeps its results. -/
theorem Consistent.commit (consistent : Consistent s)
    (member : .received intent response ∈ s.flights) :
    Consistent ((s.leave (.received intent response)).commit intent response) ∧
      s.tables.Keeps ((s.leave (.received intent response)).commit intent response).tables := by
  have left := consistent.leave (.received intent response)
  simp only [ModelSystem.commit]
  cases committed : (s.leave (.received intent response)).tables.commitResult intent.call with
  | error => exact ⟨left, .refl _⟩
  | ok tables =>
    have answers := ModelTables.commitResult_answers committed
      (consistent.carried _ member response rfl)
    exact ⟨left.answers answers, answers.keeps⟩

/-- The answer of a receipt lookup leaves a consistent system that keeps its results. -/
theorem Consistent.lookup {answer : LookupAnswer} (consistent : Consistent s)
    (member : .lookingUp intent ∈ s.flights) (admissible : Admissible (.lookup intent answer) s) :
    Consistent ((s.leave (.lookingUp intent)).lookup H intent answer) ∧
      s.tables.Keeps ((s.leave (.lookingUp intent)).lookup H intent answer).tables := by
  have left := consistent.leave (.lookingUp intent)
  cases answer with
  | found response =>
    exact left.conclude fun answer tables => ModelTables.commitLookup_answers
  | absent => exact ⟨left, .refl _⟩
  | raised => exact ⟨left, .refl _⟩
  | failed failure code =>
    obtain ⟨row, found⟩ := consistent.known member
    have moves := ModelTables.quarantine_moves failure code found
    have keeps := ModelTables.keeps_of_moves moves <| by
      split
      next committed => exact .of_open committed (admissible member row found)
      next => exact .refl row
    refine ⟨left.store keeps fun call later there received => ?_, keeps⟩
    rcases moves.origin there with ⟨-, rfl⟩ | ⟨-, before⟩
    · -- Neither a quarantined row nor a committed one is a receipt.
      by_cases committed : row.state = .resultCommitted
      · rw [if_neg (not_not.mpr committed), committed] at received
        cases received
      · rw [if_pos committed] at received
        cases failure <;> cases received
    · exact .inl before

/-- An admission leaves a consistent system that keeps its results. -/
theorem Consistent.invoke {requestJson : String} (consistent : Consistent s) :
    Consistent (s.invoke H call requestJson) ∧
      s.tables.Keeps (s.invoke H call requestJson).tables := by
  simp only [ModelSystem.invoke]
  split
  next => exact ⟨consistent, .refl _⟩
  next route _ =>
    split
    next => exact ⟨consistent, .refl _⟩
    next response tables admitted =>
      rcases ModelTables.admit_ok admitted with
        ⟨row, stored, found, same, committed, present, -⟩ | ⟨-, absurd_, -⟩
      · cases same
        exact ⟨consistent.return_ ⟨row, found, committed, present⟩, .refl _⟩
      · cases absurd_
    next tables admitted =>
      rcases ModelTables.admit_ok admitted with ⟨_, _, -, absurd_, -⟩ | ⟨missing, -, rfl⟩
      · cases absurd_
      · exact ⟨consistent.admitIntent missing, .append⟩

/-- The read of a reconciliation leaves a consistent system with the same tables. -/
theorem Consistent.reconcile {requestJson : String} (consistent : Consistent s) :
    Consistent (s.reconcile H call requestJson) ∧
      s.tables.Keeps (s.reconcile H call requestJson).tables := by
  simp only [ModelSystem.reconcile]
  split
  next => exact ⟨consistent, .refl _⟩
  next route _ =>
    split
    next => exact ⟨consistent, .refl _⟩
    next response read =>
      obtain ⟨row, found, committed, stored⟩ := ModelTables.reconcileRead_ok read
      exact ⟨consistent.return_ ⟨row, found, committed, stored⟩, .refl _⟩
    next response read =>
      obtain ⟨row, found, received, stored⟩ := ModelTables.reconcileRead_ok read
      refine ⟨consistent.enter (fun _ => id) ⟨row, found⟩ fun _ carries => ?_, .refl _⟩
      cases carries
      exact ⟨row, found, .inl received, stored⟩
    next read =>
      obtain ⟨row, found, -⟩ := ModelTables.reconcileRead_ok read
      exact ⟨consistent.enter (fun _ => id) ⟨row, found⟩ nofun, .refl _⟩

/-- A bound route leaves every execution as it is. -/
theorem Consistent.bind {operation : String} {route : ModelRouteBinding}
    (consistent : Consistent s) (bound : s.tables.bindOperation operation route = .ok tables) :
    Consistent (s.store tables) ∧ s.tables.Keeps (s.store tables).tables := by
  have same := ModelTables.bindOperation_executions bound
  have keeps : s.tables.Keeps tables := by
    rw [ModelTables.Keeps, same]
    exact Kept.refl ModelTables.Later.refl
  refine ⟨consistent.store keeps fun call row found _ => .inl ?_, keeps⟩
  rw [ModelTables.execution, same] at found
  exact found

/-- One admissible event leaves a consistent system that keeps its results. -/
theorem Consistent.step {event : ModelEvent} (consistent : Consistent s)
    (admissible : Admissible event s) :
    Consistent (step H event s) ∧ s.tables.Keeps (step H event s).tables := by
  -- An invocation that is not in its place does nothing.
  have placed : ∀ (flight : ModelFlight) (act : ModelSystem → ModelSystem),
      (flight ∈ s.flights → Consistent (act (s.leave flight)) ∧
        s.tables.Keeps (act (s.leave flight)).tables) →
      Consistent (s.from_ flight act) ∧ s.tables.Keeps (s.from_ flight act).tables := by
    intro flight act acts
    by_cases member : flight ∈ s.flights
    · rw [from_, if_pos member]
      exact acts member
    · rw [from_, if_neg member]
      exact ⟨consistent, .refl _⟩
  cases event <;> simp only [ModelSystem.step]
  case bind operation route =>
    split
    next => exact ⟨consistent, .refl _⟩
    next bound => exact consistent.bind bound
  case invoke => exact consistent.invoke
  case send intent =>
    refine placed _ _ fun member => ?_
    exact ⟨consistent.send member, .refl _⟩
  case answer intent answer =>
    refine placed _ _ fun member => ?_
    exact consistent.answer member admissible
  case commit intent response =>
    refine placed _ _ fun member => ?_
    exact consistent.commit member
  case reconcile => exact consistent.reconcile
  case recover intent response =>
    refine placed _ _ fun member => ?_
    have held := consistent.carried _ member response rfl
    exact (consistent.leave _).conclude fun _ _ recovered =>
      ModelTables.recoverReceipt_answers recovered held
  case lookup intent answer =>
    refine placed _ _ fun member => ?_
    exact consistent.lookup member admissible
  case recordCaller =>
    exact consistent.conclude fun _ _ recorded =>
      ModelTables.recordCallerResult_answers recorded
  case stop flight => exact ⟨consistent.leave flight, .refl _⟩

/-- The results of a call are final from one state to a later one: the provider was asked at most
once, a committed row stays, a stored receipt is at most committed, and all returned responses are
equal. -/
structure ResultsFinal (call : CallId) (before after : ModelSystem) : Prop where
  once : after.sends.count call ≤ 1
  committed : ∀ row, before.tables.execution call = some row → row.state = .resultCommitted →
    after.tables.execution call = some row
  received : ∀ row, before.tables.execution call = some row →
    row.state = .providerTerminalReceipt → after.tables.execution call = some row ∨
      after.tables.execution call = some { row with state := .resultCommitted }
  agreed : ∀ first second, (call, first) ∈ after.returned → (call, second) ∈ after.returned →
    first = second

/-- Along a run in which no late failure meets a result, the results of every call are final. -/
theorem model_results_final {events later : List ModelEvent}
    (allow : Runs.Allowed (step H) Admissible (events ++ later) empty) (call : CallId) :
    ResultsFinal call (Runs.run (step H) events empty)
      (Runs.run (step H) (events ++ later) empty) := by
  rw [Runs.run_append]
  generalize reached : Runs.run (step H) events empty = before
  generalize ended : Runs.run (step H) later before = after
  obtain ⟨early, late⟩ := Runs.allowed_append.mp allow
  have preserved : ∀ event s, Admissible event s → Consistent s → Consistent (step H event s) :=
    fun _ _ admissible consistent => (consistent.step admissible).1
  rw [reached] at late
  have start : Consistent before := reached ▸ early.invariant preserved .empty
  have last : Consistent after := ended ▸ late.invariant preserved start
  have keeps : before.tables.Keeps after.tables := ended ▸
    late.related (fun s s' => s.tables.Keeps s'.tables) (fun _ => .refl _)
      (fun _ _ _ => .trans) preserved
      (fun _ _ admissible consistent => (consistent.step admissible).2) start
  refine ⟨?_, fun row found committed => ?_, fun row found received => ?_, ?_⟩
  · exact Nat.le_trans (Nat.le_add_left _ _) (last.once call)
  · obtain ⟨row', there, stays⟩ := keeps call row found
    rw [← stays.committed committed]
    exact there
  · obtain ⟨row', there, stays⟩ := keeps call row found
    rcases stays.received received with rfl | rfl
    · exact .inl there
    · exact .inr there
  · -- Both responses are the response of the one committed row.
    intro first second one other
    obtain ⟨row, found, -, stored⟩ := last.returned call first one
    obtain ⟨row', found', -, stored'⟩ := last.returned call second other
    cases found.symm.trans found'
    exact Option.some.inj (stored.symm.trans stored')

/-- A model call with its request and its route. -/
def Sample.modelIntent : ModelIntent where
  call := ⟨"op", "key"⟩
  requestJson := "question"
  binding := Sample.route

/-- A model call up to the answer of its provider, while a reconciliation looks the receipt up. -/
def Sample.lookedUp : List ModelEvent :=
  [.bind "op" Sample.route, .invoke Sample.modelIntent.call "question", .send Sample.modelIntent,
    .reconcile Sample.modelIntent.call "question"]

/-- A lookup and the provider's answer meet, and the results of the call are final. -/
theorem model_results_final_sample :
    ResultsFinal Sample.modelIntent.call
      (Runs.run (step .readable)
        (Sample.lookedUp ++ [.answer Sample.modelIntent (.responded Sample.response)]) empty)
      (Runs.run (step .readable)
        (Sample.lookedUp ++ [.answer Sample.modelIntent (.responded Sample.response)] ++
          [.commit Sample.modelIntent Sample.response,
            .lookup Sample.modelIntent (.found Sample.response)]) empty) :=
  model_results_final (by decide +kernel) Sample.modelIntent.call

/-- A committed result is overwritten when the provider's failure arrives after the lookup that
committed it, and a stored receipt when a failed lookup arrives after it. -/
theorem model_results_final_not :
    (∃ events later call row,
      let before := Runs.run (step .readable) events empty
      let after := Runs.run (step .readable) later before
      before.tables.execution call = some row ∧ row.state = .resultCommitted ∧
        after.tables.execution call ≠ some row ∧
        ∃ first second, (call, first) ∈ after.returned ∧ (call, second) ∈ after.returned ∧
          first ≠ second) ∧
    ∃ events later call row,
      let before := Runs.run (step .readable) events empty
      let after := Runs.run (step .readable) later before
      before.tables.execution call = some row ∧ row.state = .providerTerminalReceipt ∧
        after.tables.execution call ≠ some row ∧
        after.tables.execution call ≠ some { row with state := .resultCommitted } := by
  let other : ModelResponse := { Sample.response with outputText := "another answer" }
  constructor
  · -- The lookup finds one response; after the late failure a second lookup finds another.
    exact ⟨Sample.lookedUp ++ [.lookup Sample.modelIntent (.found Sample.response)],
      [.answer Sample.modelIntent (.failed .outcomeUnknown "ModelProviderOutcomeUnknown"),
        .reconcile Sample.modelIntent.call "question", .lookup Sample.modelIntent (.found other)],
      Sample.modelIntent.call,
      ModelTables.withResponse .readable .resultCommitted Sample.response
        (ModelTables.intentRow .readable Sample.modelIntent),
      by decide +kernel, rfl, by decide +kernel, Sample.response, other, by decide +kernel⟩
  · exact ⟨Sample.lookedUp ++ [.answer Sample.modelIntent (.responded Sample.response)],
      [.lookup Sample.modelIntent (.failed .unavailable "ModelReceiptLookupUnavailable")],
      Sample.modelIntent.call,
      ModelTables.withResponse .readable .providerTerminalReceipt Sample.response
        (ModelTables.intentRow .readable Sample.modelIntent),
      by decide +kernel, rfl, by decide +kernel⟩

end ModelSystem

end Aar.Broker
