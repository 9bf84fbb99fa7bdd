import Aar.Broker.ModelJournal

/-! What each transaction of the model execution journal does to the row of its call. -/

namespace Aar.Broker

open Guarded Table

namespace ModelTables

variable {H : Hashing} {tables tables' : ModelTables} {call other : CallId} {intent : ModelIntent}
  {row row' : ModelExecution} {response : ModelResponse} {message : String}

/-- The row still has the result it had: a committed row stays, a receipt is at most committed. -/
structure Later (row row' : ModelExecution) : Prop where
  committed : row.state = .resultCommitted → row' = row
  received : row.state = .providerTerminalReceipt →
    row' = row ∨ row' = { row with state := .resultCommitted }

theorem Later.refl (row : ModelExecution) : Later row row := ⟨fun _ => rfl, fun _ => .inl rfl⟩

/-- Results that stay over two stretches stay over both. -/
theorem Later.trans {first second third : ModelExecution} (left : Later first second)
    (right : Later second third) : Later first third where
  committed final := by
    obtain rfl := left.committed final
    exact right.committed final
  received held := by
    -- A receipt that has been committed on the way cannot change any more.
    rcases left.received held with rfl | rfl
    · exact right.received held
    · exact .inr (right.committed rfl)

theorem Later.of_open (committed : row.state ≠ .resultCommitted)
    (received : row.state ≠ .providerTerminalReceipt) : Later row row' :=
  ⟨fun final => absurd final committed, fun held => absurd held received⟩

/-- A row that holds a response as its receipt or as its result. -/
structure Holds (response : ModelResponse) (row : ModelExecution) : Prop where
  terminal : row.state = .providerTerminalReceipt ∨ row.state = .resultCommitted
  response : row.response = some response

theorem Holds.later (holds : Holds response row) (later : Later row row') :
    Holds response row' := by
  rcases holds.terminal with received | committed
  · rcases later.received received with rfl | rfl
    · exact holds
    · exact ⟨.inr rfl, holds.response⟩
  · obtain rfl := later.committed committed
    exact holds

/-- Every result of the earlier tables is still there in the later ones. -/
def Keeps (tables tables' : ModelTables) : Prop :=
  Kept ModelExecution.call Later tables.executions tables'.executions

theorem Keeps.refl (tables : ModelTables) : Keeps tables tables := Kept.refl Later.refl

theorem Keeps.trans {first second third : ModelTables} (left : Keeps first second)
    (right : Keeps second third) : Keeps first third :=
  Kept.trans Later.trans left right

/-- The row of one call goes from one to another, and every other row stays. -/
abbrev Moves (call : CallId) (row row' : ModelExecution) (tables tables' : ModelTables) : Prop :=
  Rewrites ModelExecution.call call row row' tables.executions tables'.executions

theorem keeps_of_moves (moves : Moves call row row' tables tables') (later : Later row row') :
    Keeps tables tables' :=
  moves.kept Later.refl later

theorem Keeps.append : Keeps tables { tables with executions := tables.executions ++ [row] } :=
  Kept.append Later.refl

theorem execution_append :
    ({ tables with executions := tables.executions ++ [row] } : ModelTables).execution other =
      (tables.execution other).or (if row.call = other then some row else none) :=
  cell_append

/-- A receipt beside an added row without one was there before. -/
theorem receipt_append (added : row.state ≠ .providerTerminalReceipt)
    (found : ({ tables with executions := tables.executions ++ [row] }
      : ModelTables).execution other = some row')
    (received : row'.state = .providerTerminalReceipt) : tables.execution other = some row' := by
  rw [execution_append] at found
  rcases Option.or_eq_some_iff.mp found with before | ⟨-, last⟩
  · exact before
  · split at last
    · cases last
      exact absurd received added
    · cases last

theorem validatedResponse_ok {expected : ModelRouteBinding}
    (valid : validatedResponse H row expected = .ok response) : row.response = some response := by
  simp only [validatedResponse, bind_ok, require_ok, orRaise_ok, pure_ok] at valid
  obtain ⟨stored, present, _, -, _, -, _, -, _, -, _, -, rfl⟩ := valid
  exact present

/-- A new intent finds no row of its call; a repeated result is the stored one. -/
theorem admit_ok {repeated : Option ModelResponse}
    (admitted : tables.admitIntent H intent = .ok (repeated, tables')) :
    (∃ row response, tables.execution intent.call = some row ∧ repeated = some response ∧
      row.state = .resultCommitted ∧ row.response = some response ∧ tables' = tables) ∨
    (tables.execution intent.call = none ∧ repeated = none ∧
      tables' = { tables with executions := tables.executions ++ [intentRow H intent] }) := by
  simp only [admitIntent] at admitted
  split at admitted
  next row found =>
    simp only [validatedResponse, bind_ok, require_ok, orRaise_ok, pure_ok, Prod.mk.injEq]
      at admitted
    obtain ⟨_, -, _, ⟨committed, -⟩, response, ⟨stored, present, _, -, _, -, _, -, _, -, _, -, rfl⟩,
      rfl, rfl⟩ := admitted
    exact .inl ⟨row, stored, found, rfl, committed, present, rfl⟩
  next absent =>
    simp only [Except.ok.injEq, Prod.mk.injEq] at admitted
    exact .inr ⟨absent, admitted.1.symm, admitted.2.symm⟩

/-- A failure rewrites the row of its call, whatever state it has reached. -/
theorem recordFailure_moves (failure : ProviderFailure) (code : String)
    (found : tables.execution call = some row) :
    Moves call row { row with state := failure.state, failureCode := some code } tables
      (tables.recordFailure call failure code) := by
  have rewrites := patch_rewrites (fun _ => True)
    (fun row : ModelExecution => { row with state := failure.state, failureCode := some code })
    (fun _ => rfl) found
  rwa [if_pos trivial] at rewrites

/-- A quarantine rewrites the row of its call unless its result is committed. -/
theorem quarantine_moves (failure : LookupFailure) (code : String)
    (found : tables.execution call = some row) :
    Moves call row
      (if row.state ≠ .resultCommitted then
        { row with state := failure.state, failureCode := some code } else row)
      tables (tables.quarantine call failure code) :=
  patch_rewrites (·.state ≠ .resultCommitted)
    (fun row => { row with state := failure.state, failureCode := some code }) (fun _ => rfl) found

theorem storeReceipt_ok (stored : tables.storeReceipt H call response = .ok tables') :
    ∃ row, row.state = .providerSendStarted ∧
      Moves call row (withResponse H .providerTerminalReceipt response row) tables tables' := by
  simp only [storeReceipt, bind_ok, pure_ok] at stored
  obtain ⟨executions, updated, rfl⟩ := stored
  exact update_rewrites updated fun _ => rfl

theorem commitResult_ok (committed : tables.commitResult call = .ok tables') :
    ∃ row, row.state = .providerTerminalReceipt ∧
      Moves call row { row with state := .resultCommitted } tables tables' := by
  simp only [commitResult, bind_ok, pure_ok] at committed
  obtain ⟨executions, updated, rfl⟩ := committed
  exact update_rewrites updated fun _ => rfl

/-- What `reconcile` repeats is committed, and what it recovers is a terminal receipt. -/
theorem reconcileRead_ok {read : ReconcileRead}
    (ran : tables.reconcileRead H intent = .ok read) :
    ∃ row, tables.execution intent.call = some row ∧
      match read with
      | .replay response => row.state = .resultCommitted ∧ row.response = some response
      | .recover response => row.state = .providerTerminalReceipt ∧ row.response = some response
      | .lookup => True := by
  simp only [reconcileRead, bind_ok, orRaise_ok, require_ok] at ran
  obtain ⟨row, found, _, -, ran⟩ := ran
  refine ⟨row, found, ?_⟩
  -- Only three kinds of states are read on; the others raise.
  cases state : row.state <;> simp only [state, bind_ok, pure_ok, throw_ok] at ran
  case resultCommitted =>
    obtain ⟨response, valid, rfl⟩ := ran
    exact ⟨rfl, validatedResponse_ok valid⟩
  case providerTerminalReceipt =>
    obtain ⟨response, valid, rfl⟩ := ran
    exact ⟨rfl, validatedResponse_ok valid⟩
  all_goals subst ran; trivial

/-- A response read as committed is the response of a committed row. -/
theorem committedResponse_ok
    (read : tables.committedResponse H intent message = .ok response) :
    ∃ row, tables.execution intent.call = some row ∧ row.state = .resultCommitted ∧
      row.response = some response := by
  simp only [committedResponse, bind_ok, orRaise_ok, require_ok] at read
  obtain ⟨row, found, _, committed, valid⟩ := read
  exact ⟨row, found, committed, validatedResponse_ok valid⟩

/-- What a transaction leaves behind that returns a response for a call. -/
structure Answers (call : CallId) (response : ModelResponse) (tables tables' : ModelTables) :
    Prop where
  keeps : Keeps tables tables'
  committed : ∃ row, tables'.execution call = some row ∧ row.state = .resultCommitted ∧
    row.response = some response
  receipts : ∀ other row, tables'.execution other = some row →
    row.state = .providerTerminalReceipt → tables.execution other = some row

theorem Answers.repeated (found : tables.execution call = some row)
    (committed : row.state = .resultCommitted) (stored : row.response = some response) :
    Answers call response tables tables where
  keeps := .refl tables
  committed := ⟨row, found, committed, stored⟩
  receipts _ _ there _ := there

/-- A rewrite to a committed row answers with its response. -/
theorem Answers.rewritten (moves : Moves call row row' tables tables')
    (later : Later row row') (committed : row'.state = .resultCommitted)
    (stored : row'.response = some response) : Answers call response tables tables' where
  keeps := keeps_of_moves moves later
  committed := ⟨row', moves.here, committed, stored⟩
  receipts other found there received := by
    rcases moves.origin there with ⟨-, rfl⟩ | ⟨-, before⟩
    · rw [committed] at received
      cases received
    · exact before

/-- Committing a receipt that holds a response answers with it. -/
theorem commitResult_answers (committed : tables.commitResult call = .ok tables')
    (held : ∃ row, tables.execution call = some row ∧ Holds response row) :
    Answers call response tables tables' := by
  obtain ⟨row, received, moves⟩ := commitResult_ok committed
  obtain ⟨stored, found, holds⟩ := held
  cases found.symm.trans moves.found
  refine .rewritten moves ⟨fun final => ?_, fun _ => .inr rfl⟩ rfl holds.response
  rw [received] at final
  cases final

/-- Recovering a receipt answers with a committed response. -/
theorem recoverReceipt_answers {answer : ModelResponse}
    (recovered : tables.recoverReceipt H intent response = .ok (answer, tables'))
    (held : ∃ row, tables.execution intent.call = some row ∧ Holds response row) :
    Answers intent.call answer tables tables' := by
  simp only [recoverReceipt] at recovered
  split at recovered
  next committed =>
    cases recovered
    exact commitResult_answers committed held
  next =>
    -- Another party committed the receipt first, so its response is repeated.
    simp only [bind_ok, pure_ok, Prod.mk.injEq] at recovered
    obtain ⟨current, read, rfl, rfl⟩ := recovered
    obtain ⟨row, found, final, stored⟩ := committedResponse_ok read
    exact .repeated found final stored

/-- Committing what a lookup found answers with a committed response. -/
theorem commitLookup_answers {answer : ModelResponse}
    (committed : tables.commitLookup H intent response = .ok (answer, tables')) :
    Answers intent.call answer tables tables' := by
  simp only [commitLookup] at committed
  split at committed
  next updated =>
    cases committed
    obtain ⟨row, opened, moves⟩ := update_rewrites updated fun _ => rfl
    refine .rewritten moves (.of_open ?_ ?_) rfl rfl <;>
      rcases opened with state | state <;> simp [state]
  next =>
    simp only [bind_ok, require_ok, pure_ok, Prod.mk.injEq] at committed
    obtain ⟨existing, read, _, -, rfl, rfl⟩ := committed
    obtain ⟨row, found, final, stored⟩ := committedResponse_ok read
    exact .repeated found final stored

theorem bindOperation_executions {operation : String} {route : ModelRouteBinding}
    (bound : tables.bindOperation operation route = .ok tables') :
    tables'.executions = tables.executions := by
  simp only [bindOperation] at bound
  split at bound
  · simp only [bind_ok, require_ok, pure_ok] at bound
    obtain ⟨_, -, rfl⟩ := bound
    rfl
  · cases bound
    rfl

/-- Recording caller evidence answers with a committed response. -/
theorem recordCallerResult_answers {ticket : Option TicketAuthority} {attempt : String}
    {digest : Digest} {answer : ModelResponse}
    (recorded : tables.recordCallerResult H ticket intent attempt digest response =
      .ok (answer, tables')) : Answers intent.call answer tables tables' := by
  simp only [recordCallerResult, bind_ok, require_ok] at recorded
  obtain ⟨_, -, _, -, _, -, bound, binding, recorded⟩ := recorded
  have same := bindOperation_executions binding
  have moved : Answers intent.call answer bound tables' := by
    split at recorded
    next row found =>
      simp only [bind_ok, require_ok, pure_ok, Prod.mk.injEq] at recorded
      obtain ⟨_, rfl, stored, valid, rfl, rfl⟩ := recorded
      exact .repeated found rfl (validatedResponse_ok valid)
    next absent =>
      simp only [pure_ok, Prod.mk.injEq] at recorded
      obtain ⟨rfl, rfl⟩ := recorded
      refine ⟨.append, ⟨_, by rw [execution_append, absent]; exact if_pos rfl, rfl, rfl⟩, ?_⟩
      exact fun other row => receipt_append (fun impossible => by cases impossible)
  -- Binding the route left the executions as they were.
  refine ⟨?_, moved.committed, ?_⟩
  · simpa only [Keeps, same] using moved.keeps
  · simpa only [execution, same] using moved.receipts

end ModelTables

end Aar.Broker
