import Aar.Broker.RoutedCall
import Aar.Proofs.BrokerRows
import Aar.Proofs.ModelRows
import Aar.Proofs.Replays

/-! What a pass makes of a routed model call that was stopped after its response was stored. -/

namespace Aar.Broker

open Guarded Table ModelTables

namespace RoutedJournals

variable {H : Hashing} {budget : Budget} {operation grantId key : String} {request : ModelRequest}
  {answer : ProviderAnswer} {point : StopPoint} {call call' : AdmittedCall} {intent : ModelIntent}
  {binding : ModelRouteBinding} {response : ModelResponse} {tables tables' : ModelTables}
  {response' : ModelResponse} {row : BrokerCall} {s stopped between after : RoutedJournals} {input : PassInput}

/-- The model journal has stored the response of a call, received or committed. -/
def Answered (H : Hashing) (intent : ModelIntent) (response : ModelResponse)
    (tables : ModelTables) : Prop :=
  ∃ row, tables.execution intent.call = some row ∧
    (row.state = .providerTerminalReceipt ∨ row.state = .resultCommitted) ∧
    Binds H intent row ∧ validatedResponse H row intent.binding = .ok response

theorem stored_valid (state : ExecutionState)
    (attests : response.routeReceipt.requested = intent.binding) :
    validatedResponse H (withResponse H state response (intentRow H intent)) intent.binding =
      .ok response := by
  simp [validatedResponse, withResponse, intentRow, orRaise, require, attests, pure, Except.pure,
    bind, Except.bind]

theorem attested_responded (handed : attested binding answer = .responded response) :
    response.routeReceipt.requested = binding := by
  cases answer with
  | failed => cases handed
  | responded given =>
    simp only [attested] at handed
    split at handed
    next attests =>
      cases handed
      exact attests
    next => cases handed

theorem storeReceipt_bindings {id : CallId} (stored : tables.storeReceipt H id response = .ok tables') :
    tables'.bindings = tables.bindings := by
  simp only [storeReceipt, bind_ok, pure_ok] at stored
  obtain ⟨executions, -, rfl⟩ := stored
  rfl

theorem commitResult_bindings {id : CallId} (committed : tables.commitResult id = .ok tables') :
    tables'.bindings = tables.bindings := by
  simp only [commitResult, bind_ok, pure_ok] at committed
  obtain ⟨executions, -, rfl⟩ := committed
  rfl

/-- A stored receipt can be committed. -/
theorem commit_received {id : CallId} {row : ModelExecution} (found : tables.execution id = some row)
    (received : row.state = .providerTerminalReceipt) :
    ∃ tables', tables.commitResult id = .ok tables' := by
  have updated : updateCell ModelExecution.call tables.executions id
      (·.state = .providerTerminalReceipt) (fun row => { row with state := .resultCommitted })
      (ModelBrokerError.callIndeterminate "model execution changed before result commit") = .ok _ :=
    updateCell_ok.mpr ⟨⟨row, found, received⟩, rfl⟩
  exact ⟨_, by rw [commitResult, updated, ok_bind]; rfl⟩

theorem Answered.commit (answered : Answered H intent response tables)
    (committed : tables.commitResult intent.call = .ok tables') :
    Answered H intent response tables' := by
  obtain ⟨row, found, -, binds, valid⟩ := answered
  obtain ⟨stored, -, moves⟩ := commitResult_ok committed
  cases found.symm.trans moves.found
  exact ⟨_, moves.here, .inr rfl, binds, valid⟩

/-- A reconciliation finds the response that was stored, whatever a lookup would answer. -/
theorem Answered.reconcile (answered : Answered H intent response tables) (lookup : LookupAnswer) :
    ∃ tables', reconcileModel H intent lookup tables = (.found response, tables') := by
  obtain ⟨row, found, state, binds, valid⟩ := answered
  rcases state with received | committed
  · have read : tables.reconcileRead H intent = .ok (.recover response) := by
      simp [reconcileRead, found, orRaise, require, binds, received, valid, pure, Except.pure, bind,
        Except.bind]
    -- The receipt is still there, so its commit goes through.
    obtain ⟨tables', committed⟩ := commit_received found received
    refine ⟨tables', ?_⟩
    simp only [reconcileModel, read, recoverReceipt, committed, ReconciledModel.ofTransaction]
  · have read : tables.reconcileRead H intent = .ok (.replay response) := by
      simp [reconcileRead, found, orRaise, require, binds, committed, valid, pure, Except.pure, bind,
        Except.bind]
    exact ⟨tables, by simp only [reconcileModel, read]⟩

/-- What the broker journal stores for a response, up to the end of its call. -/
def settledCalls (H : Hashing) (budget : Budget) (call : AdmittedCall)
    (binding : ModelRouteBinding) (response : ModelResponse) (calls : List BrokerCall) :
    List BrokerCall :=
  let stored := BrokerJournal.recordSucceeded H call.sequence (legacyModelReceipt response).response
    (providerUsage response) calls
  match routedLimits budget call binding response with
  | .error error => BrokerJournal.demote call.sequence error stored
  | .ok () => stored

/-- The calls as a stop leaves them. -/
def stoppedCalls (H : Hashing) (call : AdmittedCall) (response : ModelResponse)
    (calls : List BrokerCall) : StopPoint → List BrokerCall
  | .receiptStored | .resultCommitted => calls
  | .successStored =>
    BrokerJournal.recordSucceeded H call.sequence (legacyModelReceipt response).response
      (providerUsage response) calls

/-- A call that is stopped, beside the same call without the stop. -/
structure Halts (H : Hashing) (budget : Budget) (call : AdmittedCall) (intent : ModelIntent)
    (response : ModelResponse) (point : StopPoint) (begun : List BrokerCall)
    (routes : List RouteBindingRow) (stopped ended : RoutedJournals) : Prop where
  answered : Answered H intent response stopped.model
  left : stopped.calls = stoppedCalls H call response begun point
  settled : ended.calls = settledCalls H budget call intent.binding response begun
  sends : ended.sends = stopped.sends
  bindings : stopped.model.bindings = routes

theorem concludeRouted_none : concludeRouted H budget call binding response none s =
    .ended call response { s with calls := settledCalls H budget call binding response s.calls } := by
  simp only [concludeRouted, settledCalls, reduceCtorEq, if_false]
  cases routedLimits budget call binding response <;> rfl

/-- A stop after the response of the model journal. -/
theorem concludeRouted_stopped (answered : Answered H intent response s.model)
    (ran : concludeRouted H budget call intent.binding response (some point) s =
      .stopped call' response' stopped) :
    call' = call ∧ response' = response ∧
      Halts H budget call intent response point s.calls s.model.bindings stopped
        { s with calls := settledCalls H budget call intent.binding response s.calls } := by
  simp only [concludeRouted, Option.some.injEq] at ran
  split at ran
  next here =>
    cases ran
    subst here
    exact ⟨rfl, rfl, answered, rfl, rfl, rfl, rfl⟩
  next =>
    split at ran
    next here =>
      cases ran
      subst here
      exact ⟨rfl, rfl, answered, rfl, rfl, rfl, rfl⟩
    next => split at ran <;> cases ran

/-- A stop in a routed request, beside the request without the stop. -/
theorem routedRequest_stopped
    (ran : routedRequest H budget call intent answer (some point) s =
      .stopped call' response stopped) :
    call' = call ∧ ∃ ended, routedRequest H budget call intent answer none s =
      .ended call response ended ∧
      Halts H budget call intent response point s.calls s.model.bindings stopped ended := by
  simp only [routedRequest] at ran ⊢
  cases admitted : s.model.admitIntent H intent with
  | error error =>
    simp only [admitted] at ran
    cases ran
  | ok result =>
    obtain ⟨repeated, model⟩ := result
    simp only [admitted] at ran ⊢
    cases repeated with
    | some repeated =>
      simp only at ran ⊢
      have answered : Answered H intent repeated s.model := by
        simp only [ModelTables.admitIntent] at admitted
        split at admitted
        next row found =>
          simp only [bind_ok, require_ok, pure_ok, Prod.mk.injEq, Option.some.injEq] at admitted
          obtain ⟨_, binds, _, ⟨committed, -⟩, valid, read, rfl, rfl⟩ := admitted
          exact ⟨row, found, .inr committed, binds, read⟩
        next => cases admitted
      obtain ⟨rfl, rfl, halts⟩ := concludeRouted_stopped answered ran
      exact ⟨rfl, _, concludeRouted_none, halts⟩
    | none =>
      simp only at ran ⊢
      rcases ModelTables.admit_ok admitted with ⟨_, _, _, impossible, -⟩ | ⟨absent, -, stored⟩
      · cases impossible
      cases handed : attested intent.binding answer with
      | failed failure code =>
        simp only [handed] at ran
        cases ran
      | responded given =>
        simp only [handed] at ran ⊢
        have attests := attested_responded handed
        cases received : model.storeReceipt H intent.call given with
        | error error =>
          simp only [received] at ran
          cases ran
        | ok model' =>
          simp only [received, Option.some.injEq, reduceCtorEq, if_false] at ran ⊢
          -- The receipt is stored in the row of the intent.
          have answered : Answered H intent given model' := by
            obtain ⟨row, -, moves⟩ := storeReceipt_ok received
            have here : model.execution intent.call = some (intentRow H intent) := by
              rw [stored, execution_append, absent]
              simp [intentRow]
            cases here.symm.trans moves.found
            exact ⟨_, moves.here, .inl rfl, ⟨rfl, rfl, rfl⟩, stored_valid _ attests⟩
          have routes : model'.bindings = s.model.bindings := by
            rw [storeReceipt_bindings received, stored]
          obtain ⟨row, -, moves⟩ := storeReceipt_ok received
          obtain ⟨model'', committed⟩ := commit_received moves.here rfl
          simp only [committed] at ran ⊢
          split at ran
          next here =>
            cases ran
            subst here
            exact ⟨rfl, _, concludeRouted_none, answered, rfl, rfl, rfl, routes⟩
          next =>
            obtain ⟨rfl, rfl, halts⟩ := concludeRouted_stopped (answered.commit committed) ran
            have kept : model''.bindings = s.model.bindings :=
              (commitResult_bindings committed).trans routes
            exact ⟨rfl, _, concludeRouted_none, { halts with bindings := halts.bindings.trans kept }⟩

/-- A routed call that is stopped has an intent of its own, beside the call without the stop. -/
theorem modelRequest_stopped (keyed : Keyed BrokerCall.sequence s.calls)
    (unrejected : ∀ row ∈ s.calls, row.idempotencyKey = key → row.state ≠ .rejectedBeforeSend)
    (bound : s.model.binding operation = .ok binding)
    (ran : modelRequest H budget operation grantId key request answer (some point) s =
      .stopped call response stopped) :
    call.invocation = routedInvocation grantId key request binding ∧ ∃ begun ended,
      BrokerJournal.callAt begun call.sequence =
        some (BrokerJournal.startedCall H call.invocation call.sequence) ∧
      modelRequest H budget operation grantId key request answer none s =
        .ended call response ended ∧
      Halts H budget call
        { call := ⟨operation, key⟩, requestJson := request.json, binding } response point begun
        s.model.bindings stopped ended := by
  simp only [modelRequest, bound] at ran ⊢
  split at ran
  next => cases ran
  next => cases ran
  next sequence used calls admitted =>
    obtain ⟨rfl, ended, finished, halts⟩ := routedRequest_stopped ran
    refine ⟨rfl, calls, ended, ?_, finished, halts⟩
    cases BrokerJournal.admit_ok keyed admitted with
    | reopened found named rejected =>
      exact absurd rejected (unrejected _ (cell_some found).1 named)
    | inserted fresh =>
      -- The new sequence is beyond every other, so its cell was empty.
      have empty : cell BrokerCall.sequence s.calls (maxOf s.calls (·.sequence) + 1) = none :=
        fetchOne_none.mpr (BrokerJournal.startedCall_fresh H
          (routedInvocation grantId key request binding) s.calls)
      rw [BrokerJournal.callAt, cell_append, empty]
      simp [BrokerJournal.startedCall]

/-- The row of a call once its response is stored. -/
def succeededRow (H : Hashing) (call : AdmittedCall) (response : ModelResponse) : BrokerCall :=
  BrokerJournal.succeeded H (legacyModelReceipt response).response (providerUsage response)
    (BrokerJournal.startedCall H call.invocation call.sequence)

/-- The stored success of a started call. -/
theorem recorded_here {calls : List BrokerCall} (response : ModelResponse) (found : BrokerJournal.callAt calls call.sequence =
      some (BrokerJournal.startedCall H call.invocation call.sequence)) :
    BrokerJournal.callAt (BrokerJournal.recordSucceeded H call.sequence
      (legacyModelReceipt response).response (providerUsage response) calls) call.sequence =
      some (succeededRow H call response) :=
  (patch_rewrites (fun _ => True) (BrokerJournal.succeeded H (legacyModelReceipt response).response
    (providerUsage response)) (fun _ => rfl) found).here

/-- The limits of a routed call are kept exactly when the budget and the route hold its response. -/
theorem routedLimits_ok : routedLimits budget call binding response = .ok () ↔
    BrokerJournal.Fits budget call.currentUsage (providerUsage response) ∧
      response.usage.outputTokens ≤ binding.maxOutputTokens := by
  have limits : BrokerSystem.limits budget call (providerUsage response) = .ok () ↔
      BrokerJournal.Fits budget call.currentUsage (providerUsage response) := BrokerJournal.fits_iff
  simp [routedLimits, enforceRouteMaximum, limits]

/-- How a call ends by itself: its row has the usage of its response, and has succeeded exactly when
the budget and the route hold it. -/
theorem settled_here {begun : List BrokerCall} (budget : Budget) (binding : ModelRouteBinding)
    (response : ModelResponse) (found : BrokerJournal.callAt begun call.sequence =
      some (BrokerJournal.startedCall H call.invocation call.sequence)) :
    ∃ row, BrokerJournal.callAt (settledCalls H budget call binding response begun) call.sequence =
        some row ∧ row.Ended ∧ row.usage = providerUsage response ∧
      (row.state = .succeeded ↔
        BrokerJournal.Fits budget call.currentUsage (providerUsage response) ∧
          response.usage.outputTokens ≤ binding.maxOutputTokens) ∧
      row.responseJson = some (legacyModelReceipt response).response ∧
      row.responseDigest = some (H.text (legacyModelReceipt response).response.json) := by
  have stored := recorded_here response found
  simp only [settledCalls]
  rw [← routedLimits_ok]
  cases limits : routedLimits budget call binding response with
  | ok => exact ⟨_, stored, .inl rfl, rfl, by simp [succeededRow, BrokerJournal.succeeded], rfl, rfl⟩
  | error error =>
    have state : (succeededRow H call response).state = .succeeded := rfl
    have demoted := patch_rewrites (·.state = .succeeded) (BrokerJournal.demoted error)
      (fun _ => rfl) stored
    rw [if_pos state] at demoted
    exact ⟨_, demoted.here, .inr rfl, rfl, by simp [BrokerJournal.demoted], rfl, rfl⟩

/-- Nothing between two states touched a call: not its row, its execution, its route or its
provider requests. -/
structure Elsewhere (operation key : String) (sequence : Nat) (s s' : RoutedJournals) : Prop where
  row : BrokerJournal.callAt s'.calls sequence = BrokerJournal.callAt s.calls sequence
  execution : s'.model.execution ⟨operation, key⟩ = s.model.execution ⟨operation, key⟩
  route : s'.model.binding operation = s.model.binding operation
  sends : s'.sends.count ⟨operation, key⟩ = s.sends.count ⟨operation, key⟩

theorem Elsewhere.refl {sequence : Nat} (s : RoutedJournals) :
    Elsewhere operation key sequence s s :=
  ⟨rfl, rfl, rfl, rfl⟩

/-- A call has ended in the same way in two states, with the same usage and the same receipt, and
its provider was asked as often. -/
def SameOutcome (operation key : String) (sequence : Nat) (s s' : RoutedJournals) : Prop :=
  s'.sends.count ⟨operation, key⟩ = s.sends.count ⟨operation, key⟩ ∧
    ∃ row ∈ BrokerJournal.callAt s.calls sequence, ∃ row' ∈ BrokerJournal.callAt s'.calls sequence,
      row.Ended ∧ row'.state = row.state ∧ row'.usage = row.usage ∧
        (row.state = .succeeded → row'.responseJson = row.responseJson ∧
          row'.responseDigest = row.responseDigest)

/-- When a pass ends a stopped call as it would have ended by itself: before its success is stored,
the pass comes to it, the usage of the calls it meets is read, and on top of it the budget and the
route hold the response exactly when they did at the admission; after that, they held it. -/
def Recoverable (budget : Budget) (binding : ModelRouteBinding) (call : AdmittedCall)
    (response : ModelResponse) (reached : Bool) (calls : List BrokerCall) : StopPoint → Prop
  | .receiptStored | .resultCommitted => reached ∧
    ∃ used, BrokerJournal.usage calls = .ok used ∧ (used.add (providerUsage response)).Valid ∧
      (Within budget (used.add (providerUsage response)) ∧
          response.usage.outputTokens ≤ binding.maxOutputTokens ↔
        BrokerJournal.Fits budget call.currentUsage (providerUsage response) ∧
          response.usage.outputTokens ≤ binding.maxOutputTokens)
  | .successStored =>
    BrokerJournal.Fits budget call.currentUsage (providerUsage response) ∧
      response.usage.outputTokens ≤ binding.maxOutputTokens

/-- A usage that cannot be read does not fit its type; no budget is involved. -/
theorem usage_error {calls : List BrokerCall} {error : BrokerError}
    (failed : BrokerJournal.usage calls = .error error) : ∃ message, error = .validation message := by
  have along : ∀ (rest : List BrokerCall) (total : BrokerUsage),
      rest.foldlM (fun total call => if call.state = .started then .ok total
        else total.plus call.usage) total = .error error → ∃ message, error = .validation message := by
    intro rest
    induction rest with
    | nil =>
      intro total ran
      cases ran
    | cons call rest ih =>
      intro total ran
      rw [List.foldlM_cons] at ran
      by_cases started : call.state = .started
      · rw [if_pos started, ok_bind] at ran
        exact ih total ran
      · rw [if_neg started] at ran
        by_cases valid : (total.add call.usage).Valid
        · simp only [BrokerUsage.plus, require, valid, if_true, pure, Except.pure, bind,
            Except.bind] at ran
          exact ih _ ran
        · simp only [BrokerUsage.plus, require, valid, if_false, bind, Except.bind,
            Except.error.injEq] at ran
          exact ⟨_, ran.symm⟩
  exact along calls {} failed

/-- What a pass decides about a recovered response: it is kept, quarantined with its usage, or in
conflict because a sum does not fit its type. -/
inductive Judges (budget : Budget) (calls : List BrokerCall) (response : BrokerResponse)
    (usage : BrokerUsage) (maximum : Nat) : BrokerJournal.Decision → Prop where
  | keeps {used : BrokerUsage} (read : BrokerJournal.usage calls = .ok used)
      (valid : (used.add usage).Valid) (within : Within budget (used.add usage))
      (routed : usage.outputTokens ≤ maximum) :
      Judges budget calls response usage maximum
        (.resolve response (some usage) .receiptRecovered "model_receipt_recovered")
  | quarantines {used : BrokerUsage} {reasonCode : String}
      (read : BrokerJournal.usage calls = .ok used) (valid : (used.add usage).Valid)
      (exceeds : ¬ (Within budget (used.add usage) ∧ usage.outputTokens ≤ maximum)) :
      Judges budget calls response usage maximum
        (.unresolved .quarantine reasonCode none (some usage))
  | conflicts {action : BrokerReconciliationAction} {compensation : Option String}
      (acts : action ≠ .pending)
      (unread : ∀ used, BrokerJournal.usage calls = .ok used → ¬ (used.add usage).Valid) :
      Judges budget calls response usage maximum
        (.unresolved action "broker_provider_conflict" compensation none)

/-- A pass decides in one of these ways. -/
theorem decideRouted_judges (budget : Budget) (calls : List BrokerCall) (response : BrokerResponse)
    (usage : BrokerUsage) (maximum : Nat) (compensation : Option String) :
    Judges budget calls response usage maximum
      (BrokerJournal.decideRouted budget calls response usage maximum compensation) := by
  have acts : BrokerJournal.unresolvedAction false compensation ≠ .pending := by
    cases compensation <;> simp [BrokerJournal.unresolvedAction]
  cases read : BrokerJournal.usage calls with
  | error error =>
    obtain ⟨message, rfl⟩ := usage_error read
    simp only [BrokerJournal.decideRouted, read, bind, Except.bind]
    exact .conflicts acts fun used found => by cases read.symm.trans found
  | ok used =>
    by_cases valid : (used.add usage).Valid
    · by_cases within : Within budget (used.add usage)
      · by_cases routed : maximum < usage.outputTokens
        · simp only [BrokerJournal.decideRouted, read, BrokerUsage.plus, require, valid, if_true,
            assertBudget, within, routed, pure, Except.pure, bind, Except.bind]
          exact .quarantines read valid fun both => Nat.not_le.mpr routed both.2
        · simp only [BrokerJournal.decideRouted, read, BrokerUsage.plus, require, valid, if_true,
            assertBudget, within, routed, if_false, pure, Except.pure, bind, Except.bind]
          exact .keeps read valid within (Nat.not_lt.mp routed)
      · simp only [BrokerJournal.decideRouted, read, BrokerUsage.plus, require, valid, if_true,
          assertBudget, within, if_false, pure, Except.pure, bind, Except.bind]
        exact .quarantines read valid fun both => within both.1
    · simp only [BrokerJournal.decideRouted, read, BrokerUsage.plus, require, valid, if_false, bind,
        Except.bind]
      exact .conflicts acts fun other found => by
        cases read.symm.trans found
        exact valid

/-- A pass that comes to a started routed call with its authority intact decides about the stored
response. -/
theorem reconcileRow_found {model : ModelTables} (budget : Budget)
    (live : input.cancelled = false ∧ input.expired = false ∧ input.grantId = some grantId)
    (row : BrokerCall) (method : row.method = .modelRequest) (granted : row.grantId = grantId)
    (asked : row.requestJson = some request.json) (digest : row.requestDigest = H.text request.json)
    (bound : s.model.binding operation = .ok binding)
    (found : reconcileModel H
      { call := ⟨operation, row.idempotencyKey⟩, requestJson := request.json, binding } input.lookup
      s.model = (.found response, model)) :
    s.reconcileRow H budget operation row input =
      { s with
        model
        calls := ((BrokerJournal.apply H row input.authorityDigest input.now s.calls
          (BrokerJournal.decideRouted budget s.calls (legacyModelReceipt response).response
            (providerUsage response) binding.maxOutputTokens
            (input.proposed .modelRequest))).toOption).getD s.calls } := by
  obtain ⟨running, early, held⟩ := live
  simp [reconcileRow, rowFinding, running, early, held, asked, digest, method, granted, findingOf, bound, found,
    BrokerJournal.decide]

/-- A started call is resolved with the response that was found, and with its usage. -/
theorem apply_resolve_here {calls : List BrokerCall} {found : BrokerResponse}
    (here : BrokerJournal.callAt calls row.sequence = some row) (started : row.state = .started)
    (typed : row.responseModel = found.model) (usage : BrokerUsage)
    (action : BrokerReconciliationAction) (reasonCode : String) (authorityDigest : Digest)
    (now : Nat) :
    ∃ calls', BrokerJournal.apply H row authorityDigest now calls
        (.resolve found (some usage) action reasonCode) = .ok calls' ∧
      ∃ row', BrokerJournal.callAt calls' row.sequence = some row' ∧ row'.state = .succeeded ∧
        row'.usage = usage ∧ row'.responseJson = some found ∧
        row'.responseDigest = some (H.text found.json) := by
  let reconciliation : BrokerCallReconciliation :=
    { sequence := row.sequence, method := row.method, action, reasonCode
      requestDigest := row.requestDigest, authorityDigest
      responseDigest := some (H.text found.json), compensationReceipt := none }
  have updated : updateCell BrokerCall.sequence calls row.sequence (·.state = .started)
      (BrokerJournal.resolved H reconciliation found (some usage) now)
      (BrokerError.callConflict "broker call changed during reconciliation") = .ok _ :=
    updateCell_ok.mpr ⟨⟨row, here, started⟩, rfl⟩
  refine ⟨_, ?_, _, (patch_rewrites (·.state = .started)
    (BrokerJournal.resolved H reconciliation found (some usage) now) (fun _ => rfl) here).here, ?_⟩
  · simp only [BrokerJournal.apply, BrokerJournal.resolveStartedCall, here, orRaise, ok_bind, require,
      if_true, typed, started, reduceCtorEq, if_false]
    exact updated
  · rw [if_pos started]
    exact ⟨rfl, rfl, rfl, rfl⟩

/-- A started call that a pass does not leave pending has failed, with the usage that is given. -/
theorem apply_unresolved_here {calls : List BrokerCall}
    {action : BrokerReconciliationAction}
    (here : BrokerJournal.callAt calls row.sequence = some row) (started : row.state = .started)
    (acts : action ≠ .pending) (usage : Option BrokerUsage) (reasonCode : String)
    (compensation : Option String) (authorityDigest : Digest) (now : Nat) :
    ∃ calls', BrokerJournal.apply H row authorityDigest now calls
        (.unresolved action reasonCode compensation usage) = .ok calls' ∧
      ∃ row', BrokerJournal.callAt calls' row.sequence = some row' ∧ row'.state = .failed ∧
        row'.usage = usage.getD {} := by
  let reconciliation : BrokerCallReconciliation :=
    { sequence := row.sequence, method := row.method, action, reasonCode
      requestDigest := row.requestDigest, authorityDigest, responseDigest := none
      compensationReceipt := compensation }
  have updated : updateCell BrokerCall.sequence calls row.sequence (·.state = .started)
      (BrokerJournal.unresolved reconciliation usage now)
      (BrokerError.callConflict "broker call changed during reconciliation") = .ok _ :=
    updateCell_ok.mpr ⟨⟨row, here, started⟩, rfl⟩
  refine ⟨_, ?_, _, (patch_rewrites (·.state = .started)
    (BrokerJournal.unresolved reconciliation usage now) (fun _ => rfl) here).here, ?_⟩
  · simp only [BrokerJournal.apply, BrokerJournal.recordUnresolvedReconciliation, here, orRaise,
      ok_bind, require, if_true, started, ne_eq, not_true_eq_false, if_false]
    exact updated
  · rw [if_pos started]
    simp [BrokerJournal.unresolved, reconciliation, acts]

theorem reconcileCall_sends (sequence : Nat) :
    (s.reconcileCall H budget operation sequence input).sends = s.sends := by
  unfold reconcileCall
  split
  · split
    · rfl
    · rfl
  · rfl

/-- What a pass makes of a started call whose response is stored: it succeeds with it when both sums
hold it, it fails with its usage when a sum that can be read does not, and it fails without a usage
when no sum can be read. -/
theorem reconcileCall_started {calls : List BrokerCall} (budget : Budget)
    (live : input.cancelled = false ∧ input.expired = false ∧ input.grantId = some grantId)
    (invoked : call.invocation = routedInvocation grantId key request binding)
    (here : BrokerJournal.callAt s.calls call.sequence =
      some (BrokerJournal.startedCall H call.invocation call.sequence))
    (bound : s.model.binding operation = .ok binding)
    (answered : Answered H { call := ⟨operation, key⟩, requestJson := request.json, binding } response
      s.model) (same : s.calls = calls) :
    ∃ row, BrokerJournal.callAt (s.reconcileCall H budget operation call.sequence input).calls
        call.sequence = some row ∧
      ((∃ used, BrokerJournal.usage calls = .ok used ∧ (used.add (providerUsage response)).Valid ∧
          (Within budget (used.add (providerUsage response)) ∧
            response.usage.outputTokens ≤ binding.maxOutputTokens) ∧
          row.state = .succeeded ∧ row.usage = providerUsage response ∧
          row.responseJson = some (legacyModelReceipt response).response ∧
          row.responseDigest = some (H.text (legacyModelReceipt response).response.json)) ∨
        (∃ used, BrokerJournal.usage calls = .ok used ∧ (used.add (providerUsage response)).Valid ∧
          ¬ (Within budget (used.add (providerUsage response)) ∧
            response.usage.outputTokens ≤ binding.maxOutputTokens) ∧
          row.state = .failed ∧ row.usage = providerUsage response) ∨
        ((∀ used, BrokerJournal.usage calls = .ok used →
            ¬ (used.add (providerUsage response)).Valid) ∧
          row.state = .failed ∧ row.usage = {})) := by
  subst same
  have started : (BrokerJournal.startedCall H call.invocation call.sequence).state = .started := rfl
  obtain ⟨model, found⟩ := answered.reconcile input.lookup
  have ran := reconcileRow_found budget live
    (BrokerJournal.startedCall H call.invocation call.sequence) (by rw [invoked]; rfl)
    (by rw [invoked]; rfl) (by rw [invoked]; rfl) (by rw [invoked]; rfl) bound
    (by rw [← found, invoked]; rfl)
  have typed : (BrokerJournal.startedCall H call.invocation call.sequence).responseModel =
      (legacyModelReceipt response).response.model := by rw [invoked]; rfl
  simp only [reconcileCall, here, started, if_true, ran]
  have judged := decideRouted_judges budget s.calls (legacyModelReceipt response).response
    (providerUsage response) binding.maxOutputTokens (input.proposed .modelRequest)
  generalize BrokerJournal.decideRouted budget s.calls (legacyModelReceipt response).response
    (providerUsage response) binding.maxOutputTokens (input.proposed .modelRequest) = decision
    at judged
  cases judged with
  | keeps read valid within routed =>
    obtain ⟨calls', applied, row', there, state, usage, answer, digest⟩ :=
      apply_resolve_here here started typed (providerUsage response) .receiptRecovered
        "model_receipt_recovered" input.authorityDigest input.now
    refine ⟨row', ?_, .inl ⟨_, read, valid, ⟨within, routed⟩, state, usage, answer, digest⟩⟩
    rw [applied]
    exact there
  | @quarantines _ reasonCode read valid exceeds =>
    have acts : BrokerReconciliationAction.quarantine ≠ .pending := by simp
    obtain ⟨calls', applied, row', there, state, usage⟩ :=
      apply_unresolved_here (H := H) here started acts (some (providerUsage response)) reasonCode
        none input.authorityDigest input.now
    refine ⟨row', ?_, .inr (.inl ⟨_, read, valid, exceeds, state, usage⟩)⟩
    rw [applied]
    exact there
  | @conflicts _ compensation acts unread =>
    obtain ⟨calls', applied, row', there, state, usage⟩ :=
      apply_unresolved_here (H := H) here started acts none "broker_provider_conflict" compensation
        input.authorityDigest input.now
    refine ⟨row', ?_, .inr (.inr ⟨unread, state, usage⟩)⟩
    rw [applied]
    exact there

/-- A stop of a routed call changes nothing after a pass exactly when the call is recoverable from
the state in which the pass comes to it, if it does, whatever happens to other calls before and
after. -/
theorem routed_stop_neutral (keyed : Keyed BrokerCall.sequence s.calls)
    (unrejected : ∀ row ∈ s.calls, row.idempotencyKey = key → row.state ≠ .rejectedBeforeSend)
    (bound : s.model.binding operation = .ok binding)
    (ran : modelRequest H budget operation grantId key request answer (some point) s =
      .stopped call response stopped)
    (live : input.cancelled = false ∧ input.expired = false ∧ input.grantId = some grantId)
    (before : Elsewhere operation key call.sequence stopped between) (reached : Bool)
    (later : Elsewhere operation key call.sequence
      (if reached then between.reconcileCall H budget operation call.sequence input else between)
      after) :
    ∃ ended, modelRequest H budget operation grantId key request answer none s =
        .ended call response ended ∧
      (SameOutcome operation key call.sequence ended after ↔
        Recoverable budget binding call response reached between.calls point) := by
  obtain ⟨invoked, begun, ended, found, finished, halts⟩ :=
    modelRequest_stopped keyed unrejected bound ran
  refine ⟨ended, finished, ?_⟩
  obtain ⟨row, there, beyond, usage, state, receipt, digest⟩ :=
    settled_here budget binding response found
  rw [← halts.settled] at there
  have sends : after.sends.count ⟨operation, key⟩ = ended.sends.count ⟨operation, key⟩ := by
    rw [later.sends, halts.sends, ← before.sends]
    split
    · rw [reconcileCall_sends]
    · rfl
  have same : ∀ row', BrokerJournal.callAt after.calls call.sequence = some row' →
      (SameOutcome operation key call.sequence ended after ↔ row'.state = row.state ∧
        row'.usage = row.usage ∧ (row.state = .succeeded → row'.responseJson = row.responseJson ∧
          row'.responseDigest = row.responseDigest)) := by
    intro row' here
    simp [SameOutcome, sends, there, here, beyond]
  have failed : row.state ≠ .succeeded → row.state = .failed := beyond.resolve_left
  by_cases stored : point = .successStored
  · subst stored
    -- The row has succeeded, and a pass looks at started calls only.
    have here : BrokerJournal.callAt between.calls call.sequence =
        some (succeededRow H call response) := by
      rw [before.row, halts.left]
      exact recorded_here response found
    have kept : between.reconcileCall H budget operation call.sequence input = between := by
      simp [reconcileCall, here, succeededRow, BrokerJournal.succeeded]
    rw [kept, ite_self] at later
    rw [same _ (later.row.trans here), Recoverable, ← state, usage, receipt, digest]
    exact ⟨fun alike => alike.1.symm, fun succeeded => ⟨succeeded.symm, rfl, fun _ => ⟨rfl, rfl⟩⟩⟩
  · have here : BrokerJournal.callAt between.calls call.sequence =
        some (BrokerJournal.startedCall H call.invocation call.sequence) := by
      rw [before.row, halts.left]
      cases point with
      | successStored => exact absurd rfl stored
      | receiptStored | resultCommitted => exact found
    have answered : Answered H
        { call := ⟨operation, key⟩, requestJson := request.json, binding } response
        between.model := by
      obtain ⟨execution, at_, holds⟩ := halts.answered
      exact ⟨execution, before.execution.trans at_, holds⟩
    have route : between.model.binding operation = .ok binding := by
      rw [before.route, ModelTables.binding, halts.bindings]
      exact bound
    have recoverable : Recoverable budget binding call response reached between.calls point ↔
        reached ∧ ∃ used, BrokerJournal.usage between.calls = .ok used ∧
          (used.add (providerUsage response)).Valid ∧
          (Within budget (used.add (providerUsage response)) ∧
              response.usage.outputTokens ≤ binding.maxOutputTokens ↔ row.state = .succeeded) := by
      cases point with
      | successStored => exact absurd rfl stored
      | receiptStored | resultCommitted => rw [state, Recoverable]
    by_cases came : reached = true
    · subst came
      obtain ⟨row', there', judged⟩ := reconcileCall_started budget live invoked here route answered rfl
      rw [same _ (later.row.trans there'), recoverable, usage, receipt, digest]
      simp only [true_and]
      rcases judged with ⟨used, read, valid, within, state', usage', receipt', digest'⟩ |
        ⟨used, read, valid, exceeds, state', usage'⟩ | ⟨unread, state', usage'⟩
      · rw [state', usage', receipt', digest']
        constructor
        · exact fun alike => ⟨used, read, valid, fun _ => alike.1.symm, fun _ => within⟩
        · rintro ⟨other, found', -, agree⟩
          cases read.symm.trans found'
          exact ⟨(agree.mp within).symm, rfl, fun _ => ⟨rfl, rfl⟩⟩
      · rw [state', usage']
        constructor
        · refine fun alike => ⟨used, read, valid, fun within => absurd within exceeds,
            fun succeeded => ?_⟩
          cases alike.1.trans succeeded
        · rintro ⟨other, found', -, agree⟩
          cases read.symm.trans found'
          have lost : row.state ≠ .succeeded := fun succeeded => exceeds (agree.mpr succeeded)
          exact ⟨(failed lost).symm, rfl, fun succeeded => absurd succeeded lost⟩
      · rw [usage']
        constructor
        · -- A model call uses up one request, so its usage is not empty.
          intro alike
          have empty := congrArg BrokerUsage.modelRequests alike.2.1
          cases empty
        · rintro ⟨used, read, valid, -⟩
          exact absurd valid (unread used read)
    · -- A pass that does not come to the call leaves it started.
      rw [if_neg came] at later
      rw [same _ (later.row.trans here), recoverable]
      refine ⟨fun alike => ?_, fun both => absurd both.1 came⟩
      have open_ : row.state = .started := alike.1.symm
      rcases beyond with state | state <;> cases open_.symm.trans state

/-- The route of an operation, with at most ten output tokens. -/
def Sample.route : ModelRouteBinding where
  profileId := "profile"
  catalogDigest := "catalog"
  profileDigest := "profile"
  providerDriver := "driver"
  provider := "provider"
  model := "model"
  reasoningEffort := none
  maxOutputTokens := 10
  fallbackPolicy := "none"
  cachePolicy := "none"

/-- A response of the route that used up some output tokens. -/
def Sample.used (outputTokens : Nat) : ModelResponse where
  outputText := "answer"
  routeReceipt :=
    { requested := Sample.route, finishReason := "stop", receiptDigest := "sha256:receipt"
      effective := { providerDriver := "driver", provider := "provider", model := "model" } }
  usage :=
    { accountingSource := .reference, inputTokens := 1, outputTokens
      totalTokens := 1 + outputTokens }

/-- The journals of an operation that is bound to the route. -/
def Sample.bound : RoutedJournals where
  calls := []
  model := { bindings := [{ operation := "operation", binding := Sample.route }], executions := [] }
  sends := []

/-- A routed call under a budget of a hundred tokens, up to a stop. -/
def Sample.routed (outputTokens : Nat) (stop : Option StopPoint) : RoutedRun :=
  modelRequest .readable
    { wallTimeMs := 1000, modelRequests := 1, inputTokens := 100, outputTokens := 100 } "operation"
    "grant" "key" { prompt := "question" } (.responded (Sample.used outputTokens)) stop Sample.bound

/-- The routed call as it was admitted. -/
def Sample.routedCall : AdmittedCall :=
  { invocation := routedInvocation "grant" "key" { prompt := "question" } Sample.route
    sequence := 1
    currentUsage := {} }

/-- A pass under the authority of the routed call. -/
def Sample.pass : PassInput where
  cancelled := false
  expired := false
  grantId := some "grant"
  lookup := .absent
  other := none
  compensation := none
  authorityDigest := "authority"
  now := 2000

/-- A call that stops with its receipt stored is recovered. -/
theorem routed_stop_neutral_sample :
    ∃ ended, Sample.routed 5 none = .ended Sample.routedCall (Sample.used 5) ended ∧
      (SameOutcome "operation" "key" 1 ended
        ((Sample.routed 5 (some .receiptStored)).journals.reconcileCall .readable
          { wallTimeMs := 1000, modelRequests := 1, inputTokens := 100, outputTokens := 100 }
          "operation" 1 Sample.pass) ↔
        Recoverable
          { wallTimeMs := 1000, modelRequests := 1, inputTokens := 100, outputTokens := 100 }
          Sample.route Sample.routedCall (Sample.used 5) true
          (Sample.routed 5 (some .receiptStored)).journals.calls .receiptStored) := by
  have ran : modelRequest .readable
      { wallTimeMs := 1000, modelRequests := 1, inputTokens := 100, outputTokens := 100 } "operation"
      "grant" "key" { prompt := "question" } (.responded (Sample.used 5)) (some .receiptStored)
      Sample.bound = .stopped Sample.routedCall (Sample.used 5)
        (Sample.routed 5 (some .receiptStored)).journals := by decide +kernel
  have live : Sample.pass.cancelled = false ∧ Sample.pass.expired = false ∧
      Sample.pass.grantId = some "grant" := ⟨rfl, rfl, rfl⟩
  have keyed : Keyed BrokerCall.sequence Sample.bound.calls := .nil
  have unrejected : ∀ row ∈ Sample.bound.calls, row.idempotencyKey = "key" →
      row.state ≠ .rejectedBeforeSend := fun _ member => absurd member List.not_mem_nil
  have bound : Sample.bound.model.binding "operation" = .ok Sample.route := rfl
  generalize (Sample.routed 5 (some .receiptStored)).journals = stopped at ran ⊢
  refine routed_stop_neutral keyed unrejected bound ran live (.refl _) true ?_
  rw [if_pos rfl]
  exact .refl _

/-- A call over its route that stops before it is failed again stays succeeded: no pass looks at
it. -/
theorem routed_stop_neutral_not :
    Sample.routed 50 (some .successStored) = .stopped Sample.routedCall (Sample.used 50)
        (Sample.routed 50 (some .successStored)).journals ∧
      Sample.routed 50 none = .ended Sample.routedCall (Sample.used 50)
        (Sample.routed 50 none).journals ∧
      ¬ SameOutcome "operation" "key" 1 (Sample.routed 50 none).journals
        ((Sample.routed 50 (some .successStored)).journals.reconcileCall .readable
          { wallTimeMs := 1000, modelRequests := 1, inputTokens := 100, outputTokens := 100 }
          "operation" 1 Sample.pass) := by
  refine ⟨by decide +kernel, by decide +kernel, ?_⟩
  rintro ⟨-, row, there, row', here, -, same, -⟩
  have failed : (BrokerJournal.callAt (Sample.routed 50 none).journals.calls 1).map (·.state) =
      some .failed := by decide +kernel
  have succeeded : (BrokerJournal.callAt ((Sample.routed 50 (some .successStored)).journals.reconcileCall
      .readable { wallTimeMs := 1000, modelRequests := 1, inputTokens := 100, outputTokens := 100 }
      "operation" 1 Sample.pass).calls 1).map (·.state) = some .succeeded := by decide +kernel
  rw [Option.mem_def.mp there, Option.map_some, Option.some.injEq] at failed
  rw [Option.mem_def.mp here, Option.map_some, Option.some.injEq] at succeeded
  rw [failed, succeeded] at same
  cases same

end RoutedJournals

end Aar.Broker
