import Aar.Proofs.Quotas

/-! Runs of the public workspace tools: quotas that hold throughout, and replayed updates. -/

namespace Aar.PublicWorkspace

open Guarded Table Stateful StrictJson

section Opening

variable {H : Hashing} {documents : Documents} {settings : PublicServerSettings}
  {tenant : TenantRuntime} {start : Process} {state : TenantState} {workspace : OpaqueToken}

/-- Opening a workspace leaves the registry, and creates the workspace only when there is room. -/
structure Opens (settings : PublicServerSettings) (workspace session : OpaqueToken)
    (before after : TenantState) : Prop where
  db : after.db = before.db
  store : after.store = before.store ∨
    (∀ row ∈ before.store.workspaces, row.workspace ≠ workspace) ∧
      before.store.workspaces.length < settings.maxWorkspacesPerTenant ∧
      before.store.create workspace session = .ok after.store

theorem Opens.refl {session : OpaqueToken} (state : TenantState) :
    Opens settings workspace session state state := ⟨rfl, .inl rfl⟩

/-- `aar_workspace_open` creates a workspace only when there is room. -/
theorem leads_aarWorkspaceOpen :
    Leads (aarWorkspaceOpen settings tenant workspace) start
      (fun _ process => Opens settings workspace tenant.session start.state process.state)
      (fun _ process => Opens settings workspace tenant.session start.state process.state) := by
  refine Leads.bind (Leads.get ?_)
  cases found : fetchOne start.state.store.workspaces fun row => row.workspace = workspace with
  | some row => exact leads_check (fun _ _ => .refl _) fun _ _ => .refl _
  | none =>
    have absent : ∀ row ∈ start.state.store.workspaces, row.workspace ≠ workspace := by
      intro row member same
      have other := List.find?_eq_none.mp found row member
      simp [same] at other
    refine Leads.bind (leads_check (fun _ room => ?_) fun _ _ => .refl _)
    refine leads_durable (fun after _ made => ?_) (.refl _) fun _ _ => .refl _
    simp only [bind_ok, pure_ok] at made
    obtain ⟨store, created, _, _, ended⟩ := made
    obtain ⟨rfl, -⟩ := Prod.mk.inj ended
    exact ⟨rfl, .inr ⟨absent, require_ok.mp room, created⟩⟩

end Opening

section Steps

variable {H : Hashing} {documents : Documents} {settings : PublicServerSettings}
  {tenant : TenantRuntime} {state : TenantState} {α : Type} {tool : Nat → Tool α} {writes : Nat}

/-- What a call that does not go on is answered. -/
def Halt.answer : Halt → Answer α
  | .stopped => .stopped
  | .raised error operation => .failed (publicFailure error operation)

/-- What is left when a call does not go on: a process that stopped is gone. -/
def Halt.left (state : TenantState) : Halt → TenantState
  | .stopped => { state with generation := none }
  | .raised _ _ => state

/-- A call ends as its tool does, if a process serves it. -/
theorem serve_ends {answers : Answer α → TenantState → Prop} (down : answers .down state)
    (leads : ∀ generation, Leads (tool generation) ⟨state, writes⟩
      (fun value process => answers (.returned value) process.state)
      (fun halt process => answers halt.answer (halt.left process.state))) :
    answers (serve tool writes state).1 (serve tool writes state).2 := by
  unfold serve
  cases state.generation with
  | none => exact down
  | some generation =>
    have ends := leads generation
    unfold Leads at ends
    cases ran : tool generation ⟨state, writes⟩ with
    | ok value process =>
      rw [ran] at ends
      simpa only [ran] using ends
    | error halt process =>
      rw [ran] at ends
      cases halt with
      | stopped =>
        simp only [ran]
        exact ends
      | raised error operation =>
        simp only [ran]
        exact ends

/-- What every end of a tool is related to, whoever serves on, the state after a call is. -/
theorem serve_related {related : TenantState → TenantState → Prop} (unchanged : related state state)
    (stops : ∀ after, related state after → related state { after with generation := none })
    (leads : ∀ generation, Leads (tool generation) ⟨state, writes⟩
      (fun _ process => related state process.state)
      (fun _ process => related state process.state)) :
    related state (serve tool writes state).2 := by
  refine @serve_ends state α tool writes (fun _ after => related state after) unchanged ?_
  intro generation
  refine Leads.mono (leads generation) (fun _ _ same => same) fun halt process same => ?_
  cases halt with
  | stopped => exact stops _ same
  | raised error operation => exact same

/-- What a tool leads to when it returns holds of what its call returns. -/
theorem serve_returned {value : α} {returned : α → TenantState → Prop}
    {raised : Halt → Process → Prop}
    (leads : ∀ generation, Leads (tool generation) ⟨state, writes⟩
      (fun value process => returned value process.state) raised)
    (answered : (serve tool writes state).1 = .returned value) :
    returned value (serve tool writes state).2 := by
  refine @serve_ends state α tool writes
    (fun answer after => answer = .returned value → returned value after) nofun ?_ answered
  intro generation
  refine Leads.mono (leads generation) ?_ ?_
  · intro found process holds same
    exact Answer.returned.inj same ▸ holds
  · intro halt process _ same
    cases halt <;> cases same

/-- A call of `aar_workspace_update` serves the update that its arguments spell. -/
theorem callUpdate_serves (arguments : UpdateArguments) (clock : Clock) (writes : Nat)
    (state : TenantState) : Serves H settings arguments.spec state
      (callUpdate H documents settings tenant arguments clock writes state).2 := by
  refine serve_related (.refl _)
    (fun _ serves => ⟨serves.ran, serves.store, serves.receipted⟩) fun generation => ?_
  exact Leads.mono leads_aarWorkspaceUpdate (fun _ _ ended => ended.1) fun _ _ ended => ended

theorem open_opens (workspace : OpaqueToken) (writes : Nat) (state : TenantState) :
    Opens settings workspace tenant.session state
      (step H documents settings tenant (.workspaceOpen workspace writes) state) :=
  serve_related (.refl _) (fun _ opens => ⟨opens.db, opens.store⟩) fun _ => leads_aarWorkspaceOpen

/-- The condition under which the quotas hold: null is not set where a value may not have four
bytes, and a new workspace is not opened where a state may not have two. -/
def Careful (settings : PublicServerSettings) : Input → TenantState → Prop
  | .workspaceOpen workspace _, state => 2 ≤ settings.maxWorkspaceBytes ∨
      ∃ row ∈ state.store.workspaces, row.workspace = workspace
  | .workspaceUpdate arguments _ _, _ => Fits settings arguments.action arguments.value
  | .restart _, _ => True

instance : ∀ input, DecidablePred (Careful settings input)
  | .workspaceOpen _ _ => fun state =>
    @instDecidableOr _ _ _ (List.decidableBEx _ state.store.workspaces)
  | .workspaceUpdate _ _ _ => fun _ => inferInstanceAs (Decidable (_ ∨ _))
  | .restart _ => fun _ => inferInstanceAs (Decidable True)

/-- A careful step keeps the workspaces within the quotas. -/
theorem step_within (input : Input) (state : TenantState) (careful : Careful settings input state)
    (within : Within settings state.store) :
    Within settings (step H documents settings tenant input state).store := by
  cases input with
  | workspaceOpen workspace writes =>
    rcases (open_opens workspace writes state).store with same | ⟨absent, room, created⟩
    · rw [same]
      exact within
    · rcases careful with wide | ⟨row, member, same⟩
      · exact create_within room wide created within
      · exact absurd same (absent row member)
  | workspaceUpdate arguments clock writes =>
    exact (callUpdate_serves arguments clock writes state).store.within careful within
  | restart clock => exact within

/-- Every step calls the registry. -/
theorem step_ran (input : Input) (state : TenantState) :
    Ran H state (step H documents settings tenant input state) := by
  cases input with
  | workspaceOpen workspace writes =>
    exact ⟨[], .nil, (open_opens workspace writes state).db⟩
  | workspaceUpdate arguments clock writes =>
    exact (callUpdate_serves arguments clock writes state).ran
  | restart clock =>
    have ran : Call.startRuntime.run H clock state.db = .ok (restart clock state).db := rfl
    exact Ran.of_run (allowed_shared (by simp) (by simp) (by simp)) ran

theorem run_ran (inputs : List Input) (state : TenantState) :
    Ran H state (Runs.run (step H documents settings tenant) inputs state) :=
  Runs.run_related (fun _ _ (_ : True) => trivial) Ran.refl (fun _ _ _ => Ran.trans)
    (fun input state _ => step_ran input state) trivial

end Steps

section Refusals

variable {H : Hashing} {documents : Documents} {settings : PublicServerSettings}
  {tenant : TenantRuntime} {generation : Nat} {clock : Clock} {operation : String}
  {arguments : UpdateArguments} {envelope : RequestEnvelope} {payload : String} {start : Process}

/-- An operation that was inserted is found under its name. -/
theorem insertOperation_lookup {record : OpRecord} {db db' : Db}
    (inserted : Registry.insertOperation operation record db = .ok db') :
    db'.lookup operation = some record := by
  unfold Registry.insertOperation at inserted
  split at inserted
  · obtain rfl := Except.ok.inj inserted
    refine Db.lookup_of_mem ?_
    exact List.mem_append_right _ List.mem_cons_self
  · cases inserted

/-- What an acceptance leaves is accepted, unless it repeats an operation that is not. -/
theorem acceptIntent_open {state after : TenantState} {record : OpRecord}
    (made : acceptIntent H clock envelope payload state = .ok (after, operation))
    (still : ∀ entry ∈ Registry.acceptedBefore envelope state.db, entry.2.row.state = .accepted)
    (found : after.db.lookup operation = some record) : record.row.state = .accepted := by
  unfold acceptIntent at made
  split at made
  · next db accepted created ran =>
    obtain ⟨rfl, rfl⟩ := Prod.mk.inj (Except.ok.inj made)
    unfold Registry.accept at ran
    cases stored : Registry.acceptedBefore envelope state.db with
    | some entry =>
      -- A repeated request changes nothing.
      simp only [stored, Registry.runAdmission, bind_ok, require_ok, pure_ok] at ran
      obtain ⟨_, _, _, _, _, _, _, same, ended⟩ := ran
      obtain ⟨rfl, rfl, -⟩ := (by simpa using ended : _ ∧ _ ∧ _)
      obtain rfl := Except.ok.inj same
      have known := (acceptedBefore_some stored).1
      obtain rfl := Option.some.inj (known.symm.trans found)
      exact still entry (Option.mem_def.mpr stored)
    | none =>
      simp only [stored, Registry.runAdmission, bind_ok, pure_ok, Db.update_ok] at ran
      obtain ⟨inserted, added, changed, ⟨before, s, there, shown, written⟩, _, same, ended⟩ := ran
      obtain ⟨rfl, rfl, -⟩ := (by simpa using ended : _ ∧ _ ∧ _)
      obtain rfl := Except.ok.inj same
      -- The new record is the accepted one, with its first event.
      obtain rfl := Option.some.inj ((insertOperation_lookup added).symm.trans there)
      rw [← written, Db.lookup_commit, if_pos rfl, there, Option.map_some] at found
      rw [← Option.some.inj found, ← shown]
      rfl
  · cases made

/-- A request that is not decided yet is submitted as an accepted operation. -/
theorem leads_submit_open
    (still : ∀ entry ∈ Registry.acceptedBefore
      (publicEnvelope documents tenant generation clock arguments) start.state.db,
        entry.2.row.state = .accepted) :
    Leads (submitExecute H documents tenant generation clock arguments) start
      (fun outcome process => process.state.store = start.state.store ∧
        Ran H start.state process.state ∧
        process.state.db.lookup outcome.1 = some outcome.2 ∧ outcome.2.row.state = .accepted ∧
        outcome.2.row.payloadJson = payloadJson arguments.spec)
      (fun _ _ => True) := by
  refine Leads.bind (Leads.get ?_)
  refine Leads.bind (leads_check (fun _ _ => ?_) fun _ _ => trivial)
  refine Leads.bind (leads_durable ?_ trivial fun _ _ => trivial)
  intro state operation made
  obtain ⟨same, between, record, stored, repeats⟩ := acceptIntent_ok made
  refine Leads.bind (leads_readRecord (fun other found => ?_) fun _ _ => trivial)
  obtain rfl := Option.some.inj (stored.symm.trans found)
  exact Leads.pure
    ⟨same, between.ran, stored, acceptIntent_open made still stored, repeats.payloadJson⟩

/-- An update that its check refuses, and that is not decided yet, ends with the refusal. -/
theorem leads_refused {error : ToolError}
    (still : ∀ entry ∈ Registry.acceptedBefore
      (publicEnvelope documents tenant generation clock arguments) start.state.db,
        entry.2.row.state = .accepted)
    (refused : validatePublicUpdate settings arguments.spec start.state.store = .error error) :
    Leads (aarWorkspaceUpdate H documents settings tenant generation clock arguments) start
      (fun result _ => result.state = .failed ∧
        result.failure = some (publicFailure error (some result.operationId)))
      (fun _ _ => True) := by
  refine Leads.bind (leads_check (fun _ _ => ?_) fun _ _ => trivial)
  refine Leads.bind (Leads.mono (leads_submit_open still) ?_ fun _ _ _ => trivial)
  intro outcome process submitted
  obtain ⟨operation, record⟩ := outcome
  obtain ⟨same, -, -, accepted, -⟩ := submitted
  have ended : Leads (runSubmitted H documents settings generation clock arguments operation
      record) process
      (fun final _ => final.row.state = .failed ∧
        final.row.failure = some (publicFailure error (some operation)))
      (fun _ _ => True) := by
    unfold runSubmitted
    rw [if_pos accepted]
    refine Leads.bind (Leads.get ?_)
    rw [← same] at refused
    rw [refused]
    refine Leads.bind (leads_durable ?_ trivial fun _ _ => trivial)
    intro state _ made
    obtain ⟨moved, _, there, failed, failure⟩ := transit_moved ⟨fun _ => rfl, by simp⟩ made
    refine leads_readRecord (fun final found => ?_) fun _ _ => trivial
    obtain rfl := Option.some.inj (there.symm.trans found)
    exact ⟨failed, failure⟩
  refine Leads.bind (Leads.mono ended ?_ fun _ _ _ => trivial)
  intro final last finished
  refine Leads.bind (leads_check (fun _ _ => ?_) fun _ _ => trivial)
  exact Leads.pure finished

/-- An execution of an update that passed its check, whose operation has no receipt yet, returns
with the computed state. -/
theorem leads_executeWorkspace_passed {spec : WorkspaceExecuteSpec} {computed : Values}
    (passed : validatePublicUpdate settings spec start.state.store = .ok computed)
    (first : ∀ receipt ∈ start.state.store.receipts, receipt.operation ≠ operation) :
    Leads (executeWorkspace documents operation spec) start
      (fun outcome process => ∃ row result, outcome = .ok result ∧
        start.state.store.workspaceRow spec.workspace = .ok row ∧
        process.state.store = start.state.store.written operation spec.workspace computed
          (executionResult spec row computed))
      (fun _ _ => True) := by
  refine Leads.bind (Leads.get ?_)
  rcases @execute_passed settings spec start.state.store computed operation documents.invalid
    passed first with ⟨row, found, ran⟩ | ran
  · simp only [ran]
    refine leads_durable (fun state value made => ?_) trivial fun _ _ => trivial
    simp only [ran, ok_bind, pure_ok] at made
    obtain ⟨rfl, rfl⟩ := Prod.mk.inj made
    exact ⟨row, _, rfl, found, rfl⟩
  · simp only [ran]
    exact Leads.throw trivial

/-- What an update that passes its check comes to: the computed state, or its deadline. -/
def Completes (settings : PublicServerSettings) (spec : WorkspaceExecuteSpec)
    (before : WorkspaceStore) (operation : String) (ended : OperationState)
    (after : WorkspaceStore) : Prop :=
  (ended = .succeeded ∧ ∃ row computed, before.workspaceRow spec.workspace = .ok row ∧
    validatePublicUpdate settings spec before = .ok computed ∧
    after = before.written operation spec.workspace computed (executionResult spec row computed)) ∨
  (ended = .timedOut ∧ after = before)

/-- An accepted update that passes its check is completed. -/
theorem leads_runExecute_passed {spec : WorkspaceExecuteSpec} {computed : Values}
    {record : OpRecord}
    (passed : validatePublicUpdate settings spec start.state.store = .ok computed)
    (receipted : Receipted start.state) (stored : start.state.db.lookup operation = some record)
    (accepted : record.row.state = .accepted)
    (reads : readPayload record.row.payloadJson = some spec) :
    Leads (runExecute H documents generation clock operation) start
      (fun final last => Completes settings spec start.state.store operation final.row.state
        last.state.store)
      (fun _ _ => True) := by
  -- An operation that is still accepted has no receipt.
  have first : ∀ receipt ∈ start.state.store.receipts, receipt.operation ≠ operation := by
    intro receipt member same
    obtain ⟨other, found, decided⟩ := receipted receipt member
    rw [same] at found
    obtain rfl := Option.some.inj (stored.symm.trans found)
    exact decided accepted
  refine Leads.bind (leads_readRecord (fun other found => ?_) fun _ _ => trivial)
  obtain rfl := Option.some.inj (stored.symm.trans found)
  rw [if_neg (not_not.mpr accepted)]
  by_cases late : record.row.request.deadlineUnixMs ≤ clock 5
  · rw [if_pos late]
    refine Leads.bind (leads_durable ?_ trivial fun _ _ => trivial)
    intro state _ made
    have moves : Moves H (.timeOut generation none) _ generation := ⟨fun _ => rfl, by simp⟩
    obtain ⟨moved, _, there, ended, -⟩ := transit_moved moves made
    refine leads_readRecord (fun final found => ?_) fun _ _ => trivial
    obtain rfl := Option.some.inj (there.symm.trans found)
    exact .inr ⟨ended, (transit_ok moves made).2⟩
  · rw [if_neg late]
    refine Leads.bind (leads_durable ?_ trivial fun _ _ => trivial)
    intro state _ begun
    have moves : Moves H (.begin generation) _ generation := ⟨fun _ => rfl, by simp⟩
    have kept := (transit_ok moves begun).2
    refine Leads.bind (leads_check (fun read found => ?_) fun _ _ => trivial)
    obtain rfl := Option.some.inj (reads.symm.trans (orRaise_ok.mp found))
    have executed := @leads_executeWorkspace_passed documents settings operation
      ⟨state, start.writes - 1⟩ spec computed (by rw [kept]; exact passed)
      (by rw [kept]; exact first)
    refine Leads.bind (Leads.mono executed ?_ fun _ _ _ => trivial)
    intro outcome last became
    obtain ⟨row, result, rfl, there, written⟩ := became
    refine Leads.bind (leads_durable ?_ trivial fun _ _ => trivial)
    intro final _ made
    have succeeds : Moves H (outcomeCall documents generation (.ok result)) _ generation :=
      ⟨fun _ => rfl, by simp⟩
    obtain ⟨moved, _, lookup, ended, -⟩ := transit_moved succeeds made
    refine leads_readRecord (fun found same => ?_) fun _ _ => trivial
    obtain rfl := Option.some.inj (lookup.symm.trans same)
    refine .inl ⟨ended, row, computed, ?_, passed, ?_⟩
    · rw [← kept]
      exact there
    · rw [(transit_ok succeeds made).2, written, kept]

/-- An update that passes its check, and that is not decided yet, is executed to the computed
state, unless its deadline has passed. -/
theorem leads_passed {computed : Values}
    (still : ∀ entry ∈ Registry.acceptedBefore
      (publicEnvelope documents tenant generation clock arguments) start.state.db,
        entry.2.row.state = .accepted)
    (passed : validatePublicUpdate settings arguments.spec start.state.store = .ok computed)
    (receipted : Receipted start.state) :
    Leads (aarWorkspaceUpdate H documents settings tenant generation clock arguments) start
      (fun result process => Completes settings arguments.spec start.state.store
        result.operationId result.state process.state.store)
      (fun _ _ => True) := by
  refine Leads.bind (leads_check (fun spec made => ?_) fun _ _ => trivial)
  have valid := executeSpec_ok made
  refine Leads.bind (Leads.mono (leads_submit_open still) ?_ fun _ _ _ => trivial)
  intro outcome process submitted
  obtain ⟨operation, record⟩ := outcome
  obtain ⟨same, ran, stored, accepted, payload⟩ := submitted
  have reads : readPayload record.row.payloadJson = some arguments.spec := by
    rw [payload]
    exact readPayload_payloadJson valid
  have checked :
      validatePublicUpdate settings arguments.spec process.state.store = .ok computed := by
    rw [same]
    exact passed
  have ended : Leads (runSubmitted H documents settings generation clock arguments operation
      record) process
      (fun final last => Completes settings arguments.spec start.state.store operation
        final.row.state last.state.store)
      (fun _ _ => True) := by
    unfold runSubmitted
    rw [if_pos accepted]
    refine Leads.bind (Leads.get ?_)
    simp only [checked]
    rw [← same]
    exact leads_runExecute_passed checked (ran.receipted same receipted) stored accepted reads
  refine Leads.bind (Leads.mono ended ?_ fun _ _ _ => trivial)
  intro final last finished
  refine Leads.bind (leads_check (fun _ _ => ?_) fun _ _ => trivial)
  exact Leads.pure finished

end Refusals

section Replays

variable {H : Hashing} {documents : Documents} {settings : PublicServerSettings}
  {tenant : TenantRuntime} {generation : Nat} {clock : Clock} {operation : String}
  {arguments : UpdateArguments} {payload : String} {start : Process}

theorem token_eq {first second : OpaqueToken} (same : first.value = second.value) :
    first = second := by
  obtain ⟨value, matched⟩ := first
  obtain ⟨other, _⟩ := second
  obtain rfl : value = other := same
  rfl

/-- The principal of an operation is the one of its request. -/
theorem principal_invariant : Invariant H Unrestricted fun s =>
    s.row.principalValue = s.row.request.principal.value where
  new := by
    intro s new
    obtain ⟨envelope, payloadJson, now, accepted⟩ := new
    obtain ⟨events, routeBinding, rows⟩ := accepted.rows
    rw [rows]
    rfl
  step clock s s' step same := by
    have intent := step.keeps.2
    simp only [OperationRow.intent, Intent.mk.injEq] at intent
    obtain ⟨-, principal, -, -, request, -⟩ := intent
    rw [principal, request]
    exact same

/-- A request that repeats an ended operation is answered from its record, or not at all. -/
theorem leads_replay {record : OpRecord}
    (stored : Registry.acceptedBefore (publicEnvelope documents tenant generation clock arguments)
      start.state.db = some (operation, record))
    (repeats : record.row.Repeats (publicEnvelope documents tenant generation clock arguments)
      (payloadJson arguments.spec))
    (principal : record.row.request.principal = tenant.principal)
    (ended : record.row.state ≠ .accepted) :
    Leads (aarWorkspaceUpdate H documents settings tenant generation clock arguments) start
      (fun again process => process.state = start.state ∧ again.operationId = operation ∧
        again.Shows record.row)
      (fun halt process => process.state = start.state ∧ (halt = .stopped ∨
        ∃ error, halt = .raised error none ∧ (executeSpec documents arguments = .error error ∨
          validateRequest tenant clock arguments start.state.store = .error error))) := by
  refine Leads.bind (leads_check (fun spec _ => ?_) fun error refused => ?_)
  · have found := (acceptedBefore_some stored).1
    -- The acceptance finds the record, and changes nothing.
    have accepted : acceptIntent H clock (publicEnvelope documents tenant generation clock
        arguments) (payloadJson arguments.spec) start.state =
          .ok (start.state, operation) := by
      have ran : Registry.accept H (readingOf clock 3) (publicEnvelope documents tenant generation
          clock arguments) (payloadJson arguments.spec) none start.state.db =
            .ok (start.state.db, operation, false) := by
        simp only [Registry.accept, stored, Registry.runAdmission, bind_ok, require_ok, pure_ok]
        exact ⟨(), repeats.inputDigest, (), repeats.payloadJson, (), repeats.authority,
          start.state.db, rfl, rfl⟩
      rw [acceptIntent, ran]
    have submitted : Leads (submitExecute H documents tenant generation clock arguments) start
        (fun outcome process => process.state = start.state ∧ outcome = (operation, record))
        (fun halt process => process.state = start.state ∧ (halt = .stopped ∨
          ∃ error, halt = .raised error none ∧
            validateRequest tenant clock arguments start.state.store = .error error)) := by
      refine Leads.bind (Leads.get ?_)
      refine Leads.bind (leads_check (fun _ _ => ?_) fun error refused => ?_)
      · refine Leads.bind (leads_durable ?_ ⟨rfl, .inl rfl⟩ fun error refused => ?_)
        · intro state name made
          obtain ⟨rfl, rfl⟩ := Prod.mk.inj (Except.ok.inj (accepted.symm.trans made))
          refine Leads.bind (leads_readRecord (fun other read => ?_) fun missing => ?_)
          · obtain rfl := Option.some.inj (found.symm.trans read)
            exact Leads.pure ⟨rfl, rfl⟩
          · rw [found] at missing
            cases missing
        · rw [accepted] at refused
          cases refused
      · exact ⟨rfl, .inr ⟨error, rfl, refused⟩⟩
    refine Leads.bind (Leads.mono submitted ?_ ?_)
    · intro outcome process submitted
      obtain ⟨same, rfl⟩ := submitted
      have there : process.state.db.lookup operation = some record := by
        rw [same]
        exact found
      refine Leads.bind ?_
      show Leads (runSubmitted H documents settings generation clock arguments operation record)
        process _ _
      unfold runSubmitted
      rw [if_neg ended]
      refine leads_runExecute_ended there ended ?_
      -- The record belongs to the tenant that asks.
      have session : record.row.request.session = tenant.session :=
        congrArg Prod.fst repeats.authority
      refine Leads.bind (leads_check (fun _ _ => ?_) fun error refused => ?_)
      · exact Leads.pure ⟨same, rfl, ⟨rfl, rfl, rfl, rfl, rfl⟩⟩
      · rw [require, if_pos ⟨principal, session⟩] at refused
        cases refused
    · intro halt process refused
      obtain ⟨same, reason⟩ := refused
      refine ⟨same, reason.imp_right fun raised => ?_⟩
      obtain ⟨error, raised, checked⟩ := raised
      exact ⟨error, raised, .inr checked⟩
  · exact ⟨rfl, .inr ⟨error, rfl, .inl refused⟩⟩

end Replays

section Quotas

variable {H : Hashing} {documents : Documents} {settings : PublicServerSettings}
  {tenant : TenantRuntime}

/-- A creation adds no receipt. -/
theorem create_receipts {store store' : WorkspaceStore} {workspace session : OpaqueToken}
    (created : store.create workspace session = .ok store') : store'.receipts = store.receipts := by
  unfold WorkspaceStore.create at created
  split at created
  · obtain rfl := Except.ok.inj created
    rfl
  · split at created
    · obtain rfl := Except.ok.inj created
      rfl
    · cases created

/-- Every step keeps receipts with operations that are not accepted. -/
theorem step_receipted (input : Input) (state : TenantState) (receipted : Receipted state) :
    Receipted (step H documents settings tenant input state) := by
  cases input with
  | workspaceOpen workspace writes =>
    have opens := @open_opens H documents settings tenant workspace writes state
    have same : (step H documents settings tenant (.workspaceOpen workspace writes)
        state).store.receipts = state.store.receipts := by
      rcases opens.store with same | ⟨-, -, created⟩
      · rw [same]
      · exact create_receipts created
    intro receipt member
    rw [same] at member
    rw [opens.db]
    exact receipted receipt member
  | workspaceUpdate arguments clock writes =>
    exact (callUpdate_serves arguments clock writes state).receipted receipted
  | restart clock => exact (step_ran (.restart clock) state).receipted rfl receipted

/-- No operation under the key of a request has been decided. -/
def Undecided (documents : Documents) (tenant : TenantRuntime) (arguments : UpdateArguments)
    (db : Db) : Prop :=
  ∀ entry ∈ db.operations, entry.2.row.scopedKey = ⟨tenant.host.value, tenant.principal.value,
    documents.idempotencyKey arguments.idempotencyKey⟩ → entry.2.row.state = .accepted

/-- What is accepted under a key that is undecided is accepted still. -/
theorem Undecided.still {arguments : UpdateArguments} {db : Db} {generation : Nat} {clock : Clock}
    (undecided : Undecided documents tenant arguments db) :
    ∀ entry ∈ Registry.acceptedBefore
      (publicEnvelope documents tenant generation clock arguments) db,
        entry.2.row.state = .accepted := by
  intro entry found
  have stored := Option.mem_def.mp found
  exact undecided entry (List.mem_of_find?_eq_some stored) (acceptedBefore_some stored).2

/-- A request is answered as before, unless no process answers it or it is refused before its
operation is looked up. -/
def Repeated (documents : Documents) (tenant : TenantRuntime) (arguments : UpdateArguments)
    (clock : Clock) (store : WorkspaceStore) (result : PublicOperationResult) :
    Answer PublicOperationResult → Prop
  | .down | .stopped => True
  | .returned again => again.operationId = result.operationId ∧ again.state = result.state ∧
      again.certainty = result.certainty ∧ again.recordRevision = result.recordRevision ∧
      again.result = result.result ∧ again.failure = result.failure
  | .failed failure => ∃ error, failure = publicFailure error none ∧
      (executeSpec documents arguments = .error error ∨
        validateRequest tenant clock arguments store = .error error)

/-- A request whose operation has ended is answered as before, and changes no workspace. -/
theorem callUpdate_replays {state : TenantState} {history : List Event}
    {arguments again : UpdateArguments} {clock clock' : Clock} {writes writes' : Nat}
    {result : PublicOperationResult}
    (reached : state.db = Runs.run (Event.step H) history Db.empty)
    (returned : (callUpdate H documents settings tenant arguments clock writes state).1 =
      .returned result)
    (terminal : result.state.Terminal) (same : again.spec = arguments.spec)
    (key : again.idempotencyKey = arguments.idempotencyKey) {later : TenantState}
    (ran : Ran H (callUpdate H documents settings tenant arguments clock writes state).2 later) :
    (callUpdate H documents settings tenant again clock' writes' later).2.store = later.store ∧
      Repeated documents tenant again clock' later.store result
        (callUpdate H documents settings tenant again clock' writes' later).1 := by
  -- The first call left its operation in the registry, and answered with its record.
  have first := @serve_returned state _ _ writes result
    (fun result after => ∃ generation, AcceptedBetween H state after
      (publicEnvelope documents tenant generation clock arguments)
      (payloadJson arguments.spec) result.operationId ∧
      ∃ record, after.db.lookup result.operationId = some record ∧ result.Shows record.row)
    (fun _ _ => True) (fun generation => Leads.mono leads_aarWorkspaceUpdate
      (fun _ _ ended => ⟨generation, ended.2⟩) fun _ _ _ => trivial) returned
  obtain ⟨generation, ⟨event, created, rest, accepts, _, ended⟩, record, found, shows⟩ := first
  obtain ⟨events, _, led⟩ := ran
  have past : later.db =
      Runs.run (Event.step H) (history ++ event :: (rest ++ events)) Db.empty := by
    rw [led, Runs.run_append, Runs.run_cons, Runs.run_append, ← reached, ← ended]
    rfl
  have accepted : AcceptedIn H (history ++ event :: (rest ++ events))
      (publicEnvelope documents tenant generation clock arguments)
      (payloadJson arguments.spec) (result.operationId, created) :=
    ⟨history, event, rest ++ events, rfl, reached ▸ accepts⟩
  -- Its outcome is final.
  have called : (callUpdate H documents settings tenant arguments clock writes state).2.db.Reachable
      H := by
    refine ⟨history ++ event :: rest, ?_⟩
    rw [Runs.run_append, Runs.run_cons, ← reached]
    exact ended.symm
  obtain ⟨last, there, final⟩ := final_progress.run owned_invariant
    (fun _ (_ : _ ∈ events) => trivial) (owned_invariant.reachable called) found
  have outcome : SameOutcome record.row last.row := (final (shows.state ▸ terminal)).1
  rw [← led] at there
  have decided : last.row.state ≠ .accepted := by
    intro still
    rw [outcome.state, ← shows.state] at still
    rw [still] at terminal
    exact absurd terminal (by decide)
  refine @serve_ends later _ _ writes' (fun answer after => after.store = later.store ∧
    Repeated documents tenant again clock' later.store result answer) ⟨rfl, trivial⟩ ?_
  intro generation'
  obtain ⟨stored, before, repeats⟩ := accepted.before
    (show (publicEnvelope documents tenant generation' clock' again).scopedKey = _ by
      simp only [RequestEnvelope.scopedKey, publicEnvelope, key])
  rw [← past] at before
  obtain rfl := Option.some.inj ((acceptedBefore_some before).1.symm.trans there)
  have repeated : stored.row.Repeats (publicEnvelope documents tenant generation' clock' again)
      (payloadJson again.spec) := by
    refine ⟨(acceptedBefore_some before).2, ?_, ?_, ?_⟩
    · rw [repeats.inputDigest]
      simp only [publicEnvelope, same]
    · rw [repeats.payloadJson, same]
    · rw [repeats.authority]
      have workspace := congrArg WorkspaceExecuteSpec.workspace same
      have number := congrArg WorkspaceExecuteSpec.expectedGeneration same
      have revision := congrArg WorkspaceExecuteSpec.expectedRevision same
      simp only [UpdateArguments.spec] at workspace number revision
      simp only [Registry.replayScope, publicEnvelope, workspace, number, revision]
  have principal : stored.row.request.principal = tenant.principal := by
    have reachable : later.db.Reachable H := ⟨_, past.symm⟩
    have own := principal_invariant.reachable reachable _ stored there
    have named := congrArg ScopedKey.principalValue (acceptedBefore_some before).2
    exact token_eq (own.symm.trans named)
  refine Leads.mono (leads_replay before repeated principal decided) ?_ ?_
  · intro answer process answered
    obtain ⟨unchanged, operation, shown⟩ := answered
    refine ⟨congrArg TenantState.store unchanged, operation, ?_, ?_, ?_, ?_, ?_⟩
    · exact shown.state.trans (outcome.state.trans shows.state.symm)
    · exact shown.certainty.trans (outcome.certainty.trans shows.certainty.symm)
    · exact shown.recordRevision.trans (outcome.recordRevision.trans shows.recordRevision.symm)
    · exact shown.result.trans (outcome.resultJson.trans shows.result.symm)
    · exact shown.failure.trans (outcome.failure.trans shows.failure.symm)
  · intro halt process refused
    obtain ⟨unchanged, rfl | ⟨error, rfl, reason⟩⟩ := refused
    · have kept : process.state.store = later.store := congrArg TenantState.store unchanged
      exact ⟨kept, trivial⟩
    · exact ⟨congrArg TenantState.store unchanged, error, rfl, reason⟩

/-- The quotas of public workspaces. They hold in every state that a careful run leads to. In every
run, an update leaves the workspaces as they are or leads to the state that its check computes; one
that its check refuses changes nothing and, unless it was decided before, fails with the refusal,
and one that passes completes; and an operation that has ended is answered as before. -/
theorem quotas_hold (H : Hashing) (documents : Documents) (settings : PublicServerSettings)
    (tenant : TenantRuntime) :
    (∀ inputs : List Input,
      Runs.Allowed (step H documents settings tenant) (Careful settings) inputs fresh →
        Within settings (Runs.run (step H documents settings tenant) inputs fresh).store) ∧
    ∀ (inputs : List Input) (arguments : UpdateArguments) (clock : Clock) (writes : Nat)
      (state : TenantState), Runs.run (step H documents settings tenant) inputs fresh = state →
      ∀ (answer : Answer PublicOperationResult) (after : TenantState),
      callUpdate H documents settings tenant arguments clock writes state = (answer, after) →
        Executes settings arguments.spec state.store after.store ∧
        (∀ error, validatePublicUpdate settings arguments.spec state.store = .error error →
          after.store = state.store ∧ ∀ result, answer = .returned result →
            Undecided documents tenant arguments state.db → result.state = .failed ∧
              result.failure = some (publicFailure error (some result.operationId))) ∧
        (∀ computed, validatePublicUpdate settings arguments.spec state.store = .ok computed →
          ∀ result, answer = .returned result → Undecided documents tenant arguments state.db →
            Completes settings arguments.spec state.store result.operationId result.state
              after.store) ∧
        ∀ result, answer = .returned result → result.state.Terminal →
          ∀ (later : List Input) (again : UpdateArguments) (clock' : Clock) (writes' : Nat)
            (state' : TenantState),
            Runs.run (step H documents settings tenant) later after = state' →
            again.spec = arguments.spec → again.idempotencyKey = arguments.idempotencyKey →
              (callUpdate H documents settings tenant again clock' writes' state').2.store =
                state'.store ∧
              Repeated documents tenant again clock' state'.store result
                (callUpdate H documents settings tenant again clock' writes' state').1 := by
  constructor
  · intro inputs careful
    have blank : Within settings fresh.store := ⟨Nat.zero_le _, fun _ member => by cases member⟩
    exact careful.invariant (fun input state => step_within input state) blank
  · intro inputs arguments clock writes state reached answer after called
    subst reached
    obtain ⟨rfl, rfl⟩ := Prod.mk.inj called
    have serves := @callUpdate_serves H documents settings tenant arguments clock writes
      (Runs.run (step H documents settings tenant) inputs fresh)
    have receipted : Receipted (Runs.run (step H documents settings tenant) inputs fresh) :=
      Runs.run_invariant (fun input state => step_receipted input state) fun _ member => by
        cases member
    obtain ⟨history, -, began⟩ := @run_ran H documents settings tenant inputs fresh
    refine ⟨serves.store, ?_, ?_, ?_⟩
    · intro error refused
      refine ⟨serves.store.refused refused, fun result returned undecided => ?_⟩
      exact @serve_returned _ _ _ writes result (fun result _ => result.state = .failed ∧
        result.failure = some (publicFailure error (some result.operationId))) _
        (fun generation => leads_refused undecided.still refused) returned
    · intro computed passed result returned undecided
      exact @serve_returned _ _ _ writes result (fun result after => Completes settings
        arguments.spec (Runs.run (step H documents settings tenant) inputs fresh).store
        result.operationId result.state after.store) _
        (fun generation => leads_passed undecided.still passed receipted) returned
    · intro result returned terminal later again clock' writes' state' ended same key
      exact callUpdate_replays began returned terminal same key (ended ▸ run_ran later _)

end Quotas

section Sample

/-- Quotas of one workspace with one key. -/
def Sample.quotas (valueBytes workspaceBytes : Nat)
    (value : 1 ≤ valueBytes ∧ valueBytes ≤ 1048576 := by decide)
    (workspace : valueBytes ≤ workspaceBytes ∧ workspaceBytes ≤ 4194304 := by decide) :
    PublicServerSettings where
  maxWorkspacesPerTenant := 1
  maxKeysPerWorkspace := 1
  maxValueBytes := valueBytes
  maxWorkspaceBytes := workspaceBytes
  workspaces := by decide
  keys := by decide
  value := value
  workspace := workspace

/-- A tenant. -/
def Sample.tenant : TenantRuntime where
  host := ⟨"tenant.host", by decide⟩
  principal := ⟨"tenant.principal", by decide⟩
  session := ⟨"tenant.session", by decide⟩

/-- Documents that show what they are for. -/
def Sample.documents : Documents where
  digest := payloadJson
  result result := s!"revision {result.revisionAfter}"
  idempotencyKey key := key
  invalid := "invalid"

/-- An update that sets one key. -/
def Sample.put (revision : Nat) (value : JsonScalar) : UpdateArguments where
  workspaceId := ⟨"workspace", by decide⟩
  expectedGeneration := 1
  expectedRevision := revision
  action := .set
  key := text "key"
  idempotencyKey := s!"put.{revision}"
  value := value
  maxWallTimeMs := 1000

/-- A process starts, and a workspace is opened. -/
def Sample.opened : List Input :=
  [.restart fun _ => 5, .workspaceOpen ⟨"workspace", by decide⟩ 9]

/-- A value is set in the workspace. -/
def Sample.set (value : JsonScalar) : List Input :=
  Sample.opened ++ [.workspaceUpdate (Sample.put 0 value) (fun _ => 5) 9]

/-- What inputs lead to under some quotas. -/
def Sample.reached (settings : PublicServerSettings) (inputs : List Input) : TenantState :=
  Runs.run (step .readable Sample.documents settings Sample.tenant) inputs fresh

/-- The quotas do not hold in every run: a null is set in the place of a value that may have one
byte, and a workspace is opened whose state may have one byte. -/
theorem quotas_exceeded :
    ¬ Within (Sample.quotas 1 64) (Sample.reached (Sample.quotas 1 64) (Sample.set .none)).store ∧
      ¬ Within (Sample.quotas 1 1) (Sample.reached (Sample.quotas 1 1) Sample.opened).store := by
  constructor
  · intro within
    have stored : ∃ row ∈ (Sample.reached (Sample.quotas 1 64) (Sample.set .none)).store.workspaces,
        ∃ entry ∈ row.state.entries, 1 < canonicalSize entry.2.value := by
      decide +kernel
    obtain ⟨row, member, entry, inside, large⟩ := stored
    exact absurd ((within.states row member).values entry inside) (Nat.not_le.mpr large)
  · intro within
    have stored : ∃ row ∈ (Sample.reached (Sample.quotas 1 1) Sample.opened).store.workspaces,
        1 < canonicalSize row.state.value := by
      decide +kernel
    obtain ⟨row, member, large⟩ := stored
    exact absurd (within.states row member).bytes (Nat.not_le.mpr large)

/-- A state in which a null is set in the place of a value that may have four bytes. -/
def Sample.filled : TenantState := Sample.reached (Sample.quotas 4 64) (Sample.set .none)

/-- A call that sets a longer value. -/
def Sample.answered : Answer PublicOperationResult × TenantState :=
  callUpdate .readable Sample.documents (Sample.quotas 4 64) Sample.tenant
    (Sample.put 1 (.str (text "long"))) (fun _ => 6) 9 Sample.filled

/-- The quotas hold when a null is set in the place of a value that may have four bytes, and a
longer value that is refused changes nothing. -/
theorem quotas_hold_sample : Within (Sample.quotas 4 64) Sample.filled.store ∧
    Sample.answered.2.store = Sample.filled.store := by
  have quotas := quotas_hold .readable Sample.documents (Sample.quotas 4 64) Sample.tenant
  refine ⟨quotas.1 (Sample.set .none) (by decide +kernel), ?_⟩
  have refused : (validatePublicUpdate (Sample.quotas 4 64)
      (Sample.put 1 (.str (text "long"))).spec Sample.filled.store).isOk = false := by
    decide +kernel
  have called := quotas.2 (Sample.set .none) (Sample.put 1 (.str (text "long"))) (fun _ => 6) 9
    Sample.filled rfl Sample.answered.1 Sample.answered.2 Prod.mk.eta.symm
  cases checked : validatePublicUpdate (Sample.quotas 4 64)
      (Sample.put 1 (.str (text "long"))).spec Sample.filled.store with
  | ok computed =>
    rw [checked] at refused
    cases refused
  | error error => exact (called.2.1 error checked).1

end Sample

end Aar.PublicWorkspace
