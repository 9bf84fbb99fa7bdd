import Aar.Proofs.Local

/-! Invariants of every operation along a run, and relations between its ends. -/

namespace Aar

open Guarded Table Registry

section Runs

variable {H : Hashing} {rules : Rules} {db : Db} {holds : Scope → Prop}

/-- Everything is allowed. -/
def Unrestricted : Rules where
  call _ _ _ := True
  visit _ _ := True
  expiry _ := True

theorem Event.step_error {event : Event} {error : Err}
    (raised : event.call.run H event.clock db = .error error) : event.step H db = db := by
  simp only [Event.step, raised]

/-- Something holds of the rows of every operation. -/
def Db.Each (holds : Scope → Prop) (db : Db) : Prop :=
  ∀ operation record, db.lookup operation = some record → holds (db.scope operation record)

/-- Something that new operations have and that every local step keeps. -/
structure Invariant (H : Hashing) (rules : Rules) (holds : Scope → Prop) : Prop where
  new : ∀ s : Scope, s.New H → holds s
  step : ∀ clock s s', LocalStep H rules clock s s' → holds s → holds s'

theorem Invariant.steps (invariant : Invariant H rules holds) {clock : Clock} {s s' : Scope}
    (steps : LocalSteps H rules clock s s') (holding : holds s) : holds s' := by
  induction steps with
  | refl => exact holding
  | tail _ step ih => exact invariant.step _ _ _ step ih

/-- An allowed event keeps an invariant of every operation. -/
theorem Invariant.event (invariant : Invariant H rules holds) {event : Event}
    (allow : event.Allowed H rules db) (each : db.Each holds) : (event.step H db).Each holds := by
  obtain ⟨follows, created⟩ := Event.evolves (H := H) allow
  intro operation record there
  cases found : db.lookup operation with
  | none => exact invariant.new _ (created operation record found there)
  | some before =>
    obtain ⟨after, here, steps⟩ := follows operation before found
    cases here.symm.trans there
    exact invariant.steps steps (each operation before found)

/-- A run of allowed events. -/
def AllowedRun (H : Hashing) (rules : Rules) (events : List Event) (db : Db) : Prop :=
  ∀ before event after, events = before ++ event :: after →
    event.Allowed H rules (Runs.run (Event.step H) before db)

theorem AllowedRun.nil : AllowedRun H rules [] db := by
  intro before event after split
  cases before <;> cases split

theorem AllowedRun.cons {event : Event} {rest : List Event}
    (allow : AllowedRun H rules (event :: rest) db) :
    event.Allowed H rules db ∧ AllowedRun H rules rest (event.step H db) := by
  refine ⟨allow [] event rest rfl, ?_⟩
  rintro before later after rfl
  exact allow (event :: before) later after rfl

/-- Both parts of an allowed run are allowed. -/
theorem AllowedRun.append {first second : List Event}
    (allow : AllowedRun H rules (first ++ second) db) :
    AllowedRun H rules first db ∧
      AllowedRun H rules second (Runs.run (Event.step H) first db) := by
  constructor
  · rintro before event after rfl
    exact allow before event (after ++ second) (by simp)
  · rintro before event after rfl
    rw [← Runs.run_append]
    exact allow (first ++ before) event after (by simp)

/-- A run stays allowed when an allowed event follows it. -/
theorem AllowedRun.snoc {events : List Event} {event : Event} (allow : AllowedRun H rules events db)
    (last : event.Allowed H rules (Runs.run (Event.step H) events db)) :
    AllowedRun H rules (events ++ [event]) db := by
  intro before later after split
  -- The event stands in the last place of the list, or the last event stands after it.
  rcases List.eq_nil_or_concat after with rfl | ⟨rest, final, rfl⟩
  · obtain ⟨rfl, same⟩ := List.append_inj' split rfl
    cases same
    exact last
  · rw [List.concat_eq_append, ← List.cons_append, ← List.append_assoc] at split
    exact allow before later rest (List.append_inj' split rfl).1

theorem AllowedRun.of_each {events : List Event}
    (each : ∀ event ∈ events, ∀ db, event.Allowed H rules db) : AllowedRun H rules events db := by
  rintro before event after rfl
  exact each event (List.mem_append_right _ List.mem_cons_self) _

theorem Invariant.run (invariant : Invariant H rules holds) {events : List Event}
    (allow : AllowedRun H rules events db) (each : db.Each holds) :
    (Runs.run (Event.step H) events db).Each holds :=
  Runs.run_induction (fun _ _ allow each => invariant.event allow each) each allow

theorem Event.unrestricted (event : Event) (db : Db) : event.Allowed H Unrestricted db where
  call _ _ _ _ _ _ _ := trivial
  visit _ _ _ _ _ _ := trivial
  expiry _ _ := .of_all (fun _ => trivial) _ _ _

theorem AllowedRun.unrestricted (events : List Event) (db : Db) :
    AllowedRun H Unrestricted events db :=
  fun _ event _ _ => event.unrestricted _

theorem Db.each_empty : Db.empty.Each holds := by
  intro operation record found
  cases found

theorem Invariant.reachable (invariant : Invariant H Unrestricted holds)
    (reached : db.Reachable H) : db.Each holds := by
  obtain ⟨events, rfl⟩ := reached
  exact invariant.run (.unrestricted _ _) Db.each_empty

/-- A relation that is reflexive, transitive, and respected by the local steps of some clocks. -/
structure Progress (H : Hashing) (rules : Rules) (ticks : Clock → Prop) (holds : Scope → Prop)
    (related : Scope → Scope → Prop) : Prop where
  refl : ∀ s, related s s
  trans : ∀ first second third, related first second → related second third → related first third
  step : ∀ clock s s', ticks clock → LocalStep H rules clock s s' → holds s → related s s'

/-- An allowed run at such clocks relates what an operation was to what it has become. -/
theorem Progress.along {ticks : Clock → Prop} {related : Scope → Scope → Prop}
    (invariant : Invariant H rules holds) (progress : Progress H rules ticks holds related)
    {events : List Event} (allow : AllowedRun H rules events db)
    (ticking : ∀ event ∈ events, ticks event.clock) (each : db.Each holds)
    {operation : String} {record : OpRecord} (found : db.lookup operation = some record) :
    ∃ record', (Runs.run (Event.step H) events db).lookup operation = some record' ∧
      related (db.scope operation record)
        ((Runs.run (Event.step H) events db).scope operation record') := by
  -- Each event takes the operation through local steps, which the relation follows.
  have along : ∀ {clock : Clock} {s s' : Scope}, ticks clock →
      LocalSteps H rules clock s s' → holds s → related s s' := by
    intro clock s s' tick steps holding
    induction steps with
    | refl => exact progress.refl s
    | tail before step ih =>
      exact progress.trans _ _ _ ih
        (progress.step _ _ _ tick step (invariant.steps before holding))
  induction events generalizing db record with
  | nil => exact ⟨record, found, progress.refl _⟩
  | cons event rest ih =>
    obtain ⟨here, later⟩ := allow.cons
    obtain ⟨follows, -⟩ := Event.evolves (H := H) here
    obtain ⟨between, there, steps⟩ := follows operation record found
    have first := along (ticking event List.mem_cons_self) steps (each operation record found)
    obtain ⟨record', here, second⟩ := ih later
      (fun event member => ticking event (List.mem_cons_of_mem _ member))
      (invariant.event here each) there
    exact ⟨record', here, progress.trans _ _ _ first second⟩

/-- A run at such clocks relates what an operation was to what it has become. -/
theorem Progress.run {ticks : Clock → Prop} {related : Scope → Scope → Prop}
    (invariant : Invariant H Unrestricted holds)
    (progress : Progress H Unrestricted ticks holds related)
    {events : List Event} (ticking : ∀ event ∈ events, ticks event.clock) (each : db.Each holds)
    {operation : String} {record : OpRecord} (found : db.lookup operation = some record) :
    ∃ record', (Runs.run (Event.step H) events db).lookup operation = some record' ∧
      related (db.scope operation record)
        ((Runs.run (Event.step H) events db).scope operation record') :=
  progress.along invariant (.unrestricted _ _) ticking each found

end Runs

section Sample

/-- Digests that show what they hash, to evaluate the system on. -/
def Hashing.readable : Hashing where
  operationId material := String.ofList (material.toList.drop 23)
  attemptId operation attemptNo _ _ := s!"{operation}#{attemptNo}"
  attemptFence dispatcher epoch owner := s!"{owner}@{dispatcher}.{epoch}"
  text value := value
  request request := request.body
  binding binding := binding.model
  usage usage := toString usage.totalTokens
  response response := response.outputText
  directive directive := match directive with
    | .executeCell code _ => s!"cell {code}"
    | .finalize output _ => s!"final {output}"
    | .abstain reason => s!"abstain {reason}"
  jobSpec spec := spec.objective
  ticket ticket := s!"{ticket.ticketId}.{ticket.revision}"
  externalKey ticketDigest := ticketDigest
  claimFence document := s!"{document.ticketId}.{document.revision}.{document.claimId}"
  reconcileFence document := s!"{document.ticketId}.{document.reconcilerId}"
  commitSignature ticketId physicalAttemptId _ _ := s!"{ticketId}.{physicalAttemptId}"
  candidate payload :=
    s!"{payload.ticketId}.{payload.physicalAttemptId}.{payload.observation.outcome.wire}"
  command _ document := match document with
    | .claim command => s!"{command.idempotencyKey}.{command.expectedRevision}"
    | .markSendStarted command => s!"{command.idempotencyKey}.{command.expectedRevision}"
    | .cancelBeforeSend command => s!"{command.idempotencyKey}.{command.expectedRevision}"
    | .commit command => s!"{command.idempotencyKey}.{command.expectedRevision}"
    | .reconcile command => s!"{command.idempotencyKey}.{command.expectedRevision}"
    | .settleCandidate command => s!"{command.idempotencyKey}.{command.expectedRevision}"
  settlementOutbox operation suspension settlement := s!"{operation}.{suspension}.{settlement}"
  rebindToken token := s!"{token.operation}.{token.suspensionRevision}.{token.rebindGeneration}"
  acknowledgement payload := payload.tokenDigest
  preparedCellRecovery operation cell successor fence := s!"{operation}.{cell}.{successor}.{fence}"
  cellExecutionId operation index source := s!"{operation}.{index}.{source}"
  recoveryPolicy policy := policy.policyId
  manifestJson manifest := manifest.contentDigest

/-- A call whose clock always reads one instant. -/
def Call.atTime (call : Call) (now : Nat) : Event := { call, clock := fun _ => now }

/-- A request to run one operation. -/
def Sample.envelope (key : String) (deadlineUnixMs : Nat) : RequestEnvelope :=
  { host := ⟨"host", by decide⟩, principal := ⟨"principal", by decide⟩
    idempotencyKey := s!"request.{key}", lane := ⟨"lane", by decide⟩
    session := ⟨"session", by decide⟩, workspace := none, parentOperation := none
    runtimeGeneration := 1
    workspaceGeneration := none, expectedWorkspaceRevision := none, deadlineUnixMs
    inputDigest := "input" }

/-- The route of a job. -/
def Sample.route : ModelRouteBinding :=
  { profileId := "profile", catalogDigest := "catalog", profileDigest := "profile"
    providerDriver := "driver", provider := "provider", model := "model"
    reasoningEffort := none, maxOutputTokens := 100, fallbackPolicy := "none"
    cachePolicy := "none" }

/-- A job in one execution mode. -/
def Sample.spec (executionMode : ExecutionMode) : RlmWorkbenchJobSpec :=
  { executionMode, routeBinding := Sample.route, maxCorrections := 1, maxModelCalls := 4
    maxCells := 4, totalWallTimeMs := 1000, seedCheckpoint := none, objective := "objective" }

/-- The claim of a dispatcher in the first runtime generation. -/
def Sample.claim : ClaimRequest :=
  { runtimeGeneration := 1, dispatcherGeneration := 1, ownerDigest := "owner"
    leaseDurationMs := 100 }

/-- The fence of the first attempt of an operation. -/
def Sample.fence (operation : String) : AttemptFence :=
  { attempt := ⟨operation, 1, s!"{operation}#1"⟩, dispatcherGeneration := 1, leaseEpoch := 1
    ownerDigest := "owner" }

/-- The workspace of a job. -/
def Sample.workspace : ProgrammableWorkspaceHandle :=
  { workspace := "workspace", generation := 1, revision := 0
    backendCapabilityDigest := "backend" }

/-- The ticket of the first planner step of an operation's job. -/
def Sample.plannerTicket (operation : String) : CallerWorkTicket :=
  { operation, suspensionRevision := 1, ticketId := s!"{operation}.ticket", revision := 0
    owner := .planner .initial 0
    request := { method := .modelRequest, contractId := "contract"
                 routeBinding := some Sample.route, body := "request" }
    requestDigest := "request", ticketDigest := "ticket", state := .pending, claimant := none
    physicalAttempt := none, settledReceiptDigest := none, settledAtUnixMs := none
    deadlineUnixMs := 1001 }

/-- The first generation accepts and queues one workbench job. -/
def Sample.queued (operation : String) (mode : ExecutionMode) : List Event :=
  [Call.startRuntime.atTime 1,
    (Call.accept (Sample.envelope operation 5000) "payload" none).atTime 1,
    (Call.on operation (.registry (.requestDispatch .rlmWorkbenchExecute))).atTime 1,
    (Call.on operation (.workbench (.admitJob (Sample.spec mode) ⟨"context", 5000⟩))).atTime 1]

/-- The queued job is claimed and runs. -/
def Sample.running (operation : String) (mode : ExecutionMode) : List Event :=
  Sample.queued operation mode ++
    [(Call.claimNext Sample.claim).atTime 2,
      (Call.on operation (.workbench .prepareWorkspaceStart)).atTime 2,
      (Call.on operation (.workbench (.prepareWorkspaceBind Sample.workspace))).atTime 2,
      (Call.on operation (.workbench (.beginRunning (Sample.fence operation)))).atTime 2]

/-- The running job waits for the ticket of its first planner step. -/
def Sample.waiting (operation : String) (mode : ExecutionMode) : List Event :=
  Sample.running operation mode ++
    [(Call.on operation (.registry (.suspendPlannerAttempt (Sample.fence operation)
      (Sample.plannerTicket operation)))).atTime 3]

/-- The database after some events. -/
def Sample.db (events : List Event) : Db := Runs.run (Event.step .readable) events Db.empty

theorem Sample.reachable (events : List Event) : (Sample.db events).Reachable .readable :=
  ⟨events, rfl⟩

end Sample

end Aar
