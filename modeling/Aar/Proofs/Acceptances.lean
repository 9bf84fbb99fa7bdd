import Aar.Proofs.Runs

/-! An idempotency key is accepted once: its later acceptances repeat the first, or are refused. -/

namespace Aar

open Guarded Table Registry

section Keys

/-- The key that identifies an intent: whose request it is, and the name its caller gave it. -/
structure ScopedKey where
  hostValue : String
  principalValue : String
  idempotencyKey : String
  deriving DecidableEq

/-- The key of a request. -/
def RequestEnvelope.scopedKey (envelope : RequestEnvelope) : ScopedKey :=
  ⟨envelope.host.value, envelope.principal.value, envelope.idempotencyKey⟩

/-- The key of a stored operation. -/
def OperationRow.scopedKey (row : OperationRow) : ScopedKey :=
  ⟨row.hostValue, row.principalValue, row.idempotencyKey⟩

/-- A separator ends the first part of two joined lists at the same place. -/
theorem joined_inj {α : Type} {separator : α} {first second rest rest' : List α}
    (plain : separator ∉ first) (plain' : separator ∉ second) :
    first ++ separator :: rest = second ++ separator :: rest' ↔ first = second ∧ rest = rest' := by
  refine ⟨fun joined => ?_, fun ⟨same, same'⟩ => by rw [same, same']⟩
  induction first generalizing second with
  | nil =>
    cases second with
    | nil => exact ⟨rfl, (List.cons.inj joined).2⟩
    | cons head tail => exact absurd ((List.cons.inj joined).1 ▸ List.mem_cons_self) plain'
  | cons head tail ih =>
    cases second with
    | nil => exact absurd ((List.cons.inj joined).1 ▸ List.mem_cons_self) plain
    | cons head' tail' =>
      obtain ⟨rfl, tails⟩ := List.cons.inj joined
      obtain ⟨rfl, same⟩ := ih (fun member => plain (List.mem_cons_of_mem _ member))
        (fun member => plain' (List.mem_cons_of_mem _ member)) tails
      exact ⟨rfl, same⟩

/-- An opaque token has no NUL. -/
theorem OpaqueToken.plain (token : OpaqueToken) : '\x00' ∉ token.value.toList := by
  intro member
  obtain ⟨head, -, tail⟩ := token.matched
  cases chars : token.value.toList with
  | nil =>
    rw [chars] at member
    cases member
  | cons first rest =>
    rw [chars] at member head tail
    simp only [List.head?_cons, Option.any_some] at head
    rcases List.mem_cons.mp member with rfl | later
    · exact absurd head (by decide)
    · exact absurd (tail _ later) (by decide)

/-- Two requests are hashed from the same bytes exactly when they have one key. -/
theorem operationMaterial_inj {first second : RequestEnvelope} :
    operationMaterial first = operationMaterial second ↔ first.scopedKey = second.scopedKey := by
  have parts : ∀ envelope, (operationMaterial envelope).toList =
      envelope.host.value.toList ++ '\x00' :: (envelope.principal.value.toList ++
        '\x00' :: envelope.idempotencyKey.toList) := by
    intro envelope
    simp [operationMaterial]
  -- Neither token holds the separator, so it can only stand between the parts.
  rw [← String.toList_inj, parts, parts, joined_inj first.host.plain second.host.plain,
    joined_inj first.principal.plain second.principal.plain]
  simp only [String.toList_inj, RequestEnvelope.scopedKey, ScopedKey.mk.injEq]

theorem operationId_same {H : Hashing} {first second : RequestEnvelope}
    (same : first.scopedKey = second.scopedKey) : operationId H first = operationId H second := by
  rw [operationId, operationMaterial_inj.mpr same, operationId]

theorem operationId_differs {H : Hashing} {first second : RequestEnvelope}
    (distinguished : operationId H first = operationId H second →
      operationMaterial first = operationMaterial second)
    (differ : first.scopedKey ≠ second.scopedKey) : operationId H first ≠ operationId H second :=
  fun same => differ (operationMaterial_inj.mp (distinguished same))

end Keys

section Histories

variable {H : Hashing} {clock : Clock} {db db' : Db} {event : Event} {operation : String}
  {envelope : RequestEnvelope} {payloadJson : String} {admission : Option Admission}
  {answer : String × Bool}

/-- An event accepts an envelope as an operation, and says whether it created it. -/
def Event.Accepts (H : Hashing) (event : Event) (db : Db) (envelope : RequestEnvelope)
    (payloadJson : String) (answer : String × Bool) : Prop :=
  ∃ admission db', event.call = .accept envelope payloadJson admission ∧
    accept H event.clock envelope payloadJson (admission.map Admission.callback) db =
      .ok (db', answer)

/-- A call of a history accepted an envelope. -/
def AcceptedIn (H : Hashing) (history : List Event) (envelope : RequestEnvelope)
    (payloadJson : String) (answer : String × Bool) : Prop :=
  ∃ before event after, history = before ++ event :: after ∧
    event.Accepts H (Runs.run (Event.step H) before Db.empty) envelope payloadJson answer

/-- An event raises and changes nothing. -/
def Event.Refused (H : Hashing) (event : Event) (db : Db) : Prop :=
  (∃ error, event.call.run H event.clock db = .error error) ∧ event.step H db = db

/-- A stored operation is what an acceptance of this envelope and payload leaves or repeats. -/
structure OperationRow.Repeats (row : OperationRow) (envelope : RequestEnvelope)
    (payloadJson : String) : Prop where
  scopedKey : row.scopedKey = envelope.scopedKey
  inputDigest : row.inputDigest = envelope.inputDigest
  payloadJson : row.payloadJson = payloadJson
  authority : replayScope row.request = replayScope envelope

/-- What a stored operation repeats depends only on what acceptance stored for good. -/
theorem OperationRow.Repeats.of_intent {row row' : OperationRow}
    (repeats : row.Repeats envelope payloadJson) (same : row'.intent = row.intent) :
    row'.Repeats envelope payloadJson := by
  simp only [OperationRow.intent, Intent.mk.injEq] at same
  obtain ⟨host, principal, key, digest, request, payload, -⟩ := same
  refine ⟨?_, digest.trans repeats.inputDigest, payload.trans repeats.payloadJson, ?_⟩
  · rw [← repeats.scopedKey]
    simp only [OperationRow.scopedKey, host, principal, key]
  · rw [request]
    exact repeats.authority

/-- The stored operation under a key is found with that key. -/
theorem acceptedBefore_some {record : OpRecord}
    (stored : acceptedBefore envelope db = some (operation, record)) :
    db.lookup operation = some record ∧ record.row.scopedKey = envelope.scopedKey := by
  have member := List.mem_of_find?_eq_some stored
  have same := List.find?_some stored
  simp only [decide_eq_true_eq] at same
  refine ⟨Db.lookup_of_mem member, ?_⟩
  simp only [OperationRow.scopedKey, RequestEnvelope.scopedKey, same]

/-- No operation is stored under a key exactly when none has it. -/
theorem acceptedBefore_none : acceptedBefore envelope db = none ↔
    ∀ operation record, db.lookup operation = some record →
      record.row.scopedKey ≠ envelope.scopedKey := by
  simp only [acceptedBefore, List.find?_eq_none, decide_eq_true_eq, OperationRow.scopedKey,
    RequestEnvelope.scopedKey, ne_eq, ScopedKey.mk.injEq]
  constructor
  · exact fun absent operation record found => absent _ (Db.mem_of_lookup found)
  · exact fun absent entry member => absent entry.1 entry.2 (Db.lookup_of_mem member)

/-- An acceptance under a stored key answers the stored operation, which it repeats. -/
theorem accept_replays {record : OpRecord} {result : Db × String × Bool}
    (stored : acceptedBefore envelope db = some (operation, record))
    (ran : accept H clock envelope payloadJson (admission.map Admission.callback) db =
      .ok result) :
    result.2 = (operation, false) ∧ record.row.Repeats envelope payloadJson := by
  have found := acceptedBefore_some stored
  simp only [accept, stored, bind_ok, require_ok, pure_ok] at ran
  obtain ⟨_, digest, _, payload, _, authority, _, -, rfl⟩ := ran
  exact ⟨rfl, found.2, digest, payload, authority⟩

/-- An admission callback leaves the row of every operation as it was. -/
theorem Admitted.row {admitted : String} {record : OpRecord} (left : Admitted admitted db db')
    (found : db.lookup operation = some record) :
    ∃ record', db'.lookup operation = some record' ∧ record'.row = record.row := by
  by_cases here : operation = admitted
  · subst here
    obtain ⟨routeBinding, there⟩ := left.here record found
    exact ⟨_, there, rfl⟩
  · exact ⟨record, (left.others operation here).trans found, rfl⟩

/-- An acceptance leaves its operation stored, as what it accepted or repeated. -/
theorem accept_stores {result : Db × String × Bool}
    (ran : accept H clock envelope payloadJson (admission.map Admission.callback) db =
      .ok result) :
    ∃ record, result.1.lookup result.2.1 = some record ∧
      record.row.Repeats envelope payloadJson := by
  cases stored : acceptedBefore envelope db with
  | some entry =>
    obtain ⟨operation, record⟩ := entry
    obtain ⟨answered, repeats⟩ := accept_replays stored ran
    simp only [accept, stored, bind_ok, pure_ok] at ran
    obtain ⟨_, -, _, -, _, -, after, admitted, rfl⟩ := ran
    obtain ⟨record', there, same⟩ :=
      (runAdmission_admitted admitted).row (acceptedBefore_some stored).1
    exact ⟨record', there, same ▸ repeats⟩
  | none =>
    obtain ⟨-, answered, logged, -, -, -, lookups, admitted⟩ := accept_fresh stored ran
    obtain ⟨record, there, same⟩ := admitted.row ((lookups _).trans (if_pos rfl))
    rw [answered]
    exact ⟨record, there, same ▸ ⟨rfl, rfl, rfl, rfl⟩⟩

/-- An event that accepts leaves what the acceptance leaves. -/
theorem Event.Accepts.step (accepts : event.Accepts H db envelope payloadJson answer) :
    ∃ admission, accept H event.clock envelope payloadJson
      (Option.map Admission.callback admission) db = .ok (event.step H db, answer) := by
  obtain ⟨admission, db', called, ran⟩ := accepts
  refine ⟨admission, ?_⟩
  have stepped : event.call.run H event.clock db = .ok db' := by
    simp only [called, Call.run, ran]
    rfl
  simp only [Event.step, stepped, ran]

/-- Visiting a queue stores no new name and drops none. -/
theorem claimFrom_names {request : ClaimRequest} {now : Nat} {queue : List QueueEntry}
    {result : Db × Option OperationDispatchClaim}
    (ran : claimFrom H request now queue db = .ok result) :
    result.1.operations.map Prod.fst = db.operations.map Prod.fst := by
  induction queue generalizing db with
  | nil =>
    simp only [claimFrom, Except.ok.injEq] at ran
    rw [← ran]
  | cons entry rest ih =>
    simp only [claimFrom, bind_ok] at ran
    obtain ⟨⟨mid, claim⟩, visited, ran⟩ := ran
    obtain ⟨record, r, -, -, rfl⟩ := Db.transact_ok.mp visited
    cases claim with
    | some claim =>
      simp only [pure_ok] at ran
      rw [← ran]
      exact Db.replace_keys _ _ _
    | none => exact (ih ran).trans (Db.replace_keys _ _ _)

/-- Fencing leases stores no new name and drops none. -/
theorem fenceEach_names {now : Nat} (expired : List ExpiredLease) (db : Db) :
    (fenceEach now expired db).operations.map Prod.fst = db.operations.map Prod.fst := by
  induction expired generalizing db with
  | nil => rfl
  | cons lease rest ih =>
    simp only [fenceEach]
    cases db.lookup lease.operation with
    | none => exact ih db
    | some record => exact (ih _).trans (Db.replace_keys _ _ _)

/-- Running an admission callback stores no new name and drops none. -/
theorem runAdmission_names
    (ran : runAdmission (admission.map Admission.callback) operation db = .ok db') :
    db'.operations.map Prod.fst = db.operations.map Prod.fst := by
  cases admission with
  | none =>
    simp only [runAdmission, Option.map_none, Except.ok.injEq] at ran
    rw [← ran]
  | some admission =>
    obtain ⟨_, r, -, -, rfl⟩ := Db.update_ok.mp ran
    exact Db.replace_keys _ _ _

/-- Only an acceptance under a new key adds an operation. -/
theorem Event.adds {record : OpRecord} (absent : db.lookup operation = none)
    (there : (event.step H db).lookup operation = some record) :
    ∃ envelope payloadJson, event.Accepts H db envelope payloadJson (operation, true) := by
  have known : (event.step H db).operations.map Prod.fst ≠ db.operations.map Prod.fst := by
    intro same
    rw [Db.lookup_none, ← same, ← Db.lookup_none, there] at absent
    cases absent
  rcases @Event.step_cases H event db with ⟨db', ran, same⟩ | same
  · rw [same] at there known
    cases called : event.call with
    | startRuntime =>
      simp only [called, Call.run, Except.ok.injEq] at ran
      rw [← ran] at known
      exact absurd startRuntime_names known
    | claimNext request =>
      simp only [called, Call.run, map_ok] at ran
      obtain ⟨result, ran, rfl⟩ := ran
      simp only [claimNext, bind_ok, require_ok] at ran
      obtain ⟨_, -, _, -, ran⟩ := ran
      exact absurd (claimFrom_names ran) known
    | fenceExpiredAttempts generation =>
      simp only [called, Call.run, fenceExpiredAttempts, bind_ok, pure_ok] at ran
      obtain ⟨_, -, rfl⟩ := ran
      exact absurd (fenceEach_names _ _) known
    | on name call =>
      simp only [called, Call.run] at ran
      obtain ⟨_, r, -, -, rfl⟩ := Db.update_ok.mp ran
      exact absurd (Db.replace_keys _ _ _) known
    | accept envelope payloadJson admission =>
      simp only [called, Call.run, map_ok] at ran
      obtain ⟨result, ran, rfl⟩ := ran
      refine ⟨envelope, payloadJson, admission, result.1, called, ?_⟩
      cases stored : acceptedBefore envelope db with
      | some entry =>
        -- A repeated acceptance runs its callback on operations that are stored already.
        simp only [accept, stored, bind_ok, pure_ok] at ran
        obtain ⟨_, -, _, -, _, -, after, admitted, rfl⟩ := ran
        exact absurd (runAdmission_names admitted) known
      | none =>
        obtain ⟨-, answered, logged, -, -, -, lookups, admitted⟩ := accept_fresh stored ran
        by_cases here : operation = operationId H envelope
        · rw [ran, here, ← answered]
        · rw [admitted.others operation here, lookups, if_neg here, absent] at there
          cases there
  · rw [same] at there
    rw [absent] at there
    cases there

end Histories

section Idempotence

variable {H : Hashing} {db : Db} {history : List Event} {operation : String}
  {envelope : RequestEnvelope} {payloadJson : String} {answer : String × Bool}

/-- The rows of an operation carry the key its name is derived from. -/
def Scope.Named (H : Hashing) (s : Scope) : Prop :=
  ∃ envelope : RequestEnvelope, s.operation = operationId H envelope ∧
    s.row.scopedKey = envelope.scopedKey

theorem OperationRow.scopedKey_of_intent {row row' : OperationRow}
    (same : row'.intent = row.intent) : row'.scopedKey = row.scopedKey := by
  simp only [OperationRow.intent, Intent.mk.injEq] at same
  obtain ⟨host, principal, key, -⟩ := same
  simp only [OperationRow.scopedKey, host, principal, key]

/-- Every operation carries the key its name is derived from. -/
theorem named_invariant : Invariant H Unrestricted (Scope.Named H) where
  new := by
    rintro s ⟨envelope, payloadJson, now, accepted⟩
    obtain ⟨events, routeBinding, rows⟩ := accepted.rows
    exact ⟨envelope, accepted.named, by rw [rows]; rfl⟩
  step clock s s' step named := by
    obtain ⟨envelope, name, key⟩ := named
    obtain ⟨kept, intent⟩ := step.keeps
    exact ⟨envelope, kept.trans name, (OperationRow.scopedKey_of_intent intent).trans key⟩

theorem Db.Reachable.named {record : OpRecord} (reached : db.Reachable H)
    (found : db.lookup operation = some record)
    (same : record.row.scopedKey = envelope.scopedKey) : operation = operationId H envelope := by
  obtain ⟨other, name, key⟩ := named_invariant.reachable reached operation record found
  exact name.trans (operationId_same (key.symm.trans same))

theorem intent_progress :
    Progress H Unrestricted (fun _ => True) (Scope.Named H) fun s s' =>
      s'.row.intent = s.row.intent where
  refl _ := rfl
  trans _ _ _ before after := after.trans before
  step _ _ _ _ step _ := step.keeps.2

/-- An acceptance of a history is still stored at its end. -/
theorem AcceptedIn.stored (accepted : AcceptedIn H history envelope payloadJson answer) :
    ∃ record, (Runs.run (Event.step H) history Db.empty).lookup answer.1 = some record ∧
      record.row.Repeats envelope payloadJson := by
  obtain ⟨before, event, after, rfl, accepts⟩ := accepted
  obtain ⟨admission, ran⟩ := accepts.step
  obtain ⟨record, found, repeats⟩ := accept_stores ran
  have each : ((event.step H (Runs.run (Event.step H) before Db.empty))).Each (Scope.Named H) :=
    named_invariant.reachable ⟨before ++ [event], Runs.run_append⟩
  obtain ⟨record', there, same⟩ := intent_progress.run named_invariant
    (fun event (_ : event ∈ after) => trivial) each found
  rw [Runs.run_append, Runs.run_cons]
  exact ⟨record', there, repeats.of_intent same⟩

/-- Every stored operation was created by an acceptance of the history. -/
theorem accepted_created {record : OpRecord}
    (found : (Runs.run (Event.step H) history Db.empty).lookup operation = some record) :
    ∃ envelope payloadJson, AcceptedIn H history envelope payloadJson (operation, true) := by
  obtain ⟨before, event, after, rfl, absent, arises⟩ :=
    Runs.run_arises (fun db : Db => db.lookup operation ≠ none) (fun known => known rfl)
      (Option.ne_none_iff_exists'.mpr ⟨record, found⟩)
  obtain ⟨created, there⟩ := Option.ne_none_iff_exists'.mp arises
  obtain ⟨envelope, payloadJson, accepts⟩ := Event.adds (not_not.mp absent) there
  exact ⟨envelope, payloadJson, before, event, after, rfl, accepts⟩

/-- An acceptance of a reachable database is what its key asks for, and creates it when it is new. -/
theorem Event.Accepts.answers {event : Event} (reached : db.Reachable H)
    (accepts : event.Accepts H db envelope payloadJson answer) :
    answer.1 = operationId H envelope ∧
      (answer.2 = true ↔ acceptedBefore envelope db = none) := by
  obtain ⟨_, _, -, ran⟩ := accepts
  cases stored : acceptedBefore envelope db with
  | some entry =>
    obtain ⟨operation, record⟩ := entry
    obtain ⟨rfl, -⟩ := accept_replays stored ran
    obtain ⟨found, same⟩ := acceptedBefore_some stored
    exact ⟨reached.named found same, by simp⟩
  | none =>
    obtain ⟨-, rfl, -⟩ := accept_fresh stored ran
    exact ⟨rfl, by simp⟩

/-- In a reachable database the operation that an acceptance left is found under its key. -/
theorem AcceptedIn.before (accepted : AcceptedIn H history envelope payloadJson answer)
    {other : RequestEnvelope} (same : other.scopedKey = envelope.scopedKey) :
    ∃ record, acceptedBefore other (Runs.run (Event.step H) history Db.empty) =
        some (answer.1, record) ∧ record.row.Repeats envelope payloadJson := by
  have reached : (Runs.run (Event.step H) history Db.empty).Reachable H := ⟨history, rfl⟩
  obtain ⟨record, found, repeats⟩ := accepted.stored
  have key : record.row.scopedKey = other.scopedKey := repeats.scopedKey.trans same.symm
  cases stored : acceptedBefore other (Runs.run (Event.step H) history Db.empty) with
  | none => exact absurd key (acceptedBefore_none.mp stored _ record found)
  | some entry =>
    obtain ⟨operation, record'⟩ := entry
    obtain ⟨found', key'⟩ := acceptedBefore_some stored
    -- One name is derived from the key, so the row that is found is the one that was left.
    obtain rfl : operation = answer.1 :=
      (reached.named found' key').trans (reached.named found key).symm
    cases found.symm.trans found'
    exact ⟨record, rfl, repeats⟩

theorem Event.refused {event : Event} (fails : ∀ db', event.call.run H event.clock db ≠ .ok db') :
    event.Refused H db := by
  cases ran : event.call.run H event.clock db with
  | ok db' => exact absurd ran (fails db')
  | error raised => exact ⟨⟨raised, ran⟩, Event.step_error ran⟩

/-- An acceptance with a callback is the acceptance without it, and then the callback. -/
theorem accept_admission {clock : Clock} {callback : Scope → Except Err Scope}
    {result : Db × String × Bool}
    (ran : accept H clock envelope payloadJson (some callback) db = .ok result) :
    ∃ mid, accept H clock envelope payloadJson none db = .ok (mid, result.2) ∧
      ∃ record r, mid.lookup (operationId H envelope) = some record ∧
        callback (mid.scope (operationId H envelope) record) = .ok r := by
  cases stored : acceptedBefore envelope db with
  | some entry =>
    simp only [accept, stored, bind_ok, require_ok, pure_ok] at ran ⊢
    obtain ⟨_, digest, _, payload, _, authority, after, admitted, rfl⟩ := ran
    obtain ⟨record, r, found, called, rfl⟩ := Db.update_ok.mp admitted
    exact ⟨db, ⟨(), digest, (), payload, (), authority, db, rfl, rfl⟩, record, r, found, called⟩
  | none =>
    simp only [accept, stored, bind_ok, pure_ok] at ran ⊢
    obtain ⟨mid, inserted, logged, updated, after, admitted, rfl⟩ := ran
    obtain ⟨record, r, found, called, rfl⟩ := Db.update_ok.mp admitted
    exact ⟨logged, ⟨mid, inserted, logged, updated, logged, rfl, rfl⟩, record, r, found, called⟩

/-- After a history, acceptance is idempotent.

No two operations have one key. An acceptance answers the operation of its key, which only the
first acceptance of the key creates; other keys get other operations, unless their digests collide.
An acceptance is refused that asks for something else under a used key, or whose callback raises on
the rows it is shown. -/
structure AcceptsOnce (H : Hashing) (history : List Event) (db : Db) : Prop where
  keyed : ∀ first second record record', db.lookup first = some record →
    db.lookup second = some record' → record.row.scopedKey = record'.row.scopedKey → first = second
  creates : ∀ (event : Event) envelope payloadJson operation created,
    event.Accepts H db envelope payloadJson (operation, created) →
    (created = true ↔ ∀ other payload answer, AcceptedIn H history other payload answer →
      other.scopedKey ≠ envelope.scopedKey)
  answers : ∀ (event : Event) envelope payloadJson operation created,
    event.Accepts H db envelope payloadJson (operation, created) →
    ∀ other payload operation' created',
      AcceptedIn H history other payload (operation', created') →
      (other.scopedKey = envelope.scopedKey → operation = operation') ∧
      (other.scopedKey ≠ envelope.scopedKey →
        (operationId H envelope = operationId H other →
          operationMaterial envelope = operationMaterial other) → operation ≠ operation')
  differs : ∀ other payload answer, AcceptedIn H history other payload answer →
    ∀ (event : Event) envelope payloadJson admission,
      event.call = .accept envelope payloadJson admission →
      envelope.scopedKey = other.scopedKey →
      (envelope.inputDigest ≠ other.inputDigest ∨ payloadJson ≠ payload ∨
        replayScope envelope ≠ replayScope other) → event.Refused H db
  raises : ∀ (event : Event) envelope payloadJson (admission : Admission) mid answer record error,
    event.call = .accept envelope payloadJson (some admission) →
    accept H event.clock envelope payloadJson none db = .ok (mid, answer) →
    mid.lookup (operationId H envelope) = some record →
    admission.callback (mid.scope (operationId H envelope) record) = .error error →
    event.Refused H db

/-- Acceptance is idempotent after every history. -/
theorem acceptances_idempotent (H : Hashing) (history : List Event) :
    AcceptsOnce H history (Runs.run (Event.step H) history Db.empty) := by
  have reached : (Runs.run (Event.step H) history Db.empty).Reachable H := ⟨history, rfl⟩
  constructor
  case keyed =>
    intro first second record record' found found' same
    obtain ⟨envelope, name, key⟩ := named_invariant.reachable reached first record found
    exact name.trans (reached.named found' (same.symm.trans key)).symm
  case creates =>
    intro event envelope payloadJson operation created accepts
    refine (accepts.answers reached).2.trans ⟨?_, ?_⟩
    · intro absent other payload answer accepted same
      obtain ⟨record, stored, -⟩ := accepted.before same.symm
      cases absent.symm.trans stored
    · intro unused
      refine acceptedBefore_none.mpr fun operation record found same => ?_
      -- What is stored under the key was accepted by the history, with that key.
      obtain ⟨other, payload, accepted⟩ := accepted_created found
      obtain ⟨record', there, repeats⟩ := accepted.stored
      cases found.symm.trans there
      exact unused other payload _ accepted (repeats.scopedKey.symm.trans same)
  case answers =>
    intro event envelope payloadJson operation created accepts other payload operation' created'
      accepted
    obtain ⟨record, found, repeats⟩ := accepted.stored
    have here : operation = operationId H envelope := (accepts.answers reached).1
    have there : operation' = operationId H other := reached.named found repeats.scopedKey
    rw [here, there]
    refine ⟨fun same => operationId_same same.symm, fun differ distinguished => ?_⟩
    exact operationId_differs distinguished fun same => differ same.symm
  case differs =>
    intro other payload answer accepted event envelope payloadJson admission called same differs
    obtain ⟨record, stored, repeats⟩ := accepted.before same
    refine Event.refused fun db' ran => ?_
    simp only [called, Call.run, map_ok] at ran
    obtain ⟨result, ran, -⟩ := ran
    obtain ⟨-, again⟩ := accept_replays stored ran
    rcases differs with digest | payload | authority
    · exact digest (again.inputDigest.symm.trans repeats.inputDigest)
    · exact payload (again.payloadJson.symm.trans repeats.payloadJson)
    · exact authority (again.authority.symm.trans repeats.authority)
  case raises =>
    intro event envelope payloadJson admission mid answer record error called plain found raised
    refine Event.refused fun db' ran => ?_
    simp only [called, Call.run, map_ok] at ran
    obtain ⟨result, ran, -⟩ := ran
    obtain ⟨mid', plain', record', r, found', answered⟩ := accept_admission ran
    cases plain.symm.trans plain'
    cases found.symm.trans found'
    cases raised.symm.trans answered

/-- A second acceptance of a request answers the operation of the first and creates nothing. -/
example : (accept .readable (fun _ => 3) (Sample.envelope "op" 5000) "payload" none
    (Sample.db (Sample.queued "op" .callerDelegated))).toOption.map Prod.snd =
      some ("op", false) := by
  decide +kernel

end Idempotence

end Aar
