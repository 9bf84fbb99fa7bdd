import Aar.Activation.Store
import Mathlib.Logic.Function.Basic

/-! Memory-only session grants over the durable activation of one process. -/

namespace Aar.Activation

open Guarded Stateful

section Grants

/-- One session grant; a grant that ends before it begins cannot be built. -/
structure IssuedWorkbenchGrant where
  grantId : Token
  grantSetDigest : Digest
  capability : CapabilityName
  principalId : Token
  sessionId : Token
  runtimeGeneration : PositiveCounter
  activationGeneration : PositiveCounter
  profileDigest : Digest
  activationAuthorityDigest : Digest
  capabilityDigest : Digest
  routeCatalogDigest : Digest
  budget : GrantBudgetCeiling
  issuedAtUnixMs : Counter
  expiresAtUnixMs : Counter
  revoked : Bool
  ordered : issuedAtUnixMs.val < expiresAtUnixMs.val
  deriving DecidableEq

/-- A grant named by itself or by its id, or a value that is neither a grant nor a text. -/
inductive GrantReference where
  | object (grant : IssuedWorkbenchGrant)
  | identifier (grantId : String)
  | otherType

/-- `SessionGrantOwner`: the live grants by their ids, and the generation they were issued in. -/
structure SessionGrantOwner where
  sessionGrants : String → Option IssuedWorkbenchGrant := fun _ => none
  observedRuntimeGeneration : Option PositiveCounter := none

/-- Forget every grant, for a generation that has been observed. -/
def SessionGrantOwner.clear (generation : PositiveCounter) : SessionGrantOwner where
  observedRuntimeGeneration := some generation

/-- Bind an id to a grant. -/
def SessionGrantOwner.record (owner : SessionGrantOwner) (grant : IssuedWorkbenchGrant) :
    SessionGrantOwner :=
  { owner with
    sessionGrants := Function.update owner.sessionGrants grant.grantId.val (some grant) }

/-- `_validate_unix_ms`. -/
def validateUnixMs (value : IntegerArgument) (fieldName : String) :
    Except ProviderReadyActivationError Counter :=
  match value with
  | .integer (.ofNat value) =>
    if range : value ≤ maxCounter then .ok ⟨value, range⟩
    else .error (.grantDenied (fieldName ++ " is outside the strict Unix-ms domain"))
  | _ => .error (.grantDenied (fieldName ++ " is outside the strict Unix-ms domain"))

/-- `_validate_positive_int`. -/
def validatePositiveInt (value : IntegerArgument) (fieldName : String) :
    Except ProviderReadyActivationError PositiveCounter :=
  match value with
  | .integer (.ofNat value) =>
    if range : 1 ≤ value ∧ value ≤ maxCounter then .ok ⟨value, range⟩
    else .error (.grantDenied (fieldName ++ " must be a positive strict integer"))
  | _ => .error (.grantDenied (fieldName ++ " must be a positive strict integer"))

/-- `_resolve_session_grant`. -/
def SessionGrantOwner.resolveSessionGrant (owner : SessionGrantOwner) (grant : GrantReference) :
    Except ProviderReadyActivationError IssuedWorkbenchGrant := do
  let grantId ← match grant with
    | .object grant => .ok grant.grantId.val
    | .identifier grantId => .ok grantId
    | .otherType => .error (.grantDenied "session grant identifier is invalid")
  let stored ← orRaise (owner.sessionGrants grantId)
    (.grantDenied "session grant is not owned by this activation process")
  match grant with
  | .object grant =>
    require (stored = grant)
      (.grantDenied "session grant bytes are not the owned immutable grant")
  | _ => .ok ()
  return stored

end Grants

section Requests

/-- What a session asks a grant for; `drawnId` is what `uuid4` draws. -/
structure IssueRequest where
  principalId : String
  sessionId : String
  capability : String
  issuedAtUnixMs : IntegerArgument
  policyApproved : Bool
  expiresAtUnixMs : Option IntegerArgument := none
  ttlMs : Option IntegerArgument := none
  grantId : Option String := none
  drawnId : String

/-- What a session presents with a grant. -/
structure AcceptRequest where
  principalId : String
  sessionId : String
  capability : Option String
  runtimeGeneration : IntegerArgument
  nowUnixMs : IntegerArgument
  activationGeneration : Option Int := none
  profileId : Option String := none
  profileDigest : Option Digest := none
  capabilityDigest : Option Digest := none

/-- When a requested grant would expire, within the current set's policy. -/
def IssueRequest.expiry (request : IssueRequest) (currentSet : WorkbenchGrantSet)
    (issuedAt : Counter) : Except ProviderReadyActivationError Nat :=
  match request.ttlMs, request.expiresAtUnixMs with
  | some ttlMs, _ => do
    let ttl ← validatePositiveInt ttlMs "ttl_ms"
    require (ttl.val ≤ currentSet.maxTtlMs)
      (.grantDenied "requested session-grant TTL exceeds policy")
    return issuedAt.val + ttl.val
  | none, some expiresAt => do
    let expires ← validateUnixMs expiresAt "expires_at_unix_ms"
    require (issuedAt.val < expires.val)
      (.grantDenied "session-grant expiry must follow issuance")
    require (expires.val - issuedAt.val ≤ currentSet.maxTtlMs)
      (.grantDenied "requested session-grant TTL exceeds policy")
    return expires.val
  -- `issue_session_grant` has refused a request with neither.
  | none, none => .error (.grantDenied "provide exactly one of ttl_ms or expires_at_unix_ms")

/-- The grant of the current set under a free id; the grant model checks its own fields. -/
def IssueRequest.grant (request : IssueRequest) (currentSet : WorkbenchGrantSet)
    (issuedAt : Counter) (live : String → Option IssuedWorkbenchGrant) :
    Except ProviderReadyActivationError IssuedWorkbenchGrant := do
  require (request.principalId ∈ currentSet.principalIds.map Subtype.val)
    (.grantDenied "principal is not present in the current grant set")
  require (request.capability ∈ currentSet.capabilities.map Subtype.val)
    (.grantDenied "capability is not present in the current grant set")
  let expires ← request.expiry currentSet issuedAt
  require (expires ≤ maxCounter)
    (.grantDenied "session-grant expiry exceeds the model counter domain")
  let actualGrantId := request.grantId.getD ("grant-" ++ request.drawnId)
  require (live actualGrantId = none) (.grantDenied "grant_id is already live in this activation")
  if valid : IsToken actualGrantId ∧ IsCapabilityName request.capability ∧
      IsToken request.principalId ∧ IsToken request.sessionId ∧ expires ≤ maxCounter ∧
      issuedAt.val < expires then
    return {
      grantId := ⟨actualGrantId, valid.1⟩
      grantSetDigest := currentSet.grantSetDigest
      capability := ⟨request.capability, valid.2.1⟩
      principalId := ⟨request.principalId, valid.2.2.1⟩
      sessionId := ⟨request.sessionId, valid.2.2.2.1⟩
      runtimeGeneration := currentSet.runtimeGeneration
      activationGeneration := currentSet.activationGeneration
      profileDigest := currentSet.profileDigest
      activationAuthorityDigest := currentSet.activationAuthorityDigest
      capabilityDigest := currentSet.capabilityDigest
      routeCatalogDigest := currentSet.routeCatalogDigest
      budget := currentSet.budgetCeiling
      issuedAtUnixMs := issuedAt
      expiresAtUnixMs := ⟨expires, valid.2.2.2.2.1⟩
      revoked := false
      ordered := valid.2.2.2.2.2 }
  else throw (.grantDenied "session-grant request is not valid")

/-- What a presented grant is compared with, in order, with the text of each refusal. -/
def AcceptRequest.checks (request : AcceptRequest) (stored : IssuedWorkbenchGrant)
    (currentSet : WorkbenchGrantSet) (generation : PositiveCounter) (now : Counter) :
    List (String × Bool) :=
  [("session grant runtime generation is stale", generation = currentSet.runtimeGeneration),
    ("session grant belongs to a different runtime generation",
      stored.runtimeGeneration = generation),
    ("session grant digest is not current", stored.grantSetDigest = currentSet.grantSetDigest),
    ("session grant activation generation is stale",
      stored.activationGeneration = currentSet.activationGeneration),
    ("session grant profile binding is stale", stored.profileDigest = currentSet.profileDigest),
    ("session grant activation authority is stale",
      stored.activationAuthorityDigest = currentSet.activationAuthorityDigest),
    ("session grant capability binding is stale",
      stored.capabilityDigest = currentSet.capabilityDigest),
    ("session grant route binding is stale",
      stored.routeCatalogDigest = currentSet.routeCatalogDigest),
    ("session grant principal binding does not match",
      stored.principalId.val = request.principalId),
    ("session grant session binding does not match", stored.sessionId.val = request.sessionId),
    ("session grant capability is not current", stored.capability ∈ currentSet.capabilities),
    ("session grant capability binding does not match",
      ∀ wanted ∈ request.capability, stored.capability.val = wanted),
    ("activation generation context does not match",
      ∀ wanted ∈ request.activationGeneration, wanted = currentSet.activationGeneration.val),
    ("profile context does not match",
      ∀ wanted ∈ request.profileId, wanted = currentSet.profileId.val),
    ("profile digest context does not match",
      ∀ wanted ∈ request.profileDigest, wanted = currentSet.profileDigest),
    ("capability digest context does not match",
      ∀ wanted ∈ request.capabilityDigest, wanted = currentSet.capabilityDigest),
    ("session grant is expired or not yet valid",
      ¬ (now.val < stored.issuedAtUnixMs.val ∨ stored.expiresAtUnixMs.val ≤ now.val))]

end Requests

section Calls

/-- `ProviderReadyActivationStore`: durable authority composed with the grants of its sessions. -/
structure ActivationStore where
  durable : GenerationStore
  sessions : SessionGrantOwner := {}

/-- A store as its constructor leaves it. -/
def ActivationStore.new (currentRuntimeGeneration : Option PositiveCounter) : ActivationStore where
  durable := { currentRuntimeGeneration }

/-- A computation of the composed store. -/
abbrev StoreM := EStateM ProviderReadyActivationError ActivationStore

/-- Run a computation of the durable store inside the composed one. -/
def onDurable {α : Type} (program : EStateM ProviderReadyActivationError GenerationStore α) :
    StoreM α := fun store =>
  match program store.durable with
  | .ok value durable => .ok value { store with durable }
  | .error error durable => .error error { store with durable }

/-- Replace the owner of the sessions. -/
def setSessions (sessions : SessionGrantOwner) : StoreM PUnit :=
  modify fun store => { store with sessions }

/-- `observe_activation`. -/
def observeActivation (grantSet : WorkbenchGrantSet) (replayed : Bool) : StoreM PUnit := do
  let owner := (← get).sessions
  if replayed = false ∧ owner.observedRuntimeGeneration ≠ some grantSet.runtimeGeneration then
    setSessions (.clear grantSet.runtimeGeneration)
  else
    setSessions { owner with observedRuntimeGeneration := some grantSet.runtimeGeneration }

/-- `publish`, as the composed store exposes it. -/
def publish (request : PublishRequest) (tree : PublicationAnswers) :
    StoreM ProviderReadyActivationResult := do
  let result ← onDurable (publishDurable request tree)
  observeActivation result.grantSet result.replayed
  return result

/-- `_require_current_grant_set`. -/
def requireCurrentGrantSet : StoreM WorkbenchGrantSet := do
  match (← get).durable.currentGrantSet with
  | none => throw (.grantDenied "no current post-generation activation exists")
  | some currentSet =>
    if (← get).sessions.observedRuntimeGeneration ≠ some currentSet.runtimeGeneration then
      setSessions (.clear currentSet.runtimeGeneration)
    return currentSet

/-- `_verify_current_persisted`. -/
def verifyCurrentPersisted (currentSet : WorkbenchGrantSet) (tree : VerificationAnswers) :
    StoreM PUnit := fun store =>
  match onDurable (verifyDurable currentSet tree) store with
  | .ok _ store => .ok ⟨⟩ store
  | .error _ store =>
    -- The failed verification may have adopted another generation.
    let store := match store.durable.currentGrantSet with
      | some refreshed =>
        if refreshed.runtimeGeneration ≠ currentSet.runtimeGeneration then
          { store with sessions := .clear refreshed.runtimeGeneration }
        else store
      | none => store
    .error (.grantDenied "current grant-set authority cannot be read back") store

/-- `issue_session_grant`. -/
def issueSessionGrant (request : IssueRequest) (tree : VerificationAnswers) :
    StoreM IssuedWorkbenchGrant := do
  demand (request.policyApproved = true)
    (.grantDenied "session grant issuance requires explicit policy approval")
  let issuedAt ← validateUnixMs request.issuedAtUnixMs "issued_at_unix_ms"
  demand (request.expiresAtUnixMs.isNone ≠ request.ttlMs.isNone)
    (.grantDenied "provide exactly one of ttl_ms or expires_at_unix_ms")
  let currentSet ← requireCurrentGrantSet
  verifyCurrentPersisted currentSet tree
  let owner := (← get).sessions
  let grant ← request.grant currentSet issuedAt owner.sessionGrants
  setSessions (owner.record grant)
  return grant

/-- `accept_session_grant`. -/
def acceptSessionGrant (grant : GrantReference) (request : AcceptRequest)
    (tree : VerificationAnswers) : StoreM IssuedWorkbenchGrant := do
  let generation ← validateGeneration request.runtimeGeneration
  let now ← validateUnixMs request.nowUnixMs "now_unix_ms"
  let stored ← (← get).sessions.resolveSessionGrant grant
  demand (stored.revoked = false) (.grantDenied "session grant is revoked")
  let currentSet ← requireCurrentGrantSet
  verifyCurrentPersisted currentSet tree
  match (request.checks stored currentSet generation now).find? fun check => !check.2 with
  | some check => throw (.grantDenied check.1)
  | none => return stored

/-- A grant with its mark of revocation. -/
def IssuedWorkbenchGrant.revoke (grant : IssuedWorkbenchGrant) : IssuedWorkbenchGrant :=
  { grant with revoked := true }

/-- `revoke_session_grant`. -/
def revokeSessionGrant (grant : GrantReference) : StoreM IssuedWorkbenchGrant := do
  let owner := (← get).sessions
  let stored ← owner.resolveSessionGrant grant
  setSessions (owner.record stored.revoke)
  return stored.revoke

/-- One call of the store, with what the authority tree answers it. -/
inductive StoreCall where
  | publish (request : PublishRequest) (tree : PublicationAnswers)
  | verifyPersisted (currentSet : WorkbenchGrantSet) (tree : VerificationAnswers)
  | issue (request : IssueRequest) (tree : VerificationAnswers)
  | accept (reference : GrantReference) (request : AcceptRequest) (tree : VerificationAnswers)
  | revoke (reference : GrantReference)

/-- What a call returns. -/
inductive StoreAnswer where
  | published (result : ProviderReadyActivationResult)
  | verified
  | issued (grant : IssuedWorkbenchGrant)
  | accepted (grant : IssuedWorkbenchGrant)
  | revoked (grant : IssuedWorkbenchGrant)

/-- The computation of a call. -/
def StoreCall.perform : StoreCall → StoreM StoreAnswer
  | .publish request tree => do
    let result ← Activation.publish request tree
    return .published result
  | .verifyPersisted currentSet tree => do
    onDurable (verifyDurable currentSet tree)
    return .verified
  | .issue request tree => do
    let grant ← issueSessionGrant request tree
    return .issued grant
  | .accept reference request tree => do
    let grant ← acceptSessionGrant reference request tree
    return .accepted grant
  | .revoke reference => do
    let grant ← revokeSessionGrant reference
    return .revoked grant

/-- The store after a call, whether it returned or raised. -/
def StoreCall.step (call : StoreCall) (store : ActivationStore) : ActivationStore :=
  final call.perform store

/-- What a call returns or raises. -/
def StoreCall.result (call : StoreCall) (store : ActivationStore) :
    Except ProviderReadyActivationError StoreAnswer :=
  answer call.perform store

end Calls

end Aar.Activation
