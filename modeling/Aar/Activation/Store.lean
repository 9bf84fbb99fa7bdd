import Aar.Lib.Guarded
import Aar.Lib.Stateful
import Aar.Lib.Table
import Aar.Schema.States
import Aar.Schema.Texts
import Mathlib.Data.List.Basic

/-! The durable grant set of the current runtime generation, as one process holds it. -/

namespace Aar.Activation

open Guarded Stateful

section Models

/-- The largest counter of the models. -/
def maxCounter : Nat := 9223372036854775807

/-- A counter that may be zero. -/
abbrev Counter := { value : Nat // value ≤ maxCounter }

/-- A counter that starts at one. -/
abbrev PositiveCounter := { value : Nat // 1 ≤ value ∧ value ≤ maxCounter }

/-- A capability name: words of lower case letters and digits, the first begun by a letter. -/
def IsCapabilityName (name : String) : Prop :=
  name.toList.head?.any Char.isLower ∧
    ∀ word ∈ name.toList.splitOnP (· ∈ "._-".toList),
      word ≠ [] ∧ ∀ character ∈ word, character.isLower ∨ character.isDigit

instance (name : String) : Decidable (IsCapabilityName name) :=
  -- The characters are decided along the words, never by going through all of `Char`.
  have := List.decidableBAll (fun word : List Char => word ≠ [] ∧
    word.all fun character => character.isLower || character.isDigit)
    (name.toList.splitOnP (· ∈ "._-".toList))
  decidable_of_iff (name.toList.head?.any Char.isLower ∧
    ∀ word ∈ name.toList.splitOnP (· ∈ "._-".toList),
      word ≠ [] ∧ word.all fun character => character.isLower || character.isDigit)
    (by simp only [IsCapabilityName, List.all_eq_true, Bool.or_eq_true])

/-- A capability name, as a value of its own. -/
abbrev CapabilityName := { text : String // IsCapabilityName text }

/-- The budgets that a grant set allows one grant. -/
structure GrantBudgetCeiling where
  wallTimeMs : Nat
  modelRequests : Nat
  inputTokens : Counter
  outputTokens : Counter
  childOperations : Nat
  artifactBytes : Nat
  wallTime : 1000 ≤ wallTimeMs ∧ wallTimeMs ≤ maxCounter
  requests : 1 ≤ modelRequests ∧ modelRequests ≤ 128
  children : childOperations ≤ 64
  bytes : artifactBytes ≤ 33554432
  deriving DecidableEq

/-- The workbench policy of one runtime generation. -/
structure WorkbenchGrantSet where
  runtimeGeneration : PositiveCounter
  activationGeneration : PositiveCounter
  profileId : Token
  profileDigest : Digest
  activationAuthorityDigest : Digest
  capabilityDigest : Digest
  routeCatalogDigest : Digest
  principalIds : List Token
  capabilities : List CapabilityName
  budgetCeiling : GrantBudgetCeiling
  maxTtlMs : Nat
  grantSetDigest : Digest
  ttl : 1000 ≤ maxTtlMs ∧ maxTtlMs ≤ maxCounter
  deriving DecidableEq

/-- The errors of activation and of session grants. -/
inductive ProviderReadyActivationError where
  | activationStoreError (message : String)
  | activationGenerationConflict (message : String)
  | activationBindingMismatch (message : String)
  | grantDenied (message : String)
  deriving DecidableEq

/-- An argument that should be an integer, or a value of another type. -/
inductive IntegerArgument where
  | integer (value : Int)
  | otherType
  deriving DecidableEq

/-- `_validate_generation`. -/
def validateGeneration (value : IntegerArgument) :
    Except ProviderReadyActivationError PositiveCounter :=
  match value with
  | .integer (.ofNat value) =>
    if range : 1 ≤ value ∧ value ≤ maxCounter then .ok ⟨value, range⟩
    else .error (.activationBindingMismatch "runtime_generation must be a positive strict integer")
  | _ =>
    .error (.activationBindingMismatch "runtime_generation must be a positive strict integer")

end Models

section Bindings

/-- A request to publish a grant set with the bindings it is expected to have. -/
structure PublishRequest where
  grantSet : WorkbenchGrantSet
  runtimeGeneration : Option IntegerArgument := none
  activationGeneration : Option Int := none
  profileId : Option String := none
  profileDigest : Option Digest := none
  capabilityDigest : Option Digest := none
  activationAuthorityDigest : Option Digest := none
  routeCatalogDigest : Option Digest := none

/-- The bindings that a grant set is compared with. -/
structure ExpectedBindings where
  runtimeGeneration : PositiveCounter
  activationGeneration : Int
  profileId : String
  profileDigest : Digest
  capabilityDigest : Digest
  activationAuthorityDigest : Digest
  routeCatalogDigest : Digest

/-- The fields of a grant set in the order they are compared, with what the comparison says. -/
def ExpectedBindings.checks (expected : ExpectedBindings) (grantSet : WorkbenchGrantSet) :
    List (String × Bool) :=
  [("runtime_generation", expected.runtimeGeneration = grantSet.runtimeGeneration),
    ("activation_generation", expected.activationGeneration = grantSet.activationGeneration.val),
    ("profile_id", expected.profileId = grantSet.profileId.val),
    ("profile_digest", expected.profileDigest = grantSet.profileDigest),
    ("capability_digest", expected.capabilityDigest = grantSet.capabilityDigest),
    ("activation_authority_digest",
      expected.activationAuthorityDigest = grantSet.activationAuthorityDigest),
    ("route_catalog_digest", expected.routeCatalogDigest = grantSet.routeCatalogDigest)]

/-- `_check_persisted_binding`. -/
def checkPersistedBinding (grantSet : WorkbenchGrantSet) (expected : ExpectedBindings) :
    Except ProviderReadyActivationError Unit :=
  match (expected.checks grantSet).find? fun check => !check.2 with
  | none => .ok ()
  | some check => .error (.activationBindingMismatch
      ("grant-set " ++ check.1 ++ " does not match the current activation binding"))

/-- The generation that a request names, or else the one of its grant set. -/
def PublishRequest.generation (request : PublishRequest) :
    Except ProviderReadyActivationError PositiveCounter :=
  match request.runtimeGeneration with
  | none => .ok request.grantSet.runtimeGeneration
  | some value => validateGeneration value

/-- `_validate_bindings`. -/
def validateBindings (request : PublishRequest) :
    Except ProviderReadyActivationError ExpectedBindings := do
  let grantSet := request.grantSet
  let generation ← request.generation
  let expected : ExpectedBindings :=
    { runtimeGeneration := generation
      activationGeneration := request.activationGeneration.getD grantSet.activationGeneration.val
      profileId := request.profileId.getD grantSet.profileId.val
      profileDigest := request.profileDigest.getD grantSet.profileDigest
      capabilityDigest := request.capabilityDigest.getD grantSet.capabilityDigest
      activationAuthorityDigest :=
        request.activationAuthorityDigest.getD grantSet.activationAuthorityDigest
      routeCatalogDigest := request.routeCatalogDigest.getD grantSet.routeCatalogDigest }
  checkPersistedBinding grantSet expected
  return expected

end Bindings

section Store

/-- `ActivationGenerationStore`: what one process knows of the current generation. -/
structure GenerationStore where
  currentRuntimeGeneration : Option PositiveCounter
  currentGrantSet : Option WorkbenchGrantSet := none
  deriving DecidableEq

/-- The published generations that a scan of the authority tree found. -/
abbrev DurableGenerations := List WorkbenchGrantSet

/-- The refusal of a generation that is older than the current one. -/
def GenerationStore.refuseOlder (store : GenerationStore) (generation : PositiveCounter) :
    Except ProviderReadyActivationError Unit :=
  require (∀ current ∈ store.currentRuntimeGeneration, ¬ generation.val < current.val)
    (.activationGenerationConflict ("runtime generation " ++ toString generation.val ++
      " is older than current generation " ++
      ((store.currentRuntimeGeneration.map fun current => toString current.val).getD "None")))

/-- `_establish_durable_fence`: adopt the highest published generation. -/
def GenerationStore.establishDurableFence (store : GenerationStore)
    (generations : DurableGenerations) : Except ProviderReadyActivationError GenerationStore :=
  match Table.fetchMax generations (fun _ => True) fun found => found.runtimeGeneration.val with
  | none => .ok store
  | some highest =>
    let adopted : GenerationStore := ⟨some highest.runtimeGeneration, some highest⟩
    match store.currentRuntimeGeneration with
    | none => .ok adopted
    | some current =>
      if current.val < highest.runtimeGeneration.val then .ok adopted
      else if current = highest.runtimeGeneration then
        match store.currentGrantSet with
        | none => .ok { store with currentGrantSet := some highest }
        | some held => do
          require (held = highest)
            (.activationGenerationConflict "current generation grant-set bytes changed")
          return store
      else .ok store

/-- `_set_current`. -/
def GenerationStore.setCurrent (store : GenerationStore) (generation : PositiveCounter)
    (grantSet : WorkbenchGrantSet) : Except ProviderReadyActivationError GenerationStore := do
  store.refuseOlder generation
  require (store.currentRuntimeGeneration = some generation →
      ∀ held ∈ store.currentGrantSet, held = grantSet)
    (.activationGenerationConflict "current generation grant-set bytes changed")
  return ⟨some generation, some grantSet⟩

/-- `ProviderReadyActivationResult`. -/
structure ProviderReadyActivationResult where
  grantSet : WorkbenchGrantSet
  runtimeGeneration : PositiveCounter
  replayed : Bool
  deriving DecidableEq

/-- What the authority tree answers one publication, while other stores may write to it. -/
structure PublicationAnswers where
  scan : Except ProviderReadyActivationError DurableGenerations
  existing : Except ProviderReadyActivationError (Option WorkbenchGrantSet)
  readback : Except ProviderReadyActivationError WorkbenchGrantSet

/-- What the authority tree answers one verification. -/
structure VerificationAnswers where
  scan : Except ProviderReadyActivationError DurableGenerations
  read : Except ProviderReadyActivationError WorkbenchGrantSet

/-- `ActivationGenerationStore.publish`. -/
def publishDurable (request : PublishRequest) (tree : PublicationAnswers) :
    EStateM ProviderReadyActivationError GenerationStore ProviderReadyActivationResult := do
  let expected ← validateBindings request
  let generation := expected.runtimeGeneration
  (← get).refuseOlder generation
  let generations ← tree.scan
  -- The fence that a scan establishes stays when a later check refuses the publication.
  set (← (← get).establishDurableFence generations)
  (← get).refuseOlder generation
  match ← tree.existing with
  | some existing =>
    checkPersistedBinding existing expected
    demand (existing = request.grantSet) (.activationGenerationConflict ("runtime generation " ++
      toString generation.val ++ " already contains different grant-set bytes"))
    set (← (← get).setCurrent generation existing)
    return { grantSet := existing, runtimeGeneration := generation, replayed := true }
  | none =>
    let readback ← tree.readback
    demand (readback = request.grantSet) (.activationStoreError
      "published grant-set readback is not byte-identical to requested bytes")
    set (← (← get).setCurrent generation readback)
    return { grantSet := readback, runtimeGeneration := generation, replayed := false }

/-- `ActivationGenerationStore.verify_persisted`. -/
def verifyDurable (currentSet : WorkbenchGrantSet) (tree : VerificationAnswers) :
    EStateM ProviderReadyActivationError GenerationStore Unit := do
  let generations ← tree.scan
  set (← (← get).establishDurableFence generations)
  let store ← get
  demand (store.currentRuntimeGeneration = some currentSet.runtimeGeneration ∧
      store.currentGrantSet = some currentSet)
    (.activationStoreError "current grant-set authority changed")
  let persisted ← tree.read
  demand (persisted = currentSet) (.activationStoreError "current grant-set authority changed")

end Store

end Aar.Activation
