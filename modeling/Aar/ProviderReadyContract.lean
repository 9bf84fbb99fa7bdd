import Aar.Canonical
import Aar.Lib.JsonLimits

/-! Strict loading and validation of provider-ready documents from their bytes. -/

namespace Aar.ProviderReadyContract

open Guarded Utf8 StrictJson

section Errors

/-- `ProviderReadyContractError`: a document's bytes or its dispatch are refused. -/
inductive ContractError where
  | bom
  | utf8
  | duplicateKey (key : Text)
  | float (literal : Text)
  | nonfinite (word : Text)
  | jsonSyntax
  | jsonTrailingData
  | nonObject
  | schemaMissing
  | schemaType
  | schemaUnknown (schemaId : Text)
  | schemaMismatch (schemaId expected : Text)
  deriving DecidableEq

/-- The code of each class of errors. -/
def ContractError.code : ContractError → String
  | .bom => "UTF8_BOM"
  | .utf8 => "UTF8_DECODE"
  | .duplicateKey _ => "DUPLICATE_KEY"
  | .float _ => "FLOAT_NOT_ALLOWED"
  | .nonfinite _ => "NONFINITE_NOT_ALLOWED"
  | .jsonSyntax => "JSON_SYNTAX"
  | .jsonTrailingData => "JSON_TRAILING_DATA"
  | .nonObject => "NON_OBJECT_ROOT"
  | .schemaMissing => "SCHEMA_VERSION_MISSING"
  | .schemaType => "SCHEMA_VERSION_TYPE"
  | .schemaUnknown _ => "SCHEMA_VERSION_UNKNOWN"
  | .schemaMismatch _ _ => "SCHEMA_VERSION_MISMATCH"

/-- The text that an error is raised with, strings being shown as `repr` shows them. -/
def ContractError.message (repr : Text → String) : ContractError → String
  | .bom => "UTF-8 BOM is not allowed"
  | .utf8 => "data is not valid UTF-8"
  | .duplicateKey key => "duplicate object key " ++ repr key
  | .float literal => "JSON floating-point value " ++ repr literal ++ " is not allowed"
  | .nonfinite word => "JSON non-finite value " ++ repr word ++ " is not allowed"
  | .jsonSyntax => "JSON syntax is invalid"
  | .jsonTrailingData => "JSON contains trailing data"
  | .nonObject => "JSON root must be an object"
  | .schemaMissing => "schema_version field is required"
  | .schemaType => "schema_version must be a string"
  | .schemaUnknown schemaId => "unknown schema_version " ++ repr schemaId
  | .schemaMismatch schemaId expected =>
    "schema_version " ++ repr schemaId ++ " does not match expected " ++ repr expected

/-- The text of an error, its code standing first. -/
def ContractError.text (repr : Text → String) (error : ContractError) : String :=
  error.code ++ ": " ++ error.message repr

/-- Everything that loading and validating a document raise. -/
inductive Failure (ν : Type) where
  | contract (error : ContractError)
  | validation (error : ν)
  | recursion
  | integerDigits
  | type (message : String)
  | unicodeEncode
  deriving DecidableEq

end Errors

section Registry

/-- `PROVIDER_READY_SCHEMA_MODELS`: the models that documents are validated with. -/
inductive SchemaModel where
  | methodAdapterManifest
  | hostActivationIntent
  | hostActivationProfile
  | activationGenerationAuthority
  | cutoverPlan
  | operatorPreparedMarker
  | cutoverReceipt
  | restoreReceipt
  | operatorTerminalMarker
  | activationReadback
  | workbenchGrantSet
  | providerAliasAttestation
  | evaluationEvidenceClassification
  | pairedEvaluationAdmission
  deriving DecidableEq

/-- The schema identifier that a model is registered under. -/
def SchemaModel.schemaId : SchemaModel → String
  | .methodAdapterManifest => "aar.method-adapter-manifest.v1"
  | .hostActivationIntent => "aar.host-activation-intent.v1"
  | .hostActivationProfile => "aar.host-activation-profile.v1"
  | .activationGenerationAuthority => "aar.activation-generation-authority.v1"
  | .cutoverPlan => "aar.cutover-plan.v1"
  | .operatorPreparedMarker => "aar.operator-prepared-marker.v1"
  | .cutoverReceipt => "aar.cutover-receipt.v1"
  | .restoreReceipt => "aar.restore-receipt.v1"
  | .operatorTerminalMarker => "aar.operator-terminal-marker.v1"
  | .activationReadback => "aar.activation-readback.v1"
  | .workbenchGrantSet => "aar.workbench-grant-set.v1"
  | .providerAliasAttestation => "aar.provider-alias-attestation.v1"
  | .evaluationEvidenceClassification => "aar.evaluation-evidence-classification.v1"
  | .pairedEvaluationAdmission => "aar.paired-evaluation-admission.v1"

/-- `_SCHEMA_MODELS`. -/
def schemaModels : List SchemaModel :=
  [.methodAdapterManifest, .hostActivationIntent, .hostActivationProfile]

/-- `_OPERATOR_SCHEMA_MODELS`. -/
def operatorSchemaModels : List SchemaModel :=
  [.activationGenerationAuthority, .cutoverPlan, .operatorPreparedMarker, .cutoverReceipt,
    .restoreReceipt, .operatorTerminalMarker]

/-- `_RUNTIME_SCHEMA_MODELS`. -/
def runtimeSchemaModels : List SchemaModel := [.activationReadback, .workbenchGrantSet]

/-- `_EVALUATION_SCHEMA_MODELS`. -/
def evaluationSchemaModels : List SchemaModel :=
  [.providerAliasAttestation, .evaluationEvidenceClassification, .pairedEvaluationAdmission]

/-- The models of a registry under their identifiers. -/
def registered (models : List SchemaModel) : List (Text × SchemaModel) :=
  models.map fun model => (text model.schemaId, model)

/-- `_merge_schema_registries`: one model after the other, unless its key is there already. -/
def mergeSchemaRegistries (merged : List (Text × SchemaModel)) :
    List (Text × SchemaModel) → Except Text (List (Text × SchemaModel))
  | [] => .ok merged
  | (schemaId, model) :: rest =>
    if schemaId ∈ merged.map Prod.fst then .error schemaId
    else mergeSchemaRegistries (merged ++ [(schemaId, model)]) rest

/-- The registry that documents are dispatched by. -/
def providerReadySchemaModels : List (Text × SchemaModel) :=
  registered (schemaModels ++ operatorSchemaModels ++ runtimeSchemaModels ++
    evaluationSchemaModels)

/-- The registries are merged without a key that occurs twice. -/
theorem mergeSchemaRegistries_ok :
    mergeSchemaRegistries [] (registered schemaModels ++ registered operatorSchemaModels ++
      registered runtimeSchemaModels ++ registered evaluationSchemaModels) =
        .ok providerReadySchemaModels := by
  decide +kernel

/-- `PROVIDER_READY_SCHEMA_MODELS.get`: the model of a schema identifier. -/
def schemaModel (schemaId : Text) : Option SchemaModel :=
  providerReadySchemaModels.lookup schemaId

end Registry

section Loading

variable {ν : Type}

/-- What the interpreter can do: the digits of an integer that it converts, how deep the scanner
and the writer of JSON recurse, how many frames are left for calls, and how many of them a list
comprehension takes besides the call that it is in. -/
structure Limits where
  digits : Nat
  scanDepth : Nat
  writeDepth : Nat
  frames : Nat
  comprehension : Nat

/-- The digits of a literal. -/
def literalDigits (literal : Text) : Text :=
  match literal with
  | [] => []
  | point :: rest => if point.val = 0x2d then rest else point :: rest

/-- A literal has no more digits than `int` converts. -/
def Limits.Admits (limits : Limits) (literal : Text) : Prop :=
  (literalDigits literal).length ≤ limits.digits

instance (limits : Limits) : DecidablePred limits.Admits :=
  fun _ => inferInstanceAs (Decidable (_ ≤ _))

/-- `reject_duplicate_object_keys`: the entries of an object, unless a key occurs again. -/
def rejectDuplicateObjectKeys (result : List (Text × Value)) :
    List (Text × Value) → Except (Failure ν) (List (Text × Value))
  | [] => .ok result
  | (key, value) :: rest =>
    if key ∈ result.map Prod.fst then .error (.contract (.duplicateKey key))
    else rejectDuplicateObjectKeys (result ++ [(key, value)]) rest

/-- The hooks that a document is scanned with: floats and constants are refused. -/
def hooks (limits : Limits) : Hooks (Failure ν) Value where
  null := .null
  bool := .bool
  string := .str
  list := .arr
  integer literal :=
    if limits.Admits literal then .ok (.int (literalValue literal)) else .error .integerDigits
  float literal := .error (.contract (.float literal))
  constant word := .error (.contract (.nonfinite word))
  object pairs := do
    let entries ← rejectDuplicateObjectKeys [] pairs
    return .obj entries

/-- What loading raises for what scanning raised: errors of the JSON syntax are caught, and all
others are raised as they are. -/
def scanFailure : ScanError (Failure ν) → Failure ν
  | .invalid => .contract .jsonSyntax
  | .extraData => .contract .jsonTrailingData
  | .recursion => .recursion
  | .raised error => error

/-- The bytes of a byte order mark. -/
def byteOrderMark : List UInt8 := [0xef, 0xbb, 0xbf]

/-- `load_provider_ready_json_bytes`: the entries of the object that the bytes are. -/
def loadProviderReadyJsonBytes (limits : Limits) (data : List UInt8) :
    Except (Failure ν) (List (Text × Value)) := do
  require (¬ byteOrderMark <+: data) (.contract .bom)
  let input ← orRaise (decode data) (.contract .utf8)
  match loads (hooks limits) limits.scanDepth input with
  | .error error => .error (scanFailure error)
  | .ok (.obj entries) => .ok entries
  | .ok _ => .error (.contract .nonObject)

end Loading

section Validation

variable {ν δ : Type}

/-- How many frames of calls it takes to normalize a value. -/
def Limits.framesOf (limits : Limits) (value : Value) : Nat :=
  value.height 1 (1 + limits.comprehension) 1

/-- `canonical_json_bytes` within the limits of the interpreter: the calls are counted, then the
arrays and objects that are written, the digits of every integer, and last the characters. -/
def canonicalBytes (limits : Limits) (value : Value) : Except (Failure ν) (List UInt8) := do
  require (limits.framesOf value ≤ limits.frames) .recursion
  require (value.depth ≤ limits.writeDepth) .recursion
  require (∀ number ∈ value.integers, limits.Admits (intText number)) .integerDigits
  match Canonical.canonicalJsonBytes (Canonical.ofJson value) with
  | .ok bytes => .ok bytes
  | .error (.type message) => .error (.type message)
  | .error .unicodeEncode => .error .unicodeEncode

/-- The models of documents: the documents that there are, the model and the JSON dump of each, and
what `model_validate_json` makes of bytes. -/
structure Models (ν δ : Type) where
  model : δ → SchemaModel
  dump : δ → Canonical.PyValue
  validate : SchemaModel → List UInt8 → Except ν δ

/-- A schema version is a string. -/
def schemaIdOf (version : Value) : Except (Failure ν) Text :=
  match version with
  | .str schemaId => .ok schemaId
  | _ => .error (.contract .schemaType)

/-- A schema version is the expected one, if one is expected. -/
def requireExpected (schemaId : Text) (expectedSchemaId : Option Text) :
    Except (Failure ν) Unit :=
  match expectedSchemaId with
  | none => .ok ()
  | some expected =>
    require (schemaId = expected) (.contract (.schemaMismatch schemaId expected))

/-- The model that a document is dispatched to by its schema version. -/
def dispatch (document : List (Text × Value)) (expectedSchemaId : Option Text) :
    Except (Failure ν) SchemaModel := do
  let version ← orRaise (document.lookup (text "schema_version")) (.contract .schemaMissing)
  let schemaId ← schemaIdOf version
  let model ← orRaise (schemaModel schemaId) (.contract (.schemaUnknown schemaId))
  requireExpected schemaId expectedSchemaId
  return model

/-- What is raised or returned for what the model makes of bytes. -/
def validated (result : Except ν δ) : Except (Failure ν) δ :=
  match result with
  | .ok found => .ok found
  | .error error => .error (.validation error)

/-- `validate_provider_ready_document_bytes`: the document that the bytes are. -/
def validateProviderReadyDocumentBytes (limits : Limits) (models : Models ν δ)
    (data : List UInt8) (expectedSchemaId : Option Text) : Except (Failure ν) δ := do
  let document ← loadProviderReadyJsonBytes limits data
  let model ← dispatch document expectedSchemaId
  let bytes ← canonicalBytes limits (.obj document)
  validated (models.validate model bytes)

end Validation

end Aar.ProviderReadyContract
