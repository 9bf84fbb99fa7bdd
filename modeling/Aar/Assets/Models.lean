import Aar.Activation.Store
import Aar.Lib.Guarded
import Aar.Lib.Sorting
import Aar.Schema.Documents
import Mathlib.Data.List.Dedup
import Mathlib.Data.Prod.Lex
import Mathlib.Data.String.Basic

/-! Adaptive assets: immutable documents that refer to each other by digest, and events on them. -/

namespace Aar.Assets

open Guarded Sorting

section References

/-- The kind of an asset. -/
inductive AssetKind where
  | agentFingerprint
  | episode
  | evaluation
  | outcome
  | proposal
  deriving DecidableEq

/-- The kind as it is stored. -/
def AssetKind.wire : AssetKind → String
  | agentFingerprint => "agent_fingerprint"
  | episode => "episode"
  | evaluation => "evaluation"
  | outcome => "outcome"
  | proposal => "proposal"

/-- The kind of an event. -/
inductive AssetEventKind where
  | selection
  | disclosure
  | use
  | outcome
  | attribution
  deriving DecidableEq

/-- `AdaptiveAssetRef`: an asset by its kind and by the digest of its manifest. -/
@[ext] structure AdaptiveAssetRef where
  kind : AssetKind
  digest : Digest
  deriving DecidableEq

/-- `_ref_key`: the pair that references are sorted by. -/
def refKey (reference : AdaptiveAssetRef) : String ×ₗ String :=
  toLex (reference.kind.wire, reference.digest)

/-- `_require_sorted_unique_refs`. -/
def SortedUniqueRefs (references : List AdaptiveAssetRef) : Prop :=
  SortedUnique (references.map refKey)

instance (references : List AdaptiveAssetRef) : Decidable (SortedUniqueRefs references) :=
  inferInstanceAs (Decidable (SortedUnique _))

/-- A set of references, listed by their keys. -/
def sortedRefs (references : List AdaptiveAssetRef) : List AdaptiveAssetRef :=
  sortedBy refKey references.dedup

end References

section Bodies

/-- `AgentFingerprint`. -/
structure AgentFingerprint where
  runtimeDigest : Digest
  capabilityDigest : Digest
  policyDigest : Digest
  toolSurfaceDigest : Option Digest
  deriving DecidableEq

/-- `Episode`, which used none but selected assets. -/
structure Episode where
  operation : OpaqueToken
  agent : AdaptiveAssetRef
  requestDigest : Digest
  selectedAssets : List AdaptiveAssetRef
  usedAssets : List AdaptiveAssetRef
  resultDigest : Option Digest
  agentKind : agent.kind = .agentFingerprint
  selected : SortedUniqueRefs selectedAssets
  used : SortedUniqueRefs usedAssets
  subset : ∀ reference ∈ usedAssets, reference ∈ selectedAssets
  deriving DecidableEq

/-- `OutcomeMetric`. -/
structure OutcomeMetric where
  name : Activation.CapabilityName
  valueMilli : Int
  unit : String
  value : -1000000000 ≤ valueMilli ∧ valueMilli ≤ 1000000000
  length : 1 ≤ unit.length ∧ unit.length ≤ 64
  deriving DecidableEq

/-- `Outcome`, whose state and certainty agree on what is indeterminate. -/
structure Outcome where
  episode : AdaptiveAssetRef
  state : OperationState
  certainty : OutcomeCertainty
  metrics : List OutcomeMetric
  evidence : List AdaptiveAssetRef
  episodeKind : episode.kind = .episode
  names : SortedUnique (metrics.map fun metric => metric.name.val)
  sorted : SortedUniqueRefs evidence
  explicit : state = .indeterminate ↔ certainty = .indeterminate
  deriving DecidableEq

/-- The decision of an evaluation. -/
inductive EvaluationDecision where
  | pass
  | fail
  | abstain
  deriving DecidableEq

/-- `Evaluation`: an abstention says what is uncertain and gives no score. -/
structure Evaluation where
  evaluator : AdaptiveAssetRef
  subjects : List AdaptiveAssetRef
  rubricDigest : Digest
  decision : EvaluationDecision
  scoreMilli : Option Nat
  uncertainty : Option String
  evaluatorKind : evaluator.kind = .agentFingerprint
  someSubject : subjects ≠ []
  sorted : SortedUniqueRefs subjects
  score : ∀ score ∈ scoreMilli, score ≤ 1000
  length : ∀ text ∈ uncertainty, 1 ≤ text.length ∧ text.length ≤ 512
  bounded : if decision = .abstain then scoreMilli = none ∧ uncertainty ≠ none
    else uncertainty = none
  deriving DecidableEq

/-- The pattern of a target: a letter or digit, and at most 255 plain characters after it. -/
def TargetPattern (target : String) : Prop :=
  target.toList.head?.any Char.isAlphanum ∧ target.toList.length ≤ 256 ∧
    target.toList.tail.all fun char => char.isAlphanum || ['.', '_', '~', '/', '-'].contains char

/-- `Proposal`. -/
structure Proposal where
  target : String
  basedOn : List AdaptiveAssetRef
  candidateDigest : Digest
  rollbackDigest : Option Digest
  rationaleDigest : Digest
  confidenceMilli : Nat
  pattern : TargetPattern target
  someBase : basedOn ≠ []
  sorted : SortedUniqueRefs basedOn
  confidence : confidenceMilli ≤ 1000
  deriving DecidableEq

/-- `AdaptiveAssetBody`. -/
inductive AdaptiveAssetBody where
  | agentFingerprint (body : AgentFingerprint)
  | episode (body : Episode)
  | evaluation (body : Evaluation)
  | outcome (body : Outcome)
  | proposal (body : Proposal)
  deriving DecidableEq

/-- The kind of a body. -/
def AdaptiveAssetBody.assetKind : AdaptiveAssetBody → AssetKind
  | agentFingerprint _ => .agentFingerprint
  | episode _ => .episode
  | evaluation _ => .evaluation
  | outcome _ => .outcome
  | proposal _ => .proposal

/-- The schema version of a body. -/
def AdaptiveAssetBody.schemaVersion : AdaptiveAssetBody → String
  | agentFingerprint _ => "aar.agent-fingerprint.v1"
  | episode _ => "aar.episode.v1"
  | evaluation _ => "aar.evaluation.v1"
  | outcome _ => "aar.outcome.v1"
  | proposal _ => "aar.proposal.v1"

/-- `body_dependencies`. -/
def bodyDependencies (body : AdaptiveAssetBody) : List AdaptiveAssetRef :=
  sortedRefs <| match body with
    | .agentFingerprint _ => []
    | .episode body => body.agent :: (body.selectedAssets ++ body.usedAssets)
    | .outcome body => body.episode :: body.evidence
    | .evaluation body => body.evaluator :: body.subjects
    | .proposal body => body.basedOn

end Bodies

section Documents

/-- What the digest of a manifest is taken of. -/
structure ManifestCore where
  schemaVersion : String
  kind : AssetKind
  bodySchemaVersion : String
  bodyDigest : Digest
  previous : Option AdaptiveAssetRef
  dependencies : List AdaptiveAssetRef
  deriving DecidableEq

/-- `AdaptiveAssetManifest`. -/
structure AdaptiveAssetManifest where
  asset : AdaptiveAssetRef
  bodySchemaVersion : String
  bodyDigest : Digest
  previous : Option AdaptiveAssetRef
  dependencies : List AdaptiveAssetRef
  manifestDigest : Digest
  deriving DecidableEq

/-- The schema version of manifests. -/
def ADAPTIVE_ASSET_SCHEMA_VERSION : String := "aar.adaptive-asset.v1"

/-- The part of a manifest that its digest binds. -/
def AdaptiveAssetManifest.core (manifest : AdaptiveAssetManifest) : ManifestCore where
  schemaVersion := ADAPTIVE_ASSET_SCHEMA_VERSION
  kind := manifest.asset.kind
  bodySchemaVersion := manifest.bodySchemaVersion
  bodyDigest := manifest.bodyDigest
  previous := manifest.previous
  dependencies := manifest.dependencies

/-- `AdaptiveAssetDocument`. -/
structure AdaptiveAssetDocument where
  manifest : AdaptiveAssetManifest
  body : AdaptiveAssetBody
  deriving DecidableEq

/-- `AssetAttribution`. -/
structure AssetAttribution where
  source : AdaptiveAssetRef
  target : AdaptiveAssetRef
  relation : Activation.CapabilityName
  weightMilli : Nat
  weight : weightMilli ≤ 1000
  deriving DecidableEq

/-- What attributions are sorted by. -/
def AssetAttribution.key (attribution : AssetAttribution) :
    (String ×ₗ String) ×ₗ (String ×ₗ String) ×ₗ String :=
  toLex (refKey attribution.source, toLex (refKey attribution.target, attribution.relation.val))

/-- What the digest of an event is taken of. -/
structure EventCore where
  kind : AssetEventKind
  operation : OpaqueToken
  agent : Option AdaptiveAssetRef
  episode : Option AdaptiveAssetRef
  assets : List AdaptiveAssetRef
  outcome : Option AdaptiveAssetRef
  attributions : List AssetAttribution
  detailsDigest : Digest
  deriving DecidableEq

/-- `AdaptiveAssetEvent`. -/
structure AdaptiveAssetEvent extends EventCore where
  eventDigest : Digest
  deriving DecidableEq

/-- SHA-256 of the canonical bytes of each document that is hashed. -/
structure Hashing where
  body (body : AdaptiveAssetBody) : Digest
  manifest (core : ManifestCore) : Digest
  event (core : EventCore) : Digest
  bundle (documents : List AdaptiveAssetDocument) (events : List AdaptiveAssetEvent) : Digest

variable (hashing : Hashing)

/-- `manifest_is_content_bound`. -/
def AdaptiveAssetManifest.Valid (manifest : AdaptiveAssetManifest) : Prop :=
  SortedUniqueRefs manifest.dependencies ∧ manifest.asset.digest = manifest.manifestDigest ∧
    (∀ previous ∈ manifest.previous, previous.kind = manifest.asset.kind) ∧
    manifest.manifestDigest = hashing.manifest manifest.core

instance (manifest : AdaptiveAssetManifest) : Decidable (manifest.Valid hashing) :=
  inferInstanceAs (Decidable (_ ∧ _))

/-- `document_matches_manifest`, of a manifest that is valid itself. -/
def AdaptiveAssetDocument.Valid (document : AdaptiveAssetDocument) : Prop :=
  document.manifest.Valid hashing ∧ document.manifest.asset.kind = document.body.assetKind ∧
    document.manifest.bodySchemaVersion = document.body.schemaVersion ∧
    document.manifest.bodyDigest = hashing.body document.body ∧
    document.manifest.dependencies = bodyDependencies document.body

instance (document : AdaptiveAssetDocument) : Decidable (document.Valid hashing) :=
  inferInstanceAs (Decidable (_ ∧ _))

/-- `event_is_explicit_and_content_bound`. -/
def AdaptiveAssetEvent.Valid (event : AdaptiveAssetEvent) : Prop :=
  SortedUniqueRefs event.assets ∧ SortedUnique (event.attributions.map AssetAttribution.key) ∧
    (∀ agent ∈ event.agent, agent.kind = .agentFingerprint) ∧
    (∀ episode ∈ event.episode, episode.kind = .episode) ∧
    (event.kind ∈ [.selection, .disclosure, .use] → event.assets ≠ []) ∧
    (if event.kind = .outcome then
      event.episode ≠ none ∧ ∃ outcome ∈ event.outcome, outcome.kind = .outcome
    else event.outcome = none) ∧
    (event.kind = .attribution → event.attributions ≠ []) ∧
    event.eventDigest = hashing.event event.toEventCore

instance (event : AdaptiveAssetEvent) : Decidable (event.Valid hashing) :=
  inferInstanceAs (Decidable (_ ∧ _))

/-- `AdaptiveAssetDocument.issue`. -/
def AdaptiveAssetDocument.issue (body : AdaptiveAssetBody)
    (previous : Option AdaptiveAssetRef) : AdaptiveAssetDocument :=
  let core : ManifestCore := {
    schemaVersion := ADAPTIVE_ASSET_SCHEMA_VERSION
    kind := body.assetKind
    bodySchemaVersion := body.schemaVersion
    bodyDigest := hashing.body body
    previous := previous
    dependencies := bodyDependencies body }
  let digest := hashing.manifest core
  { manifest := {
      asset := ⟨body.assetKind, digest⟩
      bodySchemaVersion := body.schemaVersion
      bodyDigest := core.bodyDigest
      previous := previous
      dependencies := core.dependencies
      manifestDigest := digest }
    body := body }

/-- `AdaptiveAssetBundle`. -/
structure AdaptiveAssetBundle where
  documents : List AdaptiveAssetDocument
  events : List AdaptiveAssetEvent
  bundleDigest : Digest
  deriving DecidableEq

/-- `bundle_is_canonical`, with the documents and the events valid themselves. -/
structure AdaptiveAssetBundle.Valid (bundle : AdaptiveAssetBundle) : Prop where
  documents : ∀ document ∈ bundle.documents, document.Valid hashing
  events : ∀ event ∈ bundle.events, event.Valid hashing
  sortedDocuments : SortedUnique (bundle.documents.map fun item => item.manifest.asset.digest)
  sortedEvents : SortedUnique (bundle.events.map fun item => item.eventDigest)
  bound : bundle.bundleDigest = hashing.bundle bundle.documents bundle.events

end Documents

end Aar.Assets
