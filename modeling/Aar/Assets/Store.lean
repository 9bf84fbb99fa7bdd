import Aar.Assets.Models
import Aar.Lib.Dictionary
import Aar.Lib.Run
import Aar.Lib.Table
import Aar.Lib.Traversal

/-! The catalogue of adaptive assets: bundles come in as a whole or not at all, and go out
closed. -/

namespace Aar.Assets

open Guarded Sorting Table

section References

/-- `_document_references`. -/
def documentReferences (document : AdaptiveAssetDocument) : List AdaptiveAssetRef :=
  sortedRefs (document.manifest.dependencies ++ document.manifest.previous.toList)

/-- `_event_references`. -/
def eventReferences (event : AdaptiveAssetEvent) : List AdaptiveAssetRef :=
  sortedRefs (event.assets ++ event.agent.toList ++ event.episode.toList ++
    event.outcome.toList ++ event.attributions.flatMap fun item => [item.source, item.target])

end References

section Rows

/-- A row of `asset_bodies`, with the body that its text spells. -/
structure BodyRow where
  bodyDigest : Digest
  kind : AssetKind
  schemaVersion : String
  body : AdaptiveAssetBody
  deriving DecidableEq

/-- A row of `asset_manifests`, with the document that its text spells. -/
structure ManifestRow where
  manifestDigest : Digest
  kind : AssetKind
  bodyDigest : Digest
  document : AdaptiveAssetDocument
  deriving DecidableEq

/-- A row of `asset_events`, with the event that its text spells. -/
structure EventRow where
  eventDigest : Digest
  eventKind : AssetEventKind
  episodeDigest : Option Digest
  event : AdaptiveAssetEvent
  deriving DecidableEq

/-- The tables of the catalogue. -/
structure AdaptiveAssetStore where
  bodies : List BodyRow := []
  manifests : List ManifestRow := []
  events : List EventRow := []
  deriving DecidableEq

/-- The errors of the catalogue. -/
inductive AssetError where
  | assetConflict (message : String)
  | assetReferenceMissing (message : String)
  | keyError (digest : Digest)
  | valueError (message : String)
  | validationError
  | integrityError
  | assertionError
  deriving DecidableEq

/-- `AssetImportResult`. -/
structure AssetImportResult where
  bundleDigest : Digest
  assetCount : Nat
  eventCount : Nat
  deriving DecidableEq

end Rows

variable (hashing : Hashing)

section Reading

/-- `get`, which validates the stored document again. -/
def AdaptiveAssetStore.get (store : AdaptiveAssetStore) (reference : AdaptiveAssetRef) :
    Except AssetError AdaptiveAssetDocument := do
  let row ← orRaise (fetchOne store.manifests fun row => row.manifestDigest = reference.digest)
    (.keyError reference.digest)
  require (row.kind = reference.kind) (.assetConflict "asset digest exists under a different kind")
  require (row.document.Valid hashing) .validationError
  return row.document

/-- `exists`. -/
def AdaptiveAssetStore.exists (store : AdaptiveAssetStore) (reference : AdaptiveAssetRef) : Bool :=
  (fetchOne store.manifests fun row => row.manifestDigest = reference.digest).any fun row =>
    row.kind = reference.kind

/-- `OutcomeObservation`: the outcome of an episode, or that none is known. -/
inductive OutcomeObservation where
  | unknown (episode : AdaptiveAssetRef)
  | observed (episode outcome : AdaptiveAssetRef)
  deriving DecidableEq

/-- `outcome`. -/
def AdaptiveAssetStore.outcome (store : AdaptiveAssetStore) (episode : AdaptiveAssetRef) :
    Except AssetError OutcomeObservation := do
  require (episode.kind = .episode) (.valueError "outcome lookup requires an episode asset")
  require (store.exists episode)
    (.assetReferenceMissing s!"episode asset is unavailable: {episode.digest}")
  match fetchOne store.events fun row =>
      row.eventKind = .outcome ∧ row.episodeDigest = some episode.digest with
  | none => return .unknown episode
  | some row =>
    require (row.event.Valid hashing) .validationError
    let outcome ← orRaise row.event.outcome .assertionError
    return .observed episode outcome

end Reading

section Importing

/-- The kinds that digests are stored under. -/
def AdaptiveAssetStore.available (store : AdaptiveAssetStore) : Dictionary Digest AssetKind :=
  store.manifests.foldl (fun kinds row => kinds.set row.manifestDigest row.kind) .empty

/-- The documents of a bundle by their digests. -/
def documentsByDigest (documents : List AdaptiveAssetDocument) :
    Dictionary Digest AdaptiveAssetDocument :=
  documents.foldl (fun found item => found.set item.manifest.asset.digest item) .empty

/-- A document that comes in makes its digest available under its kind. -/
def offer (available : Dictionary Digest AssetKind)
    (incoming : Digest × AdaptiveAssetDocument) :
    Except AssetError (Dictionary Digest AssetKind) := do
  let kind := incoming.2.manifest.asset.kind
  require (∀ existing ∈ available.get incoming.1, existing = kind)
    (.assetConflict "asset digest exists under a different kind")
  return available.set incoming.1 kind

/-- Every reference is available under its kind. -/
def requireAvailable (available : Dictionary Digest AssetKind) (subject : String)
    (references : List AdaptiveAssetRef) : Except AssetError Unit :=
  references.forM fun reference =>
    require (available.get reference.digest = some reference.kind) (.assetReferenceMissing
      s!"{subject} is unavailable or kind-conflicting: {reference.kind.wire}:{reference.digest}")

/-- The document that a reference names, among those that come in or else the stored ones. -/
def AdaptiveAssetStore.incomingOrStored (store : AdaptiveAssetStore)
    (incoming : Dictionary Digest AdaptiveAssetDocument) (reference : AdaptiveAssetRef) :
    Except AssetError AdaptiveAssetDocument :=
  match incoming.get reference.digest with
  | some document => .ok document
  | none => store.get hashing reference

/-- `_validate_outcome_event`. -/
def AdaptiveAssetStore.validateOutcomeEvent (store : AdaptiveAssetStore)
    (event : AdaptiveAssetEvent) (incoming : Dictionary Digest AdaptiveAssetDocument) :
    Except AssetError Unit := do
  if event.kind = .outcome then
    let episode ← orRaise event.episode .assertionError
    let outcome ← orRaise event.outcome .assertionError
    let document ← store.incomingOrStored hashing incoming outcome
    match document.body with
    | .outcome body =>
      require (body.episode = episode)
        (.assetConflict "outcome event episode disagrees with outcome asset")
    | _ =>
      .error (.assetConflict "outcome event reference does not resolve to an outcome body")

/-- `_insert_document`. -/
def AdaptiveAssetStore.insertDocument (store : AdaptiveAssetStore)
    (document : AdaptiveAssetDocument) : Except AssetError AdaptiveAssetStore := do
  let row : BodyRow := ⟨document.manifest.bodyDigest, document.body.assetKind,
    document.body.schemaVersion, document.body⟩
  let body := fetchOne store.bodies fun stored => stored.bodyDigest = row.bodyDigest
  require (∀ stored ∈ body, stored.kind = row.kind ∧ stored.schemaVersion = row.schemaVersion ∧
    stored.body = row.body) (.assetConflict "asset body digest binds different canonical bytes")
  let manifest := fetchOne store.manifests fun stored =>
    stored.manifestDigest = document.manifest.manifestDigest
  match manifest with
  | some stored =>
    require (stored.kind = document.manifest.asset.kind ∧
        stored.bodyDigest = document.manifest.bodyDigest ∧ stored.document = document)
      (.assetConflict "asset manifest digest binds different canonical bytes")
    return store
  | none =>
    let bodies ← match body with
      | some _ => .ok store.bodies
      | none =>
        insertUnique store.bodies (fun stored => stored.bodyDigest = row.bodyDigest) row
          .integrityError
    let manifests ← insertUnique store.manifests
      (fun stored => stored.manifestDigest = document.manifest.manifestDigest)
      ⟨document.manifest.manifestDigest, document.manifest.asset.kind,
        document.manifest.bodyDigest, document⟩ .integrityError
    return { store with bodies, manifests }

/-- `_insert_event`. -/
def AdaptiveAssetStore.insertEvent (store : AdaptiveAssetStore) (event : AdaptiveAssetEvent) :
    Except AssetError AdaptiveAssetStore := do
  match fetchOne store.events fun stored => stored.eventDigest = event.eventDigest with
  | some stored =>
    require (stored.event = event)
      (.assetConflict "asset event digest binds different canonical bytes")
    return store
  | none =>
    if event.kind = .outcome then
      let episode ← orRaise event.episode .assertionError
      require (fetchOne store.events (fun stored =>
          stored.eventKind = .outcome ∧ stored.episodeDigest = some episode.digest) = none)
        (.assetConflict "episode already has a different explicit outcome event")
    let row : EventRow :=
      ⟨event.eventDigest, event.kind, event.episode.map (·.digest), event⟩
    -- Besides its digest, an outcome event is unique for its episode, where it names one.
    let events ← insertUnique store.events (fun stored => stored.eventDigest = row.eventDigest ∨
      (stored.eventKind = .outcome ∧ row.eventKind = .outcome ∧
        stored.episodeDigest = row.episodeDigest ∧ row.episodeDigest ≠ none)) row .integrityError
    return { store with events }

/-- `import_bundle`, one transaction. -/
def AdaptiveAssetStore.importBundle (store : AdaptiveAssetStore) (bundle : AdaptiveAssetBundle) :
    Except AssetError (AdaptiveAssetStore × AssetImportResult) := do
  let incoming := documentsByDigest bundle.documents
  let available ← incoming.entries.foldlM offer store.available
  bundle.documents.forM fun document =>
    requireAvailable available "asset dependency" (documentReferences document)
  bundle.events.forM fun event => do
    requireAvailable available "event reference" (eventReferences event)
    store.validateOutcomeEvent hashing event incoming
  let store ← bundle.documents.foldlM AdaptiveAssetStore.insertDocument store
  let store ← bundle.events.foldlM AdaptiveAssetStore.insertEvent store
  return (store, ⟨bundle.bundleDigest, bundle.documents.length, bundle.events.length⟩)

end Importing

section Exporting

/-- `AdaptiveAssetBundle.issue`, of documents and events that are valid themselves. -/
def AdaptiveAssetBundle.issue (documents : List AdaptiveAssetDocument)
    (events : List AdaptiveAssetEvent) : Except AssetError AdaptiveAssetBundle := do
  let documents := sortedBy (fun item => item.manifest.asset.digest) documents
  let events := sortedBy (fun item => item.eventDigest) events
  require (SortedUnique (documents.map fun item => item.manifest.asset.digest))
    (.valueError "bundle documents must be sorted by unique digest")
  require (SortedUnique (events.map fun item => item.eventDigest))
    (.valueError "bundle events must be sorted by unique digest")
  return ⟨documents, events, hashing.bundle documents events⟩

/-- The documents that references lead to, as a traversal reads them. -/
def AdaptiveAssetStore.graph (store : AdaptiveAssetStore) :
    Traversal.Graph AdaptiveAssetRef Digest AdaptiveAssetDocument AssetError where
  key reference := reference.digest
  read := store.get hashing
  edges := documentReferences
  again document reference := require (document.manifest.asset.kind = reference.kind)
    (.assetConflict "one digest was requested under different asset kinds")
  known := store.manifests.map fun row => row.manifestDigest
  within read := by
    simp only [AdaptiveAssetStore.get, bind_ok, orRaise_ok] at read
    obtain ⟨row, found, -⟩ := read
    obtain ⟨member, same⟩ := fetchOne_some found
    exact List.mem_map.mpr ⟨row, member, same⟩

/-- The stored events by their digests, each validated again. -/
def AdaptiveAssetStore.readEvents (store : AdaptiveAssetStore) :
    Except AssetError (List AdaptiveAssetEvent) :=
  (sortedBy EventRow.eventDigest store.events).mapM fun row => do
    require (row.event.Valid hashing) .validationError
    return row.event

/-- `export_bundle`. -/
def AdaptiveAssetStore.exportBundle (store : AdaptiveAssetStore) (roots : List AdaptiveAssetRef)
    (includeEvents : Bool := true) : Except AssetError AdaptiveAssetBundle := do
  let documents ← (store.graph hashing).walk (sortedBy refKey roots) .empty
  let events ←
    if includeEvents then do
      let candidates ← store.readEvents hashing
      pure <| candidates.filter fun event =>
        (eventReferences event).all fun reference => (documents.get reference.digest).isSome
    else pure []
  AdaptiveAssetBundle.issue hashing (documents.entries.map Prod.snd) events

end Exporting

section Runs

/-- A call of the catalogue, with arguments that are valid. -/
inductive AssetCall where
  | put (document : AdaptiveAssetDocument) (valid : document.Valid hashing)
  | appendEvent (event : AdaptiveAssetEvent) (valid : event.Valid hashing)
  | importBundle (bundle : AdaptiveAssetBundle) (valid : bundle.Valid hashing)

variable {hashing}

/-- The bundle that a call imports: `put` and `append_event` issue one of their own. -/
def AssetCall.bundle : AssetCall hashing → Except AssetError AdaptiveAssetBundle
  | put document _ => AdaptiveAssetBundle.issue hashing [document] []
  | appendEvent event _ => AdaptiveAssetBundle.issue hashing [] [event]
  | importBundle bundle _ => .ok bundle

/-- One call; what it did before it raised is rolled back. -/
def AssetCall.step (call : AssetCall hashing) (store : AdaptiveAssetStore) : AdaptiveAssetStore :=
  match call.bundle >>= store.importBundle hashing with
  | .ok (after, _) => after
  | .error _ => store

/-- A catalogue that calls lead to from an empty database. -/
def AdaptiveAssetStore.Reachable (hashing : Hashing) (store : AdaptiveAssetStore) : Prop :=
  Runs.Reachable (@AssetCall.step hashing) {} store

end Runs

end Aar.Assets
