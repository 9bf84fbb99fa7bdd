import Aar.Proofs.Bundles

/-! Runs of the catalogue: it stays closed, imports commute, and exports come back as they were. -/

namespace Aar.Assets

open Guarded Sorting Table Accumulation

section Reaching

variable {hashing : Hashing} {store after : AdaptiveAssetStore} {bundle : AdaptiveAssetBundle}
  {call : AssetCall hashing}

/-- An empty catalogue is sound. -/
theorem AdaptiveAssetStore.Sound.empty (hashing : Hashing) :
    AdaptiveAssetStore.Sound hashing {} where
  holds := {
    manifests := fun row member => by cases member
    manifestKeys := .nil
    bodies := fun row => by simp [AdaptiveAssetStore.content]
    bodyKeys := .nil
    events := fun row member => by cases member
    eventKeys := .nil }
  lawful := by
    constructor <;> simp [AdaptiveAssetStore.content, Catalogue.AgreeDocuments,
      Catalogue.AgreeEvents]

/-- The bundle that a call imports is valid. -/
theorem AssetCall.bundle_valid (issued : call.bundle = .ok bundle) : bundle.Valid hashing := by
  cases call with
  | put document valid =>
    refine (issue_ok (fun other member => ?_) (fun event member => ?_) issued).1
    · rw [List.mem_singleton.mp member]
      exact valid
    · cases member
  | appendEvent event valid =>
    refine (issue_ok (fun document member => ?_) (fun other member => ?_) issued).1
    · cases member
    · rw [List.mem_singleton.mp member]
      exact valid
  | importBundle other valid =>
    cases issued
    exact valid

/-- A call leaves a sound catalogue, which holds all that it held before. -/
theorem AdaptiveAssetStore.Sound.step (sound : store.Sound hashing) (call : AssetCall hashing) :
    (call.step store).Sound hashing ∧ store.content ⊆ (call.step store).content := by
  unfold AssetCall.step
  cases called : call.bundle >>= store.importBundle hashing with
  | error _ => exact ⟨sound, subset_rfl, subset_rfl⟩
  | ok returned =>
    obtain ⟨after, result⟩ := returned
    obtain ⟨bundle, issued, imported⟩ := bind_ok.mp called
    obtain ⟨kept, content⟩ := sound.imported (AssetCall.bundle_valid issued) imported
    refine ⟨kept, ?_⟩
    rw [content]
    exact ⟨Set.subset_union_left, Set.subset_union_left⟩

theorem AdaptiveAssetStore.Reachable.sound (reached : store.Reachable hashing) :
    store.Sound hashing :=
  Runs.Reachable.invariant reached (.empty hashing) fun call _ sound => (sound.step call).1

/-- A run leaves a sound catalogue, which holds all that it held before. -/
theorem AdaptiveAssetStore.Sound.run (sound : store.Sound hashing)
    (calls : List (AssetCall hashing)) :
    (Runs.run AssetCall.step calls store).Sound hashing ∧
      store.content ⊆ (Runs.run AssetCall.step calls store).content := by
  induction calls generalizing store with
  | nil => exact ⟨sound, subset_rfl, subset_rfl⟩
  | cons call rest ih =>
    obtain ⟨kept, grown⟩ := sound.step call
    obtain ⟨last, whole⟩ := ih kept
    exact ⟨last, grown.1.trans whole.1, grown.2.trans whole.2⟩

/-- A reference exists exactly when it names a document that is held. -/
theorem AdaptiveAssetStore.Sound.exists_iff (sound : store.Sound hashing)
    {reference : AdaptiveAssetRef} :
    store.exists reference ↔ store.content.Resolves reference := by
  unfold AdaptiveAssetStore.exists
  constructor
  · intro present
    obtain ⟨row, found, kind⟩ := (Option.any_eq_true _ _).mp present
    obtain ⟨document, held, same, rfl⟩ := sound.holds.fetch_manifest.mp found
    have bound := (sound.lawful.validDocuments document held).1.2.1
    exact ⟨document, held, AdaptiveAssetRef.ext (of_decide_eq_true kind) (bound.trans same)⟩
  · rintro ⟨document, held, rfl⟩
    have bound := (sound.lawful.validDocuments document held).1.2.1
    rw [sound.holds.fetch_manifest.mpr ⟨document, held, bound.symm, rfl⟩]
    simp [ManifestRow.of]

/-- Sound tables with the same content have the same rows. -/
theorem AdaptiveAssetStore.Sound.rows_perm {other : AdaptiveAssetStore}
    (sound : store.Sound hashing) (alike : other.Sound hashing)
    (same : store.content = other.content) :
    store.bodies.Perm other.bodies ∧ store.manifests.Perm other.manifests ∧
      store.events.Perm other.events := by
  have distinct : ∀ {ρ : Type} {key : ρ → Digest} {rows : List ρ}, Keyed key rows → rows.Nodup :=
    fun keyed => List.Nodup.of_map _ keyed
  refine ⟨?_, ?_, ?_⟩
  · refine (List.perm_ext_iff_of_nodup (distinct sound.holds.bodyKeys)
      (distinct alike.holds.bodyKeys)).mpr fun row => ?_
    rw [sound.holds.bodies, alike.holds.bodies, same]
  · refine (List.perm_ext_iff_of_nodup (distinct sound.holds.manifestKeys)
      (distinct alike.holds.manifestKeys)).mpr fun row => ?_
    constructor
    · intro member
      have held : row.document ∈ store.content.documents := ⟨row, member, rfl⟩
      rw [sound.holds.manifests row member]
      exact alike.holds.document_mem.mp (same ▸ held)
    · intro member
      have held : row.document ∈ other.content.documents := ⟨row, member, rfl⟩
      rw [alike.holds.manifests row member]
      exact sound.holds.document_mem.mp (same ▸ held)
  · refine (List.perm_ext_iff_of_nodup (distinct sound.holds.eventKeys)
      (distinct alike.holds.eventKeys)).mpr fun row => ?_
    constructor
    · intro member
      have held : row.event ∈ store.content.events := ⟨row, member, rfl⟩
      rw [sound.holds.events row member]
      exact alike.holds.event_mem.mp (same ▸ held)
    · intro member
      have held : row.event ∈ other.content.events := ⟨row, member, rfl⟩
      rw [alike.holds.events row member]
      exact sound.holds.event_mem.mp (same ▸ held)

end Reaching

section Samples

/-- A hashing that tells the sample documents apart. -/
def Sample.hashing : Hashing where
  body body := s!"{body.assetKind.wire}:" ++ match body with
    | .agentFingerprint body => body.runtimeDigest
    | .episode body => body.requestDigest
    | .evaluation body => body.rubricDigest
    | .outcome body => body.episode.digest
    | .proposal body => body.candidateDigest
  manifest core := s!"manifest:{core.bodyDigest}"
  event core := s!"event:{core.detailsDigest}"
  bundle documents events := s!"bundle:{documents.length}:{events.length}"

/-- An agent. -/
def Sample.agent : AdaptiveAssetDocument :=
  .issue Sample.hashing (.agentFingerprint ⟨"runtime", "capability", "policy", none⟩) none

/-- An episode of the agent. -/
def Sample.episode (request : Digest) : AdaptiveAssetDocument :=
  .issue Sample.hashing (.episode {
    operation := ⟨"operation", by decide⟩
    agent := Sample.agent.manifest.asset
    requestDigest := request
    selectedAssets := []
    usedAssets := []
    resultDigest := none
    agentKind := rfl
    selected := .nil
    used := .nil
    subset := by simp }) none

/-- The outcome of an episode. -/
def Sample.outcome (request : Digest) : AdaptiveAssetDocument :=
  .issue Sample.hashing (.outcome {
    episode := (Sample.episode request).manifest.asset
    state := .succeeded
    certainty := .certain
    metrics := []
    evidence := []
    episodeKind := rfl
    names := .nil
    sorted := .nil
    explicit := by simp }) none

/-- The event that an episode has ended. -/
def Sample.ended (request : Digest) : AdaptiveAssetEvent :=
  let core : EventCore := {
    kind := .outcome
    operation := ⟨"operation", by decide⟩
    agent := none
    episode := some (Sample.episode request).manifest.asset
    assets := []
    outcome := some (Sample.outcome request).manifest.asset
    attributions := []
    detailsDigest := request }
  { core with eventDigest := Sample.hashing.event core }

/-- The bundle of an episode with its outcome. -/
def Sample.bundle (request : Digest) : AdaptiveAssetBundle :=
  let documents := [Sample.episode request, Sample.outcome request]
  let events := [Sample.ended request]
  ⟨documents, events, Sample.hashing.bundle documents events⟩

theorem Sample.first_valid : (Sample.bundle "first").Valid Sample.hashing :=
  ⟨by decide +kernel, by decide +kernel, by decide +kernel, by decide +kernel, rfl⟩

theorem Sample.second_valid : (Sample.bundle "second").Valid Sample.hashing :=
  ⟨by decide +kernel, by decide +kernel, by decide +kernel, by decide +kernel, rfl⟩

/-- The agent comes in. -/
def Sample.agentIn : AssetCall Sample.hashing := .put Sample.agent (by decide +kernel)

/-- The first episode comes in. -/
def Sample.firstIn : AssetCall Sample.hashing :=
  .importBundle (Sample.bundle "first") Sample.first_valid

/-- The second episode comes in. -/
def Sample.secondIn : AssetCall Sample.hashing :=
  .importBundle (Sample.bundle "second") Sample.second_valid

/-- A catalogue after some of the sample calls. -/
def Sample.store (calls : List (AssetCall Sample.hashing)) : AdaptiveAssetStore :=
  Runs.run AssetCall.step calls {}

end Samples

section Closure

variable {hashing : Hashing} {store : AdaptiveAssetStore}

/--
In every catalogue that calls lead to, each reference of a document or an event names a stored
document, no episode has two outcome events, and an outcome event names an outcome of its episode.

Nothing is assumed of the digests: what would break this is refused, even where digests collide.
-/
theorem catalogue_closed (reached : store.Reachable hashing) :
    (∀ row ∈ store.manifests, ∀ reference ∈ documentReferences row.document,
      ∃ document, store.get hashing reference = .ok document) ∧
    (∀ row ∈ store.events, ∀ reference ∈ eventReferences row.event,
      ∃ document, store.get hashing reference = .ok document) ∧
    (∀ first ∈ store.events, ∀ second ∈ store.events, first.event.kind = .outcome →
      second.event.kind = .outcome →
        first.event.episode.map (·.digest) = second.event.episode.map (·.digest) →
          first = second) ∧
    ∀ row ∈ store.events, row.event.kind = .outcome → ∃ outcome document body,
      row.event.outcome = some outcome ∧ store.get hashing outcome = .ok document ∧
        document.body = .outcome body ∧ row.event.episode = some body.episode := by
  have sound := reached.sound
  have answers : ∀ {reference : AdaptiveAssetRef}, store.content.Resolves reference →
      ∃ document, store.get hashing reference = .ok document := by
    rintro reference ⟨document, held, same⟩
    exact ⟨document, sound.get_ok.mpr ⟨held, same⟩⟩
  refine ⟨fun row member reference refers => ?_, fun row member reference refers => ?_,
    fun first member second other ends also same => ?_, fun row member ends => ?_⟩
  · exact answers (sound.lawful.closedDocuments _ ⟨row, member, rfl⟩ reference refers)
  · exact answers (sound.lawful.closedEvents _ ⟨row, member, rfl⟩ reference refers)
  · have equal := (sound.lawful.agreeEvents _ ⟨first, member, rfl⟩ _ ⟨second, other, rfl⟩).2
      ends also same
    rw [sound.holds.events first member, sound.holds.events second other, equal]
  · obtain ⟨document, held, body, named, shape, episode⟩ :=
      sound.lawful.observed _ ⟨row, member, rfl⟩ ends
    exact ⟨_, document, body, named, sound.get_ok.mpr ⟨held, rfl⟩, shape, episode⟩

/-- The sample catalogue holds three documents, and is closed. -/
theorem catalogue_closed_sample :
    (Sample.store [Sample.agentIn, Sample.firstIn]).manifests.length = 3 ∧
    ∀ row ∈ (Sample.store [Sample.agentIn, Sample.firstIn]).manifests,
      ∀ reference ∈ documentReferences row.document, ∃ document,
        (Sample.store [Sample.agentIn, Sample.firstIn]).get Sample.hashing reference =
          .ok document :=
  ⟨by decide +kernel, (catalogue_closed ⟨[Sample.agentIn, Sample.firstIn], rfl⟩).1⟩

end Closure

section Importing

variable {hashing : Hashing} {store after : AdaptiveAssetStore}
  {bundle first second : AdaptiveAssetBundle} {result : AssetImportResult}

/-- What is stored already is imported again without a change. -/
theorem AdaptiveAssetStore.Sound.again (sound : store.Sound hashing)
    (valid : bundle.Valid hashing) (included : bundle.content ⊆ store.content) :
    store.importBundle hashing bundle =
      .ok (store, ⟨bundle.bundleDigest, bundle.documents.length, bundle.events.length⟩) := by
  have lawful : (store.content ∪ bundle.content).Lawful hashing := by
    rw [Catalogue.union_of_subset included]
    exact sound.lawful
  obtain ⟨after, result, returned⟩ := sound.imports valid lawful
  simp only [AdaptiveAssetStore.importBundle, bind_ok, forM_ok, pure_ok, Prod.mk.injEq]
    at returned ⊢
  obtain ⟨available, offered, _, documents, _, events, -⟩ := returned
  -- Every document and every event is found again, and nothing is written.
  have stillDocuments : bundle.documents.foldlM AdaptiveAssetStore.insertDocument store =
      .ok store := foldlM_same fun document member => by
    have held := included.1 ⟨document, member, rfl⟩
    refine insertDocument_ok.mpr ⟨sound.holds.bodyFits.mpr fun other stored same => ?_, .inr ?_⟩
    · exact (sound.lawful.agreeDocuments other stored document held).2 same
    · exact ⟨_, sound.holds.fetch_manifest.mpr ⟨document, held, rfl, rfl⟩, ⟨rfl, rfl, rfl⟩, rfl⟩
  have stillEvents : bundle.events.foldlM AdaptiveAssetStore.insertEvent store = .ok store :=
    foldlM_same fun event member => by
      have held := included.2 ⟨event, member, rfl⟩
      exact (insertEvent_ok (valid.events event member)).mpr
        (.inr ⟨_, sound.holds.fetch_event.mpr ⟨event, held, rfl, rfl⟩, rfl, rfl⟩)
  exact ⟨available, offered, (), documents, (), events, store, stillDocuments, store, stillEvents,
    rfl, trivial⟩

/-- Sound tables that hold more have the rows of those that hold less. -/
theorem AdaptiveAssetStore.Sound.rows_subset (sound : store.Sound hashing)
    (larger : after.Sound hashing) (included : store.content ⊆ after.content) :
    store.bodies ⊆ after.bodies ∧ store.manifests ⊆ after.manifests ∧
      store.events ⊆ after.events := by
  refine ⟨fun row member => ?_, fun row member => ?_, fun row member => ?_⟩
  · obtain ⟨document, held, same⟩ := (sound.holds.bodies row).mp member
    exact (larger.holds.bodies row).mpr ⟨document, included.1 held, same⟩
  · rw [sound.holds.manifests row member]
    exact larger.holds.document_mem.mp (included.1 ⟨row, member, rfl⟩)
  · rw [sound.holds.events row member]
    exact larger.holds.event_mem.mp (included.2 ⟨row, member, rfl⟩)

/--
An import is the union with what the bundle holds, and succeeds exactly when that is lawful.

No row is removed or changed, and the same bundle comes in again without any effect.
-/
theorem import_exact (reached : store.Reachable hashing) (valid : bundle.Valid hashing) :
    ((∃ after result, store.importBundle hashing bundle = .ok (after, result)) ↔
      (store.content ∪ bundle.content).Lawful hashing) ∧
    ∀ after result, store.importBundle hashing bundle = .ok (after, result) →
      after.content = store.content ∪ bundle.content ∧ store.bodies ⊆ after.bodies ∧
        store.manifests ⊆ after.manifests ∧ store.events ⊆ after.events ∧
          after.importBundle hashing bundle = .ok (after, result) := by
  have sound := reached.sound
  constructor
  · constructor
    · rintro ⟨after, result, returned⟩
      obtain ⟨kept, content⟩ := sound.imported valid returned
      exact content ▸ kept.lawful
    · exact sound.imports valid
  · intro after result returned
    obtain ⟨kept, content⟩ := sound.imported valid returned
    have grown : store.content ⊆ after.content := by
      rw [content]
      exact ⟨Set.subset_union_left, Set.subset_union_left⟩
    have brought : bundle.content ⊆ after.content := by
      rw [content]
      exact ⟨Set.subset_union_right, Set.subset_union_right⟩
    obtain ⟨bodies, manifests, events⟩ := sound.rows_subset kept grown
    refine ⟨content, bodies, manifests, events, ?_⟩
    rw [kept.again valid brought]
    -- The result counts what the bundle holds, whatever was stored.
    simp only [AdaptiveAssetStore.importBundle, bind_ok, pure_ok, Prod.mk.injEq] at returned
    obtain ⟨-, -, -, -, -, -, -, -, -, -, -, rfl⟩ := returned
    rfl

/-- The first episode comes in after its agent, and once more without an effect. -/
theorem import_exact_sample :
    (Sample.store [Sample.agentIn, Sample.firstIn]).importBundle Sample.hashing
      (Sample.bundle "first") =
        .ok (Sample.store [Sample.agentIn, Sample.firstIn], ⟨"bundle:2:1", 2, 1⟩) :=
  ((@import_exact _ (Sample.store [Sample.agentIn]) (Sample.bundle "first") ⟨[Sample.agentIn], rfl⟩
    Sample.first_valid).2 _ _ (by decide +kernel)).2.2.2.2

/--
Two imports commute: when both bundles come in one after the other, and the second one could have
come in alone, then they come in the other way round as well, and the tables hold the same rows.
-/
theorem imports_commute (reached : store.Reachable hashing) (valid : first.Valid hashing)
    (other : second.Valid hashing) {middle last alone : AdaptiveAssetStore}
    {ofFirst ofSecond ofAlone : AssetImportResult}
    (one : store.importBundle hashing first = .ok (middle, ofFirst))
    (two : middle.importBundle hashing second = .ok (last, ofSecond))
    (apart : store.importBundle hashing second = .ok (alone, ofAlone)) :
    ∃ final result, alone.importBundle hashing first = .ok (final, result) ∧
      last.bodies.Perm final.bodies ∧ last.manifests.Perm final.manifests ∧
        last.events.Perm final.events := by
  have sound := reached.sound
  obtain ⟨soundMiddle, afterFirst⟩ := sound.imported valid one
  obtain ⟨soundLast, afterBoth⟩ := soundMiddle.imported other two
  obtain ⟨soundAlone, afterSecond⟩ := sound.imported other apart
  have same : last.content = alone.content ∪ first.content := by
    rw [afterBoth, afterFirst, afterSecond, Catalogue.union_assoc, Catalogue.union_assoc,
      Catalogue.union_comm first.content]
  obtain ⟨final, result, returned⟩ := soundAlone.imports valid (same ▸ soundLast.lawful)
  obtain ⟨soundFinal, content⟩ := soundAlone.imported valid returned
  exact ⟨final, result, returned, soundLast.rows_perm soundFinal (same.trans content.symm)⟩

/-- The two episodes come in in any order. -/
theorem imports_commute_sample :
    ∃ final result, (Sample.store [Sample.agentIn, Sample.secondIn]).importBundle Sample.hashing
        (Sample.bundle "first") = .ok (final, result) ∧
      (Sample.store [Sample.agentIn, Sample.firstIn, Sample.secondIn]).bodies.Perm final.bodies ∧
      (Sample.store [Sample.agentIn, Sample.firstIn, Sample.secondIn]).manifests.Perm
        final.manifests ∧
      (Sample.store [Sample.agentIn, Sample.firstIn, Sample.secondIn]).events.Perm final.events :=
  @imports_commute _ (Sample.store [Sample.agentIn]) (Sample.bundle "first")
    (Sample.bundle "second") ⟨[Sample.agentIn], rfl⟩ Sample.first_valid Sample.second_valid
    (Sample.store [Sample.agentIn, Sample.firstIn]) _ _ ⟨"bundle:2:1", 2, 1⟩ ⟨"bundle:2:1", 2, 1⟩
    ⟨"bundle:2:1", 2, 1⟩ (by decide +kernel) (by decide +kernel) (by decide +kernel)

end Importing

section Exporting

variable {hashing : Hashing} {store other after : AdaptiveAssetStore}
  {roots : List AdaptiveAssetRef} {includeEvents : Bool} {bundle : AdaptiveAssetBundle}

/-- The roots of an export that returns are stored. -/
theorem AdaptiveAssetStore.Sound.roots_resolve (sound : store.Sound hashing)
    (returned : store.exportBundle hashing roots includeEvents = .ok bundle) :
    ∀ root ∈ roots, store.content.Resolves root := by
  intro root listed
  simp only [AdaptiveAssetStore.exportBundle, bind_ok] at returned
  obtain ⟨found, walked, -⟩ := returned
  -- A root that is not stored could not be read.
  obtain ⟨document, read⟩ := (Traversal.Graph.collect_returns sound.coherent).mp ⟨found, walked⟩
    root (.root (mem_sortedBy.mpr listed))
  obtain ⟨held, same⟩ := sound.get_ok.mp read
  exact ⟨document, held, same⟩

/--
An export returns exactly when its roots are stored, and then it is the closure of the roots: the
documents that they lead to, and the events that refer to nothing else.
-/
theorem export_exact (reached : store.Reachable hashing) :
    ((∃ bundle, store.exportBundle hashing roots includeEvents = .ok bundle) ↔
      ∀ root ∈ roots, store.exists root) ∧
    ∀ bundle, store.exportBundle hashing roots includeEvents = .ok bundle →
      bundle.Valid hashing ∧
        (∀ document, document ∈ bundle.documents ↔ store.content.Reaches roots document) ∧
        ∀ event, event ∈ bundle.events ↔ includeEvents ∧ event ∈ store.content.events ∧
          ∀ reference ∈ eventReferences event,
            ∃ document ∈ bundle.documents, document.manifest.asset = reference := by
  have sound := reached.sound
  constructor
  · constructor
    · rintro ⟨bundle, returned⟩ root listed
      exact sound.exists_iff.mpr (sound.roots_resolve returned root listed)
    · intro present
      obtain ⟨bundle, returned, -⟩ :=
        sound.exports fun root listed => sound.exists_iff.mp (present root listed)
      exact ⟨bundle, returned⟩
  · intro bundle returned
    obtain ⟨same, again, valid, content⟩ := sound.exports (sound.roots_resolve returned)
    rw [returned, Except.ok.injEq] at again
    subst again
    have documents : ∀ document, document ∈ bundle.documents ↔
        store.content.Reaches roots document := by
      intro document
      have members := Set.ext_iff.mp (congrArg Catalogue.documents content) document
      simpa [AdaptiveAssetBundle.content, listed, Catalogue.downward] using members
    refine ⟨valid, documents, fun event => ?_⟩
    have members := Set.ext_iff.mp (congrArg Catalogue.events content) event
    have kept : event ∈ bundle.events ↔
        event ∈ (store.content.downward roots includeEvents).events := by
      simpa [AdaptiveAssetBundle.content, listed] using members
    rw [kept]
    refine and_congr_right fun _ => and_congr_right fun held => ?_
    refine forall₂_congr fun reference refers => ?_
    constructor
    · rintro ⟨document, leads, same⟩
      obtain ⟨target, present, rfl⟩ := sound.lawful.closedEvents event held reference refers
      rw [sound.lawful.named leads.held present same] at leads
      exact ⟨target, (documents target).mpr leads, rfl⟩
    · rintro ⟨document, member, rfl⟩
      exact ⟨document, (documents document).mp member, rfl⟩

theorem export_exact_sample : ∃ bundle,
    (Sample.store [Sample.agentIn, Sample.firstIn, Sample.secondIn]).exportBundle Sample.hashing
      [(Sample.outcome "first").manifest.asset] = .ok bundle :=
  (export_exact ⟨[Sample.agentIn, Sample.firstIn, Sample.secondIn], rfl⟩).1.mpr
    (by decide +kernel)

/--
What was exported can be imported into an empty catalogue, and the same roots are exported from
there as the identical bundle.

From any other catalogue that the bundle came into, the same roots lead to the same documents.
-/
theorem export_round_trip (reached : store.Reachable hashing)
    (returned : store.exportBundle hashing roots includeEvents = .ok bundle) :
    (∃ after result, AdaptiveAssetStore.importBundle hashing {} bundle = .ok (after, result) ∧
      after.exportBundle hashing roots includeEvents = .ok bundle) ∧
    ∀ (other after : AdaptiveAssetStore) (result : AssetImportResult), other.Reachable hashing →
      other.importBundle hashing bundle = .ok (after, result) →
        ∃ again, after.exportBundle hashing roots includeEvents = .ok again ∧
          again.documents = bundle.documents := by
  have sound := reached.sound
  have resolved := sound.roots_resolve returned
  obtain ⟨same, again, valid, content⟩ := sound.exports resolved
  rw [returned, Except.ok.injEq] at again
  subst again
  -- The roots are resolved wherever the closure is included.
  have roots_in : ∀ {whole : Catalogue},
      (store.content.downward roots includeEvents).documents ⊆ whole.documents →
        ∀ root ∈ roots, whole.Resolves root := by
    intro whole included root listed
    obtain ⟨target, held, rfl⟩ := resolved root listed
    exact ⟨target, included (.root held listed), rfl⟩
  constructor
  · have alone : AdaptiveAssetStore.content {} ∪ bundle.content = bundle.content := by
      refine Catalogue.ext ?_ ?_
      · simp [AdaptiveAssetStore.content]
      · simp [AdaptiveAssetStore.content]
    have lawful : (AdaptiveAssetStore.content {} ∪ bundle.content).Lawful hashing := by
      rw [alone, content]
      exact sound.lawful.downward
    obtain ⟨after, result, imported⟩ :=
      (AdaptiveAssetStore.Sound.empty hashing).imports valid lawful
    obtain ⟨kept, made⟩ := (AdaptiveAssetStore.Sound.empty hashing).imported valid imported
    have closure : after.content = store.content.downward roots includeEvents :=
      made.trans (alone.trans content)
    obtain ⟨other, exported, alike, back⟩ := kept.exports
      (roots_in fun document held => by rwa [closure])
    refine ⟨after, result, imported, ?_⟩
    rw [exported, alike.unique valid]
    rw [back, closure, sound.lawful.downward_downward resolved, content]
  · intro other after result reachable imported
    obtain ⟨kept, made⟩ := reachable.sound.imported valid imported
    have included : (store.content.downward roots includeEvents).documents ⊆
        after.content.documents := by
      rw [made, content]
      exact Set.subset_union_right
    obtain ⟨again, exported, alike, back⟩ := kept.exports (roots_in included)
    refine ⟨again, exported, ?_⟩
    refine sortedUnique_ext alike.sortedDocuments valid.sortedDocuments fun document => ?_
    have here := Set.ext_iff.mp (congrArg Catalogue.documents back) document
    have there := Set.ext_iff.mp (congrArg Catalogue.documents content) document
    have leads : after.content.Reaches roots document ↔ store.content.Reaches roots document :=
      sound.lawful.reaches_iff kept.lawful included resolved
    simp only [AdaptiveAssetBundle.content, listed, id_eq, Set.mem_ofPred_eq, exists_eq_right,
      Catalogue.downward] at here there
    rw [here, there, leads]

/-- What the outcome of the first episode leads to goes through an empty catalogue. -/
theorem export_round_trip_sample : ∃ bundle after result,
    AdaptiveAssetStore.importBundle Sample.hashing {} bundle = .ok (after, result) ∧
      after.exportBundle Sample.hashing [(Sample.outcome "first").manifest.asset] = .ok bundle := by
  have reached : (Sample.store [Sample.agentIn, Sample.firstIn]).Reachable Sample.hashing :=
    ⟨_, rfl⟩
  have present : ∀ root ∈ [(Sample.outcome "first").manifest.asset],
      (Sample.store [Sample.agentIn, Sample.firstIn]).exists root := by decide +kernel
  obtain ⟨bundle, returned, -⟩ :=
    reached.sound.exports fun root listed => reached.sound.exists_iff.mp (present root listed)
  exact ⟨bundle, (export_round_trip reached returned).1⟩

end Exporting

section Outcomes

variable {hashing : Hashing} {store : AdaptiveAssetStore} {episode outcome : AdaptiveAssetRef}

/-- An outcome event of the catalogue ends an episode with an outcome. -/
def Catalogue.Ends (catalogue : Catalogue) (episode outcome : AdaptiveAssetRef) : Prop :=
  ∃ event ∈ catalogue.events,
    event.kind = .outcome ∧ event.episode = some episode ∧ event.outcome = some outcome

/-- A lookup observes the outcome that an event ends the episode with, or that none does. -/
theorem AdaptiveAssetStore.Sound.outcome_cases (sound : store.Sound hashing)
    (kind : episode.kind = .episode) (stored : store.content.Resolves episode) :
    (∃ outcome, store.outcome hashing episode = .ok (.observed episode outcome) ∧
      store.content.Ends episode outcome) ∨
    (store.outcome hashing episode = .ok (.unknown episode) ∧
      ∀ outcome, ¬ store.content.Ends episode outcome) := by
  have present := sound.exists_iff.mpr stored
  unfold AdaptiveAssetStore.outcome
  cases found : fetchOne store.events fun row =>
      row.eventKind = .outcome ∧ row.episodeDigest = some episode.digest with
  | none =>
    refine .inr ⟨by simp [require, kind, present, pure, Except.pure, bind, Except.bind], ?_⟩
    rintro outcome ⟨event, held, ends, same, -⟩
    refine fetchOne_none.mp found _ (sound.holds.event_mem.mp held) ⟨ends, ?_⟩
    simp [EventRow.of, same]
  | some row =>
    obtain ⟨member, ends, same⟩ := fetchOne_some found
    have form := sound.holds.events row member
    have held : row.event ∈ store.content.events := ⟨row, member, rfl⟩
    have valid := sound.lawful.validEvents row.event held
    rw [form] at ends same
    -- A valid outcome event names an outcome, and its episode is an episode.
    obtain ⟨document, -, body, named, -, -⟩ := sound.lawful.observed row.event held ends
    obtain ⟨target, about, digest⟩ := Option.map_eq_some_iff.mp same
    obtain rfl : target = episode :=
      AdaptiveAssetRef.ext ((valid.2.2.2.1 target about).trans kind.symm) digest
    refine .inl ⟨_, ?_, row.event, held, ends, about, named⟩
    simp [require, kind, present, valid, named, orRaise, pure, Except.pure, bind, Except.bind]

/--
A lookup of a stored episode returns, and an outcome that it observes is an outcome of the episode,
which every later lookup observes as well.
-/
theorem outcome_settled (reached : store.Reachable hashing) (kind : episode.kind = .episode)
    (stored : store.exists episode) :
    (∃ observation, store.outcome hashing episode = .ok observation) ∧
    ∀ outcome, store.outcome hashing episode = .ok (.observed episode outcome) →
      (∃ document body, store.get hashing outcome = .ok document ∧
        document.body = .outcome body ∧ body.episode = episode) ∧
      ∀ calls, (Runs.run (@AssetCall.step hashing) calls store).outcome hashing episode =
        .ok (.observed episode outcome) := by
  have sound := reached.sound
  have resolves := sound.exists_iff.mp stored
  have either := sound.outcome_cases kind resolves
  constructor
  · rcases either with ⟨outcome, answer, -⟩ | ⟨answer, -⟩
    · exact ⟨_, answer⟩
    · exact ⟨_, answer⟩
  · intro outcome observed
    obtain ⟨event, held, ends, about, named⟩ : store.content.Ends episode outcome := by
      rcases either with ⟨other, answer, ends⟩ | ⟨answer, -⟩
      · rw [answer] at observed
        cases observed
        exact ends
      · rw [answer] at observed
        cases observed
    constructor
    · obtain ⟨document, present, body, same, shape, also⟩ := sound.lawful.observed event held ends
      obtain rfl : document.manifest.asset = outcome := Option.some.inj (same.symm.trans named)
      exact ⟨document, body, sound.get_ok.mpr ⟨present, rfl⟩, shape,
        Option.some.inj (also.symm.trans about)⟩
    · intro calls
      obtain ⟨kept, grown⟩ := sound.run calls
      obtain ⟨document, present, same⟩ := resolves
      rcases kept.outcome_cases kind ⟨document, grown.1 present, same⟩ with
        ⟨other, answer, later, member, also, episodeIs, otherIs⟩ | ⟨-, none⟩
      · -- The episode has one outcome event, which is the one from before.
        have equal := (kept.lawful.agreeEvents event (grown.2 held) later member).2 ends also
          (by rw [about, episodeIs])
        rw [answer, Option.some.inj (otherIs.symm.trans (equal ▸ named))]
      · exact absurd ⟨event, grown.2 held, ends, about, named⟩ (none outcome)

/-- The first episode has its outcome, also after the second one has come in. -/
theorem outcome_settled_sample :
    (Sample.store [Sample.agentIn, Sample.firstIn, Sample.secondIn]).outcome Sample.hashing
      (Sample.episode "first").manifest.asset =
        .ok (.observed (Sample.episode "first").manifest.asset
          (Sample.outcome "first").manifest.asset) :=
  ((outcome_settled ⟨[Sample.agentIn, Sample.firstIn], rfl⟩ rfl (by decide +kernel)).2 _
    (by decide +kernel)).2 [Sample.secondIn]

end Outcomes

end Aar.Assets
