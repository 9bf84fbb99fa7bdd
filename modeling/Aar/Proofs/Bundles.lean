import Aar.Proofs.Catalogue

/-! Bundles of the catalogue: what is exported is closed, and comes back as it was. -/

namespace Aar.Assets

open Guarded Sorting Table Accumulation

section Issuing

variable {hashing : Hashing} {documents : List AdaptiveAssetDocument}
  {events : List AdaptiveAssetEvent} {bundle : AdaptiveAssetBundle}

/-- A bundle that is issued is valid and holds just what it was issued of. -/
theorem issue_ok (validDocuments : ∀ document ∈ documents, document.Valid hashing)
    (validEvents : ∀ event ∈ events, event.Valid hashing)
    (issued : AdaptiveAssetBundle.issue hashing documents events = .ok bundle) :
    bundle.Valid hashing ∧ bundle.content = ⟨listed id documents, listed id events⟩ := by
  simp only [AdaptiveAssetBundle.issue, bind_ok, require_ok, exists_const, pure_ok] at issued
  obtain ⟨sortedDocuments, sortedEvents, rfl⟩ := issued
  refine ⟨⟨?_, ?_, sortedDocuments, sortedEvents, rfl⟩, ?_⟩
  · intro document member
    exact validDocuments document (mem_sortedBy.mp member)
  · intro event member
    exact validEvents event (mem_sortedBy.mp member)
  · simp [AdaptiveAssetBundle.content, listed]

/-- A bundle is issued of documents and of events with different digests. -/
theorem issue_returns
    (documentKeys : (documents.map fun item => item.manifest.asset.digest).Nodup)
    (eventKeys : (events.map fun item => item.eventDigest).Nodup) :
    ∃ bundle, AdaptiveAssetBundle.issue hashing documents events = .ok bundle := by
  simp only [AdaptiveAssetBundle.issue, bind_ok, require_ok, exists_const, pure_ok]
  exact ⟨_, sortedUnique_sortedBy documentKeys, sortedUnique_sortedBy eventKeys, rfl⟩

/-- Valid bundles with the same content are the same bundle. -/
theorem AdaptiveAssetBundle.Valid.unique {other : AdaptiveAssetBundle}
    (valid : bundle.Valid hashing) (alike : other.Valid hashing)
    (same : bundle.content = other.content) : bundle = other := by
  have documents : bundle.documents = other.documents :=
    sortedUnique_ext valid.sortedDocuments alike.sortedDocuments fun item => by
      have := Set.ext_iff.mp (congrArg Catalogue.documents same) item
      simpa [AdaptiveAssetBundle.content, listed] using this
  have events : bundle.events = other.events :=
    sortedUnique_ext valid.sortedEvents alike.sortedEvents fun item => by
      have := Set.ext_iff.mp (congrArg Catalogue.events same) item
      simpa [AdaptiveAssetBundle.content, listed] using this
  have digest := valid.bound.trans (documents ▸ events ▸ alike.bound.symm)
  cases bundle
  cases other
  simp_all

end Issuing

section Closures

variable {hashing : Hashing} {catalogue other : Catalogue} {roots : List AdaptiveAssetRef}
  {document : AdaptiveAssetDocument} {includeEvents : Bool}

@[simp] theorem mem_sortedRefs {reference : AdaptiveAssetRef} {references : List AdaptiveAssetRef} :
    reference ∈ sortedRefs references ↔ reference ∈ references := by
  simp [sortedRefs]

namespace Catalogue

/-- A document that some references lead to. -/
inductive Reaches (catalogue : Catalogue) (roots : List AdaptiveAssetRef) :
    AdaptiveAssetDocument → Prop
  | root {document : AdaptiveAssetDocument} (held : document ∈ catalogue.documents)
    (listed : document.manifest.asset ∈ roots) : Reaches catalogue roots document
  | edge {document next : AdaptiveAssetDocument} (reached : Reaches catalogue roots document)
    (held : next ∈ catalogue.documents)
    (refers : next.manifest.asset ∈ documentReferences document) : Reaches catalogue roots next

/-- What some references lead to, with the events that refer to nothing else. -/
def downward (catalogue : Catalogue) (roots : List AdaptiveAssetRef) (includeEvents : Bool) :
    Catalogue where
  documents := {document | catalogue.Reaches roots document}
  events := {event | includeEvents ∧ event ∈ catalogue.events ∧
    ∀ reference ∈ eventReferences event,
      ∃ document, catalogue.Reaches roots document ∧
        document.manifest.asset.digest = reference.digest}

theorem Reaches.held (reached : catalogue.Reaches roots document) :
    document ∈ catalogue.documents := by
  cases reached with
  | root held _ => exact held
  | edge _ held _ => exact held

/-- Equal references name one document of a lawful catalogue. -/
theorem Lawful.named (lawful : catalogue.Lawful hashing) {first second : AdaptiveAssetDocument}
    (held : first ∈ catalogue.documents) (stored : second ∈ catalogue.documents)
    (same : first.manifest.asset.digest = second.manifest.asset.digest) : first = second := by
  have left := (lawful.validDocuments first held).1.2.1
  have right := (lawful.validDocuments second stored).1.2.1
  exact (lawful.agreeDocuments first held second stored).1 (left ▸ right ▸ same)

/-- A part of a lawful catalogue is lawful when it is closed and has what its events name. -/
theorem Lawful.part (lawful : catalogue.Lawful hashing) (included : other ⊆ catalogue)
    (documents : ∀ document ∈ other.documents, ∀ target ∈ catalogue.documents,
      target.manifest.asset ∈ documentReferences document → target ∈ other.documents)
    (events : ∀ event ∈ other.events, ∀ target ∈ catalogue.documents,
      target.manifest.asset ∈ eventReferences event → target ∈ other.documents) :
    other.Lawful hashing where
  validDocuments document held := lawful.validDocuments document (included.1 held)
  validEvents event held := lawful.validEvents event (included.2 held)
  agreeDocuments := lawful.agreeDocuments.subset included.1
  agreeEvents := lawful.agreeEvents.subset included.2
  closedDocuments document held reference listed := by
    obtain ⟨target, stored, rfl⟩ :=
      lawful.closedDocuments document (included.1 held) reference listed
    exact ⟨target, documents document held target stored listed, rfl⟩
  closedEvents event held reference listed := by
    obtain ⟨target, stored, rfl⟩ := lawful.closedEvents event (included.2 held) reference listed
    exact ⟨target, events event held target stored listed, rfl⟩
  observed event held ends := by
    obtain ⟨target, stored, body, named, rest⟩ := lawful.observed event (included.2 held) ends
    refine ⟨target, events event held target stored ?_, body, named, rest⟩
    simp [eventReferences, named]

/-- What references lead to in a lawful catalogue is a lawful catalogue. -/
theorem Lawful.downward (lawful : catalogue.Lawful hashing) :
    (catalogue.downward roots includeEvents).Lawful hashing := by
  refine lawful.part ⟨fun _ reached => reached.held, fun _ kept => kept.2.1⟩ ?_ ?_
  · intro document reached target held refers
    exact .edge reached held refers
  · rintro event ⟨-, -, within⟩ target held refers
    obtain ⟨reached, leads, same⟩ := within _ refers
    rwa [lawful.named held leads.held same.symm]

/-- The same documents are reached wherever the closed part that holds them is included. -/
theorem Lawful.reaches_iff {whole : Catalogue} (lawful : catalogue.Lawful hashing)
    (larger : whole.Lawful hashing)
    (included : (catalogue.downward roots includeEvents).documents ⊆ whole.documents)
    (resolved : ∀ root ∈ roots, catalogue.Resolves root) :
    whole.Reaches roots document ↔ catalogue.Reaches roots document := by
  constructor
  · intro reached
    induction reached with
    | root held listed =>
      obtain ⟨target, stored, same⟩ := resolved _ listed
      have leads : catalogue.Reaches roots target := .root stored (same ▸ listed)
      rwa [larger.named held (included leads) (congrArg _ same.symm)]
    | edge _ held refers ih =>
      obtain ⟨target, stored, same⟩ := lawful.closedDocuments _ ih.held _ refers
      have leads : catalogue.Reaches roots target := .edge ih stored (same ▸ refers)
      rwa [larger.named held (included leads) (congrArg _ same.symm)]
  · intro reached
    induction reached with
    | root held listed => exact .root (included (.root held listed)) listed
    | edge before held refers ih => exact .edge ih (included (.edge before held refers)) refers

/-- What references lead to leads to nothing more. -/
theorem Lawful.downward_downward (lawful : catalogue.Lawful hashing)
    (resolved : ∀ root ∈ roots, catalogue.Resolves root) :
    (catalogue.downward roots includeEvents).downward roots includeEvents =
      catalogue.downward roots includeEvents := by
  have same : ∀ document, (catalogue.downward roots includeEvents).Reaches roots document ↔
      catalogue.Reaches roots document :=
    fun document => lawful.reaches_iff lawful.downward subset_rfl resolved
  refine Catalogue.ext (Set.ext same) (Set.ext fun event => ?_)
  constructor
  · rintro ⟨-, kept, -⟩
    exact kept
  · rintro ⟨wanted, held, within⟩
    refine ⟨wanted, ⟨wanted, held, within⟩, fun reference refers => ?_⟩
    obtain ⟨target, reached, digest⟩ := within reference refers
    exact ⟨target, (same target).mpr reached, digest⟩

end Catalogue

end Closures

section Exports

variable {hashing : Hashing} {store : AdaptiveAssetStore} {roots : List AdaptiveAssetRef}
  {document : AdaptiveAssetDocument} {includeEvents : Bool}

/-- The traversal of a sound store meets no digest under two kinds. -/
theorem AdaptiveAssetStore.Sound.coherent (sound : store.Sound hashing) :
    (store.graph hashing).Coherent where
  again {first second record} read same := by
    obtain ⟨held, rfl⟩ := sound.get_ok.mp read
    have answer : store.get hashing second = .ok record ↔ record.manifest.asset = second := by
      rw [sound.get_ok, and_iff_right held]
    change require _ _ = _ ↔ store.get hashing second = _
    rw [require_ok, answer]
    constructor
    · intro kind
      exact AdaptiveAssetRef.ext kind same.symm
    · exact congrArg AdaptiveAssetRef.kind
  functional {first second record other} read answer same := by
    obtain ⟨held, rfl⟩ := sound.get_ok.mp read
    obtain ⟨stored, rfl⟩ := sound.get_ok.mp answer
    exact sound.lawful.named stored held same

/-- Every reference that is traversed names a document that is reached. -/
theorem AdaptiveAssetStore.Sound.traversed (sound : store.Sound hashing)
    (resolved : ∀ root ∈ roots, store.content.Resolves root) {reference : AdaptiveAssetRef}
    (reached : (store.graph hashing).Reaches (sortedBy refKey roots) reference) :
    ∃ document, store.content.Reaches roots document ∧ document.manifest.asset = reference := by
  induction reached with
  | root listed =>
    have root := mem_sortedBy.mp listed
    obtain ⟨document, held, rfl⟩ := resolved _ root
    exact ⟨document, .root held root, rfl⟩
  | edge _ read refers ih =>
    obtain ⟨document, leads, rfl⟩ := ih
    obtain ⟨held, same⟩ := sound.get_ok.mp read
    rw [sound.lawful.named held leads.held (congrArg _ same)] at refers
    obtain ⟨next, stored, rfl⟩ := sound.lawful.closedDocuments document leads.held _ refers
    exact ⟨next, .edge leads stored refers, rfl⟩

/-- Every document that is reached is traversed under its reference. -/
theorem AdaptiveAssetStore.Sound.traverses (sound : store.Sound hashing)
    (reached : store.content.Reaches roots document) :
    (store.graph hashing).Reaches (sortedBy refKey roots) document.manifest.asset := by
  induction reached with
  | root _ listed => exact .root (mem_sortedBy.mpr listed)
  | edge before _ refers ih => exact .edge ih (sound.get_ok.mpr ⟨before.held, rfl⟩) refers

theorem AdaptiveAssetStore.Sound.readEvents (sound : store.Sound hashing) :
    store.readEvents hashing =
      .ok ((sortedBy EventRow.eventDigest store.events).map EventRow.event) := by
  refine mapM_ok fun row member => ?_
  have valid := sound.lawful.validEvents row.event ⟨row, mem_sortedBy.mp member, rfl⟩
  simp [require, valid]

/-- An export returns what its roots lead to, as a valid bundle. -/
theorem AdaptiveAssetStore.Sound.exports (sound : store.Sound hashing)
    (resolved : ∀ root ∈ roots, store.content.Resolves root) :
    ∃ bundle, store.exportBundle hashing roots includeEvents = .ok bundle ∧
      bundle.Valid hashing ∧ bundle.content = store.content.downward roots includeEvents := by
  obtain ⟨found, walked⟩ := (Traversal.Graph.collect_returns sound.coherent).mpr
    fun reference reached => by
      obtain ⟨document, leads, rfl⟩ := sound.traversed resolved reached
      exact ⟨document, sound.get_ok.mpr ⟨leads.held, rfl⟩⟩
  -- The documents that are found are those that the roots lead to.
  have exact : ∀ digest document, found.get digest = some document ↔
      store.content.Reaches roots document ∧ document.manifest.asset.digest = digest := by
    intro digest document
    rw [Traversal.Graph.collect_exact sound.coherent walked]
    constructor
    · rintro ⟨reference, reached, rfl, read⟩
      obtain ⟨target, leads, rfl⟩ := sound.traversed resolved reached
      obtain ⟨held, same⟩ := sound.get_ok.mp read
      rw [sound.lawful.named held leads.held (congrArg _ same)]
      exact ⟨leads, rfl⟩
    · rintro ⟨leads, rfl⟩
      exact ⟨_, sound.traverses leads, rfl, sound.get_ok.mpr ⟨leads.held, rfl⟩⟩
  let listedEvents := (sortedBy EventRow.eventDigest store.events).map EventRow.event
  let events := if includeEvents then listedEvents.filter fun event =>
    (eventReferences event).all fun reference => (found.get reference.digest).isSome else []
  have called : store.exportBundle hashing roots includeEvents =
      AdaptiveAssetBundle.issue hashing (found.entries.map Prod.snd) events := by
    unfold AdaptiveAssetStore.exportBundle
    rw [walked, ok_bind]
    cases includeEvents with
    | true =>
      rw [if_pos rfl, sound.readEvents]
      rfl
    | false => rfl
  have held : ∀ event ∈ listedEvents, event ∈ store.content.events := by
    intro event member
    obtain ⟨row, stored, rfl⟩ := List.mem_map.mp member
    exact ⟨row, mem_sortedBy.mp stored, rfl⟩
  have part : events.Sublist listedEvents := by
    unfold events
    split
    · exact List.filter_sublist
    · exact List.nil_sublist _
  have documentKeys : ((found.entries.map Prod.snd).map
      fun item => item.manifest.asset.digest).Nodup := by
    have keys : (found.entries.map Prod.snd).map (fun item => item.manifest.asset.digest) =
        found.entries.map Prod.fst := by
      rw [List.map_map]
      refine List.map_congr_left fun entry member => ?_
      exact ((exact entry.1 entry.2).mp (Dictionary.get_eq_some.mpr member)).2
    rw [keys]
    exact found.distinct
  have eventKeys : (events.map fun item => item.eventDigest).Nodup := by
    refine List.Nodup.sublist (part.map _) ?_
    have keys : listedEvents.map (fun item => item.eventDigest) =
        (sortedBy EventRow.eventDigest store.events).map EventRow.eventDigest := by
      rw [List.map_map]
      refine List.map_congr_left fun row member => ?_
      exact congrArg EventRow.eventDigest (sound.holds.events row (mem_sortedBy.mp member)).symm
    rw [keys]
    exact ((sortedBy_perm.map _).nodup_iff).mpr sound.holds.eventKeys
  have validDocuments : ∀ document ∈ found.entries.map Prod.snd, document.Valid hashing := by
    intro document member
    obtain ⟨⟨digest, _⟩, stored, rfl⟩ := List.mem_map.mp member
    have leads := ((exact digest _).mp (Dictionary.get_eq_some.mpr stored)).1
    exact sound.lawful.validDocuments _ leads.held
  obtain ⟨bundle, issued⟩ := @issue_returns hashing _ _ documentKeys eventKeys
  obtain ⟨valid, content⟩ := issue_ok validDocuments
    (fun event member => sound.lawful.validEvents event (held event (part.subset member))) issued
  refine ⟨bundle, called.trans issued, valid, content.trans (Catalogue.ext ?_ ?_)⟩
  · ext document
    constructor
    · rintro ⟨_, member, rfl⟩
      obtain ⟨⟨digest, _⟩, stored, rfl⟩ := List.mem_map.mp member
      exact ((exact digest _).mp (Dictionary.get_eq_some.mpr stored)).1
    · intro leads
      have stored := Dictionary.get_eq_some.mp ((exact _ document).mpr ⟨leads, rfl⟩)
      exact ⟨document, List.mem_map.mpr ⟨_, stored, rfl⟩, rfl⟩
  · ext event
    have within : ((eventReferences event).all fun reference =>
          (found.get reference.digest).isSome) ↔
        ∀ reference ∈ eventReferences event, ∃ document,
          store.content.Reaches roots document ∧
            document.manifest.asset.digest = reference.digest := by
      simp only [List.all_eq_true, Option.isSome_iff_exists, exact]
    have present : event ∈ listedEvents ↔ event ∈ store.content.events := by
      refine ⟨held event, ?_⟩
      rintro ⟨row, stored, rfl⟩
      exact List.mem_map.mpr ⟨row, mem_sortedBy.mpr stored, rfl⟩
    cases includeEvents with
    | true =>
      simp only [events, listed, id_eq, Catalogue.downward, Set.mem_ofPred_eq, if_true,
        exists_eq_right, List.mem_filter, present, within, true_and]
    | false =>
      simp [events, listed, Catalogue.downward]

end Exports

end Aar.Assets
