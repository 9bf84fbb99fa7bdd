import Aar.Assets.Store
import Aar.Lib.Accumulation
import Aar.Lib.Keyed
import Mathlib.Data.Set.Basic

/-! The catalogue as a set of documents and events: an import is a union that stays lawful. -/

namespace Aar.Assets

open Guarded Sorting Table Accumulation

section Contents

/-- The documents and the events of a catalogue. -/
@[ext] structure Catalogue where
  documents : Set AdaptiveAssetDocument
  events : Set AdaptiveAssetEvent

namespace Catalogue

instance : Union Catalogue :=
  ⟨fun left right => ⟨left.documents ∪ right.documents, left.events ∪ right.events⟩⟩

/-- A catalogue that another one includes. -/
instance : HasSubset Catalogue :=
  ⟨fun left right => left.documents ⊆ right.documents ∧ left.events ⊆ right.events⟩

@[simp] theorem union_documents {left right : Catalogue} :
    (left ∪ right).documents = left.documents ∪ right.documents := rfl

@[simp] theorem union_events {left right : Catalogue} :
    (left ∪ right).events = left.events ∪ right.events := rfl

theorem union_comm (left right : Catalogue) : left ∪ right = right ∪ left :=
  Catalogue.ext (Set.union_comm _ _) (Set.union_comm _ _)

theorem union_assoc (first second third : Catalogue) :
    first ∪ second ∪ third = first ∪ (second ∪ third) :=
  Catalogue.ext (Set.union_assoc _ _ _) (Set.union_assoc _ _ _)

theorem union_of_subset {part whole : Catalogue} (included : part ⊆ whole) : whole ∪ part = whole :=
  Catalogue.ext (Set.union_eq_self_of_subset_right included.1)
    (Set.union_eq_self_of_subset_right included.2)

/-- A reference that names a document of the catalogue by its digest and its kind. -/
def Resolves (catalogue : Catalogue) (reference : AdaptiveAssetRef) : Prop :=
  ∃ document ∈ catalogue.documents, document.manifest.asset = reference

/-- Equal digests mean equal documents, and equal bodies. -/
def AgreeDocuments (documents : Set AdaptiveAssetDocument) : Prop :=
  ∀ first ∈ documents, ∀ second ∈ documents,
    (first.manifest.manifestDigest = second.manifest.manifestDigest → first = second) ∧
      (first.manifest.bodyDigest = second.manifest.bodyDigest → first.body = second.body)

/-- Equal digests mean equal events, and an episode has one outcome event. -/
def AgreeEvents (events : Set AdaptiveAssetEvent) : Prop :=
  ∀ first ∈ events, ∀ second ∈ events,
    (first.eventDigest = second.eventDigest → first = second) ∧
      (first.kind = .outcome → second.kind = .outcome →
        first.episode.map (·.digest) = second.episode.map (·.digest) → first = second)

/-- An outcome event names an outcome of its episode. -/
def Observed (catalogue : Catalogue) (event : AdaptiveAssetEvent) : Prop :=
  event.kind = .outcome → ∃ document ∈ catalogue.documents, ∃ body,
    event.outcome = some document.manifest.asset ∧ document.body = .outcome body ∧
      event.episode = some body.episode

/-- A catalogue in which everything is valid and every reference resolves. -/
structure Lawful (hashing : Hashing) (catalogue : Catalogue) : Prop where
  validDocuments : ∀ document ∈ catalogue.documents, document.Valid hashing
  validEvents : ∀ event ∈ catalogue.events, event.Valid hashing
  agreeDocuments : AgreeDocuments catalogue.documents
  agreeEvents : AgreeEvents catalogue.events
  closedDocuments : ∀ document ∈ catalogue.documents,
    ∀ reference ∈ documentReferences document, catalogue.Resolves reference
  closedEvents : ∀ event ∈ catalogue.events,
    ∀ reference ∈ eventReferences event, catalogue.Resolves reference
  observed : ∀ event ∈ catalogue.events, catalogue.Observed event

theorem AgreeDocuments.subset {small large : Set AdaptiveAssetDocument} (included : small ⊆ large)
    (agree : AgreeDocuments large) : AgreeDocuments small :=
  fun first member second other => agree first (included member) second (included other)

theorem AgreeEvents.subset {small large : Set AdaptiveAssetEvent} (included : small ⊆ large)
    (agree : AgreeEvents large) : AgreeEvents small :=
  fun first member second other => agree first (included member) second (included other)

/-- One more document agrees with the others when it agrees with each of them. -/
theorem agreeDocuments_insert {documents : Set AdaptiveAssetDocument}
    {document : AdaptiveAssetDocument} (agree : AgreeDocuments documents) :
    AgreeDocuments (insert document documents) ↔ ∀ other ∈ documents,
      (other.manifest.manifestDigest = document.manifest.manifestDigest → other = document) ∧
        (other.manifest.bodyDigest = document.manifest.bodyDigest →
          other.body = document.body) := by
  constructor
  · intro together other held
    exact together other (Set.mem_insert_of_mem _ held) document (Set.mem_insert _ _)
  · intro each first member second other
    rcases member with rfl | stored
    · rcases other with rfl | held
      · exact ⟨fun _ => rfl, fun _ => rfl⟩
      · exact ⟨fun same => ((each second held).1 same.symm).symm,
          fun same => ((each second held).2 same.symm).symm⟩
    · rcases other with rfl | held
      · exact each first stored
      · exact agree first stored second held

/-- One more event agrees with the others when it agrees with each of them. -/
theorem agreeEvents_insert {events : Set AdaptiveAssetEvent} {event : AdaptiveAssetEvent}
    (agree : AgreeEvents events) :
    AgreeEvents (insert event events) ↔ ∀ other ∈ events,
      (other.eventDigest = event.eventDigest → other = event) ∧
        (other.kind = .outcome → event.kind = .outcome →
          other.episode.map (·.digest) = event.episode.map (·.digest) → other = event) := by
  constructor
  · intro together other held
    exact together other (Set.mem_insert_of_mem _ held) event (Set.mem_insert _ _)
  · intro each first member second other
    rcases member with rfl | stored
    · rcases other with rfl | held
      · exact ⟨fun _ => rfl, fun _ _ _ => rfl⟩
      · exact ⟨fun same => ((each second held).1 same.symm).symm,
          fun here there same => ((each second held).2 there here same.symm).symm⟩
    · rcases other with rfl | held
      · exact each first stored
      · exact agree first stored second held

end Catalogue

/-- The documents and the events of a bundle. -/
def AdaptiveAssetBundle.content (bundle : AdaptiveAssetBundle) : Catalogue where
  documents := listed id bundle.documents
  events := listed id bundle.events

/-- The documents and the events that the tables hold. -/
def AdaptiveAssetStore.content (store : AdaptiveAssetStore) : Catalogue where
  documents := listed ManifestRow.document store.manifests
  events := listed EventRow.event store.events

end Contents

section Tables

/-- The row of a document's body. -/
def BodyRow.of (document : AdaptiveAssetDocument) : BodyRow :=
  ⟨document.manifest.bodyDigest, document.body.assetKind, document.body.schemaVersion,
    document.body⟩

/-- The row of a document. -/
def ManifestRow.of (document : AdaptiveAssetDocument) : ManifestRow :=
  ⟨document.manifest.manifestDigest, document.manifest.asset.kind, document.manifest.bodyDigest,
    document⟩

/-- The row of an event. -/
def EventRow.of (event : AdaptiveAssetEvent) : EventRow :=
  ⟨event.eventDigest, event.kind, event.episode.map (·.digest), event⟩

/-- Tables that hold documents with their bodies, each under its own digest. -/
structure AdaptiveAssetStore.Holds (store : AdaptiveAssetStore) : Prop where
  manifests : ∀ row ∈ store.manifests, row = .of row.document
  manifestKeys : Keyed ManifestRow.manifestDigest store.manifests
  bodies : ∀ row, row ∈ store.bodies ↔ ∃ document ∈ store.content.documents, .of document = row
  bodyKeys : Keyed BodyRow.bodyDigest store.bodies
  events : ∀ row ∈ store.events, row = .of row.event
  eventKeys : Keyed EventRow.eventDigest store.events

variable {hashing : Hashing} {store after : AdaptiveAssetStore}
  {document : AdaptiveAssetDocument} {event : AdaptiveAssetEvent}

theorem AdaptiveAssetStore.Holds.document_mem (holds : store.Holds) :
    document ∈ store.content.documents ↔ ManifestRow.of document ∈ store.manifests := by
  constructor
  · rintro ⟨row, member, same⟩
    rw [← same, ← holds.manifests row member]
    exact member
  · intro member
    exact ⟨_, member, rfl⟩

theorem AdaptiveAssetStore.Holds.event_mem (holds : store.Holds) :
    event ∈ store.content.events ↔ EventRow.of event ∈ store.events := by
  constructor
  · rintro ⟨row, member, same⟩
    rw [← same, ← holds.events row member]
    exact member
  · intro member
    exact ⟨_, member, rfl⟩

/-- The row that a manifest's digest fetches is that of the document it is the digest of. -/
theorem AdaptiveAssetStore.Holds.fetch_manifest (holds : store.Holds) {digest : Digest}
    {row : ManifestRow} :
    fetchOne store.manifests (fun row => row.manifestDigest = digest) = some row ↔
      ∃ document ∈ store.content.documents,
        document.manifest.manifestDigest = digest ∧ row = .of document := by
  rw [holds.manifestKeys.fetch_iff]
  constructor
  · rintro ⟨member, same⟩
    have form := holds.manifests row member
    exact ⟨row.document, ⟨row, member, rfl⟩, by rw [← same, form]; rfl, form⟩
  · rintro ⟨document, held, same, form⟩
    exact ⟨form ▸ holds.document_mem.mp held, form ▸ same⟩

/-- The row that a body's digest fetches is that of a document with the body. -/
theorem AdaptiveAssetStore.Holds.fetch_body (holds : store.Holds) {digest : Digest}
    {row : BodyRow} :
    fetchOne store.bodies (fun row => row.bodyDigest = digest) = some row ↔
      ∃ document ∈ store.content.documents,
        document.manifest.bodyDigest = digest ∧ row = .of document := by
  rw [holds.bodyKeys.fetch_iff]
  constructor
  · rintro ⟨member, same⟩
    obtain ⟨document, held, form⟩ := (holds.bodies row).mp member
    exact ⟨document, held, by rw [← same, ← form]; rfl, form.symm⟩
  · rintro ⟨document, held, same, form⟩
    exact ⟨(holds.bodies row).mpr ⟨document, held, form.symm⟩, form ▸ same⟩

/-- The row that an event's digest fetches is that of the event it is the digest of. -/
theorem AdaptiveAssetStore.Holds.fetch_event (holds : store.Holds) {digest : Digest}
    {row : EventRow} :
    fetchOne store.events (fun row => row.eventDigest = digest) = some row ↔
      ∃ event ∈ store.content.events, event.eventDigest = digest ∧ row = .of event := by
  rw [holds.eventKeys.fetch_iff]
  constructor
  · rintro ⟨member, same⟩
    have form := holds.events row member
    exact ⟨row.event, ⟨row, member, rfl⟩, by rw [← same, form]; rfl, form⟩
  · rintro ⟨event, held, same, form⟩
    exact ⟨form ▸ holds.event_mem.mp held, form ▸ same⟩

end Tables

section Insertions

variable {hashing : Hashing} {store after : AdaptiveAssetStore}
  {document : AdaptiveAssetDocument} {event : AdaptiveAssetEvent}

/-- The body of a document passes the comparison with the stored one when equal digests agree. -/
theorem AdaptiveAssetStore.Holds.bodyFits (holds : store.Holds) :
    (∀ stored ∈ fetchOne store.bodies (fun row => row.bodyDigest = document.manifest.bodyDigest),
      stored.kind = document.body.assetKind ∧ stored.schemaVersion = document.body.schemaVersion ∧
        stored.body = document.body) ↔
      ∀ other ∈ store.content.documents,
        other.manifest.bodyDigest = document.manifest.bodyDigest → other.body = document.body := by
  constructor
  · intro fits other held same
    exact (fits _ (holds.fetch_body.mpr ⟨other, held, same, rfl⟩)).2.2
  · intro agree stored found
    obtain ⟨other, held, same, rfl⟩ := holds.fetch_body.mp found
    have body := agree other held same
    exact ⟨congrArg AdaptiveAssetBody.assetKind body,
      congrArg AdaptiveAssetBody.schemaVersion body, body⟩

/-- A new document gets a row, and so does its body when it is new. -/
def AdaptiveAssetStore.withDocument (store : AdaptiveAssetStore)
    (document : AdaptiveAssetDocument) : AdaptiveAssetStore :=
  let known := fetchOne store.bodies fun row => row.bodyDigest = document.manifest.bodyDigest
  { store with
    bodies := if known.isSome then store.bodies else store.bodies ++ [.of document]
    manifests := store.manifests ++ [.of document] }

/-- A document is inserted when its body fits, as a new one or as the stored one again. -/
theorem insertDocument_ok : store.insertDocument document = .ok after ↔
    (∀ stored ∈ fetchOne store.bodies (fun row => row.bodyDigest = document.manifest.bodyDigest),
      stored.kind = document.body.assetKind ∧ stored.schemaVersion = document.body.schemaVersion ∧
        stored.body = document.body) ∧
      ((fetchOne store.manifests
            (fun row => row.manifestDigest = document.manifest.manifestDigest) = none ∧
          after = store.withDocument document) ∨
        ∃ stored, fetchOne store.manifests
            (fun row => row.manifestDigest = document.manifest.manifestDigest) = some stored ∧
          (stored.kind = document.manifest.asset.kind ∧
            stored.bodyDigest = document.manifest.bodyDigest ∧ stored.document = document) ∧
          after = store) := by
  unfold AdaptiveAssetStore.insertDocument AdaptiveAssetStore.withDocument
  simp only [bind_ok, require_ok, exists_const]
  refine and_congr_right fun _ => ?_
  cases manifest : fetchOne store.manifests
      fun row => row.manifestDigest = document.manifest.manifestDigest with
  | some stored =>
    simp only [bind_ok, require_ok, exists_const, pure_ok, reduceCtorEq, false_and, false_or,
      Option.some.injEq, exists_eq_left']
    exact and_congr_right fun _ => eq_comm
  | none =>
    -- A row that was not found clashes with none.
    have fresh := fetchOne_none.mp manifest
    simp only [reduceCtorEq, false_and, exists_false, or_false, true_and]
    cases body : fetchOne store.bodies
        fun row => row.bodyDigest = document.manifest.bodyDigest with
    | some stored =>
      simp only [bind_ok, insertUnique_ok, pure_ok, Option.isSome_some, if_true,
        Except.ok.injEq, exists_eq_left']
      constructor
      · rintro ⟨_, ⟨-, rfl⟩, rfl⟩
        rfl
      · rintro rfl
        exact ⟨_, ⟨fresh, rfl⟩, rfl⟩
    | none =>
      have new := fetchOne_none.mp body
      simp only [bind_ok, insertUnique_ok, pure_ok, Option.isSome_none]
      constructor
      · rintro ⟨_, ⟨-, rfl⟩, _, ⟨-, rfl⟩, rfl⟩
        rfl
      · rintro rfl
        exact ⟨_, ⟨new, rfl⟩, _, ⟨fresh, rfl⟩, rfl⟩

/-- A document whose digest is new is held with its body after it was inserted. -/
theorem AdaptiveAssetStore.Holds.withDocument (holds : store.Holds)
    (new : fetchOne store.manifests
      (fun row => row.manifestDigest = document.manifest.manifestDigest) = none)
    (agree : ∀ other ∈ store.content.documents,
      other.manifest.bodyDigest = document.manifest.bodyDigest → other.body = document.body) :
    (store.withDocument document).Holds ∧
      (store.withDocument document).content.documents =
        insert document store.content.documents := by
  have documents : (store.withDocument document).content.documents =
      insert document store.content.documents := listed_append
  refine ⟨⟨?_, ?_, ?_, ?_, holds.events, holds.eventKeys⟩, documents⟩
  · intro row member
    rcases List.mem_append.mp member with stored | last
    · exact holds.manifests row stored
    · rw [List.mem_singleton.mp last]
      rfl
  · exact holds.manifestKeys.append (.added _ (fetchOne_none.mp new))
  · intro row
    rw [documents]
    simp only [Set.exists_mem_insert]
    unfold AdaptiveAssetStore.withDocument
    cases body : fetchOne store.bodies
        fun row => row.bodyDigest = document.manifest.bodyDigest with
    | some stored =>
      -- The body is stored already, since equal digests bind equal bodies.
      obtain ⟨other, held, same, -⟩ := holds.fetch_body.mp body
      have alike : BodyRow.of other = .of document := by
        simp only [BodyRow.of, same, agree other held same]
      simp only [Option.isSome_some, if_true, holds.bodies row]
      constructor
      · exact .inr
      · rintro (rfl | found)
        · exact ⟨other, held, alike⟩
        · exact found
    | none =>
      simp only [Option.isSome_none, Bool.false_eq_true, if_false, List.mem_append,
        List.mem_singleton, holds.bodies row]
      rw [or_comm, eq_comm]
  · unfold AdaptiveAssetStore.withDocument
    cases body : fetchOne store.bodies
        fun row => row.bodyDigest = document.manifest.bodyDigest with
    | some stored => exact holds.bodyKeys
    | none => exact holds.bodyKeys.append (.added _ (fetchOne_none.mp body))

/-- Documents are inserted exactly while equal digests agree. -/
theorem insertDocument_adds (events : List EventRow) :
    Adds AdaptiveAssetStore.insertDocument (fun store => store.Holds ∧ store.events = events)
      (fun _ => True) (fun store => store.content.documents) id Catalogue.AgreeDocuments where
  antitone := Catalogue.AgreeDocuments.subset
  succeeds {store document} sound _ agree := by
    obtain ⟨holds, -⟩ := sound
    simp only [insertDocument_ok, holds.bodyFits, id_eq, Catalogue.agreeDocuments_insert agree]
    constructor
    · rintro ⟨after, body, ⟨new, -⟩ | ⟨stored, found, fits, -⟩⟩ other held
      · refine ⟨fun same => ?_, body other held⟩
        have known := holds.fetch_manifest.mpr ⟨other, held, same, rfl⟩
        rw [new] at known
        cases known
      · -- The document is stored already, and the stored ones agree.
        obtain ⟨same, present, -, rfl⟩ := holds.fetch_manifest.mp found
        obtain rfl : same = document := fits.2.2
        exact agree other held same present
    · intro each
      cases manifest : fetchOne store.manifests
          fun row => row.manifestDigest = document.manifest.manifestDigest with
      | none => exact ⟨_, fun other held => (each other held).2, .inl ⟨rfl, rfl⟩⟩
      | some stored =>
        obtain ⟨other, held, same, rfl⟩ := holds.fetch_manifest.mp manifest
        obtain rfl := (each other held).1 same
        exact ⟨store, fun first member => (each first member).2,
          .inr ⟨_, rfl, ⟨rfl, rfl, rfl⟩, rfl⟩⟩
  adds {store document after} sound _ inserted := by
    obtain ⟨holds, same⟩ := sound
    obtain ⟨body, new | ⟨stored, found, fits, rfl⟩⟩ := insertDocument_ok.mp inserted
    · obtain ⟨new, rfl⟩ := new
      obtain ⟨kept, grown⟩ := holds.withDocument new (holds.bodyFits.mp body)
      exact ⟨⟨kept, same⟩, grown⟩
    · obtain ⟨other, held, -, rfl⟩ := holds.fetch_manifest.mp found
      exact ⟨⟨holds, same⟩, (Set.insert_eq_of_mem (fits.2.2 ▸ held)).symm⟩

/-- The stored events that an outcome event would clash with. -/
def AdaptiveAssetStore.Taken (store : AdaptiveAssetStore) (event : AdaptiveAssetEvent) : Prop :=
  event.kind = .outcome ∧ ∃ row ∈ store.events,
    row.eventKind = .outcome ∧ row.episodeDigest = event.episode.map (·.digest)

/-- An event is inserted as a new one of an episode without an outcome, or as the stored one. -/
theorem insertEvent_ok (valid : event.Valid hashing) : store.insertEvent event = .ok after ↔
    (fetchOne store.events (fun row => row.eventDigest = event.eventDigest) = none ∧
        ¬ store.Taken event ∧ after = { store with events := store.events ++ [.of event] }) ∨
      ∃ stored, fetchOne store.events (fun row => row.eventDigest = event.eventDigest) =
          some stored ∧ stored.event = event ∧ after = store := by
  unfold AdaptiveAssetStore.insertEvent
  cases known : fetchOne store.events fun row => row.eventDigest = event.eventDigest with
  | some stored =>
    simp only [bind_ok, require_ok, exists_const, pure_ok, reduceCtorEq, false_and, false_or,
      Option.some.injEq, exists_eq_left']
    exact and_congr_right fun _ => eq_comm
  | none =>
    have fresh := fetchOne_none.mp known
    simp only [reduceCtorEq, false_and, exists_false, or_false, true_and]
    by_cases ends : event.kind = .outcome
    · -- A valid outcome event names its episode.
      have named := valid.2.2.2.2.2.1
      rw [if_pos ends] at named
      obtain ⟨episode, same⟩ := Option.ne_none_iff_exists'.mp named.1
      simp only [ends, if_true, same, bind_ok, orRaise_ok, Option.some.injEq, exists_eq_left',
        require_ok, exists_const, insertUnique_ok, pure_ok, fetchOne_none, Option.map_some,
        AdaptiveAssetStore.Taken, true_and]
      constructor
      · rintro ⟨apart, _, ⟨-, rfl⟩, rfl⟩
        refine ⟨?_, by simp [EventRow.of, ends, same]⟩
        rintro ⟨row, member, taken⟩
        exact apart row member taken
      · rintro ⟨apart, rfl⟩
        have free : ∀ row ∈ store.events,
            ¬ (row.eventKind = .outcome ∧ row.episodeDigest = some episode.digest) :=
          fun row member taken => apart ⟨row, member, taken⟩
        refine ⟨free, _, ⟨?_, rfl⟩, by simp [EventRow.of, ends, same]⟩
        rintro row member (taken | ⟨first, second, -⟩)
        · exact fresh row member taken
        · exact free row member ⟨first, second⟩
    · simp only [ends, if_false, bind_ok, pure_ok, insertUnique_ok,
        AdaptiveAssetStore.Taken, false_and, and_false, or_false, not_false_eq_true, true_and]
      constructor
      · rintro ⟨_, ⟨-, rfl⟩, rfl⟩
        rfl
      · rintro rfl
        exact ⟨_, ⟨fresh, rfl⟩, rfl⟩

/-- Events are inserted exactly while equal digests agree and no episode ends twice. -/
theorem insertEvent_adds (fixed : AdaptiveAssetStore) :
    Adds AdaptiveAssetStore.insertEvent
      (fun store => store.Holds ∧ store.bodies = fixed.bodies ∧ store.manifests = fixed.manifests)
      (fun event => event.Valid hashing) (fun store => store.content.events) id
      Catalogue.AgreeEvents where
  antitone := Catalogue.AgreeEvents.subset
  succeeds {store event} sound valid agree := by
    obtain ⟨holds, -⟩ := sound
    simp only [insertEvent_ok valid, id_eq, Catalogue.agreeEvents_insert agree]
    constructor
    · rintro ⟨after, ⟨new, free, -⟩ | ⟨stored, found, same, -⟩⟩ other held
      · refine ⟨fun same => ?_, fun first second same => ?_⟩
        · have known := holds.fetch_event.mpr ⟨other, held, same, rfl⟩
          rw [new] at known
          cases known
        · exact absurd ⟨second, _, holds.event_mem.mp held, first, same⟩ free
      · obtain ⟨present, member, -, rfl⟩ := holds.fetch_event.mp found
        obtain rfl : present = event := same
        exact agree other held present member
    · intro each
      cases known : fetchOne store.events fun row => row.eventDigest = event.eventDigest with
      | none =>
        refine ⟨_, .inl ⟨rfl, ?_, rfl⟩⟩
        rintro ⟨ends, row, member, first, second⟩
        -- An event that takes the episode would be this event, whose digest is new.
        have form := holds.events row member
        rw [form] at first second
        have same := (each row.event ⟨row, member, rfl⟩).2 first ends second
        have found := holds.fetch_event.mpr ⟨row.event, ⟨row, member, rfl⟩,
          congrArg AdaptiveAssetEvent.eventDigest same, rfl⟩
        rw [known] at found
        cases found
      | some stored =>
        obtain ⟨other, held, same, rfl⟩ := holds.fetch_event.mp known
        exact ⟨store, .inr ⟨_, rfl, (each other held).1 same, rfl⟩⟩
  adds {store event after} sound valid inserted := by
    obtain ⟨holds, bodies, manifests⟩ := sound
    rcases (insertEvent_ok valid).mp inserted with ⟨new, -, rfl⟩ | ⟨stored, found, same, rfl⟩
    · refine ⟨⟨⟨holds.manifests, holds.manifestKeys, holds.bodies, holds.bodyKeys, ?_,
        holds.eventKeys.append (.added _ (fetchOne_none.mp new))⟩, bodies, manifests⟩,
        listed_append⟩
      intro row member
      rcases List.mem_append.mp member with stored | last
      · exact holds.events row stored
      · rw [List.mem_singleton.mp last]
        rfl
    · obtain ⟨other, held, -, rfl⟩ := holds.fetch_event.mp found
      exact ⟨⟨holds, bodies, manifests⟩, (Set.insert_eq_of_mem (same ▸ held)).symm⟩

end Insertions

section Imports

variable {hashing : Hashing} {store after : AdaptiveAssetStore} {bundle : AdaptiveAssetBundle}
  {document : AdaptiveAssetDocument} {event : AdaptiveAssetEvent} {reference : AdaptiveAssetRef}

/-- Tables that hold a lawful catalogue. -/
structure AdaptiveAssetStore.Sound (hashing : Hashing) (store : AdaptiveAssetStore) : Prop where
  holds : store.Holds
  lawful : store.content.Lawful hashing

/-- The documents read are those that the catalogue holds. -/
theorem AdaptiveAssetStore.Sound.get_ok (sound : store.Sound hashing) :
    store.get hashing reference = .ok document ↔
      document ∈ store.content.documents ∧ document.manifest.asset = reference := by
  unfold AdaptiveAssetStore.get
  simp only [bind_ok, orRaise_ok, require_ok, exists_const, pure_ok, sound.holds.fetch_manifest]
  constructor
  · rintro ⟨row, ⟨found, held, same, rfl⟩, kind, -, rfl⟩
    have bound := (sound.lawful.validDocuments found held).1.2.1
    exact ⟨held, AdaptiveAssetRef.ext kind (bound.trans same)⟩
  · rintro ⟨held, rfl⟩
    have valid := sound.lawful.validDocuments document held
    exact ⟨_, ⟨document, held, valid.1.2.1.symm, rfl⟩, rfl, valid, rfl⟩

/-- The kinds that a dictionary gives to digests, as references. -/
def kindsOf (available : Dictionary Digest AssetKind) : Set AdaptiveAssetRef :=
  {reference | available.get reference.digest = some reference.kind}

/-- Equal digests have equal kinds. -/
def Functional (references : Set AdaptiveAssetRef) : Prop :=
  ∀ first ∈ references, ∀ second ∈ references, first.digest = second.digest → first = second

/-- Documents are offered exactly while equal digests have equal kinds. -/
theorem offer_adds : Adds offer (fun _ => True) (fun _ => True) kindsOf
    (fun incoming => (⟨incoming.2.manifest.asset.kind, incoming.1⟩ : AdaptiveAssetRef))
    Functional where
  antitone included functional first member second other :=
    functional first (included member) second (included other)
  succeeds {available incoming} _ _ functional := by
    simp only [offer, bind_ok, require_ok, exists_const, pure_ok, exists_and_left]
    constructor
    · rintro ⟨same, -⟩
      -- What is stored under the digest has the kind that is offered.
      have stored : ∀ reference ∈ kindsOf available, reference.digest = incoming.1 →
          reference = ⟨incoming.2.manifest.asset.kind, incoming.1⟩ := by
        intro reference found equal
        exact AdaptiveAssetRef.ext (same _ (equal ▸ found)) equal
      rintro first (rfl | member) second (rfl | other) equal
      · rfl
      · exact (stored second other equal.symm).symm
      · exact stored first member equal
      · exact functional first member second other equal
    · intro functional
      refine ⟨fun existing found => ?_, _, rfl⟩
      have equal := functional ⟨existing, incoming.1⟩ (Set.mem_insert_of_mem _ found) _
        (Set.mem_insert _ _) rfl
      exact congrArg AdaptiveAssetRef.kind equal
  adds {available incoming after} _ _ offered := by
    simp only [offer, bind_ok, require_ok, exists_const, pure_ok] at offered
    obtain ⟨same, rfl⟩ := offered
    refine ⟨trivial, ?_⟩
    ext ⟨kind, digest⟩
    simp only [kindsOf, Set.mem_ofPred_eq, Set.mem_insert_iff, Dictionary.get_set]
    by_cases here : digest = incoming.1
    · subst here
      simp only [if_true, Option.some.injEq, AdaptiveAssetRef.mk.injEq, and_true]
      exact ⟨fun equal => .inl equal.symm, fun either =>
        either.elim Eq.symm fun found => (same kind found).symm⟩
    · simp [here]

/-- The kinds that an import starts with are those of the stored documents. -/
theorem AdaptiveAssetStore.Sound.available (sound : store.Sound hashing) :
    kindsOf store.available = {reference | store.content.Resolves reference} := by
  -- Every row has its own digest, so that no kind replaces another one.
  have entries : store.available.entries =
      store.manifests.map fun row => (row.manifestDigest, row.kind) := by
    have keys : (store.manifests.map ManifestRow.manifestDigest).Nodup := sound.holds.manifestKeys
    have made := Dictionary.foldl_set
      (store.manifests.map fun row => (row.manifestDigest, row.kind)) .empty
      (by simpa [Dictionary.empty, Function.comp_def] using keys)
    rw [List.foldl_map] at made
    exact made
  ext reference
  simp only [kindsOf, Set.mem_ofPred_eq, Dictionary.get_eq_some, entries, List.mem_map,
    Prod.mk.injEq]
  constructor
  · rintro ⟨row, member, digest, kind⟩
    have form := sound.holds.manifests row member
    have held : row.document ∈ store.content.documents := ⟨row, member, rfl⟩
    have bound := (sound.lawful.validDocuments _ held).1.2.1
    rw [form] at digest kind
    exact ⟨row.document, held, AdaptiveAssetRef.ext kind (bound.trans digest)⟩
  · rintro ⟨document, held, rfl⟩
    have bound := (sound.lawful.validDocuments _ held).1.2.1
    exact ⟨_, sound.holds.document_mem.mp held, bound.symm, rfl⟩

/-- The documents of a valid bundle, each under its own digest. -/
theorem incoming_entries (valid : bundle.Valid hashing) :
    (documentsByDigest bundle.documents).entries =
      bundle.documents.map fun document => (document.manifest.asset.digest, document) := by
  have keys : (bundle.documents.map fun document => document.manifest.asset.digest).Nodup :=
    valid.sortedDocuments.nodup
  have made := Dictionary.foldl_set
    (bundle.documents.map fun document => (document.manifest.asset.digest, document)) .empty
    (by simpa [Dictionary.empty, Function.comp_def] using keys)
  rw [List.foldl_map] at made
  exact made

/-- A digest brings in the document of the bundle that it is the digest of. -/
theorem incoming_get (valid : bundle.Valid hashing) {digest : Digest} :
    (documentsByDigest bundle.documents).get digest = some document ↔
      document ∈ bundle.content.documents ∧ document.manifest.asset.digest = digest := by
  rw [Dictionary.get_eq_some, incoming_entries valid]
  simp only [List.mem_map, Prod.mk.injEq, AdaptiveAssetBundle.content, listed, id_eq,
    Set.mem_ofPred_eq]
  constructor
  · rintro ⟨other, member, digest, rfl⟩
    exact ⟨⟨other, member, rfl⟩, digest⟩
  · rintro ⟨⟨other, member, rfl⟩, digest⟩
    exact ⟨other, member, digest, rfl⟩

/-- What is offered together with the stored kinds are the references that the union resolves. -/
theorem AdaptiveAssetStore.Sound.offered (sound : store.Sound hashing)
    (valid : bundle.Valid hashing) :
    kindsOf store.available ∪ listed
        (fun incoming => (⟨incoming.2.manifest.asset.kind, incoming.1⟩ : AdaptiveAssetRef))
        (documentsByDigest bundle.documents).entries =
      {reference | (store.content ∪ bundle.content).Resolves reference} := by
  rw [sound.available, incoming_entries valid]
  ext reference
  simp only [listed, List.mem_map, Set.mem_union, Set.mem_ofPred_eq, exists_exists_and_eq_and,
    Catalogue.Resolves, Catalogue.union_documents, or_and_right, exists_or]
  refine or_congr_right ?_
  constructor
  · rintro ⟨document, member, same⟩
    exact ⟨document, ⟨document, member, rfl⟩, same⟩
  · rintro ⟨_, ⟨document, member, rfl⟩, same⟩
    exact ⟨document, member, same⟩

/-- References pass when the union resolves each of them. -/
theorem requireAvailable_ok {available : Dictionary Digest AssetKind} {catalogue : Catalogue}
    (kinds : kindsOf available = {reference | catalogue.Resolves reference}) {subject : String}
    {references : List AdaptiveAssetRef} {passed : Unit} :
    requireAvailable available subject references = .ok passed ↔
      ∀ reference ∈ references, catalogue.Resolves reference := by
  unfold requireAvailable
  rw [forM_ok]
  refine forall₂_congr fun reference _ => ?_
  rw [require_ok]
  exact Set.ext_iff.mp kinds reference

theorem AdaptiveAssetStore.Sound.union_valid (sound : store.Sound hashing)
    (valid : bundle.Valid hashing)
    (held : document ∈ (store.content ∪ bundle.content).documents) : document.Valid hashing := by
  rcases held with stored | ⟨_, member, rfl⟩
  · exact sound.lawful.validDocuments document stored
  · exact valid.documents _ member

/-- An outcome event passes when the union holds the outcome of its episode that it names. -/
theorem AdaptiveAssetStore.Sound.validateOutcomeEvent_ok (sound : store.Sound hashing)
    (valid : bundle.Valid hashing)
    (agree : Catalogue.AgreeDocuments (store.content ∪ bundle.content).documents)
    (event : AdaptiveAssetEvent) (own : event.Valid hashing) {passed : Unit} :
    store.validateOutcomeEvent hashing event (documentsByDigest bundle.documents) = .ok passed ↔
      (store.content ∪ bundle.content).Observed event := by
  unfold AdaptiveAssetStore.validateOutcomeEvent Catalogue.Observed
  by_cases ends : event.kind = .outcome
  · have named := own.2.2.2.2.2.1
    rw [if_pos ends] at named
    obtain ⟨episode, episodeIs⟩ := Option.ne_none_iff_exists'.mp named.1
    obtain ⟨outcome, outcomeIs, kind⟩ := named.2
    simp only [ends, if_true, episodeIs, Option.mem_def.mp outcomeIs, bind_ok, orRaise_ok,
      Option.some.injEq, exists_eq_left', true_imp_iff]
    unfold AdaptiveAssetStore.incomingOrStored
    constructor
    · rintro ⟨document, found, checked⟩
      cases shape : document.body with
      | outcome body =>
        simp only [shape, require_ok] at checked
        cases brought : (documentsByDigest bundle.documents).get outcome.digest with
        | some incoming =>
          rw [brought] at found
          obtain rfl : incoming = document := by simpa using found
          obtain ⟨member, same⟩ := (incoming_get valid).mp brought
          have bound := (sound.union_valid valid (.inr member)).2.1
          rw [shape] at bound
          exact ⟨incoming, .inr member, body,
            AdaptiveAssetRef.ext (kind.trans bound.symm) same.symm, shape, checked.symm⟩
        | none =>
          rw [brought] at found
          obtain ⟨stored, rfl⟩ := sound.get_ok.mp found
          exact ⟨document, .inl stored, body, rfl, shape, checked.symm⟩
      | agentFingerprint | episode | evaluation | proposal => simp [shape] at checked
    · rintro ⟨document, held, body, rfl, shape, rfl⟩
      refine ⟨document, ?_, by simp [shape]⟩
      cases brought : (documentsByDigest bundle.documents).get document.manifest.asset.digest with
      | some incoming =>
        -- Equal digests bind equal documents, so that the bundle brings the named one.
        obtain ⟨member, same⟩ := (incoming_get valid).mp brought
        have digest := (sound.union_valid valid held).1.2.1
        have other := (sound.union_valid valid (.inr member)).1.2.1
        rw [(agree incoming (.inr member) document held).1 (other ▸ same.trans digest)]
      | none =>
        rcases held with stored | member
        · exact sound.get_ok.mpr ⟨stored, rfl⟩
        · rw [(incoming_get valid).mpr ⟨member, rfl⟩] at brought
          cases brought
  · simp [ends]

theorem AdaptiveAssetStore.Sound.union_events (sound : store.Sound hashing)
    (valid : bundle.Valid hashing)
    (held : event ∈ (store.content ∪ bundle.content).events) : event.Valid hashing := by
  rcases held with stored | ⟨_, member, rfl⟩
  · exact sound.lawful.validEvents event stored
  · exact valid.events _ member

/-- The documents of a lawful union are offered without a conflict of kinds. -/
theorem AdaptiveAssetStore.Sound.offers (sound : store.Sound hashing)
    (valid : bundle.Valid hashing)
    (agree : Catalogue.AgreeDocuments (store.content ∪ bundle.content).documents) :
    ∃ available,
      (documentsByDigest bundle.documents).entries.foldlM offer store.available = .ok available ∧
        kindsOf available = {reference | (store.content ∪ bundle.content).Resolves reference} := by
  have functional : Functional
      {reference | (store.content ∪ bundle.content).Resolves reference} := by
    rintro _ ⟨first, held, rfl⟩ _ ⟨second, other, rfl⟩ same
    have here := (sound.union_valid valid held).1.2.1
    have there := (sound.union_valid valid other).1.2.1
    rw [(agree first held second other).1 (here ▸ there ▸ same)]
  obtain ⟨available, offered⟩ := (offer_adds.fold_succeeds (fun _ _ => trivial) trivial
    (fun first member second other same => by
      rw [sound.available] at member other
      obtain ⟨left, held, rfl⟩ := member
      obtain ⟨right, stored, rfl⟩ := other
      exact functional _ ⟨left, .inl held, rfl⟩ _ ⟨right, .inl stored, rfl⟩ same)).mpr
    (by rw [sound.offered valid]; exact functional)
  obtain ⟨-, kinds⟩ := offer_adds.fold_adds (fun _ _ => trivial) trivial offered
  exact ⟨available, offered, kinds.trans (sound.offered valid)⟩

/-- An import that returns has made the union of the stored content with that of the bundle. -/
theorem AdaptiveAssetStore.Sound.imported (sound : store.Sound hashing)
    (valid : bundle.Valid hashing) {result : AssetImportResult}
    (returned : store.importBundle hashing bundle = .ok (after, result)) :
    after.Sound hashing ∧ after.content = store.content ∪ bundle.content := by
  simp only [AdaptiveAssetStore.importBundle, bind_ok, forM_ok, pure_ok, Prod.mk.injEq] at returned
  obtain ⟨available, offered, _, documents, _, events, withDocuments, inserted, last, added,
    rfl, -⟩ := returned
  -- The documents go in first, and the events after them.
  obtain ⟨⟨holds, sameEvents⟩, grown⟩ :=
    (insertDocument_adds store.events).fold_adds (fun _ _ => trivial) ⟨sound.holds, rfl⟩ inserted
  have agree := ((insertDocument_adds store.events).fold_succeeds (fun _ _ => trivial)
    ⟨sound.holds, rfl⟩ sound.lawful.agreeDocuments).mp ⟨withDocuments, inserted⟩
  have stillEvents : withDocuments.content.events = store.content.events :=
    congrArg (listed EventRow.event) sameEvents
  obtain ⟨⟨kept, -, sameManifests⟩, whole⟩ :=
    (insertEvent_adds withDocuments).fold_adds valid.events ⟨holds, rfl, rfl⟩ added
  have distinct := ((insertEvent_adds withDocuments).fold_succeeds valid.events
    ⟨holds, rfl, rfl⟩ (stillEvents ▸ sound.lawful.agreeEvents)).mp ⟨last, added⟩
  have content : last.content = store.content ∪ bundle.content := by
    refine Catalogue.ext ?_ (whole.trans (congrArg (· ∪ _) stillEvents))
    exact (congrArg (listed ManifestRow.document) sameManifests).trans grown
  obtain ⟨same, again, kinds⟩ := sound.offers valid agree
  rw [offered, Except.ok.injEq] at again
  subst again
  refine ⟨⟨kept, content ▸ ?_⟩, content⟩
  have checks : ∀ event ∈ bundle.events,
      (∀ reference ∈ eventReferences event,
        (store.content ∪ bundle.content).Resolves reference) ∧
      (store.content ∪ bundle.content).Observed event := by
    intro event member
    obtain ⟨_, available, observed⟩ := events event member
    exact ⟨(requireAvailable_ok kinds).mp available,
      (sound.validateOutcomeEvent_ok valid agree event (valid.events event member)).mp observed⟩
  exact {
    validDocuments := fun document held => sound.union_valid valid held
    validEvents := fun event held => sound.union_events valid held
    agreeDocuments := agree
    agreeEvents := by rwa [stillEvents] at distinct
    closedDocuments := by
      rintro document (stored | ⟨_, member, rfl⟩) reference listed
      · obtain ⟨target, held, same⟩ :=
          sound.lawful.closedDocuments document stored reference listed
        exact ⟨target, .inl held, same⟩
      · exact (requireAvailable_ok kinds).mp (documents _ member) reference listed
    closedEvents := by
      rintro event (stored | ⟨_, member, rfl⟩) reference listed
      · obtain ⟨target, held, same⟩ := sound.lawful.closedEvents event stored reference listed
        exact ⟨target, .inl held, same⟩
      · exact (checks _ member).1 reference listed
    observed := by
      rintro event (stored | ⟨_, member, rfl⟩) ends
      · obtain ⟨document, held, rest⟩ := sound.lawful.observed event stored ends
        exact ⟨document, .inl held, rest⟩
      · exact (checks _ member).2 ends }

/-- An import returns when the union of the stored content with that of the bundle is lawful. -/
theorem AdaptiveAssetStore.Sound.imports (sound : store.Sound hashing)
    (valid : bundle.Valid hashing)
    (lawful : (store.content ∪ bundle.content).Lawful hashing) :
    ∃ after result, store.importBundle hashing bundle = .ok (after, result) := by
  obtain ⟨available, offered, kinds⟩ := sound.offers valid lawful.agreeDocuments
  obtain ⟨withDocuments, inserted⟩ :=
    ((insertDocument_adds store.events).fold_succeeds (fun _ _ => trivial) ⟨sound.holds, rfl⟩
      sound.lawful.agreeDocuments).mpr lawful.agreeDocuments
  obtain ⟨⟨holds, sameEvents⟩, -⟩ :=
    (insertDocument_adds store.events).fold_adds (fun _ _ => trivial) ⟨sound.holds, rfl⟩ inserted
  have stillEvents : withDocuments.content.events = store.content.events :=
    congrArg (listed EventRow.event) sameEvents
  obtain ⟨last, added⟩ := ((insertEvent_adds withDocuments).fold_succeeds valid.events
    ⟨holds, rfl, rfl⟩ (stillEvents ▸ sound.lawful.agreeEvents)).mpr
      (stillEvents ▸ lawful.agreeEvents)
  refine ⟨last, ⟨bundle.bundleDigest, bundle.documents.length, bundle.events.length⟩, ?_⟩
  simp only [AdaptiveAssetStore.importBundle, bind_ok, forM_ok, pure_ok]
  refine ⟨available, offered, (), fun document member => ?_, (), fun event member => ?_,
    withDocuments, inserted, last, added, rfl⟩
  · exact (requireAvailable_ok kinds).mpr
      (lawful.closedDocuments document (.inr ⟨document, member, rfl⟩))
  · refine ⟨(), (requireAvailable_ok kinds).mpr ?_, ?_⟩
    · exact lawful.closedEvents event (.inr ⟨event, member, rfl⟩)
    · exact (sound.validateOutcomeEvent_ok valid lawful.agreeDocuments event
        (valid.events event member)).mpr (lawful.observed event (.inr ⟨event, member, rfl⟩))

end Imports


end Aar.Assets
