import Aar.Proofs.Runs
import Aar.Registry.EventPage

/-! Reading the events of an operation page by page, while other calls append more of them. -/

namespace Aar

open Guarded Table Registry

section Pages

variable {size : OperationEventEnvelope → Nat} {operation : String} {record : OpRecord}
  {limit maxBytes : Nat} {rows : List EventRow}

/-- Every event of an operation can be returned, in at most so many bytes. -/
def Fitting (size : OperationEventEnvelope → Nat) (operation : String) (record : OpRecord)
    (maxBytes : Nat) (row : EventRow) : Prop :=
  ∃ event, eventEnvelope operation record row = .ok event ∧ size event ≤ maxBytes

instance (size : OperationEventEnvelope → Nat) (operation : String) (record : OpRecord)
    (maxBytes : Nat) (row : EventRow) : Decidable (Fitting size operation record maxBytes row) :=
  match shown : eventEnvelope operation record row with
  | .ok event => decidable_of_iff (size event ≤ maxBytes) (by simp [Fitting, shown])
  | .error _ => isFalse (by simp [Fitting, shown])

theorem eventEnvelope_ok {row : EventRow} {event : OperationEventEnvelope}
    (shown : eventEnvelope operation record row = .ok event) :
    event.sequence = row.sequence ∧ event.operation = operation := by
  simp only [eventEnvelope, bind_ok, require_ok, pure_ok] at shown
  obtain ⟨_, -, rfl⟩ := shown
  exact ⟨rfl, rfl⟩

/-- The events of a page, each read from its row. -/
abbrev Shows (operation : String) (record : OpRecord) :
    List EventRow → List OperationEventEnvelope → Prop :=
  List.Forall₂ fun row event => eventEnvelope operation record row = .ok event

theorem Shows.sequences {page : List OperationEventEnvelope}
    (shows : Shows operation record rows page) : page.map (·.sequence) = rows.map (·.sequence) := by
  induction shows with
  | nil => rfl
  | cons shown _ ih => simp only [List.map_cons, ih, (eventEnvelope_ok shown).1]

/-- Every event of a page is read from one of the rows. -/
theorem Shows.mem {page : List OperationEventEnvelope} {event : OperationEventEnvelope}
    (shows : Shows operation record rows page) (member : event ∈ page) :
    ∃ row ∈ rows, eventEnvelope operation record row = .ok event := by
  induction shows with
  | nil => cases member
  | cons shown _ ih =>
    rcases List.mem_cons.mp member with rfl | later
    · exact ⟨_, List.mem_cons_self, shown⟩
    · obtain ⟨row, stored, read⟩ := ih later
      exact ⟨row, List.mem_cons_of_mem _ stored, read⟩

/-- Filling a page takes rows from the front, as many as fit, and the first of them always. -/
theorem fillPage_ok (fit : ∀ row ∈ rows, Fitting size operation record maxBytes row)
    {usedBytes : Nat} (events : List OperationEventEnvelope)
    (used : usedBytes = (events.map size).sum) (small : usedBytes ≤ maxBytes) :
    ∃ count page,
      fillPage size operation record maxBytes events usedBytes rows = .ok (events ++ page) ∧
        Shows operation record (rows.take count) page ∧ page.length = count ∧
        ((events ++ page).map size).sum ≤ maxBytes ∧ (events = [] → rows ≠ [] → 0 < count) := by
  induction rows generalizing events usedBytes with
  | nil =>
    refine ⟨0, [], ?_, .nil, rfl, ?_, fun _ absent => absurd rfl absent⟩
    · simp only [fillPage, List.append_nil, pure, Except.pure]
    · rw [List.append_nil, ← used]
      exact small
  | cons row rest ih =>
    obtain ⟨event, shown, fits⟩ := fit row List.mem_cons_self
    have later : ∀ row ∈ rest, Fitting size operation record maxBytes row :=
      fun row member => fit row (List.mem_cons_of_mem _ member)
    by_cases full : maxBytes < usedBytes + size event
    · -- The page was filled before, since one event alone would fit.
      have present : events ≠ [] := by
        intro empty
        rw [empty] at used
        simp only [List.map_nil, List.sum_nil] at used
        omega
      refine ⟨0, [], ?_, .nil, rfl, ?_, fun empty => absurd empty present⟩
      · simp only [fillPage, shown, ok_bind, if_pos full, require, present, ne_eq,
          not_false_eq_true, if_true, List.append_nil, pure, Except.pure]
      · rw [List.append_nil, ← used]
        exact small
    · have sum : usedBytes + size event = ((events ++ [event]).map size).sum := by
        simp [used]
      obtain ⟨count, page, filled, shows, counted, total, -⟩ :=
        ih later (events ++ [event]) sum (Nat.le_of_not_lt full)
      refine ⟨count + 1, event :: page, ?_, .cons shown shows, by simp [counted], ?_, ?_⟩
      · simp only [fillPage, shown, ok_bind, if_neg full, filled, List.append_assoc,
          List.cons_append, List.nil_append]
      · simpa only [List.append_assoc, List.cons_append, List.nil_append] using total
      · exact fun _ _ => Nat.succ_pos _

/-- What a page is, that was read after a cursor from the rows of an operation. -/
structure PageOf (size : OperationEventEnvelope → Nat) (operation : String) (record : OpRecord)
    (cursor limit maxBytes : Nat) (page : OperationEventPage) : Prop where
  forward : cursor ≤ page.nextSequence
  selected : page.events.map (·.sequence) =
    (Cursor.between EventRow.sequence cursor page.nextSequence record.events).map (·.sequence)
  shown : ∀ event ∈ page.events, ∃ row ∈ record.events,
    eventEnvelope operation record row = .ok event
  limited : page.events.length ≤ limit
  bounded : (page.events.map size).sum ≤ maxBytes
  more : page.hasMore = true ↔ ∃ row ∈ record.events, page.nextSequence < row.sequence
  progress : page.hasMore = true → page.events ≠ []
  snapshot : page.terminalSnapshot.isSome = true ↔
    record.row.state.Terminal ∧ page.hasMore = false
  reached : page.nextSequence = cursor ∨ ∃ row ∈ record.events, row.sequence = page.nextSequence

/-- What a snapshot shows of an operation is within its bounds: its control, and the number and the
recovery reason of its newest attempt. -/
def Describable (record : OpRecord) : Prop :=
  ControlValid (record.control.getD uncontrolled) ∧
    (fetchMax record.attempts (fun _ => True) AttemptRow.attemptNo).all fun attempt =>
      1 ≤ attempt.attemptNo ∧ attempt.recoveryReason.all fun reason => ContinuityText reason

instance (record : OpRecord) : Decidable (Describable record) :=
  inferInstanceAs (Decidable (_ ∧ _))

/-- The events of an operation can be returned as they are, and once it has ended it can be
described. -/
structure Presentable (size : OperationEventEnvelope → Nat) (operation : String)
    (record : OpRecord) (maxBytes : Nat) : Prop where
  events : ∀ row ∈ record.events, Fitting size operation record maxBytes row
  described : record.row.state.Terminal → Describable record

instance (size : OperationEventEnvelope → Nat) (operation : String) (record : OpRecord)
    (maxBytes : Nat) : Decidable (Presentable size operation record maxBytes) :=
  decidable_of_iff ((∀ row ∈ record.events, Fitting size operation record maxBytes row) ∧
      (record.row.state.Terminal → Describable record))
    ⟨fun holds => ⟨holds.1, holds.2⟩, fun presentable => ⟨presentable.events, presentable.described⟩⟩

theorem continuitySnapshot_operation {snapshot : OperationContinuitySnapshot}
    (projected : continuitySnapshot operation record = .ok snapshot) :
    snapshot.operation = operation := by
  simp only [continuitySnapshot, bind_ok, pure_ok] at projected
  obtain ⟨_, -, rfl⟩ := projected
  rfl

/-- The newest attempt of an operation is the last one of its snapshot. -/
theorem attemptRefForNo_newest (operation : String) {attempt : AttemptRow}
    (newest : fetchMax record.attempts (fun _ => True) AttemptRow.attemptNo = some attempt) :
    ∃ attemptId, attemptRefForNo operation record (some attempt.attemptNo) =
      some ⟨operation, attempt.attemptNo, attemptId⟩ := by
  obtain ⟨member, -, -⟩ := fetchMax_some newest
  cases stored : fetchOne record.attempts fun row => row.attemptNo = attempt.attemptNo with
  | none => exact absurd rfl (fetchOne_none.mp stored attempt member)
  | some row =>
    have same : row.attemptNo = attempt.attemptNo := (fetchOne_some stored).2
    exact ⟨row.attemptId, by simp [attemptRefForNo, stored, same]⟩

/-- An operation has a snapshot exactly when it can be described. -/
theorem continuitySnapshot_iff :
    (∃ snapshot, continuitySnapshot operation record = .ok snapshot) ↔ Describable record := by
  simp only [continuitySnapshot, bind_ok, pure_ok, OperationContinuitySnapshot.Valid, Describable]
  cases newest : fetchMax record.attempts (fun _ => True) AttemptRow.attemptNo with
  | none => simp [attemptRefForNo]
  | some attempt =>
    obtain ⟨attemptId, last⟩ := attemptRefForNo_newest operation newest
    simp only [Option.map_some, Option.bind_some, last]
    by_cases running : record.dispatch.any fun row => row.state = .running <;>
      simp [running, and_comm]

/-- A snapshot is taken when an operation has ended and nothing more comes, and then it succeeds. -/
theorem snapshotWhenDone_ok (operation : String)
    (described : record.row.state.Terminal → Describable record) (hasMore : Bool) :
    ∃ terminal, snapshotWhenDone operation record hasMore = .ok terminal ∧
      (terminal.isSome = true ↔ record.row.state.Terminal ∧ hasMore = false) ∧
      terminal.all fun snapshot => snapshot.operation = operation := by
  unfold snapshotWhenDone
  by_cases ended : record.row.state.Terminal ∧ hasMore = false
  · obtain ⟨snapshot, projected⟩ := continuitySnapshot_iff.mpr (described ended.1)
    refine ⟨some snapshot, ?_, by simp [ended], ?_⟩
    · rw [if_pos ended, projected]
      rfl
    · simpa using continuitySnapshot_operation projected
  · exact ⟨none, by rw [if_neg ended]; rfl, by simp [ended], rfl⟩

theorem selectEvents_ordered (ordered : Cursor.Ordered EventRow.sequence record.events)
    (cursor limit : Nat) :
    selectEvents cursor limit record =
      (Cursor.after EventRow.sequence cursor record.events).take (limit + 1) := by
  rw [selectEvents, List.Pairwise.insertionSort_eq]
  exact (ordered.after cursor).imp fun below => Nat.le_of_lt below

/-- What the events of a page are, that were taken after a cursor from the rows of an operation. -/
structure Filled (size : OperationEventEnvelope → Nat) (operation : String) (record : OpRecord)
    (cursor limit maxBytes : Nat) (events : List OperationEventEnvelope) : Prop where
  selected : events.map (·.sequence) =
    (Cursor.between EventRow.sequence cursor
      (Cursor.behind OperationEventEnvelope.sequence cursor events) record.events).map (·.sequence)
  shown : ∀ event ∈ events, ∃ row ∈ record.events, eventEnvelope operation record row = .ok event
  sorted : events.Pairwise fun first second => first.sequence < second.sequence
  later : ∀ event ∈ events, cursor < event.sequence
  limited : events.length ≤ limit
  bounded : (events.map size).sum ≤ maxBytes
  more : events.length < (selectEvents cursor limit record).length ↔
    ∃ row ∈ record.events, Cursor.behind OperationEventEnvelope.sequence cursor events < row.sequence
  progress : events.length < (selectEvents cursor limit record).length → events ≠ []

theorem Filled.own {cursor : Nat} {events : List OperationEventEnvelope}
    (filled : Filled size operation record cursor limit maxBytes events) :
    ∀ event ∈ events, event.operation = operation := by
  intro event member
  obtain ⟨_, -, shown⟩ := filled.shown event member
  exact (eventEnvelope_ok shown).2

/-- Filling a page from the rows that are selected takes what a page should hold. -/
theorem fillPage_filled (ordered : Cursor.Ordered EventRow.sequence record.events)
    (positive : 1 ≤ limit)
    (fitting : ∀ row ∈ record.events, Fitting size operation record maxBytes row) (cursor : Nat) :
    ∃ events, fillPage size operation record maxBytes [] 0
        ((selectEvents cursor limit record).take limit) = .ok events ∧
      Filled size operation record cursor limit maxBytes events := by
  have selects := selectEvents_ordered ordered cursor limit
  generalize rowsAre : Cursor.after EventRow.sequence cursor record.events = rows at selects
  have inside : ∀ row ∈ rows, row ∈ record.events := by
    intro row member
    rw [← rowsAre] at member
    exact (List.mem_filter.mp member).1
  -- The page is filled from the first rows, without the one that shows whether there are more.
  have front : (selectEvents cursor limit record).take limit = rows.take limit := by
    rw [selects, List.take_take, Nat.min_eq_left (Nat.le_succ limit)]
  have fit : ∀ row ∈ rows.take limit, Fitting size operation record maxBytes row :=
    fun row member => fitting row (inside row (List.mem_of_mem_take member))
  obtain ⟨count, page, filled, shows, counted, total, first⟩ :=
    fillPage_ok fit [] rfl (Nat.zero_le _)
  rw [List.nil_append] at filled total
  have whole : ((rows.take limit).take count).length = count := by
    rw [shows.length_eq, counted]
  have few : count ≤ limit := by
    simp only [List.length_take] at whole
    omega
  rw [List.take_take, Nat.min_eq_left few] at shows whole
  have sequences : page.map (·.sequence) = (rows.take count).map (·.sequence) := shows.sequences
  -- The next cursor separates the page from the rows that come after it.
  have selected := Cursor.between_behind ordered cursor count
  have remaining := Cursor.after_behind ordered cursor count
  rw [rowsAre, ← Cursor.behind_congr sequences] at selected remaining
  refine ⟨page, front ▸ filled, sequences.trans (congrArg _ selected.symm), ?_, ?_, ?_,
    counted ▸ few, total, ?_, ?_⟩
  · intro event member
    obtain ⟨row, taken, shown⟩ := shows.mem member
    exact ⟨row, inside row (List.mem_of_mem_take taken), shown⟩
  · have listed : (page.map (·.sequence)).Pairwise (· < ·) := by
      rw [sequences, List.pairwise_map, ← rowsAre]
      exact (ordered.after cursor).sublist (List.take_sublist _ _)
    exact List.pairwise_map.mp listed
  · intro event member
    have listed := List.mem_map_of_mem (f := OperationEventEnvelope.sequence) member
    rw [sequences, ← rowsAre] at listed
    obtain ⟨row, taken, same⟩ := List.mem_map.mp listed
    rw [← same]
    exact Cursor.lt_of_mem_after (List.mem_of_mem_take taken)
  · have left : page.length < (selectEvents cursor limit record).length ↔ rows.drop count ≠ [] := by
      rw [selects, counted, List.length_take, ne_eq, List.drop_eq_nil_iff]
      omega
    rw [left, ← remaining, ne_eq, Cursor.after, List.filter_eq_nil_iff]
    simp
  · -- A page that is not the last one holds a row, since the first one fits.
    intro present empty
    have nonempty : rows.take limit ≠ [] := by
      intro nothing
      have short := congrArg List.length nothing
      simp only [selects, empty, List.length_nil, List.length_take] at present short
      omega
    have several := first rfl nonempty
    simp only [empty, List.length_nil] at counted
    omega

/-- Reading a page of presentable events in order succeeds, and gives what a page should be. -/
theorem eventPage_ok {db : Db} {maxLimit : Nat} (found : db.lookup operation = some record)
    (ordered : Cursor.Ordered EventRow.sequence record.events)
    (limits : 1 ≤ limit ∧ limit ≤ min maxLimit 500) (bytes : 1024 ≤ maxBytes ∧ maxBytes ≤ 1048576)
    (presentable : Presentable size operation record maxBytes) (cursor : Nat) :
    ∃ page, eventPage size operation cursor limit maxLimit maxBytes db = .ok page ∧
      PageOf size operation record cursor limit maxBytes page := by
  obtain ⟨events, filled, taken⟩ := fillPage_filled ordered limits.1 presentable.events cursor
  let hasMore := decide (events.length < (selectEvents cursor limit record).length)
  obtain ⟨terminal, projected, ended, of⟩ :=
    snapshotWhenDone_ok operation presentable.described hasMore
  let page : OperationEventPage :=
    ⟨operation, cursor, events, Cursor.behind OperationEventEnvelope.sequence cursor events,
      hasMore, terminal⟩
  have valid : page.Valid := by
    refine ⟨by simpa [page] using taken.own, taken.sorted, ?_, rfl, of⟩
    cases listed : events with
    | nil => simp [page, listed]
    | cons event rest =>
      simpa [page, listed] using taken.later event (listed ▸ List.mem_cons_self)
  refine ⟨page, ?_, ?_⟩
  · have first : 1 ≤ (limit : Int) ∧ (limit : Int) ≤ min (maxLimit : Int) maxEventPageLimit := by
      obtain ⟨given, most⟩ := Nat.le_min.mp limits.2
      exact ⟨by omega, Int.le_min.mpr ⟨by omega, by unfold maxEventPageLimit; omega⟩⟩
    have second : 1024 ≤ (maxBytes : Int) ∧ (maxBytes : Int) ≤ maxEventPageBytes := by
      unfold maxEventPageBytes
      omega
    simp only [eventPage, bind_ok, require_ok, orRaise_ok, pure_ok, Int.toNat_natCast]
    exact ⟨(), Int.natCast_nonneg cursor, (), first, (), second, record, found, events, filled,
      terminal, projected, (), valid, rfl⟩
  · refine ⟨Cursor.le_behind taken.later, taken.selected, taken.shown, taken.limited,
      taken.bounded, decide_eq_true_iff.trans taken.more,
      fun follows => taken.progress (of_decide_eq_true follows), ended, ?_⟩
    rcases Cursor.behind_cases OperationEventEnvelope.sequence cursor events with
      same | ⟨event, member, same⟩
    · exact .inl same
    · obtain ⟨row, stored, shown⟩ := taken.shown event member
      exact .inr ⟨row, stored, (eventEnvelope_ok shown).1.symm.trans same⟩

end Pages

section Growth

variable {H : Hashing} {db : Db} {operation : String} {record : OpRecord}

/-- The events of an operation are numbered in order, from one up to the last number given out. -/
structure Scope.Numbered (s : Scope) : Prop where
  ordered : Cursor.Ordered EventRow.sequence s.events
  bounded : ∀ event ∈ s.events, 1 ≤ event.sequence ∧ event.sequence ≤ s.lastSequence

instance (s : Scope) : Decidable s.Numbered :=
  decidable_of_iff (s.events.Pairwise
        (fun first second : EventRow => first.sequence < second.sequence) ∧
      ∀ event ∈ s.events, 1 ≤ event.sequence ∧ event.sequence ≤ s.lastSequence)
    ⟨fun holds => ⟨holds.1, holds.2⟩, fun numbered => ⟨numbered.ordered, numbered.bounded⟩⟩

/-- An operation has the events it had, and after them, in order, those that came later. -/
def Scope.Appended (s s' : Scope) : Prop :=
  s.lastSequence ≤ s'.lastSequence ∧ ∃ added, s'.events = s.events ++ added ∧
    Cursor.Ordered EventRow.sequence added ∧
    ∀ event ∈ added, s.lastSequence < event.sequence ∧ event.sequence ≤ s'.lastSequence

/-- Events stay numbered in order when more are appended. -/
theorem Scope.Numbered.appended {s s' : Scope} (numbered : s.Numbered) (grown : s.Appended s') :
    s'.Numbered := by
  obtain ⟨later, added, same, sorted, fresh⟩ := grown
  constructor
  · rw [same]
    refine List.pairwise_append.mpr ⟨numbered.ordered, sorted, ?_⟩
    intro old stored new member
    exact Nat.lt_of_le_of_lt (numbered.bounded old stored).2 (fresh new member).1
  · rw [same]
    intro event member
    rcases List.mem_append.mp member with old | new
    · obtain ⟨positive, below⟩ := numbered.bounded event old
      exact ⟨positive, Nat.le_trans below later⟩
    · obtain ⟨above, below⟩ := fresh event new
      exact ⟨Nat.lt_of_le_of_lt (Nat.zero_le _) above, below⟩

/-- Every step leaves every operation with its events and those it appended. -/
theorem appended_progress :
    Progress H Unrestricted (fun _ => True) (fun _ => True) Scope.Appended where
  refl s := ⟨Nat.le_refl _, [], by simp, List.Pairwise.nil, nofun⟩
  trans first second third before after := by
    obtain ⟨later, added, same, sorted, fresh⟩ := before
    obtain ⟨later', added', same', sorted', fresh'⟩ := after
    refine ⟨Nat.le_trans later later', added ++ added', by rw [same', same, List.append_assoc],
      ?_, ?_⟩
    · refine List.pairwise_append.mpr ⟨sorted, sorted', ?_⟩
      intro old stored new member
      exact Nat.lt_of_le_of_lt (fresh old stored).2 (fresh' new member).1
    · intro event member
      rcases List.mem_append.mp member with old | new
      · obtain ⟨above, below⟩ := fresh event old
        exact ⟨above, Nat.le_trans below later'⟩
      · obtain ⟨above, below⟩ := fresh' event new
        exact ⟨Nat.lt_of_le_of_lt later above, below⟩
  step clock s s' _ step _ := by
    have recorded : Recorded False s s' := step.recorded nofun nofun nofun
    exact ⟨recorded.keeps.2, recorded.grown⟩

/-- Along a run the events of an operation only grow at their end. -/
theorem run_appended (events : List Event) (found : db.lookup operation = some record) :
    ∃ record', (Runs.run (Event.step H) events db).lookup operation = some record' ∧
      (db.scope operation record).Appended
        ((Runs.run (Event.step H) events db).scope operation record') := by
  have always : Invariant H Unrestricted fun _ => True :=
    ⟨fun _ _ => trivial, fun _ _ _ _ _ => trivial⟩
  exact appended_progress.run always (fun _ _ => trivial) (fun _ _ _ => trivial) found

end Growth

section Reading

variable {H : Hashing} {size : OperationEventEnvelope → Nat} {operation : String}
  {limit maxLimit maxBytes : Nat} {db : Db} {record : OpRecord}

/--
Read pages until nothing more is announced, each from the cursor that the page before returned.

Before each page a stretch of other calls takes place.
-/
def readPages (H : Hashing) (size : OperationEventEnvelope → Nat) (operation : String)
    (limit maxLimit maxBytes : Nat) :
    List (List Event) → Db → Nat → Except Err (List OperationEventPage)
  | [], _, _ => return []
  | stretch :: later, db, cursor => do
    let db := Runs.run (Event.step H) stretch db
    let page ← eventPage size operation cursor limit maxLimit maxBytes db
    if page.hasMore then
      let pages ← readPages H size operation limit maxLimit maxBytes later db page.nextSequence
      return page :: pages
    else return [page]

/-- The numbers of the events on some pages. -/
def sequencesOf (pages : List OperationEventPage) : List Nat :=
  (pages.flatMap (·.events)).map (·.sequence)

/-- What the pages are that were read after a cursor, up to the page with an index. -/
structure ReadUpTo (size : OperationEventEnvelope → Nat) (operation : String)
    (limit maxBytes cursor : Nat) (pages : List OperationEventPage) (index : Nat)
    (page : OperationEventPage) (record : OpRecord) : Prop where
  forward : cursor ≤ page.nextSequence
  read : ∃ start, PageOf size operation record start limit maxBytes page
  once : sequencesOf (pages.take (index + 1)) =
    (Cursor.between EventRow.sequence cursor page.nextSequence record.events).map (·.sequence)

/-- What was read up to a cursor is still what an operation has up to it when it has grown. -/
theorem Scope.Appended.between {s s' : Scope} (grown : s.Appended s') (cursor : Nat) {next : Nat}
    (given : next ≤ s.lastSequence) :
    Cursor.between EventRow.sequence cursor next s'.events =
      Cursor.between EventRow.sequence cursor next s.events := by
  obtain ⟨-, added, same, -, fresh⟩ := grown
  rw [same]
  exact Cursor.between_grown fun row member => Nat.lt_of_le_of_lt given (fresh row member).1

/-- The cursor that a page leaves behind is a number that was given out. -/
theorem PageOf.given {cursor : Nat} {page : OperationEventPage}
    (is : PageOf size operation record cursor limit maxBytes page)
    (numbered : (db.scope operation record).Numbered) (below : cursor ≤ db.lastSequence) :
    page.nextSequence ≤ db.lastSequence := by
  rcases is.reached with same | ⟨row, stored, same⟩
  · rw [same]
    exact below
  · rw [← same]
    exact (numbered.bounded row stored).2

/-- Reading goes on until nothing more is announced, and reads what lies between its cursors. -/
theorem readPages_ok (limits : 1 ≤ limit ∧ limit ≤ min maxLimit 500)
    (bytes : 1024 ≤ maxBytes ∧ maxBytes ≤ 1048576) (stretches : List (List Event))
    (found : db.lookup operation = some record) (numbered : (db.scope operation record).Numbered)
    {cursor : Nat} (below : cursor ≤ db.lastSequence)
    (presentable : ∀ index record,
      (Runs.run (Event.step H) (stretches.take (index + 1)).flatten db).lookup operation =
        some record → Presentable size operation record maxBytes) :
    ∃ pages, readPages H size operation limit maxLimit maxBytes stretches db cursor = .ok pages ∧
      (∀ index page, pages[index]? = some page → ∃ record,
        (Runs.run (Event.step H) (stretches.take (index + 1)).flatten db).lookup operation =
          some record ∧ ReadUpTo size operation limit maxBytes cursor pages index page record) ∧
      (pages.length = stretches.length ∧ (∀ page ∈ pages, page.hasMore = true) ∨
        ∃ page, pages.getLast? = some page ∧ page.hasMore = false) ∧
      pages.length ≤ stretches.length := by
  induction stretches generalizing db record cursor with
  | nil =>
    refine ⟨[], rfl, ?_, .inl ⟨rfl, ?_⟩, Nat.le_refl _⟩
    · intro index page there
      simp at there
    · intro page member
      simp at member
  | cons stretch later ih =>
    obtain ⟨now, here, grown⟩ := run_appended (H := H) stretch found
    have numberedNow := numbered.appended grown
    generalize viewIs : Runs.run (Event.step H) stretch db = view at here grown numberedNow
    have first : Presentable size operation now maxBytes :=
      presentable 0 now (by simp [viewIs, here])
    obtain ⟨page, read, is⟩ := eventPage_ok here numberedNow.ordered limits bytes first cursor
    have next : page.nextSequence ≤ view.lastSequence :=
      is.given numberedNow (Nat.le_trans below grown.1)
    cases more : page.hasMore with
    | false =>
      refine ⟨[page], ?_, ?_, .inr ⟨page, rfl, more⟩, by simp⟩
      · simp only [readPages, viewIs, read, ok_bind, more, Bool.false_eq_true, if_false]
        rfl
      · intro index other there
        cases index with
        | succ index => simp at there
        | zero =>
          simp only [List.getElem?_cons_zero, Option.some.injEq] at there
          subst there
          refine ⟨now, by simp [viewIs, here], is.forward, ⟨cursor, is⟩, ?_⟩
          simpa [sequencesOf] using is.selected
    | true =>
      -- The rest is read from the next cursor, in the state that this page was read in.
      have viewOf (index : Nat) :
          Runs.run (Event.step H) ((stretch :: later).take (index + 2)).flatten db =
            Runs.run (Event.step H) (later.take (index + 1)).flatten view := by
        rw [List.take_succ_cons, List.flatten_cons, Runs.run_append, viewIs]
      obtain ⟨pages, rest, each, ends, few⟩ := ih here numberedNow next fun index record there =>
        presentable (index + 1) record (by rw [viewOf]; exact there)
      refine ⟨page :: pages, ?_, ?_, ?_, by simpa using few⟩
      · simp only [readPages, viewIs, read, ok_bind, more, if_true, rest]
        rfl
      · intro index other there
        cases index with
        | zero =>
          simp only [List.getElem?_cons_zero, Option.some.injEq] at there
          subst there
          refine ⟨now, by simp [viewIs, here], is.forward, ⟨cursor, is⟩, ?_⟩
          simpa [sequencesOf] using is.selected
        | succ index =>
          rw [List.getElem?_cons_succ] at there
          obtain ⟨last, found', upTo⟩ := each index other there
          refine ⟨last, by rw [viewOf]; exact found', ?_⟩
          -- What this page read is still there when the later page is read.
          obtain ⟨same, there', grown'⟩ :=
            run_appended (H := H) (later.take (index + 1)).flatten here
          cases there'.symm.trans found'
          have kept := grown'.between cursor next
          have orderedThen := (numberedNow.appended grown').ordered
          refine ⟨Nat.le_trans is.forward upTo.forward, upTo.read, ?_⟩
          have parts := Cursor.between_append orderedThen is.forward upTo.forward
          have once := upTo.once
          simp only [sequencesOf, List.take_succ_cons, List.flatMap_cons, List.map_append,
            is.selected] at once ⊢
          have earlier : Cursor.between EventRow.sequence cursor page.nextSequence now.events =
              Cursor.between EventRow.sequence cursor page.nextSequence last.events := kept.symm
          rw [once, earlier, ← List.map_append]
          exact congrArg (List.map _) parts.symm
      · rcases ends with ⟨counted, all⟩ | ⟨final, last, done⟩
        · refine .inl ⟨by simpa using counted, fun other member => ?_⟩
          rcases List.mem_cons.mp member with rfl | member
          · exact more
          · exact all other member
        · refine .inr ⟨final, ?_, done⟩
          rw [List.getLast?_cons, last]
          rfl

/-- Every page that announces more holds an event, so the pages hold as many events at least. -/
theorem length_le_sequencesOf {pages : List OperationEventPage}
    (filled : ∀ page ∈ pages, page.events ≠ []) : pages.length ≤ (sequencesOf pages).length := by
  induction pages with
  | nil => exact Nat.zero_le _
  | cons page rest ih =>
    have one := List.length_pos_iff.mpr (filled page List.mem_cons_self)
    have others := ih fun page member => filled page (List.mem_cons_of_mem _ member)
    simp only [sequencesOf, List.flatMap_cons, List.map_append, List.length_append,
      List.length_map, List.length_cons] at others ⊢
    omega

section Last

variable {cursor : Nat} {before : List OperationEventPage} {last : OperationEventPage}

/-- The last page was read up to its cursor, and so were all pages together. -/
theorem ReadUpTo.whole (upTo : ReadUpTo size operation limit maxBytes cursor (before ++ [last])
      before.length last record) :
    sequencesOf (before ++ [last]) =
      (Cursor.between EventRow.sequence cursor last.nextSequence record.events).map
        (·.sequence) := by
  have all : (before ++ [last]).take (before.length + 1) = before ++ [last] :=
    List.take_of_length_le (by simp)
  simpa only [all] using upTo.once

/-- Pages that all hold an event are no more than the events there are. -/
theorem ReadUpTo.few (upTo : ReadUpTo size operation limit maxBytes cursor (before ++ [last])
      before.length last record) (filled : ∀ page ∈ before ++ [last], page.events ≠ []) :
    (before ++ [last]).length ≤ record.events.length := by
  have most := length_le_sequencesOf filled
  rw [upTo.whole, List.length_map] at most
  exact Nat.le_trans most (List.length_filter_le _ _)

end Last

end Reading

section Sample

/-- Before the second page the operation is asked to stop. -/
def Sample.stretches : List (List Event) :=
  [[], [(Call.on "op" (.registry (.requestCancel "requester" "stop"))).atTime 3], [], [], []]

/-- An operation that was parked with an empty note, and succeeded afterwards. -/
def Sample.unnoted : List Event :=
  Sample.running "op" .serviceManaged ++
    [(Call.on "op" (.registry (.parkAttempt (Sample.fence "op") 1 ""))).atTime 3,
      (Call.on "op" (.registry (.succeed "result" 1 true))).atTime 4]

end Sample

end Aar
