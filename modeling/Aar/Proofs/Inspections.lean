import Aar.Lib.Ends
import Aar.Lib.Shields
import Aar.Operator.Inspection
import Aar.Proofs.Canonical

/-! When an inspection of a registry shows what is committed, and raises nothing of its own. -/

namespace Aar.Operator

open Guarded Utf8 StrictJson

section Faithful

/-- An observation shows what is committed in a home: the same digests, no live owner, and the same
counts. -/
def Shows (environment : Environment) (home : Home) (observation : RegistryObservation) : Prop :=
  let connection := committed environment home
  ∃ tables, tableNames environment connection = .ok tables ∧
    schemaDigest environment connection = .ok observation.schemaDigest ∧
    rowSetDigest environment connection tables = .ok observation.rowSetDigest ∧
    assertNoLiveOwner environment connection tables = .ok () ∧
    nonterminalCounts environment connection tables = .ok observation.nonterminalCounts

/-- An inspection raises an `OperatorError`, or it returns an observation of what is committed at
some time of the call. -/
def Faithful (environment : Environment) (timeline : Timeline) : Prop :=
  Ends Failure.IsOperator
    (fun observation => ∃ time, timeline.began ≤ time ∧ time ≤ timeline.ended ∧
      Shows environment (timeline.home time) observation)
    (inspectRegistry environment timeline)

end Faithful

section Answers

variable (environment : Environment) (timeline : Timeline)

/-- SQLite answers a statement with rows of the main file, as it is opened when it is executed. -/
def Answered (statement : Text) (rows : Rows) : Prop :=
  ∃ main, timeline.opened (timeline.look (.executed statement)) = some main ∧
    environment.execute main none statement = .ok rows

/-- A table is listed. -/
def Listed (table : Text) : Prop :=
  ∃ rows, Answered environment timeline tableNamesQuery rows ∧
    ∃ row ∈ rows, strOf environment (column row 0) = table

/-- A statement is answered with a number. -/
def Tallied (statement : Text) (number : Int) : Prop :=
  ∃ row rest, Answered environment timeline statement (row :: rest) ∧
    intOf environment (column row 0) = .ok number

/-- What a file is seen as, when it is there to be looked up and can be read. -/
def sight (looked read : Option FileState) : Option FileArtifact := do
  let observed ← looked
  let content ← read.bind FileState.content
  return artifact environment observed content

/-- What the main file is seen as. -/
def mainSight (side : Side) : Option FileArtifact :=
  sight environment (timeline.at (.mainStat side)).main (timeline.at (.mainRead side)).main

/-- What a file beside it is seen as, once it was found. -/
def sidecarSight (side : Side) (sidecar : Sidecar) : Option FileArtifact :=
  sight environment ((timeline.at (.sidecarStat side sidecar)).sidecar sidecar)
    ((timeline.at (.sidecarRead side sidecar)).sidecar sidecar)

/-- What a file beside it is seen as, if it is found. -/
def sidecarSeen (side : Side) (sidecar : Sidecar) : Option FileArtifact :=
  ((timeline.at (.sidecarFound side sidecar)).sidecar sidecar).bind fun _ =>
    sidecarSight environment timeline side sidecar

/-- The tables with what is not terminal in each of them. -/
def nonterminalTables : List (String × String) :=
  [("operations", outcomeOpen), ("operation_attempts", outcomeOpen),
    ("rlm_workbench_jobs", jobOpen), ("caller_work_tickets", ticketOpen),
    ("worker_bindings", workerOpen)]

end Answers

section Checks

/-- What an inspection checks. -/
inductive Check where
  | located
  | probed (lock : Lock)
  | observed (side : Side)
  | tables
  | versions
  | owner
  | integrity
  | schema
  | rows
  | counts
  | files
  | memory

/-- The checks in the order in which an inspection makes them. -/
def inspectionChecks : List Check :=
  [.located, .probed .stable, .probed .predecessor, .observed .before, .tables, .versions, .owner,
    .integrity, .schema, .rows, .counts, .observed .after, .files, .memory]

variable (environment : Environment) (timeline : Timeline)

/-- What raises something that is no `OperatorError`: a lock file that cannot be opened; a file that
was found and is gone or cannot be read; a statement that is not answered, or not with a row, with
integers, or with what has canonical JSON; and something that is not terminal. -/
def Check.Breaks : Check → Prop
  | .located | .files | .memory => False
  | .probed lock => (timeline.at (.lockFound lock)).lock lock ≠ .absent ∧
      environment.windows = false ∧ (timeline.at (.lockProbed lock)).lock lock ≠ .free ∧
      (timeline.at (.lockProbed lock)).lock lock ≠ .held
  | .observed side => mainSight environment timeline side = none ∨
      ∃ sidecar, (timeline.at (.sidecarFound side sidecar)).sidecar sidecar ≠ none ∧
        sidecarSight environment timeline side sidecar = none
  | .tables => ∀ rows, ¬ Answered environment timeline tableNamesQuery rows
  | .versions => ∀ rows, Answered environment timeline versionsQuery rows →
      ∃ row ∈ rows, ∀ number, intOf environment (column row 0) ≠ .ok number
  | .owner => Listed environment timeline (text "supervisor_runs") ∧
      ∀ number, ¬ Tallied environment timeline liveRunsQuery number
  | .integrity => (∀ row rest, ¬ Answered environment timeline integrityQuery (row :: rest)) ∨
      ∀ violations, ¬ Answered environment timeline foreignKeyQuery violations
  | .schema => ∀ rows, Answered environment timeline schemaQuery rows →
      ∃ row ∈ rows, (schemaRow environment row).Offends
  | .rows => ∃ table, Listed environment timeline table ∧ ∀ columns rows,
      Answered environment timeline (columnsQuery table) columns →
        Answered environment timeline (rowsQuery table) rows →
          (tableValue environment table columns (rows.map encodedRow)).Offends
  | .counts => ∃ counted ∈ nonterminalTables, Listed environment timeline (text counted.1) ∧
      ¬ Tallied environment timeline (countQuery counted.1 counted.2) 0

/-- What raises an `OperatorError`: there is no registry, a lock is held, the registry has another
version, a live owner or a fault, or its files have changed. -/
def Check.Refuses : Check → Prop
  | .located => (timeline.at .located).main = none
  | .probed lock => (timeline.at (.lockFound lock)).lock lock ≠ .absent ∧
      (environment.windows = true ∨ (timeline.at (.lockProbed lock)).lock lock = .held)
  | .tables => (∃ rows, Answered environment timeline tableNamesQuery rows) ∧
      ¬ Listed environment timeline (text "schema_migrations")
  | .versions => ∃ rows versions, Answered environment timeline versionsQuery rows ∧
      List.Forall₂ (fun row version => intOf environment (column row 0) = .ok version)
        rows versions ∧ versions ∉ supportedVersions
  | .owner => Listed environment timeline (text "supervisor_runs") ∧
      ∃ number, Tallied environment timeline liveRunsQuery number ∧ number ≠ 0
  | .integrity => ∃ row rest violations,
      Answered environment timeline integrityQuery (row :: rest) ∧
        Answered environment timeline foreignKeyQuery violations ∧
          ¬ (strOf environment (column row 0) = text "ok" ∧ violations = [])
  | .files => mainSight environment timeline .before ≠ mainSight environment timeline .after ∨
      sidecarSeen environment timeline .before .wal ≠ sidecarSeen environment timeline .after .wal
  | .memory => presence (sidecarSeen environment timeline .before .shm) ≠
      presence (sidecarSeen environment timeline .after .shm)
  | .observed _ | .schema | .rows | .counts => False

/-- What raises something that is no `OperatorError` comes after something that raises one. -/
def Orderly : Prop :=
  Shielded (Check.Breaks environment timeline) (Check.Refuses environment timeline) inspectionChecks

/-- The main file of a home is the one that is opened, holds the same bytes throughout the call, and
has all that is committed: there is no log, or no statement is answered otherwise with it. -/
def Checkpointed (home : Home) : Prop :=
  ∃ main, home.main.bind FileState.content = some main ∧
    (∀ time, timeline.began ≤ time → time ≤ timeline.ended → timeline.opened time = some main) ∧
    ∀ log, home.sidecar .wal = some log → ∃ frames, log.content = some frames ∧
      ∀ statement, environment.execute main (some frames) statement =
        environment.execute main none statement

/-- The condition under which an inspection is faithful: what raises another error comes after what
raises an `OperatorError`; and when nothing raises one, the main file has all that is committed at
some time of the call, and nobody writes to it meanwhile. -/
structure Careful : Prop where
  orderly : Orderly environment timeline
  settled : (∀ check ∈ inspectionChecks, ¬ check.Refuses environment timeline) →
    ∃ time, timeline.began ≤ time ∧ time ≤ timeline.ended ∧
      Checkpointed environment timeline (timeline.home time)

end Checks

section Foreign

variable {environment : Environment} {timeline : Timeline} {connection : Connection} {α β : Type}

/-- A part of an inspection raises no `OperatorError`. -/
def Foreign (first : Except Failure α) : Prop :=
  Ends (fun error => ¬ error.IsOperator) (fun _ => True) first

theorem Foreign.error {first : Except Failure α} (foreign : Foreign first) :
    ∀ error, first = .error error → ¬ error.IsOperator := by
  intro error made
  subst made
  exact foreign

theorem Foreign.bind {first : Except Failure α} {rest : α → Except Failure β}
    (left : Foreign first) (right : ∀ value, Foreign (rest value)) : Foreign (first >>= rest) :=
  Ends.bind left fun value _ => right value

theorem foreign_orRaise {value : Option α} {error : Failure} (other : ¬ error.IsOperator) :
    Foreign (orRaise value error) := by
  cases value with
  | none => exact other
  | some found => exact trivial

theorem foreign_mapM {part : α → Except Failure β} (each : ∀ item, Foreign (part item))
    (items : List α) : Foreign (items.mapM part) := by
  induction items with
  | nil => exact trivial
  | cons item rest ih =>
    rw [List.mapM_cons]
    exact (each item).bind fun _ => ih.bind fun _ => trivial

theorem foreign_read (statement : Text) :
    Foreign (sqliteReadOnly environment timeline statement) := by
  refine Foreign.bind (foreign_orRaise (by decide)) fun main => ?_
  cases environment.execute main none statement with
  | ok rows => exact trivial
  | error message => exact not_false

theorem foreign_intOf (value : SqlValue) : Foreign (intOf environment value) := by
  cases value with
  | int number => exact trivial
  | null => exact not_false
  | real _ | text _ | blob _ => exact foreign_orRaise (by decide)

theorem foreign_scalar (rows : Rows) : Foreign (scalar rows) :=
  Foreign.bind (foreign_orRaise (by decide)) fun _ => trivial

theorem foreign_canonicalSha256 (data : Canonical.PyValue) :
    Foreign (canonicalSha256 environment data) := by
  unfold canonicalSha256
  split
  · exact trivial
  · exact not_false
  · exact not_false

theorem foreign_readFile (looked read : Option FileState) :
    Foreign (readFile environment looked read) :=
  (foreign_orRaise (by decide)).bind fun _ => (foreign_orRaise (by decide)).bind fun _ =>
    (foreign_orRaise (by decide)).bind fun _ => trivial

/-- The observation of files raises none. -/
theorem foreign_artifacts (side : Side) : Foreign (artifacts environment timeline side) := by
  have sidecars (sidecar : Sidecar) :
      Foreign (sidecarObservation environment timeline side sidecar) := by
    unfold sidecarObservation
    split
    · exact trivial
    · exact (foreign_readFile _ _).bind fun _ => trivial
  exact (foreign_readFile _ _).bind fun _ => (sidecars .wal).bind fun _ =>
    (sidecars .shm).bind fun _ => trivial

variable (foreign : ∀ statement, Foreign (connection statement))

include foreign

theorem foreign_fetchCount (statement : Text) :
    Foreign (fetchCount environment connection statement) :=
  (foreign _).bind fun rows => (foreign_scalar rows).bind fun value => foreign_intOf value

theorem foreign_liveRuns (tables : List Text) :
    Foreign (liveRuns environment connection tables) := by
  unfold liveRuns
  split
  · exact foreign_fetchCount foreign _
  · exact trivial

/-- The rows are hashed, or what is raised is none. -/
theorem foreign_rowSetDigest (tables : List Text) :
    Foreign (rowSetDigest environment connection tables) := by
  refine (foreign_mapM (fun table => ?_) tables).bind fun _ => foreign_canonicalSha256 _
  refine (foreign _).bind fun columns => (foreign _).bind fun rows => ?_
  refine Foreign.bind ?_ fun _ => trivial
  refine Foreign.bind (foreign_mapM (fun row => ?_) _) fun _ => trivial
  split
  · exact trivial
  · exact not_false
  · exact not_false

/-- What is not terminal is counted, or what is raised is none. -/
theorem foreign_nonterminalCounts (tables : List Text) :
    Foreign (nonterminalCounts environment connection tables) := by
  have count (table predicate : String) :
      Foreign (countIfPresent environment connection tables table predicate) := by
    unfold countIfPresent
    split
    · exact foreign_fetchCount foreign _
    · exact trivial
  refine Foreign.bind ?_ fun counts => Foreign.bind ?_ fun _ => trivial
  · exact (count _ _).bind fun _ => (count _ _).bind fun _ => (count _ _).bind fun _ =>
      (count _ _).bind fun _ => (count _ _).bind fun _ => trivial
  · unfold require
    split
    · exact trivial
    · exact not_false

end Foreign

section Fails

variable {environment : Environment} {timeline : Timeline} {α β : Type} {statement : Text}

/-- A part of an inspection raises. -/
def Fails (part : Except Failure α) : Prop := ∃ error, part = .error error

theorem fails_iff {part : Except Failure α} : Fails part ↔ ∀ value, part ≠ .ok value := by
  cases part with
  | ok value => simp [Fails]
  | error error => simp [Fails]

theorem not_fails {part : Except Failure α} {value : α} (made : part = .ok value) :
    ¬ Fails part :=
  fun fails => fails_iff.mp fails value made

theorem fails_bind {first : Except Failure α} {rest : α → Except Failure β} :
    Fails (first >>= rest) ↔ Fails first ∨ ∃ value, first = .ok value ∧ Fails (rest value) := by
  cases first with
  | ok value => simp [Fails, Bind.bind, Except.bind]
  | error error => simp [Fails, Bind.bind, Except.bind]

/-- A part for each item returns exactly when all of them do. -/
theorem mapM_returns {part : α → Except Failure β} {items : List α} {values : List β} :
    items.mapM part = .ok values ↔
      List.Forall₂ (fun item value => part item = .ok value) items values := by
  induction items generalizing values with
  | nil => simp [pure, Except.pure, eq_comm]
  | cons item rest ih =>
    simp only [List.mapM_cons, bind_ok, pure_ok, ih, List.forall₂_cons_left_iff]
    exact exists_congr fun value => by
      rw [← exists_and_left]
      exact exists_congr fun values => by rw [@eq_comm _ (value :: values)]

/-- A part for each item raises exactly when one of them does. -/
theorem fails_mapM {part : α → Except Failure β} {items : List α} :
    Fails (items.mapM part) ↔ ∃ item ∈ items, Fails (part item) := by
  induction items with
  | nil => simp [Fails, pure, Except.pure]
  | cons item rest ih =>
    simp only [List.mapM_cons, fails_bind, ih, List.mem_cons, exists_eq_or_imp]
    cases made : part item with
    | ok value => simp [Fails, pure, Except.pure]
    | error error => simp [Fails]

/-- What a part for each item returns is what it returns for the items. -/
theorem mapM_mem {part : α → Except Failure β} {items : List α} {values : List β}
    (made : items.mapM part = .ok values) :
    (∀ value ∈ values, ∃ item ∈ items, part item = .ok value) ∧
      ∀ item ∈ items, ∃ value ∈ values, part item = .ok value := by
  induction mapM_returns.mp made with
  | nil => simp
  | cons first rest ih =>
    obtain ⟨back, forth⟩ := ih (mapM_returns.mpr rest)
    constructor
    · rintro value (_ | ⟨_, later⟩)
      · exact ⟨_, List.mem_cons_self, first⟩
      · obtain ⟨item, member, made⟩ := back value later
        exact ⟨item, List.mem_cons_of_mem _ member, made⟩
    · rintro item (_ | ⟨_, later⟩)
      · exact ⟨_, List.mem_cons_self, first⟩
      · obtain ⟨value, member, made⟩ := forth item later
        exact ⟨value, List.mem_cons_of_mem _ member, made⟩

/-- An immutable connection returns what SQLite answers of the main file. -/
theorem sqliteReadOnly_ok {rows : Rows} :
    sqliteReadOnly environment timeline statement = .ok rows ↔
      Answered environment timeline statement rows := by
  simp only [sqliteReadOnly, bind_ok, orRaise_ok, Answered]
  refine exists_congr fun main => and_congr_right fun _ => ?_
  cases environment.execute main none statement with
  | ok answer => simp [Except.mapError]
  | error message => simp [Except.mapError]

theorem Answered.unique {rows others : Rows} (one : Answered environment timeline statement rows)
    (other : Answered environment timeline statement others) : rows = others :=
  Except.ok.inj ((sqliteReadOnly_ok.mpr one).symm.trans (sqliteReadOnly_ok.mpr other))

/-- What follows a statement raises when it does for the answer, if there is one. -/
theorem fails_read {rest : Rows → Except Failure α} :
    Fails (sqliteReadOnly environment timeline statement >>= rest) ↔
      ∀ rows, Answered environment timeline statement rows → Fails (rest rows) := by
  rw [fails_bind, fails_iff]
  simp only [ne_eq, sqliteReadOnly_ok]
  constructor
  · rintro (unanswered | ⟨rows, answered, fails⟩) other there
    · exact absurd there (unanswered other)
    · exact answered.unique there ▸ fails
  · intro fails
    by_cases answered : ∃ rows, Answered environment timeline statement rows
    · obtain ⟨rows, there⟩ := answered
      exact .inr ⟨rows, there, fails rows there⟩
    · exact .inl fun rows there => answered ⟨rows, there⟩

/-- A count is the number that a statement is answered with. -/
theorem fetchCount_ok {number : Int} :
    fetchCount environment (sqliteReadOnly environment timeline) statement = .ok number ↔
      Tallied environment timeline statement number := by
  simp only [fetchCount, scalar, bind_ok, orRaise_ok, pure_ok, sqliteReadOnly_ok, Tallied]
  constructor
  · rintro ⟨rows, answered, _, ⟨row, first, rfl⟩, counted⟩
    obtain ⟨rest, rfl⟩ := List.head?_eq_some_iff.mp first
    exact ⟨row, rest, answered, counted⟩
  · rintro ⟨row, rest, answered, counted⟩
    exact ⟨_, answered, _, ⟨row, rfl, rfl⟩, counted⟩

end Fails

section Hashing

open Canonical

variable {environment : Environment} {items : List PyValue}

theorem distinct_sequence (each : ∀ item ∈ items, item.Distinct) :
    (PyValue.sequence items).Distinct := by
  show DistinctItems items
  induction items with
  | nil => trivial
  | cons item rest ih =>
    exact ⟨each item List.mem_cons_self,
      ih fun other member => each other (List.mem_cons_of_mem _ member)⟩

theorem offends_sequence : (PyValue.sequence items).Offends ↔ ∃ item ∈ items, item.Offends := by
  constructor
  · rintro ⟨⟩
    exact ⟨_, ‹_›, ‹_›⟩
  · rintro ⟨item, member, offends⟩
    exact .item member offends

/-- A digest is not made exactly for a value that offends. -/
theorem fails_canonicalSha256 {data : PyValue} (distinct : data.Distinct) :
    Fails (canonicalSha256 environment data) ↔ data.Offends := by
  rw [← canonicalJsonBytes_raises distinct]
  unfold canonicalSha256 Canonical.canonicalSha256
  cases canonicalJsonBytes data with
  | ok bytes => simp [Fails, Bind.bind, Except.bind, pure, Except.pure]
  | error error => cases error <;> simp [Fails, Bind.bind, Except.bind]

/-- A row of the schema has no repeated keys. -/
theorem distinct_schemaRow (row : List SqlValue) : (schemaRow environment row).Distinct := by
  have apart : [text "name", text "sql", text "table", text "type"].Nodup := by decide
  refine ⟨apart, trivial, ?_, trivial, trivial, trivial⟩
  cases column row 1 <;> trivial

theorem distinct_encodedRow (row : List SqlValue) : (encodedRow row).Distinct := by
  refine distinct_sequence fun item member => ?_
  obtain ⟨value, -, rfl⟩ := List.mem_map.mp member
  cases value with
  | blob content => exact ⟨List.nodup_singleton _, trivial, trivial⟩
  | null | int _ | real _ | text _ => trivial

theorem distinct_encodedRows (rows : Rows) : ∀ row ∈ rows.map encodedRow, row.Distinct := by
  intro item member
  obtain ⟨row, -, rfl⟩ := List.mem_map.mp member
  exact distinct_encodedRow row

/-- A table has no repeated keys. -/
theorem distinct_tableValue {table : Text} {columns : Rows}
    (each : ∀ row ∈ items, row.Distinct) :
    (tableValue environment table columns items).Distinct := by
  have apart : [text "table", text "columns", text "rows"].Nodup := by decide
  refine ⟨apart, trivial, distinct_sequence fun item member => ?_, distinct_sequence each, trivial⟩
  obtain ⟨row, -, rfl⟩ := List.mem_map.mp member
  trivial

/-- A table offends by its name, its columns or its rows, in whatever order they are. -/
theorem offends_tableValue {table : Text} {columns : Rows} :
    (tableValue environment table columns items).Offends ↔
      ¬ Whole table ∨ (∃ row ∈ columns, ¬ Whole (strOf environment (column row 1))) ∨
        ∃ item ∈ items, item.Offends := by
  have named : ∀ name ∈ [text "table", text "columns", text "rows"], Whole name := by decide
  constructor
  · intro offends
    cases offends with
    | key member => simp at member
    | keySurrogate member broken =>
      refine absurd (named _ ?_) broken
      simp only [List.mem_cons, Prod.mk.injEq, Key.str.injEq, List.not_mem_nil,
        or_false] at member ⊢
      tauto
    | value member offends =>
      simp only [List.mem_cons, Prod.mk.injEq, List.not_mem_nil, or_false] at member
      rcases member with ⟨-, rfl⟩ | ⟨-, rfl⟩ | ⟨-, rfl⟩
      · cases offends with | surrogate broken => exact .inl broken
      · obtain ⟨_, there, broken⟩ := offends_sequence.mp offends
        obtain ⟨row, member, rfl⟩ := List.mem_map.mp there
        cases broken with | surrogate broken => exact .inr (.inl ⟨row, member, broken⟩)
      · exact .inr (.inr (offends_sequence.mp offends))
  · rintro (broken | ⟨row, member, broken⟩ | offends)
    · exact .value List.mem_cons_self (.surrogate broken)
    · exact .value (List.mem_cons_of_mem _ List.mem_cons_self)
        (.item (List.mem_map_of_mem member) (.surrogate broken))
    · exact .value (List.mem_cons_of_mem _ (List.mem_cons_of_mem _ List.mem_cons_self))
        (offends_sequence.mpr offends)

/-- Sorting rows fails exactly when a row offends. -/
theorem fails_sortRows (each : ∀ row ∈ items, row.Distinct) :
    Fails (sortRows items) ↔ ∃ row ∈ items, row.Offends := by
  simp only [sortRows, fails_bind, fails_mapM]
  rw [or_iff_left (by rintro ⟨_, -, _, made⟩; cases made)]
  refine exists_congr fun row => and_congr_right fun member => ?_
  rw [← canonicalJsonBytes_raises (each row member)]
  cases canonicalJsonBytes row with
  | ok bytes => simp [Fails]
  | error error => cases error <;> simp [Fails]

/-- Sorted rows are the rows in another order. -/
theorem sortRows_perm {sorted : List PyValue} (made : sortRows items = .ok sorted) :
    sorted.Perm items := by
  simp only [sortRows, bind_ok, pure_ok, mapM_returns] at made
  obtain ⟨keyed, each, rfl⟩ := made
  have same : keyed.map Prod.snd = items := by
    induction each with
    | nil => rfl
    | cons first _ ih =>
      rw [List.map_cons, ih]
      split at first <;> cases first
      rfl
  exact same ▸ (List.perm_insertionSort _ keyed).map Prod.snd

end Hashing

section Walk

variable {environment : Environment} {timeline : Timeline} {α : Type} {check : Check}
  {left : List Check} {rest : α → Except Failure RegistryObservation}

/-- What is left of an inspection passes the checks that are left, or it raises an `OperatorError`
exactly when whatever breaks among them comes after one that refuses. -/
def Decided (environment : Environment) (timeline : Timeline) (left : List Check) :
    Except Failure RegistryObservation → Prop :=
  Ends (fun error => error.IsOperator ↔
      Shielded (Check.Breaks environment timeline) (Check.Refuses environment timeline) left)
    fun _ => ∀ check ∈ left,
      ¬ check.Breaks environment timeline ∧ ¬ check.Refuses environment timeline

/-- A check that neither breaks nor refuses leaves the others. -/
theorem Decided.next {part : Except Failure RegistryObservation}
    (unbroken : ¬ check.Breaks environment timeline)
    (unrefused : ¬ check.Refuses environment timeline)
    (later : Decided environment timeline left part) :
    Decided environment timeline (check :: left) part := by
  unfold Decided at later ⊢
  simpa only [shielded_cons, List.forall_mem_cons, unbroken, unrefused, not_false_iff, true_and,
    false_or] using later

theorem Decided.refused {code message : String} (unbroken : ¬ check.Breaks environment timeline)
    (refuses : check.Refuses environment timeline) :
    Decided environment timeline (check :: left) (.error (.operator code message)) :=
  iff_of_true trivial (shielded_cons.mpr ⟨unbroken, .inl refuses⟩)

theorem Decided.broken {error : Failure} (other : ¬ error.IsOperator)
    (breaks : check.Breaks environment timeline) :
    Decided environment timeline (check :: left) (.error error) :=
  iff_of_false other fun shielded => (shielded_cons.mp shielded).1 breaks

/-- A part that raises no `OperatorError` returns, or its check breaks. -/
theorem Decided.read {first : Except Failure α} (foreign : Foreign first)
    (fails : Fails first ↔ check.Breaks environment timeline)
    (later : ∀ value, first = .ok value → ¬ check.Breaks environment timeline →
      Decided environment timeline (check :: left) (rest value)) :
    Decided environment timeline (check :: left) (first >>= rest) := by
  cases made : first with
  | ok value => exact later value made fun breaks => not_fails made (fails.mpr breaks)
  | error error => exact .broken (foreign.error error made) (fails.mp ⟨error, made⟩)

/-- A condition holds, or its check refuses. -/
theorem Decided.demand {condition : Prop} [Decidable condition] {code message : String}
    {rest : Unit → Except Failure RegistryObservation}
    (unbroken : ¬ check.Breaks environment timeline)
    (refuses : check.Refuses environment timeline ↔ ¬ condition)
    (later : Decided environment timeline left (rest ())) :
    Decided environment timeline (check :: left)
      (require condition (.operator code message) >>= rest) := by
  by_cases holds : condition
  · rw [require, if_pos holds]
    exact later.next unbroken fun refused => refuses.mp refused holds
  · rw [require, if_neg holds]
    exact .refused unbroken (refuses.mpr holds)

end Walk

section Parts

variable {environment : Environment} {timeline : Timeline} {tables : List Text}

/-- A lock is free, or its check says why not. -/
theorem probeStableLock_cases (environment : Environment) (timeline : Timeline) (lock : Lock) :
    let check := Check.probed lock
    probeStableLock environment timeline lock = .ok () ∧
        ¬ check.Breaks environment timeline ∧ ¬ check.Refuses environment timeline ∨
      (∃ code message,
        probeStableLock environment timeline lock = .error (.operator code message) ∧
          ¬ check.Breaks environment timeline ∧ check.Refuses environment timeline) ∨
      ∃ message, probeStableLock environment timeline lock = .error (.os message) ∧
        check.Breaks environment timeline := by
  simp only [probeStableLock, Check.Breaks, Check.Refuses]
  by_cases absent : (timeline.at (.lockFound lock)).lock lock = .absent
  · simp [absent]
  · cases windows : environment.windows with
    | true => simp [absent]
    | false =>
      cases probed : (timeline.at (.lockProbed lock)).lock lock <;> simp [absent]

/-- A lock that is free passes its check, and a lock that is not decides the inspection. -/
theorem Decided.probe {lock : Lock} {left : List Check}
    {rest : Unit → Except Failure RegistryObservation}
    (later : Decided environment timeline left (rest ())) :
    Decided environment timeline (.probed lock :: left)
      (probeStableLock environment timeline lock >>= rest) := by
  rcases probeStableLock_cases environment timeline lock with
    ⟨free, unbroken, unrefused⟩ | ⟨code, message, held, unbroken, refused⟩ |
    ⟨message, raised, breaks⟩
  · rw [free]
    exact later.next unbroken unrefused
  · rw [held]
    exact .refused unbroken refused
  · rw [raised]
    exact .broken not_false breaks

/-- A file is read as what it is seen as. -/
theorem readFile_ok {looked read : Option FileState} {file : FileArtifact} :
    readFile environment looked read = .ok file ↔ sight environment looked read = some file := by
  simp only [readFile, sight, bind_ok, orRaise_ok, pure_ok, Option.bind_eq_bind,
    Option.bind_eq_some_iff, Option.pure_def, Option.some.injEq]
  constructor
  · rintro ⟨observed, looked, found, read, content, held, made⟩
    exact ⟨observed, looked, content, ⟨found, read, held⟩, made⟩
  · rintro ⟨observed, looked, content, ⟨found, read, held⟩, made⟩
    exact ⟨observed, looked, found, read, content, held, made⟩

/-- A file beside the main file is observed as what it is seen as, when it is found and read. -/
theorem sidecarObservation_ok {side : Side} {sidecar : Sidecar} {seen : Option FileArtifact} :
    sidecarObservation environment timeline side sidecar = .ok seen ↔
      sidecarSeen environment timeline side sidecar = seen ∧
        ((timeline.at (.sidecarFound side sidecar)).sidecar sidecar ≠ none →
          sidecarSight environment timeline side sidecar ≠ none) := by
  unfold sidecarObservation sidecarSeen
  cases (timeline.at (.sidecarFound side sidecar)).sidecar sidecar with
  | none => simp
  | some found =>
    simp only [map_ok, readFile_ok, Option.bind_some, ne_eq, reduceCtorEq, not_false_eq_true,
      true_implies]
    rw [show sight environment _ _ = sidecarSight environment timeline side sidecar from rfl]
    cases sidecarSight environment timeline side sidecar with
    | none => simp
    | some file => simp [eq_comm]

/-- Files are observed exactly when all that are found can be read. -/
theorem artifacts_ok {side : Side} {observed : Artifacts} :
    artifacts environment timeline side = .ok observed ↔
      mainSight environment timeline side = some observed.database ∧
        sidecarSeen environment timeline side .wal = observed.wal ∧
        sidecarSeen environment timeline side .shm = observed.shm ∧
        ¬ (Check.observed side).Breaks environment timeline := by
  simp only [artifacts, fileArtifact, bind_ok, readFile_ok, sidecarObservation_ok, pure_ok,
    Check.Breaks]
  constructor
  · rintro ⟨database, main, wal, ⟨rfl, log⟩, shm, ⟨rfl, memory⟩, rfl⟩
    refine ⟨main, rfl, rfl, ?_⟩
    rintro (missing | ⟨sidecar, found, missing⟩)
    · exact absurd (main.symm.trans missing) (by simp)
    · cases sidecar with
      | wal => exact log found missing
      | shm => exact memory found missing
  · rintro ⟨main, log, memory, unbroken⟩
    have read (sidecar : Sidecar) (found : (timeline.at (.sidecarFound side sidecar)).sidecar
        sidecar ≠ none) : sidecarSight environment timeline side sidecar ≠ none :=
      fun missing => unbroken (.inr ⟨sidecar, found, missing⟩)
    exact ⟨_, main, _, ⟨log, read .wal⟩, _, ⟨memory, read .shm⟩, rfl⟩

/-- Files are observed unless their check breaks. -/
theorem fails_artifacts {side : Side} : Fails (artifacts environment timeline side) ↔
    (Check.observed side).Breaks environment timeline := by
  rw [fails_iff]
  constructor
  · intro fails
    by_contra unbroken
    cases main : mainSight environment timeline side with
    | none => exact unbroken (.inl main)
    | some database =>
      exact fails ⟨database, _, _⟩ (artifacts_ok.mpr ⟨main, rfl, rfl, unbroken⟩)
  · intro breaks observed made
    exact (artifacts_ok.mp made).2.2.2 breaks

variable {before after : Artifacts} (looked : artifacts environment timeline .before = .ok before)
  (seen : artifacts environment timeline .after = .ok after)

include looked seen

theorem files_refused : Check.files.Refuses environment timeline ↔ ¬ SameFiles before after := by
  obtain ⟨main, log, -, -⟩ := artifacts_ok.mp looked
  obtain ⟨mainAfter, logAfter, -, -⟩ := artifacts_ok.mp seen
  simp only [Check.Refuses, main, mainAfter, log, logAfter, SameFiles, ne_eq, Option.some.injEq,
    not_and_or]

theorem memory_refused : Check.memory.Refuses environment timeline ↔
    ¬ presence before.shm = presence after.shm := by
  obtain ⟨-, -, memory, -⟩ := artifacts_ok.mp looked
  obtain ⟨-, -, memoryAfter, -⟩ := artifacts_ok.mp seen
  simp only [Check.Refuses, memory, memoryAfter, ne_eq]

omit looked seen

theorem fails_tableNames : Fails (tableNames environment (sqliteReadOnly environment timeline)) ↔
    Check.tables.Breaks environment timeline := by
  rw [tableNames, fails_read]
  exact forall_congr' fun rows => imp_congr_right fun _ => iff_of_false (not_fails rfl) id

theorem fails_schemaVersions :
    Fails (schemaVersions environment (sqliteReadOnly environment timeline)) ↔
      Check.versions.Breaks environment timeline := by
  rw [schemaVersions, fails_read]
  refine forall_congr' fun rows => imp_congr_right fun _ => fails_mapM.trans ?_
  exact exists_congr fun row => and_congr_right fun _ => fails_iff

/-- Versions that are not supported are refused. -/
theorem versions_refused {versions : List Int}
    (listed : schemaVersions environment (sqliteReadOnly environment timeline) = .ok versions) :
    Check.versions.Refuses environment timeline ↔ versions ∉ supportedVersions := by
  simp only [schemaVersions, bind_ok, sqliteReadOnly_ok, mapM_returns] at listed
  obtain ⟨rows, answered, each⟩ := listed
  constructor
  · rintro ⟨others, found, other, converted, unsupported⟩
    obtain rfl := answered.unique other
    rw [← mapM_returns] at each converted
    exact Except.ok.inj (each.symm.trans converted) ▸ unsupported
  · exact fun unsupported => ⟨rows, versions, answered, each, unsupported⟩

/-- The two checks return what their statements are answered with. -/
theorem databaseChecks_ok {checks : Text × Nat} :
    databaseChecks environment (sqliteReadOnly environment timeline) = .ok checks ↔
      ∃ row rest violations, Answered environment timeline integrityQuery (row :: rest) ∧
        Answered environment timeline foreignKeyQuery violations ∧
          (strOf environment (column row 0), violations.length) = checks := by
  simp only [databaseChecks, scalar, bind_ok, orRaise_ok, pure_ok, sqliteReadOnly_ok]
  constructor
  · rintro ⟨rows, answered, _, ⟨row, first, rfl⟩, violations, checked, made⟩
    obtain ⟨rest, rfl⟩ := List.head?_eq_some_iff.mp first
    exact ⟨row, rest, violations, answered, checked, made⟩
  · rintro ⟨row, rest, violations, answered, checked, made⟩
    exact ⟨_, answered, _, ⟨row, rfl, rfl⟩, violations, checked, made⟩

/-- The two checks are made unless their check breaks. -/
theorem fails_databaseChecks :
    Fails (databaseChecks environment (sqliteReadOnly environment timeline)) ↔
      Check.integrity.Breaks environment timeline := by
  simp only [fails_iff, ne_eq, databaseChecks_ok, Check.Breaks]
  constructor
  · intro fails
    by_contra made
    simp only [not_or, not_forall, not_not] at made
    obtain ⟨⟨row, rest, answered⟩, violations, checked⟩ := made
    exact fails _ ⟨row, rest, violations, answered, checked, rfl⟩
  · rintro (unanswered | unanswered) checks ⟨row, rest, violations, answered, checked, -⟩
    · exact unanswered row rest answered
    · exact unanswered violations checked

/-- Checks that find a fault are refused. -/
theorem checks_refused {checks : Text × Nat}
    (made : databaseChecks environment (sqliteReadOnly environment timeline) = .ok checks) :
    Check.integrity.Refuses environment timeline ↔ checks ≠ (text "ok", 0) := by
  obtain ⟨row, rest, violations, answered, checked, rfl⟩ := databaseChecks_ok.mp made
  simp only [ne_eq, Prod.mk.injEq, List.length_eq_zero_iff]
  constructor
  · rintro ⟨other, others, found, again, checkedAgain, faulty⟩
    obtain ⟨rfl, rfl⟩ := List.cons.inj (answered.unique again)
    exact checked.unique checkedAgain ▸ faulty
  · exact fun faulty => ⟨row, rest, violations, answered, checked, faulty⟩

/-- The schema is hashed unless its check breaks. -/
theorem fails_schemaDigest :
    Fails (schemaDigest environment (sqliteReadOnly environment timeline)) ↔
      Check.schema.Breaks environment timeline := by
  rw [schemaDigest, fails_read]
  refine forall_congr' fun rows => imp_congr_right fun _ => ?_
  have distinct : ∀ item ∈ rows.map (schemaRow environment), item.Distinct := by
    intro item member
    obtain ⟨row, -, rfl⟩ := List.mem_map.mp member
    exact distinct_schemaRow row
  rw [fails_canonicalSha256 (distinct_sequence distinct), offends_sequence]
  simp only [List.mem_map, exists_exists_and_eq_and]

/-- A table cannot be encoded only when it offends, if its statements are answered. -/
theorem fails_tableRows {table : Text}
    (fails : Fails (tableRows environment (sqliteReadOnly environment timeline) table)) :
    ∀ columns rows, Answered environment timeline (columnsQuery table) columns →
      Answered environment timeline (rowsQuery table) rows →
        (tableValue environment table columns (rows.map encodedRow)).Offends := by
  intro columns rows named listed
  have unsorted := fails_read.mp (fails_read.mp fails columns named) rows listed
  rcases fails_bind.mp unsorted with fails | ⟨_, -, _, made⟩
  · exact offends_tableValue.mpr (.inr (.inr ((fails_sortRows (distinct_encodedRows rows)).mp fails)))
  · cases made

/-- A table that is encoded offends exactly when it does with its rows in their first order. -/
theorem tableRows_ok {table : Text} {value : Canonical.PyValue}
    (made : tableRows environment (sqliteReadOnly environment timeline) table = .ok value) :
    value.Distinct ∧ (value.Offends ↔ ∀ columns rows,
      Answered environment timeline (columnsQuery table) columns →
        Answered environment timeline (rowsQuery table) rows →
          (tableValue environment table columns (rows.map encodedRow)).Offends) := by
  simp only [tableRows, bind_ok, sqliteReadOnly_ok, pure_ok] at made
  obtain ⟨columns, named, rows, listed, sorted, encoded, rfl⟩ := made
  have same := sortRows_perm encoded
  refine ⟨distinct_tableValue fun row member => ?_, ?_⟩
  · exact distinct_encodedRows rows row (same.mem_iff.mp member)
  · simp only [offends_tableValue, same.mem_iff]
    constructor
    · intro offends others more other another
      obtain rfl := named.unique other
      exact listed.unique another ▸ offends
    · exact fun offends => offends columns rows named listed

variable (named : tableNames environment (sqliteReadOnly environment timeline) = .ok tables)

include named

theorem mem_tableNames {table : Text} : table ∈ tables ↔ Listed environment timeline table := by
  simp only [tableNames, bind_ok, sqliteReadOnly_ok, pure_ok] at named
  obtain ⟨rows, answered, rfl⟩ := named
  rw [List.mem_map]
  constructor
  · exact fun listed => ⟨rows, answered, listed⟩
  · rintro ⟨others, other, listed⟩
    exact answered.unique other ▸ listed

theorem tables_refused :
    Check.tables.Refuses environment timeline ↔ text "schema_migrations" ∉ tables := by
  rw [mem_tableNames named]
  simp only [tableNames, bind_ok, sqliteReadOnly_ok, pure_ok] at named
  obtain ⟨rows, answered, -⟩ := named
  exact and_iff_right ⟨rows, answered⟩

/-- What is counted in a table is what a statement says, if the table is listed. -/
theorem countListed_ok {table statement : Text} {number : Int} :
    (if table ∈ tables then
        fetchCount environment (sqliteReadOnly environment timeline) statement
      else pure 0) = .ok number ↔
      (Listed environment timeline table → Tallied environment timeline statement number) ∧
      (¬ Listed environment timeline table → number = 0) := by
  rw [← mem_tableNames named, ← fetchCount_ok]
  by_cases listed : table ∈ tables
  · simp [listed]
  · simp [listed, pure, Except.pure, eq_comm]

theorem liveRuns_ok {number : Int} :
    liveRuns environment (sqliteReadOnly environment timeline) tables = .ok number ↔
      (Listed environment timeline (text "supervisor_runs") →
        Tallied environment timeline liveRunsQuery number) ∧
      (¬ Listed environment timeline (text "supervisor_runs") → number = 0) :=
  countListed_ok named

theorem fails_liveRuns :
    Fails (liveRuns environment (sqliteReadOnly environment timeline) tables) ↔
      Check.owner.Breaks environment timeline := by
  simp only [fails_iff, ne_eq, liveRuns_ok named, Check.Breaks]
  by_cases listed : Listed environment timeline (text "supervisor_runs") <;> simp [listed]

/-- A live run is refused. -/
theorem owner_refused {count : Int}
    (counted : liveRuns environment (sqliteReadOnly environment timeline) tables = .ok count) :
    Check.owner.Refuses environment timeline ↔ count ≠ 0 := by
  have unique {number : Int} (tallied : Tallied environment timeline liveRunsQuery number)
      (listed : Listed environment timeline (text "supervisor_runs")) : count = number :=
    Except.ok.inj (counted.symm.trans ((liveRuns_ok named).mpr
      ⟨fun _ => tallied, fun other => absurd listed other⟩))
  obtain ⟨tallied, absent⟩ := (liveRuns_ok named).mp counted
  constructor
  · rintro ⟨listed, number, other, live⟩
    exact unique other listed ▸ live
  · intro live
    have listed : Listed environment timeline (text "supervisor_runs") :=
      by_contra fun other => live (absent other)
    exact ⟨listed, count, tallied listed, live⟩

/-- What is not terminal in a table is what a statement counts, if the table is listed. -/
theorem countIfPresent_ok {table predicate : String} {number : Int} :
    countIfPresent environment (sqliteReadOnly environment timeline) tables table predicate =
        .ok number ↔
      (Listed environment timeline (text table) →
        Tallied environment timeline (countQuery table predicate) number) ∧
      (¬ Listed environment timeline (text table) → number = 0) :=
  countListed_ok named

/-- Everything is terminal unless its check breaks. -/
theorem fails_nonterminalCounts :
    Fails (nonterminalCounts environment (sqliteReadOnly environment timeline) tables) ↔
      Check.counts.Breaks environment timeline := by
  rw [← not_iff_not, fails_iff]
  simp only [ne_eq, not_forall, not_not, nonterminalCounts, countNonterminal, bind_ok, require_ok,
    pure_ok, countIfPresent_ok named, Check.Breaks, not_exists, not_and, nonterminalTables,
    List.mem_cons, List.not_mem_nil, or_false, forall_eq_or_imp, forall_eq]
  constructor
  · rintro ⟨_, _, ⟨_, one, _, two, _, three, _, four, _, five, rfl⟩, _, zero, -⟩
    cases zero
    exact ⟨one.1, two.1, three.1, four.1, five.1⟩
  · rintro ⟨one, two, three, four, five⟩
    exact ⟨.zero, .zero, ⟨0, ⟨one, fun _ => rfl⟩, 0, ⟨two, fun _ => rfl⟩, 0, ⟨three, fun _ => rfl⟩,
      0, ⟨four, fun _ => rfl⟩, 0, ⟨five, fun _ => rfl⟩, rfl⟩, (), rfl, rfl⟩

omit named in
theorem nonterminalCounts_zero {counts : Counts}
    (made : nonterminalCounts environment (sqliteReadOnly environment timeline) tables =
      .ok counts) : counts = .zero := by
  simp only [nonterminalCounts, bind_ok, require_ok, pure_ok] at made
  obtain ⟨_, -, _, zero, rfl⟩ := made
  exact zero

/-- The rows are hashed unless their check breaks. -/
theorem fails_rowSetDigest :
    Fails (rowSetDigest environment (sqliteReadOnly environment timeline) tables) ↔
      Check.rows.Breaks environment timeline := by
  constructor
  · intro fails
    rw [rowSetDigest, fails_bind, fails_mapM] at fails
    rcases fails with ⟨table, member, fails⟩ | ⟨payload, made, fails⟩
    · exact ⟨table, (mem_tableNames named).mp member, fails_tableRows fails⟩
    · obtain ⟨back, -⟩ := mapM_mem made
      have distinct : ∀ value ∈ payload, value.Distinct := by
        intro value member
        obtain ⟨table, -, encoded⟩ := back value member
        exact (tableRows_ok encoded).1
      rw [fails_canonicalSha256 (distinct_sequence distinct), offends_sequence] at fails
      obtain ⟨value, member, offends⟩ := fails
      obtain ⟨table, listed, encoded⟩ := back value member
      exact ⟨table, (mem_tableNames named).mp listed, (tableRows_ok encoded).2.mp offends⟩
  · rintro ⟨table, listed, broken⟩
    rw [fails_iff]
    intro digest made
    obtain ⟨payload, encoded, hashed⟩ := bind_ok.mp made
    obtain ⟨back, forth⟩ := mapM_mem encoded
    have distinct : ∀ value ∈ payload, value.Distinct := by
      intro value member
      obtain ⟨table, -, encoded⟩ := back value member
      exact (tableRows_ok encoded).1
    obtain ⟨value, member, encoded⟩ := forth table ((mem_tableNames named).mpr listed)
    refine not_fails hashed ((fails_canonicalSha256 (distinct_sequence distinct)).mpr ?_)
    exact .item member ((tableRows_ok encoded).2.mpr broken)

end Parts

section Inspection

variable {environment : Environment} {timeline : Timeline}

/-- An inspection passes all its checks, or it raises an `OperatorError` exactly when it should. -/
theorem inspectRegistry_decided (environment : Environment) (timeline : Timeline) :
    Decided environment timeline inspectionChecks (inspectRegistry environment timeline) := by
  have foreign := @foreign_read environment timeline
  unfold inspectRegistry inspectionChecks
  refine .demand not_false Option.not_isSome_iff_eq_none.symm (.probe (.probe ?_))
  refine .read (foreign_artifacts .before) fails_artifacts fun before looked unbroken =>
    .next unbroken not_false ?_
  -- The statements.
  refine .read ((foreign _).bind fun _ => trivial) fails_tableNames fun tables named unbroken =>
    .demand unbroken (tables_refused named) ?_
  refine .read ((foreign _).bind fun rows => foreign_mapM (fun _ => foreign_intOf _) rows)
    fails_schemaVersions fun versions listed unbroken =>
      .demand unbroken (versions_refused listed) ?_
  rw [assertNoLiveOwner, bind_assoc]
  refine .read (foreign_liveRuns foreign tables) (fails_liveRuns named)
    fun count counted unbroken => .demand unbroken (owner_refused named counted) ?_
  refine .read ((foreign _).bind fun rows => (foreign_scalar rows).bind
    fun _ => (foreign _).bind fun _ => trivial) fails_databaseChecks fun checks made unbroken =>
      .demand unbroken (checks_refused made) ?_
  refine .read ((foreign _).bind fun _ => foreign_canonicalSha256 _) fails_schemaDigest
    fun _ _ unbroken => .next unbroken not_false ?_
  refine .read (foreign_rowSetDigest foreign tables) (fails_rowSetDigest named)
    fun _ _ unbroken => .next unbroken not_false ?_
  refine .read (foreign_nonterminalCounts foreign tables) (fails_nonterminalCounts named)
    fun counts terminal unbroken => .next unbroken not_false ?_
  -- The files once more.
  refine .read (foreign_artifacts .after) fails_artifacts fun after seen unbroken =>
    .next unbroken not_false ?_
  refine .demand not_false (files_refused looked seen) (.demand not_false (memory_refused looked seen)
    ?_)
  rw [require, if_pos (nonterminalCounts_zero terminal)]
  exact fun _ member => by cases member

/-- An observation shows what is committed in a home whose main file has all of it. -/
theorem inspectRegistry_shows {home : Home} {observation : RegistryObservation}
    (settled : Checkpointed environment timeline home)
    (made : inspectRegistry environment timeline = .ok observation) :
    Shows environment home observation := by
  -- The two connections answer alike.
  have same : committed environment home = sqliteReadOnly environment timeline := by
    obtain ⟨main, stored, opened, unlogged⟩ := settled
    funext statement
    obtain ⟨began, ended⟩ := timeline.within (.executed statement)
    unfold committed sqliteReadOnly
    rw [stored, opened _ began ended]
    cases log : home.sidecar .wal with
    | none => rfl
    | some file =>
      obtain ⟨frames, held, alike⟩ := unlogged file log
      simp only [held, orRaise, ok_bind, alike statement]
  unfold Shows
  rw [same]
  simp only [inspectRegistry, bind_ok, pure_ok] at made
  obtain ⟨_, -, _, -, _, -, before, -, tables, named, _, -, versions, -, _, -, _, owned, _, -, _, -,
    schema, hashed, rows, encoded, counts, counted, after, -, _, -, _, -, _, -, rfl⟩ := made
  exact ⟨tables, named, hashed, encoded, owned, counted⟩

theorem unfaithful_of_error {error : Failure}
    (raised : inspectRegistry environment timeline = .error error) (other : ¬ error.IsOperator) :
    ¬ Faithful environment timeline := by
  intro faithful
  exact other (faithful.raised raised)

/-- An inspection that returns while something that is committed is not terminal is not faithful. -/
theorem unfaithful_of_hidden {home : Home} {tables : List Text}
    (returned : (inspectRegistry environment (quiet home)).isOk = true)
    (named : tableNames environment (committed environment home) = .ok tables)
    (nonterminal : countNonterminal environment (committed environment home) tables ≠ .ok .zero) :
    ¬ Faithful environment (quiet home) := by
  intro faithful
  cases made : inspectRegistry environment (quiet home) with
  | error error =>
    rw [made] at returned
    cases returned
  | ok observation =>
    obtain ⟨_, -, -, others, listed, _, _, _, counted⟩ := faithful.result made
    obtain rfl := Except.ok.inj (listed.symm.trans named)
    simp only [nonterminalCounts, bind_ok, require_ok] at counted
    obtain ⟨_, shown, _, rfl, -⟩ := counted
    exact nonterminal shown

end Inspection

section Sample

/-- How many operations a sample registry has: as many as the first byte of the log says, or else
of the main file. -/
def Sample.operations (main : List UInt8) (log : Option (List UInt8)) : Nat :=
  ((log.getD main).headD 0).toNat

/-- What a sample registry answers, by the length of the statement: it has the table of its five
versions, and one of accepted operations. -/
def Sample.answers (operations : Nat) : List (Nat × Rows) :=
  -- The names of the tables, and the versions.
  [(92, [[.text (text "operations")], [.text (text "schema_migrations")]]),
    (54, [[.int 1], [.int 2], [.int 3], [.int 4], [.int 5]]),
    -- The two checks.
    (22, [[.text (text "ok")]]),
    (24, []),
    -- The schema.
    (102, [[.text (text "operations"), .text (text "CREATE TABLE operations(state TEXT)"),
        .text (text "operations"), .text (text "table")],
      [.text (text "schema_migrations"),
        .text (text "CREATE TABLE schema_migrations(version INTEGER)"),
        .text (text "schema_migrations"), .text (text "table")]]),
    -- The columns of each table, and then its rows.
    (31, [[.int 0, .text (text "state")]]),
    (38, [[.int 0, .text (text "version")]]),
    (26, List.replicate operations [.text (text "accepted")]),
    (33, [[.int 1], [.int 2], [.int 3], [.int 4], [.int 5]]),
    -- The operations that are not terminal.
    (115, [[.int operations]])]

/-- SQLite on sample registries, and digests that show what they hash. -/
def Sample.environment : Environment where
  execute main log statement :=
    orRaise ((Sample.answers (Sample.operations main log)).lookup statement.length) "no such table"
  sha256 content := String.ofList (content.map fun unit => Char.ofNat unit.toNat)
  windows := false
  database := "reference.sqlite3"
  int _ := none
  str _ := []

/-- A home whose main file has so many operations, and whose log has so many, if there is one. -/
def Sample.home (main : UInt8) (log : Option UInt8) : Home where
  main := some ⟨1, 1, some [main]⟩
  sidecar
    | .wal => log.map fun operations => ⟨1, 2, some [operations]⟩
    | .shm => none
  lock _ := .absent

end Sample

end Aar.Operator
