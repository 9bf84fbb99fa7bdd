import Aar.Canonical

/-! The operator's read-only inspection of a registry, while other processes may write to it. -/

namespace Aar.Operator

open Guarded Utf8 StrictJson

section Homes

/-- A file: which one it is, and its bytes, unless it cannot be read. -/
structure FileState where
  device : Nat
  inode : Nat
  content : Option (List UInt8)

/-- A lock file, as another process leaves it. -/
inductive LockState where
  | absent
  | free
  | held
  | unopenable (message : String)
  deriving DecidableEq

/-- The two lock files of a runtime home. -/
inductive Lock where
  | stable
  | predecessor
  deriving DecidableEq

/-- The two files beside the main file of a database. -/
inductive Sidecar where
  | wal
  | shm
  deriving DecidableEq

/-- The files of a runtime home. -/
structure Home where
  main : Option FileState
  sidecar : Sidecar → Option FileState
  lock : Lock → LockState

/-- Whether files are looked at before the statements or after them. -/
inductive Side where
  | before
  | after
  deriving DecidableEq

/-- When the inspection looks at the home. -/
inductive Moment where
  | located
  | lockFound (lock : Lock)
  | lockProbed (lock : Lock)
  | mainStat (side : Side)
  | mainRead (side : Side)
  | sidecarFound (side : Side) (sidecar : Sidecar)
  | sidecarStat (side : Side) (sidecar : Sidecar)
  | sidecarRead (side : Side) (sidecar : Sidecar)
  | executed (statement : Text)

/-- What the inspection comes across: the home and the bytes of the opened main file at every time,
whatever others write meanwhile, and when, within the call, the inspection looks at what. -/
structure Timeline where
  home : Nat → Home
  opened : Nat → Option (List UInt8)
  began : Nat
  ended : Nat
  look : Moment → Nat
  within : ∀ moment, began ≤ look moment ∧ look moment ≤ ended

/-- The home that the inspection looks at. -/
def Timeline.at (timeline : Timeline) (moment : Moment) : Home :=
  timeline.home (timeline.look moment)

/-- A home that nothing is written to. -/
def quiet (home : Home) : Timeline where
  home _ := home
  opened _ := home.main.bind FileState.content
  began := 0
  ended := 0
  look _ := 0
  within _ := ⟨Nat.le_refl 0, Nat.le_refl 0⟩

end Homes

section Statements

/-- A value that SQLite stores. -/
inductive SqlValue where
  | null
  | int (number : Int)
  | real (bits : UInt64)
  | text (content : Text)
  | blob (content : List UInt8)
  deriving DecidableEq

/-- Rows that a statement answers. -/
abbrev Rows := List (List SqlValue)

/-- SQLite, SHA-256, the platform, and how other values than integers and strings are converted. -/
structure Environment where
  execute : List UInt8 → Option (List UInt8) → Text → Except String Rows
  sha256 : List UInt8 → String
  windows : Bool
  database : String
  int : SqlValue → Option Int
  str : SqlValue → Text

/-- What the inspection raises: an `OperatorError`, or what nothing in it catches. -/
inductive Failure where
  | operator (code message : String)
  | sqlite (message : String)
  | os (message : String)
  | type (message : String)
  | value (message : String)
  | unicodeEncode
  | validation (message : String)
  deriving DecidableEq

/-- An error is an `OperatorError`. -/
def Failure.IsOperator : Failure → Prop
  | .operator _ _ => True
  | _ => False

instance : DecidablePred Failure.IsOperator
  | .operator _ _ => inferInstanceAs (Decidable True)
  | .sqlite _ | .os _ | .type _ | .value _ | .unicodeEncode | .validation _ =>
    inferInstanceAs (Decidable False)

/-- Where statements are executed. -/
abbrev Connection := Text → Except Failure Rows

variable (environment : Environment)

/-- `_sqlite_read_only`: an immutable connection, which reads the main file only. -/
def sqliteReadOnly (timeline : Timeline) : Connection := fun statement => do
  let main ← orRaise (timeline.opened (timeline.look (.executed statement)))
    (.sqlite "unable to open database file")
  (environment.execute main none statement).mapError .sqlite

/-- A connection that reads what is committed: the main file and the frames of the log. -/
def committed (home : Home) : Connection := fun statement => do
  let main ← orRaise (home.main.bind FileState.content) (.sqlite "unable to open database file")
  match home.sidecar .wal with
  | none => (environment.execute main none statement).mapError .sqlite
  | some log =>
    let frames ← orRaise log.content (.sqlite "unable to open database file")
    (environment.execute main (some frames) statement).mapError .sqlite

/-- A column of a row. -/
def column (row : List SqlValue) (index : Nat) : SqlValue := row.getD index .null

/-- `int` of a value. -/
def intOf : SqlValue → Except Failure Int
  | .int number => .ok number
  | .null => .error (.type "int() argument must be a string, a bytes-like object or a real number")
  | value => orRaise (environment.int value) (.value "invalid literal for int()")

/-- `str` of a value. -/
def strOf : SqlValue → Text
  | .text content => content
  | .null => text "None"
  | .int number => intText number
  | value => environment.str value

/-- `fetchone`, of which the first column is taken. -/
def scalar (rows : Rows) : Except Failure SqlValue := do
  let row ← orRaise rows.head? (.type "'NoneType' object is not subscriptable")
  return column row 0

/-- `canonical_sha256` and what it raises. -/
def canonicalSha256 (data : Canonical.PyValue) : Except Failure String :=
  match Canonical.canonicalSha256 environment.sha256 data with
  | .ok digest => .ok digest
  | .error (.type message) => .error (.type message)
  | .error .unicodeEncode => .error .unicodeEncode

end Statements

section Registry

variable (environment : Environment) (connection : Connection)

/-- The statement that lists the tables. -/
def tableNamesQuery : Text :=
  text ("SELECT name FROM sqlite_schema " ++
    "WHERE type='table' AND name NOT LIKE 'sqlite_%' ORDER BY name")

/-- `_table_names`. -/
def tableNames : Except Failure (List Text) := do
  let rows ← connection tableNamesQuery
  return rows.map fun row => strOf environment (column row 0)

/-- The statement that lists the versions. -/
def versionsQuery : Text := text "SELECT version FROM schema_migrations ORDER BY version"

/-- The versions that `schema_migrations` lists. -/
def schemaVersions : Except Failure (List Int) := do
  let rows ← connection versionsQuery
  rows.mapM fun row => intOf environment (column row 0)

/-- The versions that a registry may have: 1 to 5, or 1 to 6. -/
def supportedVersions : List (List Int) := [[1, 2, 3, 4, 5], [1, 2, 3, 4, 5, 6]]

/-- `int` of the first column of the first row of an answer. -/
def fetchCount (statement : Text) : Except Failure Int := do
  let rows ← connection statement
  intOf environment (← scalar rows)

/-- The statement that counts the supervisor runs that are ready, degraded or draining. -/
def liveRunsQuery : Text :=
  text "SELECT COUNT(*) FROM supervisor_runs WHERE state IN ('ready','degraded','draining')"

/-- How many supervisor runs are ready, degraded or draining. -/
def liveRuns (tables : List Text) : Except Failure Int :=
  if text "supervisor_runs" ∈ tables then fetchCount environment connection liveRunsQuery
  else return 0

/-- `_assert_no_live_owner`. -/
def assertNoLiveOwner (tables : List Text) : Except Failure Unit := do
  let count ← liveRuns environment connection tables
  require (count = 0)
    (.operator "CUTOVER_OWNER_ACTIVE" "registry has a nonterminal supervisor owner")

/-- The statement that checks the pages. -/
def integrityQuery : Text := text "PRAGMA integrity_check"

/-- The statement that checks the foreign keys. -/
def foreignKeyQuery : Text := text "PRAGMA foreign_key_check"

/-- What the integrity check says, and how many foreign keys are violated. -/
def databaseChecks : Except Failure (Text × Nat) := do
  let integrity ← connection integrityQuery
  let result ← scalar integrity
  let violations ← connection foreignKeyQuery
  return (strOf environment result, violations.length)

/-- A row of `sqlite_schema` as it is hashed. -/
def schemaRow (row : List SqlValue) : Canonical.PyValue :=
  .mapping [(.str (text "name"), .str (strOf environment (column row 0))),
    (.str (text "sql"), match column row 1 with
      | .null => .none
      | other => .str (strOf environment other)),
    (.str (text "table"), .str (strOf environment (column row 2))),
    (.str (text "type"), .str (strOf environment (column row 3)))]

/-- The statement that lists the schema. -/
def schemaQuery : Text :=
  text ("SELECT name, sql, tbl_name, type FROM sqlite_schema " ++
    "WHERE name NOT LIKE 'sqlite_%' ORDER BY type, name")

/-- `_schema_digest`. -/
def schemaDigest : Except Failure String := do
  let rows ← connection schemaQuery
  canonicalSha256 environment (.sequence (rows.map (schemaRow environment)))

/-- `hex` of bytes. -/
def hex (content : List UInt8) : Text :=
  content.flatMap fun unit => [hexDigit (unit.toNat / 16), hexDigit (unit.toNat % 16)]

/-- A stored value as it is hashed. -/
def encodedValue : SqlValue → Canonical.PyValue
  | .null => .none
  | .int number => .int number
  | .real _ => .float
  | .text content => .str content
  | .blob content => .mapping [(.str (text "bytes_hex"), .str (hex content))]

/-- `encoded_rows.sort`: rows in the order of their canonical bytes. -/
def sortRows (rows : List Canonical.PyValue) : Except Failure (List Canonical.PyValue) := do
  let keyed ← rows.mapM fun row =>
    match Canonical.canonicalJsonBytes row with
    | .ok bytes => .ok (bytes.map UInt8.toNat, row)
    | .error (.type message) => .error (.type message)
    | .error .unicodeEncode => .error Failure.unicodeEncode
  return (keyed.insertionSort fun left right => left.1 ≤ right.1).map Prod.snd

/-- `escaped`: a name between double quotes. -/
def quoted (table : Text) : Text :=
  0x22 :: (table.flatMap fun point => if point.val = 0x22 then [point, point] else [point]) ++
    [0x22]

/-- The statement that lists the columns of a table. -/
def columnsQuery (table : Text) : Text := text "PRAGMA table_info(" ++ quoted table ++ text ")"

/-- The statement that lists the rows of a table. -/
def rowsQuery (table : Text) : Text := text "SELECT * FROM " ++ quoted table

/-- A stored row as it is hashed. -/
def encodedRow (row : List SqlValue) : Canonical.PyValue := .sequence (row.map encodedValue)

/-- A table as it is hashed, by its columns and its encoded rows. -/
def tableValue (table : Text) (columns : Rows) (encoded : List Canonical.PyValue) :
    Canonical.PyValue :=
  .mapping [(.str (text "table"), .str table),
    (.str (text "columns"), .sequence (columns.map fun row =>
      .str (strOf environment (column row 1)))),
    (.str (text "rows"), .sequence encoded)]

/-- One table of the row set. -/
def tableRows (table : Text) : Except Failure Canonical.PyValue := do
  let columns ← connection (columnsQuery table)
  let rows ← connection (rowsQuery table)
  let encoded ← sortRows (rows.map encodedRow)
  return tableValue environment table columns encoded

/-- `_row_set_digest`. -/
def rowSetDigest (tables : List Text) : Except Failure String := do
  let payload ← tables.mapM (tableRows environment connection)
  canonicalSha256 environment (.sequence payload)

/-- The statement that counts the rows of a table that satisfy a predicate. -/
def countQuery (table predicate : String) : Text :=
  text ("SELECT COUNT(*) FROM \"" ++ table ++ "\" WHERE " ++ predicate)

/-- `_count_if_present`. -/
def countIfPresent (tables : List Text) (table predicate : String) : Except Failure Int :=
  if text table ∈ tables then fetchCount environment connection (countQuery table predicate)
  else return 0

/-- The fields of `NonterminalCounts`. -/
structure Counts where
  operations : Int
  attempts : Int
  workbenchJobs : Int
  callerTickets : Int
  workers : Int
  deriving DecidableEq

/-- No operation, attempt, job, ticket or worker. -/
def Counts.zero : Counts := ⟨0, 0, 0, 0, 0⟩

/-- What is not terminal of operations and attempts. -/
def outcomeOpen : String :=
  "state NOT IN ('succeeded','failed','cancelled','timed_out','indeterminate')"

/-- What is not terminal of jobs. -/
def jobOpen : String := "phase NOT IN ('succeeded','failed','cancelled','timed_out')"

/-- What is not terminal of tickets. -/
def ticketOpen : String :=
  "state NOT IN ('settled_success','settled_failure','cancelled_before_send'," ++
    "'cancelled_certain','quarantined')"

/-- What is not terminal of workers. -/
def workerOpen : String := "state NOT IN ('closed','lost','stopped')"

/-- What `_nonterminal_counts` counts. -/
def countNonterminal (tables : List Text) : Except Failure Counts := do
  let operations ← countIfPresent environment connection tables "operations" outcomeOpen
  let attempts ← countIfPresent environment connection tables "operation_attempts" outcomeOpen
  let workbenchJobs ← countIfPresent environment connection tables "rlm_workbench_jobs" jobOpen
  let callerTickets ← countIfPresent environment connection tables "caller_work_tickets" ticketOpen
  let workers ← countIfPresent environment connection tables "worker_bindings" workerOpen
  return { operations, attempts, workbenchJobs, callerTickets, workers }

/-- `_nonterminal_counts`: the model of the counts refuses any that is not zero. -/
def nonterminalCounts (tables : List Text) : Except Failure Counts := do
  let counts ← countNonterminal environment connection tables
  require (counts = .zero) (.validation "all nonterminal counts must be zero")
  return counts

end Registry

section Files

/-- `FileArtifact`. -/
structure FileArtifact where
  artifactId : String
  digest : String
  sizeBytes : Nat
  deriving DecidableEq

variable (environment : Environment) (timeline : Timeline)

/-- What a file is shown as, by what it was when it was looked up and the bytes that were read. -/
def artifact (observed : FileState) (content : List UInt8) : FileArtifact where
  artifactId := s!"dev-{observed.device}-ino-{observed.inode}"
  digest := environment.sha256 content
  sizeBytes := content.length

/-- A file that is looked up and then read. -/
def readFile (looked read : Option FileState) : Except Failure FileArtifact := do
  let observed ← orRaise looked (.os "No such file or directory")
  let found ← orRaise read (.os "No such file or directory")
  let content ← orRaise found.content (.os "Permission denied")
  return artifact environment observed content

/-- `_file_artifact` of the main file. -/
def fileArtifact (side : Side) : Except Failure FileArtifact :=
  readFile environment (timeline.at (.mainStat side)).main (timeline.at (.mainRead side)).main

/-- `_sidecar`: a file beside the main file, if it is there. -/
def sidecarObservation (side : Side) (sidecar : Sidecar) :
    Except Failure (Option FileArtifact) :=
  match (timeline.at (.sidecarFound side sidecar)).sidecar sidecar with
  | none => .ok none
  | some _ =>
    some <$> readFile environment ((timeline.at (.sidecarStat side sidecar)).sidecar sidecar)
      ((timeline.at (.sidecarRead side sidecar)).sidecar sidecar)

/-- The three files of a database, as they are observed. -/
structure Artifacts where
  database : FileArtifact
  wal : Option FileArtifact
  shm : Option FileArtifact

/-- The observation of the three files. -/
def artifacts (side : Side) : Except Failure Artifacts := do
  let database ← fileArtifact environment timeline side
  let wal ← sidecarObservation environment timeline side .wal
  let shm ← sidecarObservation environment timeline side .shm
  return { database, wal, shm }

/-- `_probe_stable_lock`. -/
def probeStableLock (lock : Lock) : Except Failure Unit :=
  if (timeline.at (.lockFound lock)).lock lock = .absent then .ok ()
  else if environment.windows then
    .error (.operator "CUTOVER_OWNER_ACTIVE"
      "stable runtime-owner lock exists and requires native Windows ownership verification")
  else
    match (timeline.at (.lockProbed lock)).lock lock with
    | .free => .ok ()
    | .held => .error (.operator "CUTOVER_OWNER_ACTIVE" "runtime-home lock is held")
    | .absent => .error (.os "No such file or directory")
    | .unopenable message => .error (.os message)

/-- Which file, of what size, or none. -/
def presence (observed : Option FileArtifact) : Option (String × Nat) :=
  observed.map fun file => (file.artifactId, file.sizeBytes)

/-- Neither the main file nor the log has changed. -/
def SameFiles (before after : Artifacts) : Prop :=
  before.database = after.database ∧ before.wal = after.wal

instance (before after : Artifacts) : Decidable (SameFiles before after) :=
  inferInstanceAs (Decidable (_ ∧ _))

end Files

section Inspection

/-- `RegistryObservation`. -/
structure RegistryObservation where
  schemaVersion : Int
  schemaDigest : String
  rowSetDigest : String
  database : FileArtifact
  wal : Option FileArtifact
  shm : Option FileArtifact
  nonterminalCounts : Counts
  deriving DecidableEq

/-- The text of a tuple of integers. -/
def tupleText : List Int → String
  | [number] => s!"({number},)"
  | numbers => "(" ++ ", ".intercalate (numbers.map toString) ++ ")"

/-- `inspect_registry`. -/
def inspectRegistry (environment : Environment) (timeline : Timeline) :
    Except Failure RegistryObservation := do
  require ((timeline.at .located).main.isSome)
    (.operator "REGISTRY_NOT_FOUND" s!"registry does not exist: {environment.database}")
  probeStableLock environment timeline .stable
  probeStableLock environment timeline .predecessor
  let before ← artifacts environment timeline .before
  let connection := sqliteReadOnly environment timeline
  let tables ← tableNames environment connection
  require (text "schema_migrations" ∈ tables)
    (.operator "REGISTRY_VERSION_UNSUPPORTED" "schema_migrations is absent")
  let versions ← schemaVersions environment connection
  require (versions ∈ supportedVersions) (.operator "REGISTRY_VERSION_UNSUPPORTED"
    s!"expected contiguous registry versions 1..5 or 1..6, observed {tupleText versions}")
  assertNoLiveOwner environment connection tables
  let checks ← databaseChecks environment connection
  require (checks = (text "ok", 0)) (.operator "CUTOVER_RECOVERY_REQUIRED"
    "registry failed read-only SQLite integrity/foreign-key checks")
  let schemaDigest ← schemaDigest environment connection
  let rowSetDigest ← rowSetDigest environment connection tables
  let nonterminalCounts ← nonterminalCounts environment connection tables
  let after ← artifacts environment timeline .after
  require (SameFiles before after) (.operator "CUTOVER_PLAN_STALE"
    "database or WAL observations changed during read-only planning")
  require (presence before.shm = presence after.shm) (.operator "CUTOVER_PLAN_STALE"
    "SHM identity, presence, or size changed during read-only planning")
  require (nonterminalCounts = .zero) (.operator "CUTOVER_OWNER_ACTIVE"
    "registry contains nonterminal operation, attempt, workbench, caller, or worker state")
  return { schemaVersion := versions.getLastD 0, schemaDigest, rowSetDigest
           database := before.database, wal := before.wal, shm := after.shm, nonterminalCounts }

end Inspection

end Aar.Operator
