import Aar.Workspace.Plain
import Aar.Proofs.Portable
import Mathlib.Data.List.Nodup

/-! A checkpoint of the plain backend accounts for every variable and comes back unchanged. -/

namespace Aar.Workspace

open Guarded

section Depth

variable {maxDepth : Nat}

mutual

/-- A converted value is nested no deeper than the limit allows at its place. -/
theorem convert_shallow : (value : PyValue) → (depth remaining left : Nat) → (json : JsonValue) →
    convert maxDepth depth remaining value = .ok (json, left) → depth + json.depth ≤ maxDepth
  | .none, depth, remaining, left, json, done
  | .bool _, depth, remaining, left, json, done
  | .str _, depth, remaining, left, json, done => by
    -- A scalar is not nested, so its own place is all that counts.
    simp only [convert, bind_ok, require_ok, pure_ok, Prod.mk.injEq] at done
    obtain ⟨_, reached, rfl, _⟩ := done
    simpa [JsonValue.depth] using reached
  | .int _, depth, remaining, left, json, done => by
    simp only [convert, bind_ok, require_ok, pure_ok, Prod.mk.injEq] at done
    obtain ⟨_, reached, _, _, rfl, _⟩ := done
    simpa [JsonValue.depth] using reached
  | .list items, depth, remaining, left, json, done => by
    simp only [convert, bind_ok, require_ok, pure_ok, Prod.mk.injEq, Prod.exists] at done
    obtain ⟨_, reached, -, -, converted, rest, items_done, rfl, -⟩ := done
    rw [JsonValue.depth]
    exact convertItems_shallow items _ _ _ _ reached items_done
  | .dict entries, depth, remaining, left, json, done => by
    simp only [convert, bind_ok, require_ok, pure_ok, Prod.mk.injEq, Prod.exists] at done
    obtain ⟨_, reached, -, -, converted, rest, entries_done, rfl, -⟩ := done
    rw [JsonValue.depth]
    exact convertEntries_shallow entries _ _ _ _ reached entries_done
  | .float, _, _, _, _, done | .cyclic _, _, _, _, _, done | .mixedKeys, _, _, _, _, done
  | .object _, _, _, _, _, done => by
    simp [convert] at done

/-- Converted items are nested no deeper than the limit allows at their array. -/
theorem convertItems_shallow : (items : List PyValue) → (depth remaining left : Nat) →
    (json : List JsonValue) → depth ≤ maxDepth →
    convertItems maxDepth (depth + 1) remaining items = .ok (json, left) →
    depth + JsonValue.itemsDepth json ≤ maxDepth
  | [], depth, _, _, _, reached, done => by
    simp only [convertItems, pure_ok, Prod.mk.injEq] at done
    rw [← done.1]
    simpa [JsonValue.itemsDepth] using reached
  | item :: rest, depth, _, _, _, reached, done => by
    simp only [convertItems, bind_ok, pure_ok, Prod.mk.injEq, Prod.exists] at done
    obtain ⟨first, _, item_done, others, _, rest_done, rfl, -⟩ := done
    -- The deepest item decides, and each of them fits one level further down.
    have head := convert_shallow item _ _ _ _ item_done
    have tail := convertItems_shallow rest _ _ _ _ reached rest_done
    rw [JsonValue.itemsDepth]
    omega

/-- Converted entries are nested no deeper than the limit allows at their object. -/
theorem convertEntries_shallow : (entries : List (PyString × PyValue)) →
    (depth remaining left : Nat) → (json : List (PyString × JsonValue)) → depth ≤ maxDepth →
    convertEntries maxDepth (depth + 1) remaining entries = .ok (json, left) →
    depth + JsonValue.entriesDepth json ≤ maxDepth
  | [], depth, _, _, _, reached, done => by
    simp only [convertEntries, pure_ok, Prod.mk.injEq] at done
    rw [← done.1]
    simpa [JsonValue.entriesDepth] using reached
  | (key, item) :: rest, depth, _, _, _, reached, done => by
    simp only [convertEntries, bind_ok, pure_ok, Prod.mk.injEq, Prod.exists] at done
    obtain ⟨first, _, item_done, others, _, rest_done, rfl, -⟩ := done
    have head := convert_shallow item _ _ _ _ item_done
    have tail := convertEntries_shallow rest _ _ _ _ reached rest_done
    rw [JsonValue.entriesDepth]
    omega

end

theorem portableValue_shallow {items : Nat} {value : PyValue} {json : JsonValue}
    (done : portableValue maxDepth items value = .ok json) : json.depth ≤ maxDepth := by
  obtain ⟨_, converted, _⟩ := portableValue_ok.mp done
  have nested := convert_shallow value _ _ _ _ converted
  omega

end Depth

section Scan

variable {policy : WorkspaceCheckpointPolicy}

/-- The conversion of a value builds no model that could refuse it. -/
theorem portableValue_unvalidated {depth items : Nat} {value : PyValue} :
    portableValue depth items value ≠ .error .validationError := by
  intro refused
  unfold portableValue at refused
  rcases converted : convert depth 0 items value with reason | ⟨portable, left⟩
  · simp [converted] at refused
  · by_cases encodable : portable.encodable = true <;>
      simp [converted, require, encodable, Bind.bind, Except.bind, Pure.pure, Except.pure]
        at refused

/-- A value that cannot be classified is one whose text has no encoding, met with room left. -/
theorem classify_error {scan : CheckpointScan} {value : PyValue} {error : PortabilityError}
    (failed : classify policy scan value = .error error) :
    scan.values.length < policy.maxValues ∧
      CannotEncode policy.maxDepth policy.maxCollectionItems value := by
  unfold classify at failed
  by_cases full : policy.maxValues ≤ scan.values.length
  · simp [full] at failed
  rw [if_neg full] at failed
  refine ⟨Nat.lt_of_not_le full, ?_⟩
  unfold CannotEncode
  rcases converted : portableValue policy.maxDepth policy.maxCollectionItems value with
    error | portable
  · -- Every other failure of the conversion became a reason to leave the variable out.
    cases error with
    | portableValueError reason => simp [converted] at failed
    | unicodeEncodeError => rfl
    | validationError => exact absurd converted portableValue_unvalidated
  · by_cases large : policy.maxBytes < scan.consumedBytes + canonicalLength portable <;>
      simp [converted, large] at failed

/-- A value whose text has no encoding cannot be classified while there is room left. -/
theorem classify_cannotEncode {scan : CheckpointScan} {value : PyValue}
    (room : scan.values.length < policy.maxValues)
    (found : CannotEncode policy.maxDepth policy.maxCollectionItems value) :
    classify policy scan value = .error .unicodeEncodeError := by
  have not_full : ¬ policy.maxValues ≤ scan.values.length := Nat.not_le.mpr room
  unfold CannotEncode at found
  simp [classify, not_full, found]

/-- No text without an encoding is met while there is room for another value. -/
def Readable (policy : WorkspaceCheckpointPolicy) (rest : Namespace) (scan : CheckpointScan) :
    Prop :=
  ∀ before entry after, rest = before ++ entry :: after →
    ∀ held, before.foldlM (scanVariable policy) scan = .ok held →
      held.values.length < policy.maxValues →
        ¬ CannotEncode policy.maxDepth policy.maxCollectionItems entry.2

/-- The worker's scan succeeds exactly on variables it can read. -/
theorem foldlM_scanVariable_ok (rest : Namespace) :
    ∀ scan : CheckpointScan,
      (∃ done, rest.foldlM (scanVariable policy) scan = .ok done) ↔ Readable policy rest scan := by
  induction rest with
  | nil =>
    intro scan
    simp [Readable, Pure.pure, Except.pure]
  | cons entry rest hypothesis =>
    intro scan
    rw [List.foldlM_cons]
    rcases classified : classify policy scan entry.2 with error | verdict
    · -- The first variable stops the scan, and it is one that cannot be read.
      obtain ⟨room, found⟩ := classify_error classified
      have stopped : scanVariable policy scan entry = .error error := by
        simp [scanVariable, classified, Bind.bind, Except.bind]
      rw [stopped]
      constructor
      · rintro ⟨done, impossible⟩
        simp [Bind.bind, Except.bind] at impossible
      · intro readable
        exact absurd found (readable [] entry rest rfl scan rfl room)
    · have gathered : scanVariable policy scan entry = .ok (scan.gather entry verdict) := by
        simp [scanVariable, classified, ok_bind, Pure.pure, Except.pure]
      rw [gathered, ok_bind, hypothesis]
      constructor
      · intro readable before item after split held scanned
        -- Either the first variable is the one asked about, or it was scanned before it.
        cases before with
        | nil =>
          simp only [List.nil_append, List.cons.injEq] at split
          obtain ⟨rfl, rfl⟩ := split
          simp only [List.foldlM_nil, pure_ok] at scanned
          subst scanned
          intro room found
          rw [classify_cannotEncode room found] at classified
          cases classified
        | cons first before =>
          simp only [List.cons_append, List.cons.injEq] at split
          obtain ⟨rfl, rfl⟩ := split
          rw [List.foldlM_cons, gathered, ok_bind] at scanned
          exact readable before item after rfl held scanned
      · intro readable before item after split held scanned
        refine readable (entry :: before) item after (by rw [split, List.cons_append]) held ?_
        rw [List.foldlM_cons, gathered, ok_bind]
        exact scanned

/-- What a scan has gathered stays gathered. -/
theorem foldlM_grows (rest : Namespace) :
    ∀ {scan done : CheckpointScan}, rest.foldlM (scanVariable policy) scan = .ok done →
      scan.values ⊆ done.values ∧ scan.exclusions ⊆ done.exclusions := by
  induction rest with
  | nil =>
    intro scan done finished
    simp only [List.foldlM_nil, pure_ok] at finished
    subst finished
    exact ⟨List.Subset.refl _, List.Subset.refl _⟩
  | cons entry rest hypothesis =>
    intro scan done finished
    simp only [List.foldlM_cons, bind_ok, scanVariable, pure_ok] at finished
    obtain ⟨_, ⟨verdict, -, rfl⟩, finished⟩ := finished
    obtain ⟨values, exclusions⟩ := hypothesis finished
    -- One more variable is appended to the values or to the exclusions.
    cases verdict with
    | held portable =>
      exact ⟨fun item member => values (List.mem_append_left _ member), exclusions⟩
    | excluded reason =>
      exact ⟨values, fun item member => exclusions (List.mem_append_left _ member)⟩

/-- What one variable adds is accepted exactly when the models accept its entry. -/
theorem gather_accepted {scan : CheckpointScan} (accepted : scan.Accepted)
    {entry : PyString × PyValue} {verdict : Verdict} :
    (scan.gather entry verdict).Accepted ↔ Plain.EntryAccepted entry verdict := by
  obtain ⟨values, exclusions⟩ := accepted
  cases verdict with
  | held portable =>
    constructor
    · intro whole
      exact whole.1 ⟨entry.1, portable⟩ (by simp [CheckpointScan.gather])
    · intro valid
      refine ⟨fun item member => ?_, exclusions⟩
      rcases List.mem_append.mp member with earlier | added
      · exact values item earlier
      · rw [List.mem_singleton.mp added]
        exact valid
  | excluded reason =>
    -- A type name that is cut off is empty only when it was empty before.
    have typed : String.ofList (entry.2.typeName.toList.take 128) ≠ "" ↔
        entry.2.typeName ≠ "" := by
      simp
    constructor
    · intro whole
      have found := whole.2 (exclusion entry.1 entry.2 reason) (by simp [CheckpointScan.gather])
      exact ⟨found.1, typed.mp found.2⟩
    · intro valid
      refine ⟨values, fun item member => ?_⟩
      rcases List.mem_append.mp member with earlier | added
      · exact exclusions item earlier
      · rw [List.mem_singleton.mp added]
        exact ⟨valid.1, typed.mpr valid.2⟩

/-- The plain backend scans as the worker does, but accepts each entry on its way. -/
theorem foldlM_plain (rest : Namespace) :
    ∀ {scan done : CheckpointScan}, scan.Accepted →
      (rest.foldlM (Plain.scanVariable policy) scan = .ok done ↔
        rest.foldlM (scanVariable policy) scan = .ok done ∧ done.Accepted) := by
  induction rest with
  | nil =>
    intro scan done accepted
    simp only [List.foldlM_nil, pure_ok, iff_self_and]
    intro same
    rw [← same]
    exact accepted
  | cons entry rest hypothesis =>
    intro scan done accepted
    simp only [List.foldlM_cons, bind_ok, scanVariable, Plain.scanVariable, require_ok, pure_ok]
    constructor
    · rintro ⟨_, ⟨verdict, classified, _, entry_accepted, rfl⟩, finished⟩
      obtain ⟨finished, whole⟩ :=
        (hypothesis ((gather_accepted accepted).mpr entry_accepted)).mp finished
      exact ⟨⟨_, ⟨verdict, classified, rfl⟩, finished⟩, whole⟩
    · rintro ⟨⟨_, ⟨verdict, classified, rfl⟩, finished⟩, whole⟩
      -- What is accepted in the end was accepted when it was added.
      have kept := foldlM_grows rest finished
      have added : (scan.gather entry verdict).Accepted :=
        ⟨fun item member => whole.1 item (kept.1 member),
          fun item member => whole.2 item (kept.2 member)⟩
      exact ⟨_, ⟨verdict, classified, (), (gather_accepted accepted).mp added, rfl⟩,
        (hypothesis added).mpr ⟨finished, whole⟩⟩

end Scan

section Entries

variable {policy : WorkspaceCheckpointPolicy}

theorem portableValue_typed {depth items : Nat} {value : PyValue} {json : JsonValue}
    (done : portableValue depth items value = .ok json) : value.typeName ≠ "" := by
  obtain ⟨_, converted, _⟩ := portableValue_ok.mp done
  cases value <;> simp [convert] at converted <;> simp [PyValue.typeName]

/-- The models accept the entry of a variable exactly when they accept its name and its type. -/
theorem entryAccepted_iff {scan : CheckpointScan} {entry : PyString × PyValue} {verdict : Verdict}
    (classified : classify policy scan entry.2 = .ok verdict) :
    Plain.EntryAccepted entry verdict ↔ ValidName entry.1 ∧ entry.2.typeName ≠ "" := by
  cases verdict with
  | held portable =>
    -- What is held was portable, and so its type is one of those with a fixed name.
    have typed := portableValue_typed (classify_held classified).2.1
    simp [Plain.EntryAccepted, typed]
  | excluded reason => exact Iff.rfl

/-- Everything a scan gathers is accepted exactly when every variable it reads can be named. -/
theorem foldlM_accepted (rest : Namespace) :
    ∀ {scan done : CheckpointScan}, scan.Accepted →
      rest.foldlM (scanVariable policy) scan = .ok done →
        (done.Accepted ↔ ∀ entry ∈ rest, ValidName entry.1 ∧ entry.2.typeName ≠ "") := by
  induction rest with
  | nil =>
    intro scan done accepted finished
    simp only [List.foldlM_nil, pure_ok] at finished
    subst finished
    simpa using accepted
  | cons entry rest hypothesis =>
    intro scan done accepted finished
    simp only [List.foldlM_cons, bind_ok, scanVariable, pure_ok] at finished
    obtain ⟨_, ⟨verdict, classified, rfl⟩, finished⟩ := finished
    have here : (scan.gather entry verdict).Accepted ↔
        ValidName entry.1 ∧ entry.2.typeName ≠ "" :=
      (gather_accepted accepted).trans (entryAccepted_iff classified)
    rw [List.forall_mem_cons]
    constructor
    · intro whole
      have kept := foldlM_grows rest finished
      have added : (scan.gather entry verdict).Accepted :=
        ⟨fun item member => whole.1 item (kept.1 member),
          fun item member => whole.2 item (kept.2 member)⟩
      exact ⟨here.mp added, (hypothesis added finished).mp whole⟩
    · rintro ⟨first, others⟩
      exact (hypothesis (here.mpr first) finished).mpr others

/-- What a finished scan has gathered is sorted, unique and told apart. -/
theorem Gathered.canonical {own : PyString → Bool} {space : Namespace} {scan : CheckpointScan}
    (gathered : Gathered policy (userVariables own space) scan)
    (distinct : (space.map Prod.fst).Nodup) : Plain.Canonical scan := by
  have names_distinct : ((userVariables own space).map Prod.fst).Nodup :=
    userVariables_distinct distinct
  have ordered : ((userVariables own space).map Prod.fst).Pairwise (· < ·) :=
    List.pairwise_map.mpr (userVariables_ordered names_distinct)
  refine ⟨ordered.sublist gathered.named, ordered.sublist gathered.left_out, ?_⟩
  -- Together the two lists are the names that were read, none of which comes twice.
  have apart := gathered.complete.nodup_iff.mpr names_distinct
  intro name held excluded
  exact (List.nodup_append.mp apart).2.2 name held name excluded rfl

end Entries

section Dictionary

/-- A name is bound to a value exactly when the namespace lists it so. -/
theorem Variables.find_some {space : Variables} {name : PyString} {value : PyValue} :
    space.find name = some value ↔ (name, value) ∈ space.entries := by
  constructor
  · intro found
    simp only [Variables.find, Option.map_eq_some_iff] at found
    obtain ⟨entry, found, rfl⟩ := found
    have named : entry.1 = name := by simpa using List.find?_some found
    rw [← named]
    exact List.mem_of_find?_eq_some found
  · intro member
    -- Some entry is found under the name, and the name has only one.
    obtain ⟨entry, found⟩ : ∃ entry, space.entries.find? (·.1 = name) = some entry := by
      rw [← Option.isSome_iff_exists, List.find?_isSome]
      exact ⟨(name, value), member, by simp⟩
    have named : entry.1 = name := by simpa using List.find?_some found
    have same : entry = (name, value) :=
      List.inj_on_of_nodup_map space.distinct (List.mem_of_find?_eq_some found) member named
    simp [Variables.find, found, same]

/-- Values are bound in a dictionary as they are in a list of variables. -/
theorem foldl_set (values : List WorkspaceCheckpointValue) :
    ∀ space : Variables,
      (values.foldl (fun space item => space.set item.name item.value.toPy) space).entries =
        values.foldl assign space.entries := by
  induction values with
  | nil =>
    intro space
    rfl
  | cons item rest hypothesis =>
    intro space
    rw [List.foldl_cons, hypothesis, List.foldl_cons]
    rfl

end Dictionary

section Law

variable {policy : WorkspaceCheckpointPolicy} {space : Variables}

/-- The variables that the models of a manifest can carry, as far as the scan has to read them. -/
structure Carried (policy : WorkspaceCheckpointPolicy) (space : Variables) : Prop where
  names : ∀ entry ∈ space.entries, IsUserName entry.1 → ValidName entry.1
  types : ∀ entry ∈ space.entries, IsUserName entry.1 → entry.2.typeName ≠ ""
  texts : Readable policy (userVariables (IsUserName ·) space.entries) {}

/-- A manifest that accounts for every variable within the policy, and comes back unchanged. -/
structure Checkpointed (policy : WorkspaceCheckpointPolicy) (space : Variables)
    (manifest : CheckpointScan) : Prop where
  partitioned : (manifest.values.map WorkspaceCheckpointValue.name ++
    manifest.exclusions.map WorkspaceCheckpointExclusion.name).Perm
      ((space.keep (IsUserName ·)).entries.map Prod.fst)
  few : manifest.values.length ≤ policy.maxValues
  small : (manifest.values.map fun item => canonicalLength item.value).sum ≤ policy.maxBytes
  shallow : ∀ item ∈ manifest.values, item.value.depth ≤ policy.maxDepth
  restored : ∃ back, Plain.restore manifest = .ok back ∧
    (∀ name value, back.find name = some value ↔
      name ∈ manifest.values.map WorkspaceCheckpointValue.name ∧
        space.find name = some value) ∧
    ∃ again, Plain.checkpoint policy back = .ok again ∧
      again.values = manifest.values ∧ again.exclusions = []

/-- The plain backend's manifest is what the worker scans, once the models accept it. -/
theorem checkpoint_ok {scan : CheckpointScan} :
    Plain.checkpoint policy space = .ok scan ↔
      (userVariables (IsUserName ·) space.entries).foldlM (scanVariable policy) {} = .ok scan ∧
        scan.Accepted := by
  have nothing : CheckpointScan.Accepted {} := by simp [CheckpointScan.Accepted]
  simp only [Plain.checkpoint, bind_ok, Plain.issue, require_ok, pure_ok, foldlM_plain _ nothing]
  constructor
  · intro ⟨_, scanned, _, canonical, same⟩
    exact same ▸ scanned
  · intro scanned
    -- The manifest has nothing left to refuse: the names were read in their order.
    have gathered : Gathered policy (userVariables (IsUserName ·) space.entries) scan := by
      simpa using Gathered.nil.foldlM _ scanned.1
    exact ⟨scan, scanned, (), gathered.canonical space.distinct, rfl⟩

theorem checkpoint_gathered {scan : CheckpointScan}
    (issued : Plain.checkpoint policy space = .ok scan) :
    Gathered policy (userVariables (IsUserName ·) space.entries) scan := by
  simpa using Gathered.nil.foldlM _ (checkpoint_ok.mp issued).1

/-- The plain backend issues a manifest exactly for variables that the models can carry. -/
theorem checkpoint_succeeds_iff :
    (∃ manifest, Plain.checkpoint policy space = .ok manifest) ↔ Carried policy space := by
  have nothing : CheckpointScan.Accepted {} := by simp [CheckpointScan.Accepted]
  have read : ∀ entry, entry ∈ userVariables (IsUserName ·) space.entries ↔
      entry ∈ space.entries ∧ IsUserName entry.1 := by
    intro entry
    rw [(userVariables_perm (IsUserName ·) space.entries).mem_iff, List.mem_filter]
    simp
  constructor
  · intro ⟨manifest, issued⟩
    obtain ⟨scanned, accepted⟩ := checkpoint_ok.mp issued
    have named := (foldlM_accepted _ nothing scanned).mp accepted
    exact
      { names := fun entry member own => (named entry ((read entry).mpr ⟨member, own⟩)).1
        types := fun entry member own => (named entry ((read entry).mpr ⟨member, own⟩)).2
        texts := (foldlM_scanVariable_ok _ _).mp ⟨manifest, scanned⟩ }
  · intro carried
    obtain ⟨manifest, scanned⟩ := (foldlM_scanVariable_ok _ _).mpr carried.texts
    refine ⟨manifest, checkpoint_ok.mpr ⟨scanned, ?_⟩⟩
    refine (foldlM_accepted _ nothing scanned).mpr fun entry member => ?_
    obtain ⟨stored, own⟩ := (read entry).mp member
    exact ⟨carried.names entry stored own, carried.types entry stored own⟩

/-- Every manifest that the plain backend issues accounts for the variables and comes back. -/
theorem checkpoint_checkpointed {manifest : CheckpointScan}
    (issued : Plain.checkpoint policy space = .ok manifest) :
    Checkpointed policy space manifest := by
  have gathered := checkpoint_gathered issued
  have accepted := (checkpoint_ok.mp issued).2
  have valid : Restorable policy (IsUserName ·) manifest.values :=
    gathered.restorable space.distinct
  have own_names := (userVariables_perm (IsUserName ·) space.entries).map Prod.fst
  refine ⟨gathered.complete.trans own_names, gathered.few, valid.small, ?_, ?_⟩
  · intro item member
    exact portableValue_shallow (gathered.portable item member)
  · have restored : Plain.restore manifest = .ok
        (manifest.values.foldl (fun space item => space.set item.name item.value.toPy) .empty) := by
      simp [Plain.restore, require, accepted, gathered.canonical space.distinct, ok_bind,
        Pure.pure, Except.pure]
    refine ⟨_, restored, ?_, ?_⟩
    · -- The new namespace lists the values of the manifest, and these were read from the old one.
      intro name value
      rw [Variables.find_some, Variables.find_some, foldl_set,
        show Variables.empty.entries = [] from rfl, foldl_assign _ valid.distinct (by simp),
        List.nil_append]
      have stored : ∀ item ∈ manifest.values, (item.name, item.value.toPy) ∈ space.entries := by
        intro item member
        have read := (userVariables_perm (IsUserName ·) space.entries).subset
          (gathered.bound item member)
        exact (List.mem_filter.mp read).1
      constructor
      · intro member
        obtain ⟨item, held, same⟩ := List.mem_map.mp member
        obtain ⟨rfl, rfl⟩ := Prod.mk.injEq .. ▸ same
        exact ⟨List.mem_map_of_mem held, stored item held⟩
      · rintro ⟨named, member⟩
        obtain ⟨item, held, rfl⟩ := List.mem_map.mp named
        have same : (item.name, item.value.toPy) = (item.name, value) :=
          List.inj_on_of_nodup_map space.distinct (stored item held) member rfl
        exact same ▸ List.mem_map_of_mem held
    · -- The values fitted the policy once, and nothing else is there to be left out.
      have foreign : ∀ entry ∈ ([] : Namespace), decide (IsUserName entry.1) = false := by simp
      obtain ⟨bytes, scanned⟩ := foldlM_restored valid foreign
      refine ⟨{ values := manifest.values, consumedBytes := bytes }, ?_, rfl, rfl⟩
      rw [checkpoint_ok, foldl_set]
      exact ⟨scanned, accepted.1, by simp⟩

/-- The worker scans what the plain backend would scan without the interpreter's own names. -/
theorem userVariables_keep (interpreter : Interpreter) :
    userVariables (interpreter.IsUserName ·) space.entries =
      userVariables (IsUserName ·) (space.keep (interpreter.IsUserName ·)).entries := by
  have worker : (userVariables (interpreter.IsUserName ·) space.entries).Pairwise
      fun left right => left.1 < right.1 :=
    userVariables_ordered (userVariables_distinct space.distinct)
  have plain : (userVariables (IsUserName ·)
      (space.keep (interpreter.IsUserName ·)).entries).Pairwise
        fun left right => left.1 < right.1 :=
    userVariables_ordered (userVariables_distinct (space.keep _).distinct)
  -- A name of the program for the interpreter is one for the plain backend too.
  have same : (space.keep (interpreter.IsUserName ·)).entries.filter
      (fun entry => IsUserName entry.1) =
        space.entries.filter fun entry => interpreter.IsUserName entry.1 := by
    rw [Variables.keep, List.filter_filter]
    refine List.filter_congr fun entry _ => ?_
    by_cases own : interpreter.IsUserName entry.1
    · simp [own, own.2.1]
    · simp [own]
  have perm := (userVariables_perm (interpreter.IsUserName ·) space.entries).trans
    (same ▸ (userVariables_perm (IsUserName ·) (space.keep _).entries).symm)
  exact perm.eq_of_pairwise (fun left right _ _ less more => absurd less (lt_asymm more))
    worker plain

/-- A namespace whose names are all the program's own is scanned by the worker as it is. -/
theorem userVariables_shared {interpreter : Interpreter}
    (shared : ∀ entry ∈ space.entries, IsUserName entry.1 → interpreter.IsUserName entry.1) :
    userVariables (interpreter.IsUserName ·) space.entries =
      userVariables (IsUserName ·) space.entries := by
  refine List.filter_congr fun entry member => ?_
  have stored : entry ∈ space.entries := (List.mergeSort_perm _ _).subset member
  by_cases own : IsUserName entry.1
  · simp [own, shared entry stored own]
  · have foreign : ¬ interpreter.IsUserName entry.1 := fun named => own named.2.1
    simp [own, foreign]

/-- An interpreter that starts with its input history and knows the ASCII digits. -/
def Sample.historian : Interpreter where
  baseline := [pyString "In"]
  decimal := fun code => decide (0x30 ≤ code ∧ code ≤ 0x39)

/-- A namespace with a list of texts and a set, which has no portable form. -/
def Sample.mixed : Variables where
  entries := [(pyString "words", .list [.str (pyString "one")]), (pyString "seen", .object "set")]
  distinct := by decide +kernel

/-- A namespace with a name that the interpreter takes for one of its results. -/
def Sample.history : Variables where
  entries := [(pyString "_1", .int 5)]
  distinct := by decide +kernel

end Law

end Aar.Workspace
