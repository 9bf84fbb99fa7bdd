import Aar.Workspace.Portable
import Mathlib.Data.List.Basic

/-! A worker that is restored from a checkpoint holds exactly the values of the checkpoint. -/

namespace Aar.Workspace

open Guarded

section Conversion

variable {maxDepth larger depth remaining left : Nat}

theorem convert_depth {value : PyValue} {json : JsonValue}
    (done : convert maxDepth depth remaining value = .ok (json, left)) : depth ≤ maxDepth := by
  by_contra deep
  cases value <;> simp [convert, require, deep] at done

mutual

/-- Reading a converted value back gives the value it was converted from. -/
theorem convert_toPy : (value : PyValue) → (depth remaining left : Nat) → (json : JsonValue) →
    convert maxDepth depth remaining value = .ok (json, left) → json.toPy = value
  | .none, _, _, _, _, done | .bool _, _, _, _, _, done | .str _, _, _, _, _, done => by
    simp only [convert, bind_ok, require_ok, pure_ok, Prod.mk.injEq] at done
    obtain ⟨_, _, rfl, _⟩ := done
    rfl
  | .int _, _, _, _, _, done => by
    simp only [convert, bind_ok, require_ok, pure_ok, Prod.mk.injEq] at done
    obtain ⟨_, _, _, _, rfl, _⟩ := done
    rfl
  | .list items, _, _, _, _, done => by
    simp only [convert, bind_ok, require_ok, pure_ok, Prod.mk.injEq, Prod.exists] at done
    obtain ⟨-, -, -, -, converted, _, items_done, rfl, -⟩ := done
    rw [JsonValue.toPy, convertItems_toPy items _ _ _ _ items_done]
  | .dict entries, _, _, _, _, done => by
    simp only [convert, bind_ok, require_ok, pure_ok, Prod.mk.injEq, Prod.exists] at done
    obtain ⟨-, -, -, -, converted, _, entries_done, rfl, -⟩ := done
    rw [JsonValue.toPy, convertEntries_toPy entries _ _ _ _ entries_done]
  | .float, _, _, _, _, done | .cyclic _, _, _, _, _, done | .mixedKeys, _, _, _, _, done
  | .object _, _, _, _, _, done => by
    simp [convert] at done

/-- Reading converted items back gives the items. -/
theorem convertItems_toPy : (items : List PyValue) → (depth remaining left : Nat) →
    (json : List JsonValue) →
    convertItems maxDepth depth remaining items = .ok (json, left) →
    JsonValue.toPyItems json = items
  | [], _, _, _, _, done => by
    simp only [convertItems, pure_ok, Prod.mk.injEq] at done
    rw [← done.1, JsonValue.toPyItems]
  | item :: rest, _, _, _, _, done => by
    simp only [convertItems, bind_ok, pure_ok, Prod.mk.injEq, Prod.exists] at done
    obtain ⟨first, _, item_done, others, _, rest_done, rfl, -⟩ := done
    rw [JsonValue.toPyItems, convert_toPy item _ _ _ _ item_done,
      convertItems_toPy rest _ _ _ _ rest_done]

/-- Reading converted entries back gives the entries. -/
theorem convertEntries_toPy : (entries : List (PyString × PyValue)) →
    (depth remaining left : Nat) → (json : List (PyString × JsonValue)) →
    convertEntries maxDepth depth remaining entries = .ok (json, left) →
    JsonValue.toPyEntries json = entries
  | [], _, _, _, _, done => by
    simp only [convertEntries, pure_ok, Prod.mk.injEq] at done
    rw [← done.1, JsonValue.toPyEntries]
  | (key, item) :: rest, _, _, _, _, done => by
    simp only [convertEntries, bind_ok, pure_ok, Prod.mk.injEq, Prod.exists] at done
    obtain ⟨first, _, item_done, others, _, rest_done, rfl, -⟩ := done
    rw [JsonValue.toPyEntries, convert_toPy item _ _ _ _ item_done,
      convertEntries_toPy rest _ _ _ _ rest_done]

end

mutual

/-- A value that converts does so to the same JSON value within larger limits. -/
theorem convert_larger (deeper : maxDepth ≤ larger) (extra : Nat) :
    (value : PyValue) → (depth remaining left : Nat) → (json : JsonValue) →
    convert maxDepth depth remaining value = .ok (json, left) →
    convert larger depth (remaining + extra) value = .ok (json, left + extra)
  | .none, depth, remaining, left, json, done
  | .bool _, depth, remaining, left, json, done
  | .str _, depth, remaining, left, json, done => by
    have reached := Nat.le_trans (convert_depth done) deeper
    -- A scalar becomes itself and takes no item of the allowance.
    simp only [convert, bind_ok, require_ok, pure_ok, Prod.mk.injEq] at done
    obtain ⟨_, _, rfl, rfl⟩ := done
    simp [convert, reached]
  | .int _, depth, remaining, left, json, done => by
    have reached := Nat.le_trans (convert_depth done) deeper
    simp only [convert, bind_ok, require_ok, pure_ok, Prod.mk.injEq] at done
    obtain ⟨_, _, _, in_range, rfl, rfl⟩ := done
    simp [convert, reached, in_range]
  | .list items, depth, remaining, left, json, done => by
    have reached := Nat.le_trans (convert_depth done) deeper
    simp only [convert, bind_ok, require_ok, pure_ok, Prod.mk.injEq, Prod.exists] at done
    obtain ⟨-, -, -, enough, converted, rest, items_done, rfl, rfl⟩ := done
    have again := convertItems_larger deeper extra items _ _ _ _ items_done
    -- The same number of items is taken from the larger allowance.
    have allowance : remaining + extra - items.length = remaining - items.length + extra := by
      omega
    have still_enough : items.length ≤ remaining + extra := by omega
    simp [convert, reached, still_enough, allowance, again]
  | .dict entries, depth, remaining, left, json, done => by
    have reached := Nat.le_trans (convert_depth done) deeper
    simp only [convert, bind_ok, require_ok, pure_ok, Prod.mk.injEq, Prod.exists] at done
    obtain ⟨-, -, -, enough, converted, rest, entries_done, rfl, rfl⟩ := done
    have again := convertEntries_larger deeper extra entries _ _ _ _ entries_done
    have allowance : remaining + extra - entries.length = remaining - entries.length + extra := by
      omega
    have still_enough : entries.length ≤ remaining + extra := by omega
    simp [convert, reached, still_enough, allowance, again]
  | .float, _, _, _, _, done | .cyclic _, _, _, _, _, done | .mixedKeys, _, _, _, _, done
  | .object _, _, _, _, _, done => by
    simp [convert] at done

/-- Items that convert do so within larger limits. -/
theorem convertItems_larger (deeper : maxDepth ≤ larger) (extra : Nat) :
    (items : List PyValue) → (depth remaining left : Nat) → (json : List JsonValue) →
    convertItems maxDepth depth remaining items = .ok (json, left) →
    convertItems larger depth (remaining + extra) items = .ok (json, left + extra)
  | [], depth, remaining, left, json, done => by
    simp only [convertItems, pure_ok, Prod.mk.injEq] at done
    obtain ⟨rfl, rfl⟩ := done
    rfl
  | item :: rest, depth, remaining, left, json, done => by
    simp only [convertItems, bind_ok, pure_ok, Prod.mk.injEq, Prod.exists] at done
    obtain ⟨first, middle, item_done, others, _, rest_done, rfl, rfl⟩ := done
    have head := convert_larger deeper extra item _ _ _ _ item_done
    have tail := convertItems_larger deeper extra rest _ _ _ _ rest_done
    simp [convertItems, head, tail]

/-- Entries that convert do so within larger limits, under the same keys. -/
theorem convertEntries_larger (deeper : maxDepth ≤ larger) (extra : Nat) :
    (entries : List (PyString × PyValue)) → (depth remaining left : Nat) →
    (json : List (PyString × JsonValue)) →
    convertEntries maxDepth depth remaining entries = .ok (json, left) →
    convertEntries larger depth (remaining + extra) entries = .ok (json, left + extra)
  | [], depth, remaining, left, json, done => by
    simp only [convertEntries, pure_ok, Prod.mk.injEq] at done
    obtain ⟨rfl, rfl⟩ := done
    rfl
  | (key, item) :: rest, depth, remaining, left, json, done => by
    simp only [convertEntries, bind_ok, pure_ok, Prod.mk.injEq, Prod.exists] at done
    obtain ⟨first, middle, item_done, others, _, rest_done, rfl, rfl⟩ := done
    have head := convert_larger deeper extra item _ _ _ _ item_done
    have tail := convertEntries_larger deeper extra rest _ _ _ _ rest_done
    simp [convertEntries, head, tail]

end

/-- A value is portable exactly when it converts to a JSON value that can be encoded. -/
theorem portableValue_ok {items : Nat} {value : PyValue} {json : JsonValue} :
    portableValue maxDepth items value = .ok json ↔
      ∃ left, convert maxDepth 0 items value = .ok (json, left) ∧ json.encodable = true := by
  unfold portableValue
  rcases converted : convert maxDepth 0 items value with reason | ⟨portable, left⟩
  · simp
  · simp only [bind_ok, require_ok, pure_ok, exists_const, Except.ok.injEq, Prod.mk.injEq]
    constructor
    · rintro ⟨encodable, rfl⟩
      exact ⟨left, ⟨rfl, rfl⟩, encodable⟩
    · rintro ⟨_, ⟨rfl, _⟩, encodable⟩
      exact ⟨encodable, rfl⟩

theorem portableValue_toPy {items : Nat} {value : PyValue} {json : JsonValue}
    (done : portableValue maxDepth items value = .ok json) : json.toPy = value := by
  obtain ⟨_, converted, _⟩ := portableValue_ok.mp done
  exact convert_toPy value _ _ _ _ converted

/-- A portable value stays so within larger limits. -/
theorem portableValue_larger {items more : Nat} {value : PyValue} {json : JsonValue}
    (deeper : maxDepth ≤ larger) (longer : items ≤ more)
    (done : portableValue maxDepth items value = .ok json) :
    portableValue larger more value = .ok json := by
  obtain ⟨left, converted, encodable⟩ := portableValue_ok.mp done
  have again := convert_larger deeper (more - items) value _ _ _ _ converted
  rw [Nat.add_sub_cancel' longer] at again
  exact portableValue_ok.mpr ⟨_, again, encodable⟩

end Conversion

section Names

theorem ValidName.encodable {name : PyString} (valid : ValidName name) : Encodable name := by
  intro code member
  have word := valid.2.2 code member
  omega

end Names

section Scan

variable {policy generous : WorkspaceCheckpointPolicy} {own : PyString → Bool}

/-- Values that fit a policy once they are restored: what a checkpoint has to be to come back. -/
structure Restorable (policy : WorkspaceCheckpointPolicy) (own : PyString → Bool)
    (values : List WorkspaceCheckpointValue) : Prop where
  ordered : values.Pairwise fun left right => left.name < right.name
  named : ∀ item ∈ values, own item.name = true
  portable : ∀ item ∈ values,
    portableValue policy.maxDepth policy.maxCollectionItems item.value.toPy = .ok item.value
  few : values.length ≤ policy.maxValues
  small : (values.map fun item => canonicalLength item.value).sum ≤ policy.maxBytes

/-- One policy allows no less than another. -/
structure Wider (policy wider : WorkspaceCheckpointPolicy) : Prop where
  values : policy.maxValues ≤ wider.maxValues
  bytes : policy.maxBytes ≤ wider.maxBytes
  depth : policy.maxDepth ≤ wider.maxDepth
  items : policy.maxCollectionItems ≤ wider.maxCollectionItems

theorem verificationPolicy_wider (policy : WorkspaceCheckpointPolicy) :
    Wider policy verificationPolicy where
  values := policy.maxValues_range.2
  bytes := policy.maxBytes_range.2
  depth := policy.maxDepth_range.2
  items := policy.maxCollectionItems_range.2

/-- Values that fit a policy fit one that allows more. -/
theorem Restorable.wider {values : List WorkspaceCheckpointValue}
    (valid : Restorable policy own values) (more : Wider policy generous) :
    Restorable generous own values where
  ordered := valid.ordered
  named := valid.named
  portable := fun item member =>
    portableValue_larger more.depth more.items (valid.portable item member)
  few := Nat.le_trans valid.few more.values
  small := Nat.le_trans valid.small more.bytes

/-- What a scan has gathered so far, accounted for within the limits of its policy. -/
structure Gathered (policy : WorkspaceCheckpointPolicy) (read : Namespace)
    (scan : CheckpointScan) : Prop where
  named : (scan.values.map WorkspaceCheckpointValue.name).Sublist (read.map Prod.fst)
  left_out : (scan.exclusions.map WorkspaceCheckpointExclusion.name).Sublist (read.map Prod.fst)
  complete : (scan.values.map WorkspaceCheckpointValue.name ++
    scan.exclusions.map WorkspaceCheckpointExclusion.name).Perm (read.map Prod.fst)
  bound : ∀ item ∈ scan.values, (item.name, item.value.toPy) ∈ read
  portable : ∀ item ∈ scan.values,
    portableValue policy.maxDepth policy.maxCollectionItems item.value.toPy = .ok item.value
  few : scan.values.length ≤ policy.maxValues
  counted : (scan.values.map fun item => canonicalLength item.value).sum = scan.consumedBytes
  small : scan.consumedBytes ≤ policy.maxBytes

theorem Gathered.nil : Gathered policy [] {} where
  named := by simp
  left_out := by simp
  complete := by simp
  bound := by simp
  portable := by simp
  few := by simp
  counted := by simp
  small := by simp

/-- What one variable is classified as fits what was gathered before it. -/
theorem classify_held {scan : CheckpointScan} {value : PyValue} {portable : JsonValue}
    (held : classify policy scan value = .ok (.held portable)) :
    scan.values.length < policy.maxValues ∧
      portableValue policy.maxDepth policy.maxCollectionItems value = .ok portable ∧
      scan.consumedBytes + canonicalLength portable ≤ policy.maxBytes := by
  unfold classify at held
  by_cases full : policy.maxValues ≤ scan.values.length
  · simp [full] at held
  rw [if_neg full] at held
  rcases converted : portableValue policy.maxDepth policy.maxCollectionItems value with
    reason | json
  · rcases reason with reason | _ | _ <;> simp [converted] at held
  simp only [converted] at held
  by_cases large : policy.maxBytes < scan.consumedBytes + canonicalLength json
  · simp [large] at held
  · simp only [large, if_false, Except.ok.injEq, Verdict.held.injEq] at held
    subst held
    exact ⟨by omega, rfl, by omega⟩

/-- Gathering one more variable keeps what was gathered within the limits. -/
theorem Gathered.gather {read : Namespace} {scan : CheckpointScan}
    (gathered : Gathered policy read scan) {entry : PyString × PyValue} {verdict : Verdict}
    (classified : classify policy scan entry.2 = .ok verdict) :
    Gathered policy (read ++ [entry]) (scan.gather entry verdict) := by
  have prefix_kept : (read.map Prod.fst).Sublist ((read ++ [entry]).map Prod.fst) := by
    simp
  cases verdict with
  | excluded reason =>
    refine ⟨gathered.named.trans prefix_kept, ?_, ?_, ?_, gathered.portable, gathered.few,
      gathered.counted, gathered.small⟩
    · simpa [CheckpointScan.gather, exclusion] using
        gathered.left_out.append (List.Sublist.refl [entry.1])
    · simpa [CheckpointScan.gather, exclusion] using
        gathered.complete.append (List.Perm.refl [entry.1])
    · exact fun item member => List.mem_append_left _ (gathered.bound item member)
  | held portable =>
    obtain ⟨room, converted, fits⟩ := classify_held classified
    have counted := gathered.counted
    have read_back := portableValue_toPy converted
    refine ⟨?_, gathered.left_out.trans prefix_kept, ?_, ?_, ?_, ?_, ?_, fits⟩
    · simpa [CheckpointScan.gather] using
        gathered.named.append (List.Sublist.refl [entry.1])
    · -- The new name moves past the exclusions to its place at the end.
      have swapped : ([entry.1] ++ scan.exclusions.map WorkspaceCheckpointExclusion.name).Perm
          (scan.exclusions.map WorkspaceCheckpointExclusion.name ++ [entry.1]) :=
        List.perm_append_comm
      have moved := swapped.append_left (scan.values.map WorkspaceCheckpointValue.name)
      have complete := gathered.complete.append (List.Perm.refl [entry.1])
      simpa [CheckpointScan.gather] using moved.trans (by simpa using complete)
    · intro item member
      rcases List.mem_append.mp member with earlier | added
      · exact List.mem_append_left _ (gathered.bound item earlier)
      · rw [List.mem_singleton.mp added]
        simp [read_back]
    · intro item member
      rcases List.mem_append.mp member with earlier | added
      · exact gathered.portable item earlier
      · rw [List.mem_singleton.mp added]
        simpa [read_back] using converted
    · simpa [CheckpointScan.gather] using Nat.succ_le_of_lt room
    · simp [CheckpointScan.gather, counted]

/-- A scan of many variables keeps what it gathers within the limits. -/
theorem Gathered.foldlM (rest : Namespace) :
    ∀ {read : Namespace} {scan done : CheckpointScan}, Gathered policy read scan →
      rest.foldlM (scanVariable policy) scan = .ok done → Gathered policy (read ++ rest) done := by
  induction rest with
  | nil =>
    intro read scan done gathered finished
    simp only [List.foldlM_nil, pure_ok] at finished
    simpa [← finished] using gathered
  | cons entry rest hypothesis =>
    intro read scan done gathered finished
    simp only [List.foldlM_cons, bind_ok, scanVariable, pure_ok] at finished
    obtain ⟨next, ⟨verdict, classified, rfl⟩, rest_finished⟩ := finished
    simpa using hypothesis (gathered.gather classified) rest_finished

end Scan

section Variables

variable {own : PyString → Bool} {space : Namespace}

/-- The program's own variables come in the strict order of their names. -/
theorem userVariables_ordered (distinct : ((userVariables own space).map Prod.fst).Nodup) :
    (userVariables own space).Pairwise fun left right => left.1 < right.1 := by
  let before (left right : PyString × PyValue) : Bool := left.1 ≤ right.1
  have sorted : (space.mergeSort before).Pairwise fun left right => before left right :=
    List.pairwise_mergeSort
      (fun _ _ _ first second => by
        simp only [before, decide_eq_true_eq] at first second ⊢
        exact le_trans first second)
      (fun left right => by simpa [before] using le_total left.1 right.1) space
  -- Sorted names that differ are strictly sorted.
  have apart := List.pairwise_map.mp distinct
  refine ((sorted.filter _).and apart).imp fun {left right} found => ?_
  have at_most : left.1 ≤ right.1 := by simpa [before] using found.1
  exact lt_of_le_of_ne at_most found.2

theorem userVariables_perm (own : PyString → Bool) (space : Namespace) :
    (userVariables own space).Perm (space.filter fun entry => own entry.1) :=
  (List.mergeSort_perm space _).filter _

theorem userVariables_named {name : PyString}
    (member : name ∈ (userVariables own space).map Prod.fst) : own name = true := by
  obtain ⟨entry, found, rfl⟩ := List.mem_map.mp member
  exact (List.mem_filter.mp found).2

theorem userVariables_distinct (distinct : (space.map Prod.fst).Nodup) :
    ((userVariables own space).map Prod.fst).Nodup :=
  ((userVariables_perm own space).map Prod.fst).nodup_iff.mpr
    (distinct.sublist (List.filter_sublist.map _))

/-- What a finished scan has gathered is what a restored worker can carry again. -/
theorem Gathered.restorable {policy : WorkspaceCheckpointPolicy} {scan : CheckpointScan}
    (gathered : Gathered policy (userVariables own space) scan)
    (distinct : (space.map Prod.fst).Nodup) : Restorable policy own scan.values := by
  have ordered : ((userVariables own space).map Prod.fst).Pairwise (· < ·) :=
    List.pairwise_map.mpr (userVariables_ordered (userVariables_distinct distinct))
  refine ⟨?_, ?_, gathered.portable, gathered.few, ?_⟩
  · exact List.pairwise_map.mp (ordered.sublist gathered.named)
  · intro item member
    exact userVariables_named (gathered.named.subset (List.mem_map_of_mem member))
  · rw [gathered.counted]
    exact gathered.small

end Variables

section Restore

variable {policy : WorkspaceCheckpointPolicy} {own : PyString → Bool}

/-- Binding values under new names only appends them. -/
theorem foldl_assign (values : List WorkspaceCheckpointValue) :
    ∀ {space : Namespace}, (values.map WorkspaceCheckpointValue.name).Nodup →
      (∀ item ∈ values, ∀ entry ∈ space, entry.1 ≠ item.name) →
      values.foldl assign space =
        space ++ values.map fun item => (item.name, item.value.toPy) := by
  induction values with
  | nil =>
    intro space _ _
    simp
  | cons item rest hypothesis =>
    intro space distinct fresh
    simp only [List.map_cons, List.nodup_cons] at distinct
    have appended : assign space item = space ++ [(item.name, item.value.toPy)] := by
      have kept : space.filter (·.1 ≠ item.name) = space :=
        List.filter_eq_self.mpr fun entry member => by
          simpa using fresh item List.mem_cons_self entry member
      rw [assign, kept]
    rw [List.foldl_cons, appended, hypothesis distinct.2]
    · simp
    · intro later later_member entry entry_member
      rcases List.mem_append.mp entry_member with old | new
      · exact fresh later (List.mem_cons_of_mem _ later_member) entry old
      · rw [List.mem_singleton.mp new]
        intro same
        change item.name = later.name at same
        exact distinct.1 (same ▸ List.mem_map_of_mem later_member)

/-- Values in the order of their names have names of their own. -/
theorem Restorable.distinct {values : List WorkspaceCheckpointValue}
    (valid : Restorable policy own values) :
    (values.map WorkspaceCheckpointValue.name).Nodup := by
  have ordered_names : (values.map WorkspaceCheckpointValue.name).Pairwise (· < ·) :=
    List.pairwise_map.mpr valid.ordered
  refine ordered_names.imp fun {first second} before => ?_
  rintro rfl
  exact lt_irrefl _ before

/-- A namespace of foreign variables, with values bound in it, has the values as its own. -/
theorem userVariables_bound {values : List WorkspaceCheckpointValue}
    (valid : Restorable policy own values) (space : Namespace)
    (foreign : ∀ entry ∈ space, own entry.1 = false) :
    userVariables own (values.foldl assign space) =
      values.map fun item => (item.name, item.value.toPy) := by
  have distinct := valid.distinct
  have bound : values.foldl assign space =
      space ++ values.map fun item => (item.name, item.value.toPy) := by
    refine foldl_assign values distinct fun item member entry kept same => ?_
    have not_own := foreign entry kept
    rw [same, valid.named item member] at not_own
    exact Bool.noConfusion not_own
  -- Of this namespace exactly the values are the program's own.
  have kept : (values.foldl assign space).filter (fun entry => own entry.1) =
      values.map fun item => (item.name, item.value.toPy) := by
    have none_left : space.filter (fun entry => own entry.1) = [] :=
      List.filter_eq_nil_iff.mpr fun entry member => by simp [foreign entry member]
    rw [bound, List.filter_append, none_left, List.nil_append, List.filter_eq_self]
    intro entry member
    obtain ⟨item, found, rfl⟩ := List.mem_map.mp member
    exact valid.named item found
  have perm := userVariables_perm own (values.foldl assign space)
  rw [kept] at perm
  have names : (values.map fun item => (item.name, item.value.toPy)).map Prod.fst =
      values.map WorkspaceCheckpointValue.name := by
    simp
  have own_ordered := userVariables_ordered
    ((perm.map Prod.fst).nodup_iff.mpr (names ▸ distinct))
  have values_ordered : (values.map fun item => (item.name, item.value.toPy)).Pairwise
      fun left right => left.1 < right.1 :=
    List.pairwise_map.mpr (valid.ordered.imp fun before => before)
  -- Two strictly ordered arrangements of the same variables are one.
  exact perm.eq_of_pairwise (fun left right _ _ less more => absurd less (lt_asymm more))
    own_ordered values_ordered

/-- Scanning values that fit holds every one of them. -/
theorem foldlM_scanVariable (values : List WorkspaceCheckpointValue) :
    ∀ (scan : CheckpointScan),
      (∀ item ∈ values, portableValue policy.maxDepth policy.maxCollectionItems
        item.value.toPy = .ok item.value) →
      scan.values.length + values.length ≤ policy.maxValues →
      scan.consumedBytes + (values.map fun item => canonicalLength item.value).sum ≤
        policy.maxBytes →
      (values.map fun item => (item.name, item.value.toPy)).foldlM (scanVariable policy) scan =
        .ok { scan with
          values := scan.values ++ values
          consumedBytes :=
            scan.consumedBytes + (values.map fun item => canonicalLength item.value).sum } := by
  induction values with
  | nil =>
    intro scan _ _ _
    simp [Pure.pure, Except.pure]
  | cons item rest hypothesis =>
    intro scan portable few small
    simp only [List.length_cons, List.map_cons, List.sum_cons] at few small
    have held : scanVariable policy scan (item.name, item.value.toPy) =
        .ok { scan with
          values := scan.values ++ [item]
          consumedBytes := scan.consumedBytes + canonicalLength item.value } := by
      have not_full : ¬ policy.maxValues ≤ scan.values.length := by omega
      have not_large : ¬ policy.maxBytes <
          scan.consumedBytes + canonicalLength item.value := by omega
      simp [scanVariable, classify, not_full, portable item List.mem_cons_self, not_large,
        CheckpointScan.gather]
    rw [List.map_cons, List.foldlM_cons, held, Guarded.ok_bind, hypothesis]
    · simp [Nat.add_assoc]
    · exact fun later member => portable later (List.mem_cons_of_mem _ member)
    · simp only [List.length_append, List.length_singleton]
      omega
    · simp only
      omega

/-- A scan of a namespace whose own variables are fitting values holds exactly these. -/
theorem foldlM_restored {values : List WorkspaceCheckpointValue} {space : Namespace}
    (valid : Restorable policy own values) (foreign : ∀ entry ∈ space, own entry.1 = false) :
    ∃ bytes, (userVariables own (values.foldl assign space)).foldlM (scanVariable policy) {} =
      .ok { values := values, consumedBytes := bytes } := by
  have scanned := foldlM_scanVariable values {} valid.portable
    (by simpa using valid.few) (by simpa using valid.small)
  rw [userVariables_bound valid space foreign, scanned]
  exact ⟨_, rfl⟩

/-- A fresh checkpoint of a restored worker holds the restored values and leaves nothing out. -/
theorem checkpoint_restore {interpreter : Interpreter} {values : List WorkspaceCheckpointValue}
    (valid : Restorable policy (interpreter.IsUserName ·) values) (space : Namespace) :
    ∃ bytes, checkpoint interpreter policy (restore interpreter values space) =
      .ok { values := values, consumedBytes := bytes } := by
  refine foldlM_restored valid fun entry member => ?_
  simpa using (List.mem_filter.mp member).2

end Restore

end Aar.Workspace
