import Aar.PublicWorkspace.Payload
import Aar.Proofs.Canonical

/-! The payload of an accepted update is read as the specification that it was written for. -/

namespace Aar.PublicWorkspace

open Utf8 StrictJson

section Documents

variable {entries : List (Text × Value)} {name : String} {value : Value}
  {spec : WorkspaceExecuteSpec}

theorem field_of_mem (keys : (entries.map Prod.fst).Nodup) (member : (text name, value) ∈ entries) :
    field entries name = some value := by
  rw [field, Dictionary.find_of_mem keys member]
  rfl

theorem actionOf_literal (action : Action) : actionOf (text action.literal) = some action := by
  cases action <;> decide

theorem scalarOf_value (scalar : JsonScalar) : scalarOf scalar.value = some scalar := by
  cases scalar <;> rfl

theorem JsonScalar.sorted_value (scalar : JsonScalar) : scalar.value.sorted = scalar.value := by
  cases scalar <;> rfl

theorem JsonScalar.distinct_value (scalar : JsonScalar) : scalar.value.Distinct := by
  cases scalar <;> trivial

theorem distinct_reference (workspace : OpaqueToken) : (referenceValue workspace).Distinct := by
  refine ⟨?_, trivial, trivial, trivial⟩
  simp only [List.map_cons, List.map_nil]
  decide

theorem WorkspaceExecuteSpec.distinct_dump (spec : WorkspaceExecuteSpec) : spec.dump.Distinct := by
  refine ⟨?_, distinct_reference _, trivial, trivial, trivial, trivial, spec.value.distinct_value,
    trivial⟩
  simp only [entries, List.map_cons, List.map_nil]
  decide

theorem mem_sorted {entry : Text × Value} :
    entry ∈ sortEntries (sortedEntries entries) ↔
      ∃ stored ∈ entries, (stored.1, stored.2.sorted) = entry := by
  rw [mem_sortEntries, sortedEntries_eq, List.mem_map]

theorem onlyFields_sorted {names : List String} (only : OnlyFields names entries) :
    OnlyFields names (sortEntries (sortedEntries entries)) := by
  intro entry member
  obtain ⟨stored, inside, rfl⟩ := mem_sorted.mp member
  exact only stored inside

theorem field_sorted (distinct : (Value.obj entries).Distinct)
    (member : (text name, value) ∈ entries) :
    field (sortEntries (sortedEntries entries)) name = some value.sorted :=
  field_of_mem distinct.sorted.1 (mem_sorted.mpr ⟨_, member, rfl⟩)

theorem tokenOf_value (token : OpaqueToken) : tokenOf token.value = some token := by
  rw [tokenOf, dif_pos token.matched]

/-- A sorted reference is read back. -/
theorem referenceOf_sorted (workspace : OpaqueToken) :
    referenceOf (referenceValue workspace).sorted = some workspace := by
  have distinct := distinct_reference workspace
  unfold referenceValue at distinct ⊢
  have only : OnlyFields ["value", "type"] [(text "value", Value.str (text workspace.value)),
      (text "type", .str (text "workspace"))] := by
    simp [OnlyFields]
  have content := @field_sorted _ "value" (.str (text workspace.value)) distinct
    List.mem_cons_self
  have kind := @field_sorted _ "type" (.str (text "workspace")) distinct
    (List.mem_cons_of_mem _ List.mem_cons_self)
  simp only [Value.sorted, referenceOf, onlyFields_sorted only, guard_true, content, kind,
    Option.getD_some, stringOf, Option.bind_eq_bind, Option.bind_some, Option.pure_def, string_text,
    tokenOf_value]

/-- A sorted specification is read back, if it is valid. -/
theorem readFields_sorted (valid : spec.Valid) : readFields spec.dump.sorted = some spec := by
  have distinct := spec.distinct_dump
  unfold WorkspaceExecuteSpec.dump at distinct ⊢
  have only : OnlyFields ["workspace", "expected_generation", "expected_revision", "action", "key",
      "value"] spec.entries := by
    simp [OnlyFields, WorkspaceExecuteSpec.entries]
  have take (name : String) (value : Value) (member : (text name, value) ∈ spec.entries) :
      field (sortEntries (sortedEntries spec.entries)) name = some value.sorted :=
    field_sorted distinct member
  have workspace := take "workspace" (referenceValue spec.workspace) (by
    simp [WorkspaceExecuteSpec.entries])
  have expectedGeneration := take "expected_generation" (.int spec.expectedGeneration) (by
    simp [WorkspaceExecuteSpec.entries])
  have expectedRevision := take "expected_revision" (.int spec.expectedRevision) (by
    simp [WorkspaceExecuteSpec.entries])
  have action := take "action" (.str (text spec.action.literal)) (by
    simp [WorkspaceExecuteSpec.entries])
  have key := take "key" (.str spec.key) (by simp [WorkspaceExecuteSpec.entries])
  have scalar := take "value" spec.value.value (by simp [WorkspaceExecuteSpec.entries])
  have whole : (⟨spec.workspace, spec.expectedGeneration, spec.expectedRevision, spec.action,
      spec.key, spec.value⟩ : WorkspaceExecuteSpec).Valid := valid
  rw [JsonScalar.sorted_value] at scalar
  simp only [Value.sorted, readFields, onlyFields_sorted only, guard_true, workspace,
    expectedGeneration, expectedRevision, action, key, scalar, referenceOf_sorted,
    Option.getD_some, stringOf, counterOf, actionOf_literal, scalarOf_value,
    Option.bind_eq_bind, Option.bind_some, Option.pure_def, whole]

theorem not_surrogate_key {point : Code} (letter : KeyCharacter point) : ¬ Surrogate point := by
  refine not_surrogate ?_
  unfold KeyCharacter Letter at letter
  simp only [List.mem_cons, List.not_mem_nil, or_false] at letter
  omega

theorem ValidKey.whole {key : Text} (valid : ValidKey key) : Whole key := by
  cases key with
  | nil => exact absurd valid not_false
  | cons first rest =>
    obtain ⟨letter, _, others⟩ := valid
    refine whole_cons.mpr ⟨not_surrogate_key (.inl letter), fun point member => ?_⟩
    exact not_surrogate_key (of_decide_eq_true (List.all_eq_true.mp others point member))

/-- A specification that is valid has no surrogates. -/
theorem WorkspaceExecuteSpec.encodable_dump (valid : spec.Valid) : spec.dump.Encodable := by
  obtain ⟨_, _, key, value, _⟩ := valid
  have names (name : String) : Whole (text name) := whole_of_string name
  have scalar : spec.value.value.Encodable := by
    cases content : spec.value with
    | none | bool _ | int _ => trivial
    | str _ =>
      rw [content] at value
      exact value
  exact ⟨names _, ⟨names _, names _, names _, names _, trivial⟩, names _, trivial, names _,
    trivial, names _, names _, names _, key.whole, names _, scalar, trivial⟩

theorem depth_sorted {depth : Nat} (shallow : ∀ entry ∈ entries, entry.2.sorted.depth ≤ depth) :
    (Value.obj entries).sorted.depth ≤ depth + 1 := by
  refine Nat.succ_le_succ (depthEntries_le fun entry member => ?_)
  obtain ⟨stored, inside, rfl⟩ := mem_sorted.mp member
  exact shallow stored inside

/-- A specification is an object of scalars and of one reference. -/
theorem WorkspaceExecuteSpec.depth_dump (spec : WorkspaceExecuteSpec) :
    spec.dump.sorted.depth ≤ 2 := by
  have reference : (referenceValue spec.workspace).sorted.depth ≤ 1 :=
    depth_sorted (by simp [Value.sorted, Value.depth])
  have scalar : spec.value.value.sorted.depth = 0 := by
    cases spec.value <;> rfl
  refine depth_sorted ?_
  simp [entries, reference, scalar, Value.sorted, Value.depth]

/-- A payload is read as the specification that it was written for. -/
theorem readPayload_payloadJson (valid : spec.Valid) :
    readPayload (payloadJson spec) = some spec := by
  have whole : Whole (write spec.dump.sorted) := by
    rw [whole_write, Value.encodable_sorted]
    exact WorkspaceExecuteSpec.encodable_dump valid
  have read := Canonical.parse_canonical spec.distinct_dump
    (encode_eq_some.mpr ⟨whole, rfl⟩) spec.depth_dump
  simp only [readPayload, payloadJson, text_string whole, read, Option.bind_eq_bind,
    Option.bind_some, readFields_sorted valid]

end Documents

end Aar.PublicWorkspace
