import Aar.Workspace.Portable

/-! The checkpoints of the plain backend, which runs programs in its own process. -/

namespace Aar.Workspace

open Guarded

section Variables

/-- A namespace as a dictionary: every name is bound once. -/
structure Variables where
  entries : Namespace
  distinct : (entries.map Prod.fst).Nodup

/-- A namespace without variables. -/
def Variables.empty : Variables where
  entries := []
  distinct := List.nodup_nil

/-- What a name is bound to. -/
def Variables.find (space : Variables) (name : PyString) : Option PyValue :=
  (space.entries.find? (·.1 = name)).map Prod.snd

/-- The variables whose names are kept. -/
def Variables.keep (space : Variables) (kept : PyString → Bool) : Variables where
  entries := space.entries.filter fun entry => kept entry.1
  distinct := space.distinct.sublist (List.filter_sublist.map _)

/-- Forget a name. -/
def Variables.pop (space : Variables) (name : PyString) : Variables :=
  space.keep (· ≠ name)

/-- Bind a name, replacing what it was bound to. -/
def Variables.set (space : Variables) (name : PyString) (value : PyValue) : Variables where
  entries := (space.pop name).entries ++ [(name, value)]
  distinct := by
    -- The name was forgotten before it is bound again.
    have fresh : name ∉ (space.pop name).entries.map Prod.fst := by
      simp [Variables.pop, Variables.keep]
    rw [List.map_append, List.nodup_append]
    refine ⟨(space.pop name).distinct, by simp, ?_⟩
    intro other member last found same
    -- The only new name would have to be one of the old ones.
    have renamed : other = name := same.trans (by simpa using found)
    rw [renamed] at member
    exact fresh member

end Variables

namespace Plain

section Checkpoint

/-- The models of one entry of a manifest accept its name, and the type of what is left out. -/
def EntryAccepted (entry : PyString × PyValue) : Verdict → Prop
  | .held _ => ValidName entry.1
  | .excluded _ => ValidName entry.1 ∧ entry.2.typeName ≠ ""

instance (entry : PyString × PyValue) : DecidablePred (EntryAccepted entry)
  | .held _ => inferInstanceAs (Decidable (ValidName _))
  | .excluded _ => inferInstanceAs (Decidable (_ ∧ _))

/-- `checkpoint`, body of the loop: the entry is built as soon as the variable is read. -/
def scanVariable (policy : WorkspaceCheckpointPolicy) (scan : CheckpointScan)
    (entry : PyString × PyValue) : Except PortabilityError CheckpointScan := do
  let verdict ← classify policy scan entry.2
  require (EntryAccepted entry verdict) .validationError
  return scan.gather entry verdict

/-- `entries_are_canonical_and_digest_matches`: names are sorted, unique and told apart. -/
def Canonical (scan : CheckpointScan) : Prop :=
  let valueNames := scan.values.map WorkspaceCheckpointValue.name
  let excludedNames := scan.exclusions.map WorkspaceCheckpointExclusion.name
  valueNames.Pairwise (· < ·) ∧ excludedNames.Pairwise (· < ·) ∧
    ∀ name ∈ valueNames, name ∉ excludedNames

instance : DecidablePred Canonical :=
  fun _ => inferInstanceAs (Decidable (_ ∧ _ ∧ _))

/-- `WorkspaceCheckpointManifest.issue`, reduced to what the manifest says of the variables. -/
def issue (scan : CheckpointScan) : Except PortabilityError CheckpointScan := do
  require (Canonical scan) .validationError
  return scan

/-- `checkpoint`: the values that a manifest can hold, and the variables it leaves out. -/
def checkpoint (policy : WorkspaceCheckpointPolicy) (space : Variables) :
    Except PortabilityError CheckpointScan := do
  let scan ← (userVariables (IsUserName ·) space.entries).foldlM (scanVariable policy) {}
  issue scan

/-- `restore`: a namespace with the values of a manifest. -/
def restore (manifest : CheckpointScan) : Except PortabilityError Variables := do
  -- The manifest is validated again before anything is taken from it.
  require (manifest.Accepted ∧ Canonical manifest) .validationError
  return manifest.values.foldl (fun space item => space.set item.name item.value.toPy) .empty

end Checkpoint

end Plain

mutual

/-- How deep a JSON value is nested. -/
def JsonValue.depth : JsonValue → Nat
  | .null | .bool _ | .int _ | .str _ => 0
  | .array items => itemsDepth items
  | .object entries => entriesDepth entries

/-- How deep an array of these items is nested. -/
def JsonValue.itemsDepth : List JsonValue → Nat
  | [] => 0
  | item :: rest => max (item.depth + 1) (itemsDepth rest)

/-- How deep an object with these entries is nested. -/
def JsonValue.entriesDepth : List (PyString × JsonValue) → Nat
  | [] => 0
  | (_, item) :: rest => max (item.depth + 1) (entriesDepth rest)

end

end Aar.Workspace
