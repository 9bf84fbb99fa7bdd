import Aar.Canonical
import Aar.Lib.Dictionary
import Aar.Lib.Table
import Aar.Schema.Documents
import Aar.Schema.States

/-! The deterministic workspace: states of JSON scalars, each mutation with its receipt. -/

namespace Aar.PublicWorkspace

open Guarded Table Utf8 StrictJson

section Values

/-- `JsonScalar`. -/
inductive JsonScalar where
  | none
  | bool (flag : Bool)
  | int (number : Int)
  | str (content : Text)
  deriving DecidableEq

/-- A scalar as JSON. -/
def JsonScalar.value : JsonScalar → Value
  | .none => .null
  | .bool flag => .bool flag
  | .int number => .int number
  | .str content => .str content

/-- The state of a workspace. -/
abbrev Values := Dictionary Text JsonScalar

/-- A state as JSON. -/
def Values.value (values : Values) : Value :=
  .obj (values.entries.map fun entry => (entry.1, entry.2.value))

/-- A state with its keys in order, as it is stored and read. -/
def Values.sorted (values : Values) : Values where
  entries := sortEntries values.entries
  distinct := sortEntries_keys.mpr values.distinct

/-- Keys in order are not moved. -/
theorem Values.sorted_sorted (values : Values) : values.sorted.sorted = values.sorted := by
  simp [Values.sorted]

/-- What the workspace and the tools over it raise. -/
inductive ToolError where
  | workspaceNotFound (workspace : OpaqueToken)
  | staleWorkspaceGeneration (stored expected : Nat)
  | workspaceRevisionConflict (stored expected : Nat)
  | workspaceSessionMismatch
  | workspaceError (message : String)
  | workspaceBindingDenied (message : String)
  | invalidWorkspaceMutation
  | incrementTarget
  | assertion
  | integerDigits
  | unicodeEncode (message : String)
  | validation (message : String)
  | quotaExceeded (message : String)
  | deadlineExpired
  | budgetDenied (message : String)
  | registry (error : Err)
  deriving DecidableEq

/-- The text of an error. -/
def ToolError.text : ToolError → String
  | .workspaceNotFound workspace => workspace.value
  | .staleWorkspaceGeneration stored expected =>
    s!"workspace generation is {stored}, not {expected}"
  | .workspaceRevisionConflict stored expected =>
    s!"workspace revision is {stored}, not {expected}"
  | .workspaceSessionMismatch => "workspace is bound to another session"
  | .invalidWorkspaceMutation | .incrementTarget => "increment target is not an integer"
  | .assertion => ""
  | .integerDigits => "Exceeds the limit (4300 digits) for integer string conversion; use " ++
      "sys.set_int_max_str_digits() to increase the limit"
  | .deadlineExpired => "request deadline has expired before acceptance"
  | .workspaceError message | .workspaceBindingDenied message | .unicodeEncode message
  | .validation message | .quotaExceeded message | .budgetDenied message => message
  | .registry (.keyError message) => "'" ++ message ++ "'"
  | .registry (.valueError message) | .registry (.integrityError message)
  | .registry (.registryError message) | .registry (.idempotencyConflict message)
  | .registry (.invalidTransition message) | .registry (.staleRuntimeGeneration message)
  | .registry (.staleAttemptFence message) | .registry (.callerWorkConflict message)
  | .registry (.callerWorkIdempotencyConflict message) | .registry (.staleTicketRevision message)
  | .registry (.invalidTicketTransition message) | .registry (.expiredCallerClaim message)
  | .registry (.rlmWorkbenchConflict message) | .registry (.rlmWorkbenchUnsupported message)
  | .registry (.rlmWorkbenchDeadlineExceeded message) => message

/-- The integers of a value have no more digits than the interpreter writes. -/
def Writable (value : Value) : Prop := ∀ number ∈ value.integers, number.natAbs < 10 ^ 4300

instance : DecidablePred Writable := fun _ => List.decidableBAll _ _

/-- `canonical_json_bytes` of a value, with the interpreter's limit on the digits of integers. -/
def canonicalBytes (value : Value) : Except ToolError (List UInt8) := do
  require (Writable value) .integerDigits
  match Canonical.canonicalJsonBytes (Canonical.ofJson value) with
  | .ok bytes => .ok bytes
  | .error _ => .error (.unicodeEncode "surrogates not allowed")

end Values

section Specifications

/-- What an update does. -/
inductive Action where
  | set
  | delete
  | increment
  deriving DecidableEq

/-- `WorkspaceExecuteSpec`. -/
structure WorkspaceExecuteSpec where
  workspace : OpaqueToken
  expectedGeneration : Nat
  expectedRevision : Nat
  action : Action
  key : Text
  value : JsonScalar
  deriving DecidableEq

/-- The largest counter and revision. -/
def maxCounter : Nat := 9223372036854775807

/-- A letter. -/
def Letter (point : Code) : Prop :=
  (0x41 ≤ point.val ∧ point.val ≤ 0x5a) ∨ (0x61 ≤ point.val ∧ point.val ≤ 0x7a)

instance : DecidablePred Letter := fun _ => inferInstanceAs (Decidable (_ ∨ _))

/-- A character of a key after its first one. -/
def KeyCharacter (point : Code) : Prop :=
  Letter point ∨ (0x30 ≤ point.val ∧ point.val ≤ 0x39) ∨ point.val ∈ [0x5f, 0x2e, 0x2d]

instance : DecidablePred KeyCharacter := fun _ => inferInstanceAs (Decidable (_ ∨ _))

/-- A key: a letter, and up to 63 more characters. -/
def ValidKey : Text → Prop
  | [] => False
  | first :: rest => Letter first ∧ rest.length ≤ 63 ∧ rest.all fun point => KeyCharacter point

instance : DecidablePred ValidKey
  | [] => inferInstanceAs (Decidable False)
  | _ :: _ => inferInstanceAs (Decidable (_ ∧ _))

/-- `action_value_is_coherent`: nothing is deleted with a value, and integers are added. -/
def ActionValueIsCoherent : Action → JsonScalar → Prop
  | .set, _ => True
  | .delete, value => value = .none
  | .increment, .int _ => True
  | .increment, _ => False

instance : ∀ action value, Decidable (ActionValueIsCoherent action value)
  | .set, _ => inferInstanceAs (Decidable True)
  | .delete, _ => inferInstanceAs (Decidable (_ = _))
  | .increment, .int _ => inferInstanceAs (Decidable True)
  | .increment, .none | .increment, .bool _ | .increment, .str _ =>
    inferInstanceAs (Decidable False)

/-- The strings of a scalar have no surrogates. -/
def JsonScalar.IsWhole : JsonScalar → Prop
  | .str content => Whole content
  | .none | .bool _ | .int _ => True

instance : DecidablePred JsonScalar.IsWhole
  | .str _ => inferInstanceAs (Decidable (Whole _))
  | .none | .bool _ | .int _ => inferInstanceAs (Decidable True)

/-- The model of a specification accepts it. -/
def WorkspaceExecuteSpec.Valid (spec : WorkspaceExecuteSpec) : Prop :=
  (1 ≤ spec.expectedGeneration ∧ spec.expectedGeneration ≤ maxCounter) ∧
    spec.expectedRevision ≤ maxCounter ∧ ValidKey spec.key ∧ spec.value.IsWhole ∧
      ActionValueIsCoherent spec.action spec.value

instance : DecidablePred WorkspaceExecuteSpec.Valid :=
  fun _ => inferInstanceAs (Decidable (_ ∧ _))

/-- `WorkspaceExecutionResult`. -/
structure WorkspaceExecutionResult where
  workspace : OpaqueToken
  generation : Nat
  revisionBefore : Nat
  revisionAfter : Nat
  action : Action
  key : Text
  previous : JsonScalar
  value : JsonScalar
  deriving DecidableEq

end Specifications

section Store

/-- A row of `workspaces`; the state is the one that `state_json` spells, its keys in order. -/
structure WorkspaceRow where
  workspace : OpaqueToken
  session : OpaqueToken
  generation : Nat
  revision : Nat
  state : Values
  ordered : state.sorted = state

/-- A row of `workspace_receipts`. -/
structure WorkspaceReceipt where
  operation : String
  workspace : OpaqueToken
  result : WorkspaceExecutionResult

/-- The workspace database of one tenant. -/
structure WorkspaceStore where
  workspaces : List WorkspaceRow
  receipts : List WorkspaceReceipt

/-- `_workspace_row`. -/
def WorkspaceStore.workspaceRow (store : WorkspaceStore) (workspace : OpaqueToken) :
    Except ToolError WorkspaceRow :=
  orRaise (fetchOne store.workspaces fun row => row.workspace = workspace)
    (.workspaceNotFound workspace)

/-- `_check_version`. -/
def checkVersion (row : WorkspaceRow) (generation revision : Nat) : Except ToolError Unit := do
  require (row.generation = generation) (.staleWorkspaceGeneration row.generation generation)
  require (row.revision = revision) (.workspaceRevisionConflict row.revision revision)

/-- `create`: a new workspace without values, or the stored one of the same session. -/
def WorkspaceStore.create (store : WorkspaceStore) (workspace session : OpaqueToken) :
    Except ToolError WorkspaceStore :=
  match fetchOne store.workspaces fun row => row.workspace = workspace with
  | none => .ok { store with
      workspaces := store.workspaces ++
        [{ workspace, session, generation := 1, revision := 0, state := .empty, ordered := rfl }] }
  | some row =>
    if row.session = session then .ok store
    else .error (.workspaceError "workspace is bound to another session")

/-- `assert_session`. -/
def WorkspaceStore.assertSession (store : WorkspaceStore) (workspace session : OpaqueToken) :
    Except ToolError Unit := do
  let row ← store.workspaceRow workspace
  require (row.session = session) .workspaceSessionMismatch

/-- `inspect`: the values of an exact revision. -/
def WorkspaceStore.inspect (store : WorkspaceStore) (workspace : OpaqueToken)
    (generation revision : Nat) : Except ToolError Values := do
  let row ← store.workspaceRow workspace
  checkVersion row generation revision
  return row.state.sorted

/-- `execute`, the mutation of the state. -/
def mutate (spec : WorkspaceExecuteSpec) (state : Values) : Except ToolError Values :=
  match spec.action with
  | .set => .ok (state.set spec.key spec.value)
  | .delete => .ok (state.pop spec.key)
  | .increment =>
    match (state.get spec.key).getD (.int 0) with
    | .int current =>
      match spec.value with
      | .int amount => .ok (state.set spec.key (.int (current + amount)))
      | .none | .bool _ | .str _ => .error .assertion
    | .none | .bool _ | .str _ => .error .invalidWorkspaceMutation

/-- What a mutation of a row returns. -/
def executionResult (spec : WorkspaceExecuteSpec) (row : WorkspaceRow) (state : Values) :
    WorkspaceExecutionResult where
  workspace := spec.workspace
  generation := row.generation
  revisionBefore := row.revision
  revisionAfter := row.revision + 1
  action := spec.action
  key := spec.key
  previous := (row.state.get spec.key).getD .none
  value := (state.get spec.key).getD .none

/-- A store in which one workspace has a new state, with the receipt of the operation. -/
def WorkspaceStore.written (store : WorkspaceStore) (operation : String)
    (workspace : OpaqueToken) (state : Values) (result : WorkspaceExecutionResult) :
    WorkspaceStore where
  workspaces := updateWhere store.workspaces (fun row => row.workspace = workspace) fun row =>
    { row with revision := result.revisionAfter, state := state.sorted
               ordered := state.sorted_sorted }
  receipts := store.receipts ++ [{ operation, workspace, result }]

/-- `execute`: the mutation of an exact revision and its receipt, or the result of the receipt. -/
def WorkspaceStore.execute (store : WorkspaceStore) (operation : String)
    (spec : WorkspaceExecuteSpec) (invalid : String) :
    Except ToolError (WorkspaceStore × WorkspaceExecutionResult) :=
  match fetchOne store.receipts fun receipt => receipt.operation = operation with
  | some receipt => .ok (store, receipt.result)
  | none => do
    let row ← store.workspaceRow spec.workspace
    checkVersion row spec.expectedGeneration spec.expectedRevision
    let state ← mutate spec row.state
    let result := executionResult spec row state
    require (result.revisionAfter ≤ maxCounter) (.validation invalid)
    let _ ← canonicalBytes state.value
    return (store.written operation spec.workspace state result, result)

end Store

end Aar.PublicWorkspace
