import Aar.Lib.Strings
import Aar.PublicWorkspace.Store
import Mathlib.Data.Option.Basic

/-! What an update is stored as while it is accepted: the canonical JSON of its specification. -/

namespace Aar.PublicWorkspace

open Utf8 StrictJson

section Writing

/-- The literal of an action. -/
def Action.literal : Action → String
  | .set => "set"
  | .delete => "delete"
  | .increment => "increment"

/-- A workspace reference as JSON. -/
def referenceValue (workspace : OpaqueToken) : Value :=
  .obj [(text "value", .str (text workspace.value)), (text "type", .str (text "workspace"))]

/-- The fields of a specification under their names. -/
def WorkspaceExecuteSpec.entries (spec : WorkspaceExecuteSpec) : List (Text × Value) :=
  [(text "workspace", referenceValue spec.workspace),
    (text "expected_generation", .int spec.expectedGeneration),
    (text "expected_revision", .int spec.expectedRevision),
    (text "action", .str (text spec.action.literal)),
    (text "key", .str spec.key),
    (text "value", spec.value.value)]

/-- The model dump of a specification. -/
def WorkspaceExecuteSpec.dump (spec : WorkspaceExecuteSpec) : Value := .obj spec.entries

/-- `payload_json`: the canonical bytes of a specification, decoded. -/
def payloadJson (spec : WorkspaceExecuteSpec) : String := string (write spec.dump.sorted)

end Writing

section Reading

/-- The value of a field. -/
def field (entries : List (Text × Value)) (name : String) : Option Value :=
  (entries.find? fun entry => entry.1 = text name).map Prod.snd

/-- The string that a value is. -/
def stringOf : Value → Option Text
  | .str content => some content
  | _ => none

/-- The counter that a value is. -/
def counterOf : Value → Option Nat
  | .int (.ofNat number) => some number
  | _ => none

/-- The scalar that a value is. -/
def scalarOf : Value → Option JsonScalar
  | .null => some .none
  | .bool flag => some (.bool flag)
  | .int number => some (.int number)
  | .str content => some (.str content)
  | .arr _ | .obj _ => none

/-- The action that a text is the literal of. -/
def actionOf (content : Text) : Option Action :=
  [Action.set, .delete, .increment].find? fun action => content = text action.literal

/-- No entry has a name other than those of the fields. -/
def OnlyFields (names : List String) (entries : List (Text × Value)) : Prop :=
  ∀ entry ∈ entries, entry.1 ∈ names.map text

instance (names : List String) : DecidablePred (OnlyFields names) :=
  fun _ => List.decidableBAll _ _

/-- The token that a string is. -/
def tokenOf (value : String) : Option OpaqueToken :=
  if matched : TokenPattern value then some ⟨value, matched⟩ else none

/-- The workspace reference that a value is. -/
def referenceOf : Value → Option OpaqueToken
  | .obj entries => do
    guard (OnlyFields ["value", "type"] entries)
    let kind ← stringOf ((field entries "type").getD (.str (text "workspace")))
    guard (kind = text "workspace")
    let content ← stringOf (← field entries "value")
    tokenOf (string content)
  | _ => none

/-- The specification that the fields of a document are, strictly. -/
def readFields : Value → Option WorkspaceExecuteSpec
  | .obj entries => do
    guard (OnlyFields ["workspace", "expected_generation", "expected_revision", "action", "key",
      "value"] entries)
    let workspace ← referenceOf (← field entries "workspace")
    let expectedGeneration ← counterOf (← field entries "expected_generation")
    let expectedRevision ← counterOf (← field entries "expected_revision")
    let literal ← stringOf (← field entries "action")
    let action ← actionOf literal
    let key ← stringOf (← field entries "key")
    let value ← scalarOf ((field entries "value").getD .null)
    let spec : WorkspaceExecuteSpec :=
      { workspace, expectedGeneration, expectedRevision, action, key, value }
    guard spec.Valid
    return spec
  | _ => none

/-- `model_validate_json` of a payload. -/
def readPayload (payload : String) : Option WorkspaceExecuteSpec := do
  let value ← Canonical.parse 2 (encodeAll (text payload))
  readFields value

end Reading

end Aar.PublicWorkspace
