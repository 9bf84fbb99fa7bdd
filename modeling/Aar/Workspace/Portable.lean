import Mathlib.Data.List.Lex
import Aar.Lib.Guarded
import Mathlib.Algebra.Ring.Int.Defs
import Mathlib.Algebra.Ring.Nat

/-! What a workspace worker can carry from its namespace into a checkpoint, and back. -/

namespace Aar.Workspace

open Guarded

section Values

/-- A Python string as its code points, lone surrogates included. -/
abbrev PyString := List Nat

instance : LawfulBEq PyString := inferInstance

/-- A text as a Python string. -/
def pyString (text : String) : PyString :=
  text.toList.map Char.toNat

/-- A string has a UTF-8 encoding: no code point of it is a lone surrogate. -/
def Encodable (text : PyString) : Prop :=
  ∀ code ∈ text, ¬ (0xd800 ≤ code ∧ code ≤ 0xdfff)

instance : DecidablePred Encodable :=
  fun _ => inferInstanceAs (Decidable (∀ _ ∈ _, _))

/-- A value that JSON can hold, an object being listed in the order of its keys. -/
inductive JsonValue where
  | null
  | bool (value : Bool)
  | int (value : Int)
  | str (value : PyString)
  | array (items : List JsonValue)
  | object (entries : List (PyString × JsonValue))

/-- A Python value, a dictionary with string keys being listed in the order of its keys. -/
inductive PyValue where
  | none
  | bool (value : Bool)
  | int (value : Int)
  | str (value : PyString)
  | list (items : List PyValue)
  | dict (entries : List (PyString × PyValue))
  | mixedKeys
  | cyclic (typeName : String)
  | float
  | object (typeName : String)

/-- The name of a value's type, `type(value).__name__`. -/
def PyValue.typeName : PyValue → String
  | .none => "NoneType"
  | .bool _ => "bool"
  | .int _ => "int"
  | .str _ => "str"
  | .list _ => "list"
  | .dict _ | .mixedKeys => "dict"
  | .cyclic typeName | .object typeName => typeName
  | .float => "float"

mutual

/-- The Python value that reading a JSON text builds. -/
def JsonValue.toPy : JsonValue → PyValue
  | .null => .none
  | .bool value => .bool value
  | .int value => .int value
  | .str value => .str value
  | .array items => .list (toPyItems items)
  | .object entries => .dict (toPyEntries entries)

/-- The Python values of an array's items. -/
def JsonValue.toPyItems : List JsonValue → List PyValue
  | [] => []
  | item :: rest => item.toPy :: toPyItems rest

/-- The Python values of an object's entries. -/
def JsonValue.toPyEntries : List (PyString × JsonValue) → List (PyString × PyValue)
  | [] => []
  | (key, item) :: rest => (key, item.toPy) :: toPyEntries rest

end

mutual

/-- Whether two JSON values are equal. -/
def JsonValue.decEq : (left right : JsonValue) → Decidable (left = right)
  | .null, .null => .isTrue rfl
  | .bool left, .bool right => decidable_of_iff (left = right) (by simp)
  | .int left, .int right => decidable_of_iff (left = right) (by simp)
  | .str left, .str right => decidable_of_iff (left = right) (by simp)
  | .array left, .array right =>
    have := decEqItems left right
    decidable_of_iff (left = right) (by simp)
  | .object left, .object right =>
    have := decEqEntries left right
    decidable_of_iff (left = right) (by simp)
  | .null, .bool _ | .null, .int _ | .null, .str _ | .null, .array _ | .null, .object _
  | .bool _, .null | .bool _, .int _ | .bool _, .str _ | .bool _, .array _ | .bool _, .object _
  | .int _, .null | .int _, .bool _ | .int _, .str _ | .int _, .array _ | .int _, .object _
  | .str _, .null | .str _, .bool _ | .str _, .int _ | .str _, .array _ | .str _, .object _
  | .array _, .null | .array _, .bool _ | .array _, .int _ | .array _, .str _
  | .array _, .object _
  | .object _, .null | .object _, .bool _ | .object _, .int _ | .object _, .str _
  | .object _, .array _ => .isFalse nofun

/-- Whether two arrays hold equal items. -/
def JsonValue.decEqItems : (left right : List JsonValue) → Decidable (left = right)
  | [], [] => .isTrue rfl
  | [], _ :: _ | _ :: _, [] => .isFalse nofun
  | left :: leftRest, right :: rightRest =>
    have := left.decEq right
    have := decEqItems leftRest rightRest
    decidable_of_iff (left = right ∧ leftRest = rightRest) (by simp)

/-- Whether two objects hold equal entries. -/
def JsonValue.decEqEntries : (left right : List (PyString × JsonValue)) → Decidable (left = right)
  | [], [] => .isTrue rfl
  | [], _ :: _ | _ :: _, [] => .isFalse nofun
  | (leftKey, left) :: leftRest, (rightKey, right) :: rightRest =>
    have := left.decEq right
    have := decEqEntries leftRest rightRest
    decidable_of_iff ((leftKey = rightKey ∧ left = right) ∧ leftRest = rightRest) (by simp)

end

instance : DecidableEq JsonValue := JsonValue.decEq

end Values

section Conversion

/-- An integer fits in 64 signed bits. -/
def Signed64 (value : Int) : Prop :=
  -2 ^ 63 ≤ value ∧ value ≤ 2 ^ 63 - 1

instance : DecidablePred Signed64 :=
  fun _ => inferInstanceAs (Decidable (_ ∧ _))

mutual

/-- `_portable_value.convert`: the JSON value of a Python value, and the items still allowed. -/
def convert (maxDepth depth remaining : Nat) (value : PyValue) :
    Except String (JsonValue × Nat) := do
  require (depth ≤ maxDepth) "portable value depth limit exceeded"
  match value with
  | .none => return (.null, remaining)
  | .bool value => return (.bool value, remaining)
  | .str value => return (.str value, remaining)
  | .int value =>
    require (Signed64 value) "integer is outside signed 64-bit range"
    return (.int value, remaining)
  | .float => .error "floating-point values are not portable"
  | .cyclic _ => .error "cyclic values are not portable"
  | .list items =>
    require (items.length ≤ remaining) "portable collection item limit exceeded"
    let (converted, left) ← convertItems maxDepth (depth + 1) (remaining - items.length) items
    return (.array converted, left)
  | .mixedKeys => .error "portable mappings require string keys"
  | .dict entries =>
    require (entries.length ≤ remaining) "portable collection item limit exceeded"
    let (converted, left) ←
      convertEntries maxDepth (depth + 1) (remaining - entries.length) entries
    return (.object converted, left)
  | .object typeName => .error ("unsupported portable value type: " ++ typeName)

/-- The JSON values of a list's items, in order. -/
def convertItems (maxDepth depth remaining : Nat) :
    List PyValue → Except String (List JsonValue × Nat)
  | [] => return ([], remaining)
  | item :: rest => do
    let (first, left) ← convert maxDepth depth remaining item
    let (others, left) ← convertItems maxDepth depth left rest
    return (first :: others, left)

/-- The JSON values of a dictionary's entries, in the order of its keys. -/
def convertEntries (maxDepth depth remaining : Nat) :
    List (PyString × PyValue) → Except String (List (PyString × JsonValue) × Nat)
  | [] => return ([], remaining)
  | (key, item) :: rest => do
    let (first, left) ← convert maxDepth depth remaining item
    let (others, left) ← convertEntries maxDepth depth left rest
    return ((key, first) :: others, left)

end

mutual

/-- Every string and key of a JSON value has a UTF-8 encoding. -/
def JsonValue.encodable : JsonValue → Bool
  | .null | .bool _ | .int _ => true
  | .str value => Encodable value
  | .array items => encodableItems items
  | .object entries => encodableEntries entries

/-- Every string in an array's items has a UTF-8 encoding. -/
def JsonValue.encodableItems : List JsonValue → Bool
  | [] => true
  | item :: rest => item.encodable && encodableItems rest

/-- Every string and key in an object's entries has a UTF-8 encoding. -/
def JsonValue.encodableEntries : List (PyString × JsonValue) → Bool
  | [] => true
  | (key, item) :: rest => decide (Encodable key) && item.encodable && encodableEntries rest

end

/-- The bytes of one code point in UTF-8. -/
def utf8Length (code : Nat) : Nat :=
  if code < 0x80 then 1 else if code < 0x800 then 2 else if code < 0x10000 then 3 else 4

/-- The bytes one code point takes in a JSON string. -/
def escapedLength (code : Nat) : Nat :=
  -- Quote, backslash, and the five controls with a short escape take two characters.
  if code ∈ [0x22, 0x5c, 0x08, 0x09, 0x0a, 0x0c, 0x0d] then 2
  else if code < 0x20 then 6
  else utf8Length code

/-- The bytes of a JSON string, its quotes included. -/
def stringLength (text : PyString) : Nat :=
  2 + (text.map escapedLength).sum

mutual

/-- The length of `canonical_json_bytes`. -/
def canonicalLength : JsonValue → Nat
  | .null => 4
  | .bool value => if value then 4 else 5
  | .int value => (toString value).length
  | .str value => stringLength value
  | .array items => 2 + (items.length - 1) + itemsLength items
  | .object entries => 2 + (entries.length - 1) + entriesLength entries

/-- The bytes of an array's items, without its commas. -/
def itemsLength : List JsonValue → Nat
  | [] => 0
  | item :: rest => canonicalLength item + itemsLength rest

/-- The bytes of an object's entries, without its commas. -/
def entriesLength : List (PyString × JsonValue) → Nat
  | [] => 0
  | (key, item) :: rest => stringLength key + 1 + canonicalLength item + entriesLength rest

end

/-- What reading a namespace raises. -/
inductive PortabilityError where
  | portableValueError (reason : String)
  | unicodeEncodeError
  | validationError
  deriving DecidableEq

/-- `_portable_value`: the JSON value of a Python value within the given limits. -/
def portableValue (maxDepth maxCollectionItems : Nat) (value : PyValue) :
    Except PortabilityError JsonValue :=
  match convert maxDepth 0 maxCollectionItems value with
  | .error reason => .error (.portableValueError reason)
  | .ok (portable, _) => do
    -- The canonical bytes are computed for the value that was converted, and dropped.
    require (portable.encodable = true) PortabilityError.unicodeEncodeError
    return portable

/-- A value is not excluded but makes the conversion fail: its text has no UTF-8 encoding. -/
def CannotEncode (maxDepth maxCollectionItems : Nat) (value : PyValue) : Prop :=
  portableValue maxDepth maxCollectionItems value = .error .unicodeEncodeError

instance (maxDepth maxCollectionItems : Nat) :
    DecidablePred (CannotEncode maxDepth maxCollectionItems) := fun value =>
  match found : portableValue maxDepth maxCollectionItems value with
  | .error .unicodeEncodeError => .isTrue found
  | .error (.portableValueError _) | .error .validationError | .ok _ =>
    .isFalse (by simp [CannotEncode, found])

end Conversion

section Checkpoint

/-- The variables of a worker, each under a name of its own. -/
abbrev Namespace := List (PyString × PyValue)

/-- The limits of one checkpoint, within the ranges the request model accepts. -/
structure WorkspaceCheckpointPolicy where
  maxValues : Nat := 256
  maxBytes : Nat := 1048576
  maxDepth : Nat := 12
  maxCollectionItems : Nat := 4096
  maxValues_range : 1 ≤ maxValues ∧ maxValues ≤ 1024 := by decide
  maxBytes_range : 1024 ≤ maxBytes ∧ maxBytes ≤ 16777216 := by decide
  maxDepth_range : 1 ≤ maxDepth ∧ maxDepth ≤ 32 := by decide
  maxCollectionItems_range : 1 ≤ maxCollectionItems ∧ maxCollectionItems ≤ 65536 := by decide

/-- The largest limits a checkpoint can be asked for, used to verify a restored worker. -/
def verificationPolicy : WorkspaceCheckpointPolicy where
  maxValues := 1024
  maxBytes := 16777216
  maxDepth := 32
  maxCollectionItems := 65536

/-- A variable that a checkpoint holds. -/
structure WorkspaceCheckpointValue where
  name : PyString
  value : JsonValue
  deriving DecidableEq

/-- A variable that a checkpoint had to leave out. -/
structure WorkspaceCheckpointExclusion where
  name : PyString
  typeName : String
  reason : String
  deriving DecidableEq

/-- The pattern that the names of a manifest have to match. -/
def ValidName (name : PyString) : Prop :=
  let letter (code : Nat) := (0x41 ≤ code ∧ code ≤ 0x5a) ∨ (0x61 ≤ code ∧ code ≤ 0x7a) ∨ code = 0x5f
  let word (code : Nat) := letter code ∨ (0x30 ≤ code ∧ code ≤ 0x39)
  name.length ≤ 128 ∧ (∃ first ∈ name.head?, letter first) ∧ ∀ code ∈ name, word code

instance (name : PyString) : Decidable (ValidName name) := by
  unfold ValidName
  infer_instance

/-- What a checkpoint has gathered from the variables read so far. -/
structure CheckpointScan where
  values : List WorkspaceCheckpointValue := []
  exclusions : List WorkspaceCheckpointExclusion := []
  consumedBytes : Nat := 0
  deriving DecidableEq

/-- The names that both backends reserve for their own functions. -/
def reservedNames : List PyString :=
  [pyString "aar_artifact", pyString "aar_display", pyString "aar_progress"]

/-- `_is_user_name` of the plain backend: a name that is the program's own. -/
def IsUserName (name : PyString) : Prop :=
  ¬ pyString "__" <+: name ∧ name ∉ reservedNames ∧ name ≠ pyString "_"

instance : DecidablePred IsUserName :=
  fun _ => inferInstanceAs (Decidable (_ ∧ _))

/-- What the interpreter fixes: the names it starts with, and Unicode's decimal digits. -/
structure Interpreter where
  baseline : List PyString
  decimal : Nat → Bool

/-- The interpreter's history names: an underscore before digits, or before `i` and digits. -/
def Interpreter.HistoryName (interpreter : Interpreter) (name : PyString) : Prop :=
  match name with
  | 0x5f :: 0x69 :: digits => digits.all interpreter.decimal
  | 0x5f :: digits => digits ≠ [] ∧ digits.all interpreter.decimal
  | _ => False

instance (interpreter : Interpreter) : DecidablePred interpreter.HistoryName := fun name => by
  unfold Interpreter.HistoryName
  split <;> infer_instance

/-- `_is_user_name` of the worker: a name that is neither the interpreter's nor its history's. -/
def Interpreter.IsUserName (interpreter : Interpreter) (name : PyString) : Prop :=
  name ∉ interpreter.baseline ∧ Workspace.IsUserName name ∧ ¬ interpreter.HistoryName name ∧
    name ∉ [pyString "__", pyString "___"]

instance (interpreter : Interpreter) : DecidablePred interpreter.IsUserName :=
  fun _ => inferInstanceAs (Decidable (_ ∧ _))

/-- `_exclusion`: record that a variable is left out, within the lengths of the model. -/
def exclusion (name : PyString) (value : PyValue) (reason : String) :
    WorkspaceCheckpointExclusion where
  name := name
  typeName := String.ofList (value.typeName.toList.take 128)
  reason := String.ofList (reason.toList.take 256)

/-- What becomes of one variable of a namespace. -/
inductive Verdict where
  | held (value : JsonValue)
  | excluded (reason : String)

/-- `checkpoint`, body of the loop: hold one variable, or say why it is left out. -/
def classify (policy : WorkspaceCheckpointPolicy) (scan : CheckpointScan) (value : PyValue) :
    Except PortabilityError Verdict :=
  if policy.maxValues ≤ scan.values.length then .ok (.excluded "checkpoint value limit exceeded")
  else
    match portableValue policy.maxDepth policy.maxCollectionItems value with
    | .error (.portableValueError reason) => .ok (.excluded reason)
    | .error error => .error error
    | .ok portable =>
      if policy.maxBytes < scan.consumedBytes + canonicalLength portable then
        .ok (.excluded "checkpoint byte limit exceeded")
      else .ok (.held portable)

/-- Gather what became of one variable. -/
def CheckpointScan.gather (scan : CheckpointScan) (entry : PyString × PyValue) :
    Verdict → CheckpointScan
  | .held portable =>
    { scan with
      values := scan.values ++ [⟨entry.1, portable⟩]
      consumedBytes := scan.consumedBytes + canonicalLength portable }
  | .excluded reason =>
    { scan with exclusions := scan.exclusions ++ [exclusion entry.1 entry.2 reason] }

/-- `checkpoint` of the worker, body of the loop. -/
def scanVariable (policy : WorkspaceCheckpointPolicy) (scan : CheckpointScan)
    (entry : PyString × PyValue) : Except PortabilityError CheckpointScan := do
  let verdict ← classify policy scan entry.2
  return scan.gather entry verdict

/-- The program's own variables in the order of their names. -/
def userVariables (own : PyString → Bool) (space : Namespace) : Namespace :=
  (space.mergeSort fun left right => left.1 ≤ right.1).filter fun entry => own entry.1

/-- `checkpoint` of the worker: the values it can carry, and the variables it has to leave out. -/
def checkpoint (interpreter : Interpreter) (policy : WorkspaceCheckpointPolicy)
    (space : Namespace) : Except PortabilityError CheckpointScan :=
  (userVariables (interpreter.IsUserName ·) space).foldlM (scanVariable policy) {}

/-- The values and exclusions that the manifest models accept. -/
def CheckpointScan.Accepted (scan : CheckpointScan) : Prop :=
  (∀ item ∈ scan.values, ValidName item.name) ∧
    ∀ item ∈ scan.exclusions, ValidName item.name ∧ item.typeName ≠ ""

instance : DecidablePred CheckpointScan.Accepted :=
  fun _ => inferInstanceAs (Decidable (_ ∧ _))

/-- Bind one name, replacing what it was bound to. -/
def assign (space : Namespace) (item : WorkspaceCheckpointValue) : Namespace :=
  space.filter (·.1 ≠ item.name) ++ [(item.name, item.value.toPy)]

/-- `restore` of the worker: forget the program's variables and bind the values. -/
def restore (interpreter : Interpreter) (values : List WorkspaceCheckpointValue)
    (space : Namespace) : Namespace :=
  values.foldl assign (space.filter fun entry => ¬ interpreter.IsUserName entry.1)

end Checkpoint

end Aar.Workspace
