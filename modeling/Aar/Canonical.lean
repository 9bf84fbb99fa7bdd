import Aar.Lib.JsonWriter

/-! Deterministic JSON encoding of Python values. -/

namespace Aar.Canonical

open Guarded Utf8 StrictJson

section Values

/-- A key of a mapping: a string, or a value of any other type. -/
inductive Key where
  | str (text : Text)
  | other

/-- A Python value as the encoder tells values apart. -/
inductive PyValue where
  | none
  | bool (flag : Bool)
  | int (number : Int)
  | str (text : Text)
  | float
  | sequence (items : List PyValue)
  | mapping (entries : List (Key × PyValue))
  | enum (value : PyValue)
  | model (dump : PyValue)
  | unsupported (typeName : String)

/-- What the encoder raises. -/
inductive CanonicalError where
  | type (message : String)
  | unicodeEncode
  deriving DecidableEq

/-- The string that a key is. -/
def Key.string : Key → Option Text
  | .str text => some text
  | .other => Option.none

mutual

/-- No mapping within a value has a string key twice. -/
def PyValue.Distinct : PyValue → Prop
  | .none | .bool _ | .int _ | .str _ | .float | .unsupported _ => True
  | .sequence items => DistinctItems items
  | .mapping entries => (entries.filterMap fun entry => entry.1.string).Nodup ∧
      DistinctEntries entries
  | .enum value => value.Distinct
  | .model dump => dump.Distinct

/-- No mapping within a sequence has a string key twice. -/
def DistinctItems : List PyValue → Prop
  | [] => True
  | item :: rest => item.Distinct ∧ DistinctItems rest

/-- No mapping within the values of a mapping has a string key twice. -/
def DistinctEntries : List (Key × PyValue) → Prop
  | [] => True
  | (_, item) :: rest => item.Distinct ∧ DistinctEntries rest

end

/-- A finite Python value whose mappings have every key once. -/
structure PyData where
  value : PyValue
  distinct : value.Distinct

end Values

section Encoding

/-- `normalized[key] = item`: the item under a key is added or replaced. -/
def assign (key : Text) (item : Value) : List (Text × Value) → List (Text × Value)
  | [] => [(key, item)]
  | (other, old) :: rest =>
    if other = key then (key, item) :: rest else (other, old) :: assign key item rest

mutual

/-- `_json_value`: the JSON value of a Python value. -/
def jsonValue : PyValue → Except CanonicalError Value
  | .model dump => jsonValue dump
  | .enum value => jsonValue value
  | .none => .ok .null
  | .bool flag => .ok (.bool flag)
  | .int number => .ok (.int number)
  | .str text => .ok (.str text)
  | .float => .error (.type "floating-point values are not allowed in canonical AAR JSON")
  | .mapping entries => do
    let normalized ← jsonEntries [] entries
    return .obj normalized
  | .sequence items => do
    let items ← jsonItems items
    return .arr items
  | .unsupported typeName =>
    .error (.type ("unsupported canonical AAR JSON value: " ++ typeName))

/-- The JSON values of the items of a sequence. -/
def jsonItems : List PyValue → Except CanonicalError (List Value)
  | [] => .ok []
  | item :: rest => do
    let item ← jsonValue item
    let rest ← jsonItems rest
    return item :: rest

/-- The entries of a mapping, added one by one to those before them. -/
def jsonEntries (normalized : List (Text × Value)) :
    List (Key × PyValue) → Except CanonicalError (List (Text × Value))
  | [] => .ok normalized
  | (.other, _) :: _ => .error (.type "canonical AAR JSON object keys must be strings")
  | (.str key, item) :: rest => do
    let item ← jsonValue item
    jsonEntries (assign key item normalized) rest

end

/-- `canonical_json_bytes`: the bytes of a value, its keys in order. -/
def canonicalJsonBytes (data : PyValue) : Except CanonicalError (List UInt8) := do
  let normalized ← jsonValue data
  orRaise (encode (write normalized.sorted)) .unicodeEncode

/-- `canonical_sha256`: the digest of a value's bytes. -/
def canonicalSha256 {digest : Type} (sha256 : List UInt8 → digest) (data : PyValue) :
    Except CanonicalError digest := do
  let bytes ← canonicalJsonBytes data
  return sha256 bytes

/-- The strict JSON value of bytes, if arrays and objects are nested no deeper than that. -/
def parse (depth : Nat) (bytes : List UInt8) : Option Value := do
  let input ← decode bytes
  (loads (valueHooks fun _ => True) depth input).toOption

mutual

/-- A JSON value as the Python value that `json.loads` makes of it. -/
def ofJson : Value → PyValue
  | .null => .none
  | .bool flag => .bool flag
  | .int number => .int number
  | .str text => .str text
  | .arr items => .sequence (ofItems items)
  | .obj entries => .mapping (ofEntries entries)

/-- The items of an array as those of a list. -/
def ofItems : List Value → List PyValue
  | [] => []
  | item :: rest => ofJson item :: ofItems rest

/-- The entries of an object as those of a dictionary. -/
def ofEntries : List (Text × Value) → List (Key × PyValue)
  | [] => []
  | (key, item) :: rest => (.str key, ofJson item) :: ofEntries rest

end

end Encoding

section Meaning

mutual

/-- A Python value is a JSON value: models and enumeration members are what they stand for, and
sequences are arrays. -/
def PyValue.Is : PyValue → Value → Prop
  | .none, .null => True
  | .bool left, .bool right => left = right
  | .int left, .int right => left = right
  | .str left, .str right => left = right
  | .sequence left, .arr right => IsItems left right
  | .mapping left, .obj right => IsEntries left right
  | .enum value, right => value.Is right
  | .model dump, right => dump.Is right
  | _, _ => False

/-- A sequence is an array item by item. -/
def IsItems : List PyValue → List Value → Prop
  | [], [] => True
  | left :: leftRest, right :: rightRest => left.Is right ∧ IsItems leftRest rightRest
  | _, _ => False

/-- A mapping is an object entry by entry. -/
def IsEntries : List (Key × PyValue) → List (Text × Value) → Prop
  | [], [] => True
  | (key, left) :: leftRest, (name, right) :: rightRest =>
    key = .str name ∧ left.Is right ∧ IsEntries leftRest rightRest
  | _, _ => False

end

/-- Something that has no canonical JSON occurs in a value: a float, a key that is no string, a
value of another type, or a string with a surrogate. -/
inductive PyValue.Offends : PyValue → Prop where
  | float : Offends .float
  | unsupported {typeName : String} : Offends (.unsupported typeName)
  | surrogate {text : Text} (broken : ¬ Whole text) : Offends (.str text)
  | item {item : PyValue} {items : List PyValue} (member : item ∈ items)
      (offends : Offends item) : Offends (.sequence items)
  | key {item : PyValue} {entries : List (Key × PyValue)} (member : (.other, item) ∈ entries) :
      Offends (.mapping entries)
  | keySurrogate {text : Text} {item : PyValue} {entries : List (Key × PyValue)}
      (member : (.str text, item) ∈ entries) (broken : ¬ Whole text) : Offends (.mapping entries)
  | value {key : Key} {item : PyValue} {entries : List (Key × PyValue)}
      (member : (key, item) ∈ entries) (offends : Offends item) : Offends (.mapping entries)
  | enum {value : PyValue} (offends : Offends value) : Offends (.enum value)
  | model {dump : PyValue} (offends : Offends dump) : Offends (.model dump)

end Meaning

end Aar.Canonical
