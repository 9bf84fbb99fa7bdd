import Aar.SchemaProfile.Pattern
import Aar.Workspace.Portable

/-! Schema documents of the bounded profile, and the checks that admit them. -/

namespace Aar.SchemaProfile

open Guarded
open Workspace (PyString pyString Encodable)

section Documents

/-- A JSON value as Python reads it, an object being listed in the order of its keys. -/
inductive Json where
  | null
  | bool (value : Bool)
  | int (value : Int)
  | float (value : Rat)
  | str (value : PyString)
  | arr (items : List Json)
  | obj (entries : List (PyString × Json))

/-- The keys of an object with what they hold. -/
abbrev Entries := List (PyString × Json)

/-- A dictionary whose keys need not be texts. -/
abbrev Dict := List (Json × Json)

/-- What an object holds under a key. -/
def lookup (key : PyString) : Entries → Option Json
  | [] => none
  | (name, child) :: rest => if name = key then some child else lookup key rest

/-- `node.get(keyword)`, where a key that is missing and one that holds null are told apart. -/
def get (keyword : String) (entries : Entries) : Option Json := lookup (pyString keyword) entries

/-- How Python writes values into messages, and what ordering keys of unlike types raises. -/
structure Rendering where
  repr : Json → String
  sortedKeys : List Json → String
  unordered : List Json → String

/-- The text of a Python string without lone surrogates. -/
def plainText (text : PyString) : String := String.ofList (text.map Char.ofNat)

end Documents

section Conversion

/-- `type(value).__name__`. -/
def typeName : Json → String
  | .null => "NoneType"
  | .bool _ => "bool"
  | .int _ => "int"
  | .float _ => "float"
  | .str _ => "str"
  | .arr _ => "list"
  | .obj _ => "dict"

/-- What iterating over a value yields, if it can be iterated over. -/
def elements : Json → Option (List Json)
  | .str text => some (text.map fun code => .str [code])
  | .arr items => some items
  | .obj entries => some (entries.map fun entry => .str entry.1)
  | _ => none

/-- The number a value compares as, if it is one. -/
def number : Json → Option Rat
  | .bool value => some (if value then 1 else 0)
  | .int value => some value
  | .float value => some value
  | _ => none

/-- Two values are one key of a dictionary. -/
def sameKey : Json → Json → Bool
  | .null, .null => true
  | .str left, .str right => left = right
  | left, right => (number left).isSome && number left = number right

/-- Store a value under a key, in the place of the equal key if there is one. -/
def store (key value : Json) : Dict → Dict
  | [] => [(key, value)]
  | (name, stored) :: rest =>
    if sameKey name key then (name, value) :: rest else (name, stored) :: store key value rest

/-- The key and the value of one element of a sequence of pairs. -/
def pairOf (index : Nat) (item : Json) : Except ProfileError (Json × Json) :=
  match elements item with
  | none => .error (.typeError
      s!"cannot convert dictionary update sequence element #{index} to a sequence")
  | some [.arr _, _] => .error (.typeError "unhashable type: 'list'")
  | some [.obj _, _] => .error (.typeError "unhashable type: 'dict'")
  | some [key, value] => .ok (key, value)
  | some parts => .error (.valueError
      (s!"dictionary update sequence element #{index} has length " ++
        s!"{parts.length}; 2 is required"))

/-- The dictionary that a sequence of pairs extends another one to. -/
def dictFrom (index : Nat) (dict : Dict) : List Json → Except ProfileError Dict
  | [] => .ok dict
  | item :: rest => do
    let (key, value) ← pairOf index item
    dictFrom (index + 1) (store key value dict) rest

/-- `dict(schema)`. -/
def dictOf (schema : Json) : Except ProfileError Dict :=
  match schema with
  | .obj entries => .ok (entries.map fun entry => (.str entry.1, entry.2))
  | other =>
    match elements other with
    | none => .error (.typeError s!"'{typeName other}' object is not iterable")
    | some items => dictFrom 0 [] items

/-- The entries of a dictionary under texts. -/
def textEntries (dict : Dict) : Entries :=
  dict.filterMap fun entry =>
    match entry.1 with
    | .str text => some (text, entry.2)
    | _ => none

end Conversion

section Trees

/-- The bounds of a JSON tree. -/
structure TreeLimits where
  maxDepth : Nat
  maxNodes : Nat

variable (limits : TreeLimits)

/-- Count one node, raising when there are too many or it lies too deep. -/
def enter (depth count : Nat) : Except ProfileError Nat := do
  require (count + 1 ≤ limits.maxNodes)
    (.valueError s!"JSON node limit exceeded: {limits.maxNodes}")
  require (depth ≤ limits.maxDepth)
    (.valueError s!"JSON depth limit exceeded: {limits.maxDepth}")
  return count + 1

/-- Visit a text. -/
def visitText (depth : Nat) (text : PyString) (count : Nat) : Except ProfileError Nat := do
  let count ← enter limits depth count
  require (Encodable text) (.valueError "JSON string contains a lone surrogate")
  return count

mutual

/-- `visit`: a value and everything below it, with the number of nodes so far. -/
def visit (depth : Nat) (count : Nat) : Json → Except ProfileError Nat
  | .str text => visitText limits depth text count
  | .arr items => do
    let count ← enter limits depth count
    visitItems (depth + 1) count items
  | .obj entries => do
    let count ← enter limits depth count
    visitEntries (depth + 1) count entries
  | _ => enter limits depth count

/-- The items of a list. -/
def visitItems (depth : Nat) (count : Nat) : List Json → Except ProfileError Nat
  | [] => .ok count
  | item :: rest => do
    let count ← visit depth count item
    visitItems depth count rest

/-- The keys and values of an object. -/
def visitEntries (depth : Nat) (count : Nat) : List (PyString × Json) → Except ProfileError Nat
  | [] => .ok count
  | (key, child) :: rest => do
    let count ← visitText limits depth key count
    let count ← visit depth count child
    visitEntries depth count rest

end

/-- The keys and values of a dictionary whose keys need not be texts. -/
def visitDict (depth : Nat) (count : Nat) : Dict → Except ProfileError Nat
  | [] => .ok count
  | (key, child) :: rest => do
    let count ← visit limits depth count key
    let count ← visit limits depth count child
    visitDict depth count rest

/-- `_check_json_tree`, on a list. -/
def checkItemsTree (items : List Json) : Except ProfileError Unit := do
  let _ ← visit limits 0 0 (.arr items)
  return ()

/-- `_check_json_tree`, on the dictionary of a document. -/
def checkDictTree (dict : Dict) : Except ProfileError Unit := do
  let count ← enter limits 0 0
  let _ ← visitDict limits 1 count dict
  return ()

end Trees

section Checks

/-- One check of a document: it passes or raises. -/
abbrev Check := Except ProfileError Unit

/-- Make checks in order until one of them raises. -/
def runChecks (checks : List Check) : Check := checks.forM id

/-- `ALLOWED_SCHEMA_KEYWORDS`. -/
def allowedSchemaKeywords : List String :=
  ["$schema", "$defs", "$ref", "type", "properties", "required", "additionalProperties", "items",
    "minItems", "maxItems", "minLength", "maxLength", "minimum", "maximum", "pattern", "enum",
    "const", "oneOf", "allOf", "if", "then", "else", "not", "minProperties", "maxProperties",
    "propertyNames", "title", "description"]

/-- The types a schema may name. -/
def schemaTypes : List String :=
  ["object", "array", "string", "integer", "number", "boolean", "null"]

variable (rendering : Rendering) (rootDefs : Entries)

/-- The keywords of a node are those of the profile. -/
def checkKeywords (entries : Entries) : Check :=
  let unknown := (entries.map Prod.fst).filter (· ∉ allowedSchemaKeywords.map pyString)
  require (unknown = []) (.valueError
    ("schema keywords forbidden: " ++ rendering.sortedKeys (unknown.map Json.str)))

/-- The definition that a reference names, when it has the form of a local one. -/
def refTarget (ref : PyString) : Option PyString :=
  if pyString "#/$defs/" <+: ref then some (ref.drop (pyString "#/$defs/").length) else none

/-- A reference is local and names a definition of the root. -/
def checkRef (entries : Entries) : Check :=
  match get "$ref" entries with
  | none | some .null => .ok ()
  | some (.str ref) =>
    match refTarget ref with
    | none => .error (.valueError ("schema ref forbidden: " ++ rendering.repr (.str ref)))
    | some target => require ('/'.toNat ∉ target ∧ (lookup target rootDefs).isSome)
        (.valueError ("schema local ref unresolved: " ++ plainText ref))
  | some other => .error (.valueError ("schema ref forbidden: " ++ rendering.repr other))

/-- A type is one of the seven; the membership test hashes it first. -/
def checkType (entries : Entries) : Check :=
  match get "type" entries with
  | none | some .null => .ok ()
  | some (.str name) =>
    require (name ∈ schemaTypes.map pyString) (.valueError "schema type invalid")
  | some (.arr _) => .error (.typeError "unhashable type: 'list'")
  | some (.obj _) => .error (.typeError "unhashable type: 'dict'")
  | some _ => .error (.valueError "schema type invalid")

/-- The texts of a list, if it holds only texts. -/
def textsOf (items : List Json) : Option (List PyString) :=
  items.mapM fun item =>
    match item with
    | .str text => some text
    | _ => none

/-- A list of required names is ascending without repetitions. -/
def checkRequired (entries : Entries) : Check :=
  let invalid : ProfileError := .valueError "schema required list must be sorted and unique"
  match get "required" entries with
  | none | some .null => .ok ()
  | some (.arr items) =>
    match textsOf items with
    | some names => require (names.Pairwise (· < ·) ∧ names.length ≤ 256) invalid
    | none => .error invalid
  | some _ => .error invalid

/-- A pattern is a portable one. -/
def checkPattern (entries : Entries) : Check :=
  match get "pattern" entries with
  | none | some .null => .ok ()
  | some (.str pattern) => do
    require (pattern.length ≤ maxPatternLength) (.valueError "schema pattern invalid")
    require (∀ code ∈ pattern, code < 128) (.valueError "schema pattern must be ASCII")
    validatePortablePattern (plainText pattern)
  | some _ => .error (.valueError "schema pattern invalid")

/-- An enumeration is a small list of small values. -/
def checkEnum (entries : Entries) : Check :=
  match get "enum" entries with
  | none | some .null => .ok ()
  | some (.arr values) => do
    require (1 ≤ values.length ∧ values.length ≤ 128) (.valueError "schema enum invalid")
    checkItemsTree { maxDepth := 4, maxNodes := 512 } values
  | some _ => .error (.valueError "schema enum invalid")

/-- A count is an integer within its bound. -/
def checkCount (entries : Entries) (keyword : String) : Check :=
  match get keyword entries with
  | none => .ok ()
  | some (.int value) =>
    require (0 ≤ value ∧ value ≤ 1048576) (.valueError s!"schema {keyword} invalid")
  | some _ => .error (.valueError s!"schema {keyword} invalid")

/-- A bound is a number. -/
def checkBound (entries : Entries) (keyword : String) : Check :=
  match get keyword entries with
  | none | some (.int _) | some (.float _) => .ok ()
  | some _ => .error (.valueError s!"schema {keyword} invalid")

/-- A keyword whose children stand under names: its texts, and which names it takes. -/
structure NamedKeyword where
  keyword : String
  invalid : String
  nameInvalid : String
  Names : PyString → Bool

/-- `properties`. -/
def propertiesKeyword : NamedKeyword :=
  { keyword := "properties", invalid := "schema properties invalid"
    nameInvalid := "schema property name invalid"
    Names := fun name => 0 < name.length && name.length ≤ 128 }

/-- A code point of a letter of the ASCII alphabet. -/
def asciiLetter (code : Nat) : Bool := (65 ≤ code && code ≤ 90) || (97 ≤ code && code ≤ 122)

/-- `[A-Za-z_][A-Za-z0-9_.-]{0,127}`, matching all of a name. -/
def definitionName : PyString → Bool
  | [] => false
  | first :: rest => (asciiLetter first || first = 95) && rest.length ≤ 127 &&
    rest.all fun code =>
      asciiLetter code || (48 ≤ code && code ≤ 57) || code = 95 || code = 46 || code = 45

/-- `$defs`. -/
def definitionsKeyword : NamedKeyword :=
  { keyword := "$defs", invalid := "schema defs invalid"
    nameInvalid := "schema def name invalid", Names := definitionName }

/-- An object whose children stand under names is a small one. -/
def checkNamed (named : NamedKeyword) : Json → Check
  | .obj children => require (children.length ≤ 256) (.valueError named.invalid)
  | _ => .error (.valueError named.invalid)

/-- The branches of a keyword are a small list. -/
def checkBranches (keyword : String) : Json → Check
  | .arr branches => require (1 ≤ branches.length ∧ branches.length ≤ 32)
      (.valueError s!"schema {keyword} invalid")
  | _ => .error (.valueError s!"schema {keyword} invalid")

/-- `$defs` of the root is an object. -/
def checkRootDefs (entries : Entries) : Check :=
  match get "$defs" entries with
  | none | some .null | some (.obj _) => .ok ()
  | some _ => .error (.valueError "$defs must be an object")

/-- Keys that `sorted` can order: at most one, or all texts, or all numbers. -/
def Ordered (keys : List Json) : Prop :=
  keys.length ≤ 1 ∨ (∀ key ∈ keys, (number key).isSome) ∨ (textsOf keys).isSome

instance : DecidablePred Ordered := fun _ => inferInstanceAs (Decidable (_ ∨ _ ∨ _))

/-- A key is a keyword of the profile. -/
def allowedKey : Json → Bool
  | .str text => text ∈ allowedSchemaKeywords.map pyString
  | _ => false

/-- The keys of a dictionary that are no keywords of the profile. -/
def unknownKeys (dict : Dict) : List Json := (dict.map Prod.fst).filter fun key => !allowedKey key

/-- The keys of the root are keywords; the message sorts those that are not. -/
def checkRootKeywords (dict : Dict) : Check :=
  if unknownKeys dict = [] then .ok ()
  else if Ordered (unknownKeys dict) then
    .error (.valueError ("schema keywords forbidden: " ++ rendering.sortedKeys (unknownKeys dict)))
  else .error (.typeError (rendering.unordered (unknownKeys dict)))

end Checks

section Walk

/-- A place where a document is checked: the root, a node, a keyword of a node, or one of its named
children. -/
inductive Site where
  | tree (document : Dict)
  | rootDefs (root : Entries)
  | rootKeywords (document : Dict)
  | noObject
  | keywords (node : Entries)
  | ref (node : Entries)
  | type (node : Entries)
  | named (keyword : NamedKeyword) (children : Json)
  | name (keyword : NamedKeyword) (text : PyString)
  | required (node : Entries)
  | branches (keyword : String) (schemas : Json)
  | pattern (node : Entries)
  | enum (node : Entries)
  | count (node : Entries) (keyword : String)
  | bound (node : Entries) (keyword : String)

/-- The check that is made at a place. -/
def Site.check (rendering : Rendering) (defs : Entries) : Site → Check
  | .tree document => checkDictTree { maxDepth := 32, maxNodes := 4096 } document
  | .rootDefs root => checkRootDefs root
  | .rootKeywords document => checkRootKeywords rendering document
  | .noObject => .error (.valueError "schema node must be an object")
  | .keywords node => checkKeywords rendering node
  | .ref node => checkRef rendering defs node
  | .type node => checkType node
  | .named keyword children => checkNamed keyword children
  | .name keyword text => require (keyword.Names text) (.valueError keyword.nameInvalid)
  | .required node => checkRequired node
  | .branches keyword schemas => checkBranches keyword schemas
  | .pattern node => checkPattern node
  | .enum node => checkEnum node
  | .count node keyword => checkCount node keyword
  | .bound node keyword => checkBound node keyword

mutual

/-- `validate_node`: where a node and everything below it is checked, in the order of the checks. -/
def nodeSites : Json → List Site
  | .obj entries =>
    [.keywords entries, .ref entries, .type entries] ++
      namedSites propertiesKeyword entries ++ namedSites definitionsKeyword entries ++
      [.required entries] ++ additionalSites entries ++ childSites "items" entries ++
      branchSites "oneOf" entries ++ branchSites "allOf" entries ++
      childSites "if" entries ++ childSites "then" entries ++ childSites "else" entries ++
      childSites "not" entries ++ childSites "propertyNames" entries ++
      [.pattern entries, .enum entries] ++
      ["minItems", "maxItems", "minLength", "maxLength", "minProperties", "maxProperties"].map
        (.count entries) ++
      ["minimum", "maximum"].map (.bound entries)
  | _ => [.noObject]

/-- The child of a keyword, when there is one. -/
def childSites (keyword : String) : List (PyString × Json) → List Site
  | [] => []
  | (key, child) :: rest =>
    if key = pyString keyword then
      match child with
      | .null => []
      | other => nodeSites other
    else childSites keyword rest

/-- What further properties must be, when that is no boolean. -/
def additionalSites : List (PyString × Json) → List Site
  | [] => []
  | (key, child) :: rest =>
    if key = pyString "additionalProperties" then
      match child with
      | .null | .bool _ => []
      | other => nodeSites other
    else additionalSites rest

/-- The named children of a keyword. -/
def namedSites (named : NamedKeyword) : List (PyString × Json) → List Site
  | [] => []
  | (key, child) :: rest =>
    if key = pyString named.keyword then
      match child with
      | .null => []
      | .obj children => .named named (.obj children) :: entrySites named children
      | other => [.named named other]
    else namedSites named rest

/-- Each named child, after its name. -/
def entrySites (named : NamedKeyword) : List (PyString × Json) → List Site
  | [] => []
  | (name, child) :: rest => .name named name :: (nodeSites child ++ entrySites named rest)

/-- The branches of a keyword. -/
def branchSites (keyword : String) : List (PyString × Json) → List Site
  | [] => []
  | (key, child) :: rest =>
    if key = pyString keyword then
      match child with
      | .null => []
      | .arr branches => .branches keyword (.arr branches) :: itemSites branches
      | other => [.branches keyword other]
    else branchSites keyword rest

/-- Each branch. -/
def itemSites : List Json → List Site
  | [] => []
  | branch :: rest => nodeSites branch ++ itemSites rest

end

end Walk

section Profile

variable (rendering : Rendering)

/-- The definitions of the root. -/
def rootDefs (entries : Entries) : Entries :=
  match get "$defs" entries with
  | some (.obj definitions) => definitions
  | _ => []

/-- Where a document is checked, in the order of the checks. -/
def sites (value : Dict) : List Site :=
  [.tree value, .rootDefs (textEntries value), .rootKeywords value] ++
    nodeSites (.obj (textEntries value))

/-- `validate_schema_profile`; the meta-schema check answers the message it raises, if any. -/
def validateSchemaProfile (checkSchema : Dict → Option String) (schema : Json) :
    Except ProfileError Unit := do
  let value ← dictOf schema
  runChecks ((sites value).map (Site.check rendering (rootDefs (textEntries value))))
  match checkSchema value with
  | none => return ()
  | some message => throw (.schemaError message)

end Profile

end Aar.SchemaProfile
