import Aar.SchemaProfile.Document

/-! Evaluating an instance against a schema of the profile, following its local references. -/

namespace Aar.SchemaProfile

open Workspace (PyString pyString)

section Calls

variable (defs : Entries)

/-- The definition that a text refers to. -/
def resolve (ref : PyString) : Option Json := (refTarget ref).bind fun name => lookup name defs

/-- The schema that a node refers to, applied to the instance. -/
def refCalls (entries : Entries) (instance' : Json) : List (Json × Json) :=
  match get "$ref" entries with
  | some (.str ref) => (resolve defs ref).toList.map fun target => (target, instance')
  | _ => []

/-- The branches of a keyword. -/
def branches (keyword : String) (entries : Entries) : List Json :=
  match get keyword entries with
  | some (.arr schemas) => schemas
  | _ => []

/-- The named children of `properties`. -/
def propertyEntries (entries : Entries) : Entries :=
  match get "properties" entries with
  | some (.obj children) => children
  | _ => []

/-- The schemas that apply to the parts of an instance. -/
def partCalls (entries : Entries) (instance' : Json) : List (Json × Json) :=
  match instance' with
  | .obj members =>
    (propertyEntries entries).filterMap (fun property =>
        (lookup property.1 members).map fun member => (property.2, member)) ++
      (get "additionalProperties" entries).toList.flatMap (fun schema =>
        (members.filter fun member => (lookup member.1 (propertyEntries entries)).isNone).map
          fun member => (schema, member.2)) ++
      (get "propertyNames" entries).toList.flatMap fun schema =>
        members.map fun member => (schema, .str member.1)
  | .arr items => (get "items" entries).toList.flatMap fun schema =>
      items.map fun item => (schema, item)
  | _ => []

/-- What has to hold for an instance to be valid, apart from the remaining keywords. -/
def conjuncts (entries : Entries) (instance' : Json) : List (Json × Json) :=
  refCalls defs entries instance' ++ partCalls entries instance' ++
    (branches "allOf" entries).map fun schema => (schema, instance')

/-- The verdict of the child of a keyword, when there is one. -/
def childVerdict (recur : Json → Json → Option Bool) (keyword : String) (otherwise : Bool)
    (entries : Entries) (instance' : Json) : Option Bool :=
  match get keyword entries with
  | some schema => recur schema instance'
  | none => some otherwise

/-- The verdict of `if` with the keyword it selects. -/
def choiceVerdict (recur : Json → Json → Option Bool) (entries : Entries) (instance' : Json) :
    Option Bool :=
  match get "if" entries with
  | some condition => do
    let met ← recur condition instance'
    childVerdict recur (if met then "then" else "else") true entries instance'
  | none => some true

/-- One pass over the keywords of a node; every keyword is evaluated, whatever the others tell.

The keywords that apply no schema are a parameter. -/
def evaluateWith (asserts : Entries → Json → Bool) (recur : Json → Json → Option Bool)
    (node instance' : Json) : Option Bool :=
  match node with
  | .bool verdict => some verdict
  | .obj entries => do
    let all ← (conjuncts defs entries instance').mapM fun call => recur call.1 call.2
    let one ← (branches "oneOf" entries).mapM fun schema => recur schema instance'
    let refuted ← childVerdict recur "not" false entries instance'
    let chosen ← choiceVerdict recur entries instance'
    return asserts entries instance' && all.all id &&
      ((branches "oneOf" entries).isEmpty || one.count true == 1) && !refuted && chosen
  | _ => some true

/-- The verdict of a schema on an instance, within a number of nested evaluations. -/
def evaluate (asserts : Entries → Json → Bool) : Nat → Json → Json → Option Bool
  | 0, _, _ => none
  | fuel + 1, node, instance' =>
    evaluateWith defs asserts (evaluate asserts fuel) node instance'

end Calls

section References

/-- The definition that a node itself refers to. -/
def ownRef (entries : Entries) : List PyString :=
  match get "$ref" entries with
  | some (.str ref) => (refTarget ref).toList
  | _ => []

mutual

/-- The definitions that a schema refers to for the instance it is itself applied to. -/
def refsOf : Json → List PyString
  | .obj entries => ownRef entries ++ childRefs "not" entries ++ childRefs "if" entries ++
      childRefs "then" entries ++ childRefs "else" entries ++ branchRefs "allOf" entries ++
      branchRefs "oneOf" entries
  | _ => []

/-- The references of the child of a keyword. -/
def childRefs (keyword : String) : List (PyString × Json) → List PyString
  | [] => []
  | (key, child) :: rest =>
    if key = pyString keyword then refsOf child else childRefs keyword rest

/-- The references of the branches of a keyword. -/
def branchRefs (keyword : String) : List (PyString × Json) → List PyString
  | [] => []
  | (key, child) :: rest =>
    if key = pyString keyword then
      match child with
      | .arr schemas => itemRefs schemas
      | _ => []
    else branchRefs keyword rest

/-- The references of each of some schemas. -/
def itemRefs : List Json → List PyString
  | [] => []
  | schema :: rest => refsOf schema ++ itemRefs rest

end

/-- A definition refers to another one without consuming a part of the instance. -/
def RefersTo (defs : Entries) (name target : PyString) : Prop :=
  (∃ node, lookup name defs = some node ∧ target ∈ refsOf node) ∧ (lookup target defs).isSome

end References

end Aar.SchemaProfile
