import Aar.Lib.Ends
import Aar.Lib.Ranked
import Aar.Lib.Shields
import Aar.Proofs.Patterns
import Aar.SchemaProfile.Evaluation

/-! Admitted schema documents: what their checks raise, and when evaluating them terminates. -/

namespace Aar.SchemaProfile

open Guarded
open Workspace (PyString pyString Encodable)

section Judging

/-- A `ValueError`. -/
def IsValueError (error : ProfileError) : Prop := ∃ message, error = .valueError message

/-- A computation raises no other exception than a `ValueError`. -/
abbrev Tame {α : Type} (computation : Except ProfileError α) : Prop :=
  Ends IsValueError (fun _ => True) computation

theorem tame_error {α : Type} (message : String) :
    Tame (.error (.valueError message) : Except ProfileError α) := ⟨message, rfl⟩

theorem tame_require {condition : Prop} {decides : Decidable condition} (message : String) :
    Tame (require condition (.valueError message)) := by
  unfold require
  split
  · trivial
  · exact ⟨message, rfl⟩

theorem tame_bind {α β : Type} {first : Except ProfileError α} {rest : α → Except ProfileError β}
    (left : Tame first) (right : ∀ value, Tame (rest value)) : Tame (first >>= rest) :=
  .bind left fun value _ => right value

/-- A computation raises a `ValueError` where something is wrong, and returns otherwise. -/
abbrev Judges {α : Type} (wrong : Prop) (computation : Except ProfileError α) : Prop :=
  Ends (fun error => IsValueError error ∧ wrong) (fun _ => ¬ wrong) computation

variable {α : Type} {wrong : Prop}

theorem judges_error (message : String) (holds : wrong) :
    Judges wrong (.error (.valueError message) : Except ProfileError α) := ⟨⟨message, rfl⟩, holds⟩

theorem judges_require {condition : Prop} {decides : Decidable condition} (message : String)
    (same : wrong ↔ ¬ condition) : Judges wrong (require condition (.valueError message)) := by
  unfold require
  split
  case isTrue holds => exact fun broken => same.mp broken holds
  case isFalse broken => exact ⟨⟨message, rfl⟩, same.mpr broken⟩

theorem judges_of_tame {computation : Except ProfileError Unit} (tame : Tame computation)
    (same : wrong ↔ ¬ computation = .ok ()) : Judges wrong computation := by
  cases ran : computation with
  | ok passed => exact fun broken => same.mp broken ran
  | error error => exact ⟨tame.raised ran, same.mpr (by rw [ran]; simp)⟩

end Judging

section Trees

variable {limits : TreeLimits}

mutual

/-- The values and keys of a JSON tree, each with its depth and its text, which is empty if it is no
text. -/
def places (depth : Nat) : Json → List (Nat × PyString)
  | .str text => [(depth, text)]
  | .arr items => (depth, []) :: itemPlaces (depth + 1) items
  | .obj entries => (depth, []) :: entryPlaces (depth + 1) entries
  | _ => [(depth, [])]

/-- The places of items. -/
def itemPlaces (depth : Nat) : List Json → List (Nat × PyString)
  | [] => []
  | item :: rest => places depth item ++ itemPlaces depth rest

/-- The places of keys and values. -/
def entryPlaces (depth : Nat) : List (PyString × Json) → List (Nat × PyString)
  | [] => []
  | (key, child) :: rest => (depth, key) :: (places depth child ++ entryPlaces depth rest)

end

/-- The places of a dictionary. -/
def dictPlaces (dict : Dict) : List (Nat × PyString) :=
  (0, []) :: dict.flatMap fun entry => places 1 entry.1 ++ places 1 entry.2

/-- A tree has few places, none of them deep, and no text with a lone surrogate. -/
def Within (limits : TreeLimits) (tree : List (Nat × PyString)) : Prop :=
  tree.length ≤ limits.maxNodes ∧ ∀ place ∈ tree, place.1 ≤ limits.maxDepth ∧ Encodable place.2

/-- Visit places one after the other. -/
def visitPlaces (limits : TreeLimits) (count : Nat) (tree : List (Nat × PyString)) :
    Except ProfileError Nat :=
  tree.foldlM (fun count place => visitText limits place.1 place.2 count) count

theorem visitText_place (depth : Nat) (text : PyString) (count : Nat) :
    visitText limits depth text count = visitPlaces limits count [(depth, text)] := by
  simp [visitPlaces]

theorem visitPlaces_cons (count : Nat) (place : Nat × PyString) (rest : List (Nat × PyString)) :
    visitPlaces limits count (place :: rest) =
      visitText limits place.1 place.2 count >>= fun count => visitPlaces limits count rest :=
  List.foldlM_cons

theorem enter_place (depth count : Nat) :
    enter limits depth count = visitPlaces limits count [(depth, [])] := by
  have encodable : Encodable [] := by simp [Workspace.Encodable]
  rw [← visitText_place]
  simp only [visitText, require, if_pos encodable]
  exact (bind_pure (enter limits depth count)).symm

theorem visitPlaces_append (count : Nat) (first second : List (Nat × PyString)) :
    visitPlaces limits count (first ++ second) =
      visitPlaces limits count first >>= fun count => visitPlaces limits count second :=
  List.foldlM_append

mutual

/-- Visiting a value visits its places. -/
theorem visit_places (depth count : Nat) : ∀ item : Json,
    visit limits depth count item = visitPlaces limits count (places depth item)
  | .null | .bool _ | .int _ | .float _ => by simp only [visit, places, enter_place]
  | .str text => by simp only [visit, places, visitText_place]
  | .arr items => by
    simp only [visit, places, enter_place, visitItems_places _ _ items]
    exact (visitPlaces_append count [(depth, [])] _).symm
  | .obj entries => by
    simp only [visit, places, enter_place, visitEntries_places _ _ entries]
    exact (visitPlaces_append count [(depth, [])] _).symm

theorem visitItems_places (depth count : Nat) : ∀ items : List Json,
    visitItems limits depth count items = visitPlaces limits count (itemPlaces depth items)
  | [] => rfl
  | item :: rest => by
    simp only [visitItems, itemPlaces, visitPlaces_append, visit_places _ _ item,
      visitItems_places _ _ rest]

/-- Visiting entries visits their places. -/
theorem visitEntries_places (depth count : Nat) : ∀ entries : List (PyString × Json),
    visitEntries limits depth count entries = visitPlaces limits count (entryPlaces depth entries)
  | [] => rfl
  | (key, child) :: rest => by
    refine Eq.trans ?_ (visitPlaces_append count [(depth, key)] _).symm
    simp only [visitEntries, visitText_place, visit_places _ _ child, visitEntries_places _ _ rest,
      List.append_eq, visitPlaces_append]

end

/-- Visiting a dictionary visits its places. -/
theorem visitDict_places (depth count : Nat) (dict : Dict) : visitDict limits depth count dict =
    visitPlaces limits count
      (dict.flatMap fun entry => places depth entry.1 ++ places depth entry.2) := by
  induction dict generalizing count with
  | nil => rfl
  | cons entry rest ih =>
    simp only [visitDict, visit_places, ih, List.flatMap_cons, visitPlaces_append, bind_assoc]

/-- Visiting places judges whether there are too many, or one of them is too deep or no proper
text. -/
theorem visitPlaces_judges {count : Nat} (room : count ≤ limits.maxNodes)
    (tree : List (Nat × PyString)) :
    Judges (¬ (count + tree.length ≤ limits.maxNodes ∧
      ∀ place ∈ tree, place.1 ≤ limits.maxDepth ∧ Encodable place.2))
      (visitPlaces limits count tree) := by
  induction tree generalizing count with
  | nil => exact fun broken => broken ⟨room, by simp⟩
  | cons place rest ih =>
    rw [visitPlaces_cons]
    simp only [visitText, enter, bind_assoc, pure_bind, List.length_cons, List.forall_mem_cons]
    refine .require (fun full => ⟨⟨_, rfl⟩, fun within => full (by omega)⟩) fun room =>
      .require (fun deep => ⟨⟨_, rfl⟩, fun within => deep within.2.1.1⟩) fun shallow =>
        .require (fun lone => ⟨⟨_, rfl⟩, fun within => lone within.2.1.2⟩) fun proper => ?_
    have later := ih room
    simp only [Nat.add_assoc, Nat.add_comm 1, shallow, proper, true_and] at later ⊢
    exact later

end Trees

section Patterns

theorem checkClassItems_tame (content : List Char) : Tame (checkClassItems content) := by
  fun_induction checkClassItems content with
  | case1 => trivial
  | case2 | case3 | case4 => exact tame_error _
  | case5 | case6 => assumption

-- The guards range over characters, and unfolding `Ends` would decide them one by one.
attribute [local irreducible] Ends in
theorem validatePositiveClass_tame (content : List Char) : Tame (validatePositiveClass content) :=
  tame_bind (tame_require _) fun _ => tame_bind (tame_require _) fun _ =>
    tame_bind (tame_require _) fun _ => checkClassItems_tame content

theorem consumeAtom_tame (character : Char) (rest : List Char) :
    Tame (consumeAtom character rest) := by
  unfold consumeAtom
  repeat' split
  all_goals first | trivial | exact tame_error _ | skip
  exact tame_bind (validatePositiveClass_tame _) fun _ => trivial

theorem consumeOptionalQuantifier_tame (text : List Char) :
    Tame (consumeOptionalQuantifier text) := by
  unfold consumeOptionalQuantifier
  repeat' split
  all_goals first | trivial | exact tame_error _ | skip
  dsimp only
  split
  · exact tame_error _
  · trivial

/-- Reading the atoms of a pattern is tame. -/
theorem scanAtoms_tame (quantifiedAtoms : Nat) (text : List Char) :
    Tame (scanAtoms quantifiedAtoms text) := by
  fun_induction scanAtoms quantifiedAtoms text with
  | case1 => trivial
  | case2 _ _ _ _ consumed => exact (consumeAtom_tame _ _).raised consumed
  | case3 _ _ _ _ _ _ scanned => exact (consumeOptionalQuantifier_tame _).raised scanned
  | case4 => exact tame_error _
  | case5 => assumption

/-- Checking a pattern is tame. -/
theorem validatePortablePattern_tame (pattern : String) :
    Tame (validatePortablePattern pattern) := by
  refine tame_bind ?_ fun _ => ?_
  · exact tame_bind (tame_require _) fun _ => tame_bind (tame_require _) fun _ =>
      tame_bind (tame_require _) fun _ => scanAtoms_tame _ _
  · cases compile .nothing pattern.toList with
    | ok passed => trivial
    | error error => exact ⟨_, rfl⟩

end Patterns

section Sites

variable {rendering : Rendering} {defs : Entries}

/-- A keyword of a node holds a value other than null. -/
def Holds (node : Entries) (keyword : String) (value : Json) : Prop :=
  get keyword node = some value ∧ value ≠ .null

/-- What a document has at a place is against the profile. -/
def Site.Wrong (defs : Entries) : Site → Prop
  | .tree document => ¬ Within { maxDepth := 32, maxNodes := 4096 } (dictPlaces document)
  | .rootDefs root => ∃ value, Holds root "$defs" value ∧ ∀ children, value ≠ .obj children
  | .rootKeywords document => unknownKeys document ≠ []
  | .noObject => True
  | .keywords node => ∃ entry ∈ node, entry.1 ∉ allowedSchemaKeywords.map pyString
  | .ref node => ∃ value, Holds node "$ref" value ∧
      ∀ name, value = .str (pyString "#/$defs/" ++ name) → '/'.toNat ∈ name ∨ lookup name defs = none
  | .type node => ∃ value, Holds node "type" value ∧
      ∀ name ∈ schemaTypes, value ≠ .str (pyString name)
  | .named _ children => ∀ entries, children = .obj entries → 256 < entries.length
  | .name keyword text => keyword.Names text = false
  | .required node => ∃ value, Holds node "required" value ∧
      ∀ names : List PyString, value = .arr (names.map .str) → names.Pairwise (· < ·) →
        256 < names.length
  | .branches _ schemas => ∀ list, schemas = .arr list → list = [] ∨ 32 < list.length
  | .pattern node => ∃ value, Holds node "pattern" value ∧
      ∀ text, value = .str text → text.length ≤ 256 → (∀ code ∈ text, code < 128) →
        ¬ Portable (text.map Char.ofNat)
  | .enum node => ∃ value, Holds node "enum" value ∧
      ∀ list, value = .arr list → list = [] ∨ 128 < list.length ∨
        ¬ Within { maxDepth := 4, maxNodes := 512 } (places 0 (.arr list))
  | .count node keyword => ∃ value, get keyword node = some value ∧
      ∀ number, value = .int number → number < 0 ∨ 1048576 < number
  | .bound node keyword => ∃ value, get keyword node = some value ∧
      (∀ number, value ≠ .int number) ∧ ∀ number, value ≠ .float number

/-- What a document has at a place cannot be hashed or ordered: a type that is an array or an object,
or unknown keys of the root that are neither all texts nor all numbers. -/
def Site.Raises : Site → Prop
  | .rootKeywords document => ¬ Ordered (unknownKeys document)
  | .type node => (∃ items, get "type" node = some (.arr items)) ∨
      ∃ entries, get "type" node = some (.obj entries)
  | _ => False

/-- What cannot be hashed or ordered is wrong. -/
theorem Site.Raises.wrong {site : Site} (raises : site.Raises) : site.Wrong defs := by
  cases site with
  | rootKeywords document =>
    intro known
    exact raises (.inl (by rw [known]; exact Nat.zero_le 1))
  | type node =>
    rcases raises with ⟨items, found⟩ | ⟨entries, found⟩
    · exact ⟨_, ⟨found, Json.noConfusion⟩, fun _ _ => Json.noConfusion⟩
    · exact ⟨_, ⟨found, Json.noConfusion⟩, fun _ _ => Json.noConfusion⟩
  | _ => cases raises

theorem exists_holds {node : Entries} {keyword : String} {bad : Json → Prop} :
    (∃ value, Holds node keyword value ∧ bad value) ↔
      ∃ value, get keyword node = some value ∧ value ≠ .null ∧ bad value := by
  simp only [Holds, and_assoc]

theorem tree_judges (limits : TreeLimits) (tree : List (Nat × PyString)) :
    Judges (¬ Within limits tree) (visitPlaces limits 0 tree >>= fun _ => pure ()) := by
  have judged := visitPlaces_judges (Nat.zero_le limits.maxNodes) tree
  rw [Nat.zero_add] at judged
  exact .bind judged fun _ right => right

/-- The texts of a list are all it holds. -/
theorem textsOf_some {items : List Json} {names : List PyString} :
    textsOf items = some names ↔ items = names.map .str := by
  induction items generalizing names with
  | nil => cases names <;> simp [textsOf]
  | cons item rest ih =>
    unfold textsOf at ih ⊢
    rw [List.mapM_cons]
    cases item with
    | str name =>
      have same : (∃ texts, rest = texts.map .str ∧ name :: texts = names) ↔
          Json.str name :: rest = names.map .str := by
        cases names <;> simp [and_comm, eq_comm (a := name)]
      simp only [Option.bind_eq_bind, Option.bind_some, Option.pure_def, Option.bind_eq_some_iff,
        Option.some.injEq, ih]
      exact same
    | _ => cases names <;> simp

/-- A reference is judged. -/
theorem ref_judges (node : Entries) : Judges ((Site.ref node).Wrong defs)
    (checkRef rendering defs node) := by
  simp only [Site.Wrong, exists_holds]
  unfold checkRef
  cases found : get "$ref" node with
  | none => simp [Ends]
  | some value =>
    cases value with
    | null => simp [Ends]
    | str ref =>
      by_cases local' : pyString "#/$defs/" <+: ref
      · obtain ⟨name, rfl⟩ := local'
        simp only [refTarget, List.prefix_append, if_true, List.drop_left]
        refine judges_require _ ?_
        simp [or_iff_not_imp_left]
      · simp only [refTarget, if_neg local']
        refine judges_error _ ⟨_, rfl, Json.noConfusion, fun name same => ?_⟩
        exact absurd ⟨name, (Json.str.inj same).symm⟩ local'
    | _ => exact judges_error _ ⟨_, rfl, Json.noConfusion, fun _ => Json.noConfusion⟩

/-- A type that can be hashed is judged. -/
theorem type_judges {node : Entries} (quiet : ¬ (Site.type node).Raises) :
    Judges ((Site.type node).Wrong defs) (checkType node) := by
  simp only [Site.Wrong, exists_holds]
  unfold checkType
  cases found : get "type" node with
  | none => simp [Ends]
  | some value =>
    cases value with
    | null => simp [Ends]
    | str name => exact judges_require _ (by simp [eq_comm])
    | arr items => exact absurd (.inl ⟨items, found⟩) quiet
    | obj entries => exact absurd (.inr ⟨entries, found⟩) quiet
    | bool | int | float =>
      exact judges_error _ ⟨_, rfl, Json.noConfusion, fun _ _ => Json.noConfusion⟩

/-- Required names are judged. -/
theorem required_judges (node : Entries) : Judges ((Site.required node).Wrong defs)
    (checkRequired node) := by
  simp only [Site.Wrong, exists_holds]
  unfold checkRequired
  cases found : get "required" node with
  | none => simp [Ends]
  | some value =>
    cases value with
    | null => simp [Ends]
    | arr items =>
      dsimp only
      cases texts : textsOf items with
      | none =>
        refine judges_error _ ⟨_, rfl, Json.noConfusion, fun names same => ?_⟩
        rw [textsOf_some.mpr (Json.arr.inj same)] at texts
        cases texts
      | some names =>
        obtain rfl := textsOf_some.mp texts
        have injective : Function.Injective Json.str := fun _ _ => Json.str.inj
        refine judges_require _ ?_
        simp [List.map_inj_right injective, eq_comm]
    | _ => exact judges_error _ ⟨_, rfl, Json.noConfusion, fun _ => Json.noConfusion⟩

theorem toNat_ascii {code : Nat} (ascii : code < 128) : (Char.ofNat code).toNat = code := by
  have valid : code.isValidChar := .inl (by omega)
  rw [Char.ofNat, dif_pos valid]
  rfl

/-- The pattern of a node passes when it is a short portable one. -/
theorem patternText_ok {text : PyString} :
    (do
      require (text.length ≤ maxPatternLength) (.valueError "schema pattern invalid")
      require (∀ code ∈ text, code < 128) (.valueError "schema pattern must be ASCII")
      validatePortablePattern (plainText text) : Check) = .ok () ↔
      text.length ≤ 256 ∧ (∀ code ∈ text, code < 128) ∧ Portable (text.map Char.ofNat) := by
  simp only [bind_ok, require_ok, validatePortablePattern_ok, scanPattern_ok, plainText,
    String.length_ofList, String.toList_ofList, List.length_map]
  constructor
  · rintro ⟨_, short, _, ascii, -, -, portable⟩
    exact ⟨short, ascii, portable⟩
  · rintro ⟨short, ascii, portable⟩
    refine ⟨(), short, (), ascii, short, fun character member => ?_, portable⟩
    obtain ⟨code, there, rfl⟩ := List.mem_map.mp member
    rw [toNat_ascii (ascii code there)]
    exact ascii code there

/-- A pattern is judged. -/
theorem pattern_judges (node : Entries) : Judges ((Site.pattern node).Wrong defs)
    (checkPattern node) := by
  simp only [Site.Wrong, exists_holds]
  unfold checkPattern
  cases found : get "pattern" node with
  | none => simp [Ends]
  | some value =>
    cases value with
    | null => simp [Ends]
    | str text =>
      refine judges_of_tame (tame_bind (tame_require _) fun _ => tame_bind (tame_require _) fun _ =>
        validatePortablePattern_tame _) ?_
      rw [patternText_ok]
      simp
    | _ => exact judges_error _ ⟨_, rfl, Json.noConfusion, fun _ => Json.noConfusion⟩

/-- An enumeration is judged. -/
theorem enum_judges (node : Entries) : Judges ((Site.enum node).Wrong defs) (checkEnum node) := by
  simp only [Site.Wrong, exists_holds]
  unfold checkEnum
  cases found : get "enum" node with
  | none => simp [Ends]
  | some value =>
    cases value with
    | null => simp [Ends]
    | arr list =>
      refine .require (fun many => ⟨⟨_, rfl⟩, _, rfl, Json.noConfusion, fun other same => ?_⟩)
        fun few => ?_
      · cases same
        rw [← List.length_eq_zero_iff]
        omega
      · have judged := tree_judges { maxDepth := 4, maxNodes := 512 } (places 0 (.arr list))
        rw [← visit_places] at judged
        have size : ¬ (list = [] ∨ 128 < list.length) := by
          rw [← List.length_eq_zero_iff]
          omega
        simpa [Judges, checkItemsTree, ← or_assoc, size] using judged
    | _ => exact judges_error _ ⟨_, rfl, Json.noConfusion, fun _ => Json.noConfusion⟩

/-- A count is judged. -/
theorem count_judges (node : Entries) (keyword : String) :
    Judges ((Site.count node keyword).Wrong defs) (checkCount node keyword) := by
  simp only [Site.Wrong]
  unfold checkCount
  cases found : get keyword node with
  | none => simp [Ends]
  | some value =>
    cases value with
    | int number => exact judges_require _ (by simp; omega)
    | _ => exact judges_error _ ⟨_, rfl, fun _ => Json.noConfusion⟩

/-- A bound is judged. -/
theorem bound_judges (node : Entries) (keyword : String) :
    Judges ((Site.bound node keyword).Wrong defs) (checkBound node keyword) := by
  simp only [Site.Wrong]
  unfold checkBound
  cases found : get keyword node with
  | none => simp [Ends]
  | some value =>
    cases value with
    | int | float => simp [Ends]
    | _ => exact judges_error _ ⟨_, rfl, fun _ => Json.noConfusion, fun _ => Json.noConfusion⟩

/-- The check at a place where nothing raises judges what is wrong there. -/
theorem Site.judged {site : Site} (quiet : ¬ site.Raises) :
    Judges (site.Wrong defs) (site.check rendering defs) := by
  cases site with
  | tree document =>
    have judged := tree_judges { maxDepth := 32, maxNodes := 4096 } (dictPlaces document)
    have walked : checkDictTree { maxDepth := 32, maxNodes := 4096 } document = visitPlaces
        { maxDepth := 32, maxNodes := 4096 } 0 (dictPlaces document) >>= fun _ => pure () := by
      simp only [checkDictTree, enter_place, visitDict_places, ← bind_assoc, ← visitPlaces_append]
      rfl
    rw [check, walked]
    exact judged
  | rootDefs root =>
    simp only [Wrong, exists_holds, check]
    unfold checkRootDefs
    cases found : get "$defs" root with
    | none => simp [Ends]
    | some value =>
      cases value with
      | null | obj => simp [Ends]
      | _ => exact judges_error _ ⟨_, rfl, Json.noConfusion, fun _ => Json.noConfusion⟩
  | rootKeywords document =>
    have ordered : Ordered (unknownKeys document) := not_not.mp quiet
    simp only [Wrong, check, checkRootKeywords, if_pos ordered]
    split
    case isTrue known => exact fun unknown => unknown known
    case isFalse unknown => exact judges_error _ unknown
  | noObject => exact judges_error _ trivial
  | keywords node => exact judges_require _ (by simp [Wrong])
  | ref node => exact ref_judges node
  | type node => exact type_judges quiet
  | named keyword children =>
    simp only [Wrong, check]
    cases children with
    | obj entries => exact judges_require _ (by simp)
    | _ => exact judges_error _ fun _ => Json.noConfusion
  | name keyword text => exact judges_require _ (by simp [Wrong])
  | required node => exact required_judges node
  | branches keyword schemas =>
    simp only [Wrong, check]
    cases schemas with
    | arr list =>
      refine judges_require _ ?_
      simp only [Json.arr.injEq, forall_eq', ← List.length_eq_zero_iff]
      omega
    | _ => exact judges_error _ fun _ => Json.noConfusion
  | pattern node => exact pattern_judges node
  | enum node => exact enum_judges node
  | count node keyword => exact count_judges node keyword
  | bound node keyword => exact bound_judges node keyword

/-- The check at a place where something raises is no `ValueError`. -/
theorem Site.Raises.raised {site : Site} (raises : site.Raises) :
    ∃ message, site.check rendering defs = .error (.typeError message) := by
  cases site with
  | rootKeywords document =>
    have unknown : (Site.rootKeywords document).Wrong defs := raises.wrong
    change unknownKeys document ≠ [] at unknown
    exact ⟨_, by simp only [check, checkRootKeywords, if_neg unknown]; rw [if_neg raises]⟩
  | type node =>
    rcases raises with ⟨items, found⟩ | ⟨entries, found⟩ <;>
      simp [check, checkType, found]
  | _ => cases raises

/-- The checks of places pass when nothing is wrong there, and otherwise raise a `ValueError` exactly
when whatever cannot be hashed or ordered comes after something else that is wrong. -/
theorem walk_ends (rendering : Rendering) (defs : Entries) (walk : List Site) :
    Ends (fun error => (∃ site ∈ walk, site.Wrong defs) ∧
        (IsValueError error ↔ Shielded Site.Raises (Site.Wrong defs) walk))
      (fun _ => ∀ site ∈ walk, ¬ site.Wrong defs)
      (runChecks (walk.map (Site.check rendering defs))) := by
  induction walk with
  | nil => simp [runChecks, pure, Except.pure, Ends]
  | cons site rest ih =>
    have step : runChecks ((site :: rest).map (Site.check rendering defs)) =
        site.check rendering defs >>= fun _ => runChecks (rest.map (Site.check rendering defs)) := rfl
    rw [step, List.forall_mem_cons, List.exists_mem_cons_iff, shielded_cons]
    by_cases raises : site.Raises
    · obtain ⟨message, raised⟩ : ∃ message, site.check rendering defs =
          .error (.typeError message) := raises.raised
      rw [raised]
      refine ⟨.inl raises.wrong, iff_of_false ?_ fun shield => shield.1 raises⟩
      rintro ⟨_, other⟩
      cases other
    · have judged : Judges (site.Wrong defs) (site.check rendering defs) := Site.judged raises
      cases checked : site.check rendering defs with
      | error error =>
        rw [checked] at judged
        exact ⟨.inl judged.2, iff_of_true judged.1 ⟨raises, .inl judged.2⟩⟩
      | ok passed =>
        rw [checked] at judged
        have right : ¬ site.Wrong defs := judged
        simpa only [ok_bind, right, not_false_iff, true_and, false_or, raises] using ih

end Sites

section Sizes

variable {entries : Entries} {key : PyString} {child : Json}

/-- What an object holds is smaller than the object's entries. -/
theorem lookup_size (found : lookup key entries = some child) : sizeOf child < sizeOf entries := by
  induction entries with
  | nil => cases found
  | cons entry rest ih =>
    obtain ⟨name, value⟩ := entry
    unfold lookup at found
    split at found
    · cases found
      simp only [List.cons.sizeOf_spec, Prod.mk.sizeOf_spec]
      omega
    · have := ih found
      simp only [List.cons.sizeOf_spec]
      omega

theorem entry_size {entry : PyString × Json} (member : entry ∈ entries) :
    sizeOf (Json.str entry.1) < sizeOf entries ∧ sizeOf entry.2 < sizeOf entries := by
  have below := List.sizeOf_lt_of_mem member
  obtain ⟨name, value⟩ := entry
  simp only [Prod.mk.sizeOf_spec, Json.str.sizeOf_spec] at below ⊢
  omega

theorem branches_size {keyword : String} {schema : Json}
    (member : schema ∈ branches keyword entries) : sizeOf schema < sizeOf entries := by
  unfold branches at member
  split at member
  · rename_i schemas found
    have below := List.sizeOf_lt_of_mem member
    have above := lookup_size found
    simp only [Json.arr.sizeOf_spec] at above
    omega
  · cases member

/-- A part of an instance is smaller than the instance. -/
theorem partCalls_size {instance' : Json} {call : Json × Json}
    (member : call ∈ partCalls entries instance') : sizeOf call.2 < sizeOf instance' := by
  unfold partCalls at member
  split at member
  · rename_i members
    simp only [Json.obj.sizeOf_spec]
    rcases List.mem_append.mp member with earlier | named
    · rcases List.mem_append.mp earlier with property | additional
      · obtain ⟨property, -, applied⟩ := List.mem_filterMap.mp property
        obtain ⟨value, found, rfl⟩ := Option.map_eq_some_iff.mp applied
        have := lookup_size found
        dsimp only
        omega
      · obtain ⟨schema, -, applied⟩ := List.mem_flatMap.mp additional
        obtain ⟨entry, kept, rfl⟩ := List.mem_map.mp applied
        have := (entry_size (List.mem_of_mem_filter kept)).2
        dsimp only
        omega
    · obtain ⟨schema, -, applied⟩ := List.mem_flatMap.mp named
      obtain ⟨entry, kept, rfl⟩ := List.mem_map.mp applied
      have := (entry_size kept).1
      dsimp only
      omega
  · rename_i items
    obtain ⟨schema, -, applied⟩ := List.mem_flatMap.mp member
    obtain ⟨item, kept, rfl⟩ := List.mem_map.mp applied
    have := List.sizeOf_lt_of_mem kept
    simp only [Json.arr.sizeOf_spec]
    omega
  · cases member

end Sizes

section References

variable {entries : Entries} {keyword : String} {child : Json} {target : PyString}

/-- The references of a child are references of its keyword. -/
theorem childRefs_of (found : get keyword entries = some child) (refers : target ∈ refsOf child) :
    target ∈ childRefs keyword entries := by
  unfold get at found
  induction entries with
  | nil => cases found
  | cons entry rest ih =>
    obtain ⟨name, value⟩ := entry
    unfold lookup at found
    unfold childRefs
    split at found
    · rename_i same
      cases found
      rwa [if_pos same]
    · rename_i other
      rw [if_neg other]
      exact ih found

/-- The references of a schema are references of a list that holds it. -/
theorem itemRefs_of {schemas : List Json} {schema : Json} (member : schema ∈ schemas)
    (refers : target ∈ refsOf schema) : target ∈ itemRefs schemas := by
  induction schemas with
  | nil => cases member
  | cons first rest ih =>
    unfold itemRefs
    rcases List.mem_cons.mp member with rfl | later
    · exact List.mem_append_left _ refers
    · exact List.mem_append_right _ (ih later)

/-- The references of a branch are references of its keyword. -/
theorem branchRefs_of {schema : Json} (member : schema ∈ branches keyword entries)
    (refers : target ∈ refsOf schema) : target ∈ branchRefs keyword entries := by
  unfold branches at member
  split at member
  · rename_i schemas found
    unfold get at found
    induction entries with
    | nil => cases found
    | cons entry rest ih =>
      obtain ⟨name, value⟩ := entry
      unfold lookup at found
      unfold branchRefs
      split at found
      · rename_i same
        cases found
        rw [if_pos same]
        exact itemRefs_of member refers
      · rename_i other
        rw [if_neg other]
        exact ih found
  · cases member

end References

section Termination

variable {defs : Entries} {asserts : Entries → Json → Bool} {rank : PyString → Nat}

/-- The schemas and instances that evaluating a node may come to next. -/
def calls (defs : Entries) (entries : Entries) (instance' : Json) : List (Json × Json) :=
  conjuncts defs entries instance' ++
    (branches "oneOf" entries ++ (get "not" entries).toList ++ (get "if" entries).toList ++
      (get "then" entries).toList ++ (get "else" entries).toList).map fun schema =>
        (schema, instance')

/-- Evaluations that all succeed, succeed together. -/
theorem mapM_isSome {α β : Type} {items : List α} {recur : α → Option β}
    (each : ∀ item ∈ items, (recur item).isSome) : (items.mapM recur).isSome := by
  induction items with
  | nil => rfl
  | cons item rest ih =>
    obtain ⟨first, found⟩ := Option.isSome_iff_exists.mp (each item List.mem_cons_self)
    obtain ⟨others, known⟩ := Option.isSome_iff_exists.mp
      (ih fun later member => each later (List.mem_cons_of_mem _ member))
    simp [List.mapM_cons, found, known]

/-- A pass over a node succeeds when everything it may come to does. -/
theorem evaluateWith_isSome {recur : Json → Json → Option Bool} {entries : Entries}
    {instance' : Json}
    (each : ∀ call ∈ calls defs entries instance', (recur call.1 call.2).isSome) :
    (evaluateWith defs asserts recur (.obj entries) instance').isSome := by
  have all : ((conjuncts defs entries instance').mapM fun call => recur call.1 call.2).isSome :=
    mapM_isSome fun call member => each call (List.mem_append_left _ member)
  have under : ∀ schema ∈ branches "oneOf" entries ++ (get "not" entries).toList ++
      (get "if" entries).toList ++ (get "then" entries).toList ++ (get "else" entries).toList,
      (recur schema instance').isSome := by
    intro schema member
    exact each (schema, instance')
      (List.mem_append_right _ (List.mem_map.mpr ⟨schema, member, rfl⟩))
  have one : ((branches "oneOf" entries).mapM fun schema => recur schema instance').isSome :=
    mapM_isSome fun schema member => under schema (by simp [member])
  have child : ∀ keyword ∈ ["not", "if", "then", "else"], ∀ schema,
      get keyword entries = some schema → (recur schema instance').isSome := by
    intro keyword member schema found
    refine under schema ?_
    simp only [List.mem_cons, List.not_mem_nil, or_false] at member
    rcases member with rfl | rfl | rfl | rfl <;> simp [found]
  have optional : ∀ keyword ∈ ["not", "if", "then", "else"], ∀ otherwise : Bool,
      (childVerdict recur keyword otherwise entries instance').isSome := by
    intro keyword member otherwise
    unfold childVerdict
    cases found : get keyword entries with
    | none => rfl
    | some schema => exact child keyword member schema found
  have choice : (choiceVerdict recur entries instance').isSome := by
    unfold choiceVerdict
    cases found : get "if" entries with
    | none => rfl
    | some condition =>
      obtain ⟨met, verdict⟩ := Option.isSome_iff_exists.mp (child "if" (by simp) condition found)
      simp only [verdict, Option.bind_eq_bind, Option.bind_some]
      exact optional _ (by cases met <;> simp) true
  obtain ⟨verdicts, all⟩ := Option.isSome_iff_exists.mp all
  obtain ⟨choices, one⟩ := Option.isSome_iff_exists.mp one
  obtain ⟨refuted, negated⟩ := Option.isSome_iff_exists.mp (optional "not" (by simp) false)
  obtain ⟨chosen, choice⟩ := Option.isSome_iff_exists.mp choice
  simp [evaluateWith, all, one, negated, choice]

/-- How far the references of a schema may lead for one instance. -/
def level (rank : PyString → Nat) (defs : Entries) (schema : Json) : Nat :=
  (((refsOf schema).filter fun target => (lookup target defs).isSome).map fun target =>
    rank target + 1).foldr max 0

/-- The references that a level counts are below it. -/
theorem rank_lt_level {schema : Json} {target : PyString} (refers : target ∈ refsOf schema)
    (known : (lookup target defs).isSome) : rank target < level rank defs schema := by
  have along : ∀ targets : List PyString, target ∈ targets →
      rank target < (targets.map fun target => rank target + 1).foldr max 0 := by
    intro targets member
    induction targets with
    | nil => cases member
    | cons first rest ih =>
      simp only [List.map_cons, List.foldr_cons]
      rcases List.mem_cons.mp member with rfl | later
      · omega
      · have := ih later
        omega
  exact along _ (List.mem_filter.mpr ⟨refers, by simpa using known⟩)

/-- A level is at most a bound that is above all its references. -/
theorem level_le {schema : Json} {bound : Nat}
    (below : ∀ target ∈ refsOf schema, (lookup target defs).isSome → rank target < bound) :
    level rank defs schema ≤ bound := by
  have along : ∀ targets : List PyString, (∀ target ∈ targets, rank target < bound) →
      (targets.map fun target => rank target + 1).foldr max 0 ≤ bound := by
    intro targets each
    induction targets with
    | nil => exact Nat.zero_le _
    | cons first rest ih =>
      have here := each first List.mem_cons_self
      have there := ih fun target member => each target (List.mem_cons_of_mem _ member)
      simp only [List.map_cons, List.foldr_cons]
      omega
  refine along _ fun target member => ?_
  obtain ⟨refers, known⟩ := List.mem_filter.mp member
  exact below target refers (by simpa using known)

/-- What comes before what: a smaller instance, else a lower level, else a smaller schema. -/
def Before (rank : PyString → Nat) (defs : Entries) (next call : Json × Json) : Prop :=
  sizeOf next.2 < sizeOf call.2 ∨ next.2 = call.2 ∧
    (level rank defs next.1 < level rank defs call.1 ∨
      level rank defs next.1 ≤ level rank defs call.1 ∧ sizeOf next.1 < sizeOf call.1)

/-- A part of a node for the same instance comes before the node. -/
theorem before_of_part {entries : Entries} {schema instance' : Json}
    (refers : ∀ target ∈ refsOf schema, target ∈ refsOf (.obj entries))
    (smaller : sizeOf schema < sizeOf entries) :
    Before rank defs (schema, instance') (.obj entries, instance') := by
  refine .inr ⟨rfl, .inr ⟨level_le fun target member known => ?_, ?_⟩⟩
  · exact rank_lt_level (refers target member) known
  · simp only [Json.obj.sizeOf_spec]
    omega

/-- Whatever evaluating a node may come to next comes before it, when references lower the rank. -/
theorem calls_before (lowers : Ranked.LowersRank (RefersTo defs) rank) {entries : Entries}
    {instance' : Json} {call : Json × Json} (member : call ∈ calls defs entries instance') :
    Before rank defs call (.obj entries, instance') := by
  rcases List.mem_append.mp member with conjunct | other
  · rcases List.mem_append.mp conjunct with earlier | all
    · rcases List.mem_append.mp earlier with ref | part
      · -- A reference leads to a definition whose own references are below it.
        unfold refCalls at ref
        split at ref
        · rename_i text found
          obtain ⟨schema, resolved, rfl⟩ := List.mem_map.mp ref
          simp only [resolve, Option.mem_toList, Option.bind_eq_some_iff] at resolved
          obtain ⟨name, named, known⟩ := resolved
          have refers : name ∈ refsOf (.obj entries) := by
            simp [refsOf, ownRef, found, named]
          refine .inr ⟨rfl, .inl ?_⟩
          refine Nat.lt_of_le_of_lt (level_le fun target further there => ?_)
            (rank_lt_level refers (by rw [known]; rfl))
          exact lowers name target ⟨⟨schema, known, further⟩, there⟩
        · cases ref
      · exact .inl (partCalls_size part)
    · obtain ⟨schema, branch, rfl⟩ := List.mem_map.mp all
      refine before_of_part (fun target refers => ?_) (branches_size branch)
      have := branchRefs_of branch refers
      simp [refsOf, this]
  · obtain ⟨schema, applied, rfl⟩ := List.mem_map.mp other
    have single : ∀ keyword ∈ ["not", "if", "then", "else"], get keyword entries = some schema →
        Before rank defs (schema, instance') (.obj entries, instance') := by
      intro keyword listed found
      refine before_of_part (fun target refers => ?_) (lookup_size found)
      have := childRefs_of found refers
      simp only [List.mem_cons, List.not_mem_nil, or_false] at listed
      rcases listed with rfl | rfl | rfl | rfl <;> simp [refsOf, this]
    simp only [List.mem_append, Option.mem_toList] at applied
    rcases applied with (((one | negated) | condition) | consequent) | alternative
    · refine before_of_part (fun target refers => ?_) (branches_size one)
      have := branchRefs_of one refers
      simp [refsOf, this]
    · exact single "not" (by simp) negated
    · exact single "if" (by simp) condition
    · exact single "then" (by simp) consequent
    · exact single "else" (by simp) alternative

/-- Every allowance from some number on evaluates a node. -/
def Terminates (asserts : Entries → Json → Bool) (defs : Entries) (call : Json × Json) : Prop :=
  ∃ enough, ∀ fuel, enough ≤ fuel → (evaluate defs asserts fuel call.1 call.2).isSome

/-- What terminates one by one terminates within one allowance. -/
theorem terminates_all {list : List (Json × Json)}
    (each : ∀ call ∈ list, Terminates asserts defs call) :
    ∃ enough, ∀ call ∈ list, ∀ fuel, enough ≤ fuel →
      (evaluate defs asserts fuel call.1 call.2).isSome := by
  induction list with
  | nil => exact ⟨0, by simp⟩
  | cons first rest ih =>
    obtain ⟨here, evaluates⟩ := each first List.mem_cons_self
    obtain ⟨later, others⟩ := ih fun call member => each call (List.mem_cons_of_mem _ member)
    refine ⟨max here later, fun call member fuel enough => ?_⟩
    rcases List.mem_cons.mp member with rfl | tail
    · exact evaluates fuel (by omega)
    · exact others call tail fuel (by omega)

/-- Evaluation terminates where references lower a rank. -/
theorem evaluate_terminates (lowers : Ranked.LowersRank (RefersTo defs) rank)
    (schema instance' : Json) : Terminates asserts defs (schema, instance') := by
  cases schema with
  | obj entries =>
    -- Everything that is evaluated next comes before, and so terminates.
    have next : ∀ call ∈ calls defs entries instance', Terminates asserts defs call :=
      fun call member =>
        have before := calls_before lowers member
        evaluate_terminates lowers call.1 call.2
    obtain ⟨enough, each⟩ := terminates_all next
    refine ⟨enough + 1, fun fuel above => ?_⟩
    obtain ⟨less, rfl⟩ : ∃ less, fuel = less + 1 := ⟨fuel - 1, by omega⟩
    exact evaluateWith_isSome fun call member => each call member less (by omega)
  | null | bool | int | float | str | arr =>
    refine ⟨1, fun fuel above => ?_⟩
    obtain ⟨less, rfl⟩ : ∃ less, fuel = less + 1 := ⟨fuel - 1, by omega⟩
    rfl
  termination_by (sizeOf instance', level rank defs schema, sizeOf schema)
  decreasing_by
    rcases before with smaller | ⟨same, lower | ⟨level, smaller⟩⟩
    · exact Prod.Lex.left _ _ smaller
    · rw [same]
      exact Prod.Lex.right _ (Prod.Lex.left _ _ lower)
    · rw [same]
      refine Prod.Lex.right _ ?_
      rcases Nat.lt_or_eq_of_le level with lower | equal
      · exact Prod.Lex.left _ _ lower
      · rw [equal]
        exact Prod.Lex.right _ smaller

end Termination

section Conversion

/-- An item is a sequence of a hashable key and a value. -/
def IsPair (item : Json) : Prop := ∃ key value, elements item = some [key, value] ∧
  (∀ items, key ≠ .arr items) ∧ ∀ entries, key ≠ .obj entries

/-- An item is a sequence of another length. -/
def IsOdd (item : Json) : Prop := ∃ parts, elements item = some parts ∧ parts.length ≠ 2

/-- What `dict` takes or refuses with a `ValueError`: an object, or a sequence in which whatever is no
sequence or has no hashable key comes after an item of another length than two. -/
def Convertible (schema : Json) : Prop :=
  (∃ entries, schema = .obj entries) ∨ ∃ items, elements schema = some items ∧
    Shielded (fun item => ¬ IsPair item ∧ ¬ IsOdd item) IsOdd items

/-- An item is read as a pair, or refused for its length, or cannot be taken at all. -/
theorem pairOf_ends (index : Nat) (item : Json) :
    Ends (fun error => ¬ IsPair item ∧ (IsValueError error ↔ IsOdd item)) (fun _ => IsPair item)
      (pairOf index item) := by
  have untaken {α : Type} {message : String} {key value : Json} (taken : elements item = some [key, value])
      (keyed : ¬ IsPair item) : Ends (fun error => ¬ IsPair item ∧ (IsValueError error ↔ IsOdd item))
        (fun _ => IsPair item) (.error (.typeError message) : Except ProfileError α) := by
    refine ⟨keyed, iff_of_false ?_ ?_⟩
    · rintro ⟨_, same⟩
      cases same
    · rintro ⟨parts, other, odd⟩
      cases taken.symm.trans other
      exact odd rfl
  unfold pairOf
  split
  next none =>
    refine ⟨?_, iff_of_false ?_ ?_⟩
    · rintro ⟨key, value, some, -⟩
      cases none.symm.trans some
    · rintro ⟨_, same⟩
      cases same
    · rintro ⟨parts, some, -⟩
      cases none.symm.trans some
  next items value taken =>
    refine untaken taken ?_
    rintro ⟨key, other, same, list, -⟩
    cases taken.symm.trans same
    exact list _ rfl
  next entries value taken =>
    refine untaken taken ?_
    rintro ⟨key, other, same, -, object⟩
    cases taken.symm.trans same
    exact object _ rfl
  next key value list object taken => exact ⟨key, value, taken, list, object⟩
  next parts list object two taken =>
    have odd : parts.length ≠ 2 := by
      intro length
      obtain ⟨key, value, rfl⟩ := List.length_eq_two.mp length
      exact two key value rfl
    refine ⟨?_, iff_of_true ⟨_, rfl⟩ ⟨parts, taken, odd⟩⟩
    rintro ⟨key, value, same, -⟩
    cases taken.symm.trans same
    exact odd rfl

/-- Items are stored as pairs, unless one of them is refused for its length or cannot be taken. -/
theorem dictFrom_ends (items : List Json) (index : Nat) (dict : Dict) :
    Ends (fun error => IsValueError error ↔
        Shielded (fun item => ¬ IsPair item ∧ ¬ IsOdd item) IsOdd items)
      (fun _ => Shielded (fun item => ¬ IsPair item ∧ ¬ IsOdd item) IsOdd items)
      (dictFrom index dict items) := by
  induction items generalizing index dict with
  | nil => exact shielded_of_quiet (by simp)
  | cons item rest ih =>
    unfold dictFrom
    have ends := pairOf_ends index item
    rw [shielded_cons]
    cases read : pairOf index item with
    | error error =>
      rw [read] at ends
      obtain ⟨unpaired, odd⟩ := ends
      show IsValueError error ↔ _
      simp only [unpaired, not_false_iff, true_and, not_not, odd]
      exact ⟨fun odd => ⟨odd, .inl odd⟩, fun shield => shield.1⟩
    | ok entry =>
      rw [read] at ends
      have paired : IsPair item := ends
      have even : ¬ IsOdd item := by
        rintro ⟨parts, taken, odd⟩
        obtain ⟨key, value, same, -⟩ := paired
        cases taken.symm.trans same
        exact odd rfl
      simpa only [ok_bind, paired, even, not_true, false_and, not_false_iff, true_and, false_or] using
        ih (index + 1) (store entry.1 entry.2 dict)

/-- A document is converted, or refused with a `ValueError`, when it is convertible. -/
theorem dictOf_ends (schema : Json) :
    Ends (fun error => IsValueError error ↔ Convertible schema) (fun _ => Convertible schema)
      (dictOf schema) := by
  unfold dictOf
  split
  next entries => exact .inl ⟨entries, rfl⟩
  next object =>
    have same : Convertible schema ↔ ∃ items, elements schema = some items ∧
        Shielded (fun item => ¬ IsPair item ∧ ¬ IsOdd item) IsOdd items :=
      or_iff_right fun entries => entries.elim object
    rw [same]
    split
    next none =>
      refine iff_of_false ?_ ?_
      · rintro ⟨_, same⟩
        cases same
      · rintro ⟨items, some, -⟩
        cases none.symm.trans some
    next items taken => simpa [taken] using dictFrom_ends items 0 []

end Conversion

section Profile

variable (rendering : Rendering) (checkSchema : Dict → Option String)
  (asserts : Entries → Json → Bool)

/-- A document is validated soundly: it is accepted or refused with a `ValueError`, and once it is
accepted, evaluation terminates on every instance, and no chain of references returns to itself
without consuming a part of the instance. -/
structure Sound (schema : Json) : Prop where
  total : validateSchemaProfile rendering checkSchema schema = .ok () ∨
    ∃ message, validateSchemaProfile rendering checkSchema schema = .error (.valueError message)
  terminates : validateSchemaProfile rendering checkSchema schema = .ok () →
    ∀ value, dictOf schema = .ok value → ∀ instance', ∃ enough, ∀ fuel, enough ≤ fuel →
      (evaluate (rootDefs (textEntries value)) asserts fuel (.obj (textEntries value))
        instance').isSome
  grounded : validateSchemaProfile rendering checkSchema schema = .ok () →
    ∀ value, dictOf schema = .ok value →
      Ranked.Acyclic (RefersTo (rootDefs (textEntries value)))

/-- A dictionary has nothing at any place that is against the profile. -/
def Proper (value : Dict) : Prop :=
  ∀ site ∈ sites value, ¬ site.Wrong (rootDefs (textEntries value))

/-- When a document is validated soundly: `dict` can take it; in the order of the walk, a type that is
an array or an object, or unknown keys of the root that cannot be ordered, come after something else
that is wrong; and if nothing is wrong, the meta-schema admits the document and its definitions do
not refer to each other in a circle. -/
structure Checkable (schema : Json) : Prop where
  convertible : Convertible schema
  hashable : ∀ value, dictOf schema = .ok value →
    Shielded Site.Raises (Site.Wrong (rootDefs (textEntries value))) (sites value)
  described : ∀ value, dictOf schema = .ok value → Proper value → checkSchema value = none
  acyclic : ∀ value, dictOf schema = .ok value → Proper value →
    Ranked.Acyclic (RefersTo (rootDefs (textEntries value)))

variable {rendering checkSchema asserts} {schema : Json}

/-- The checks of a proper dictionary pass; those of another one raise a `ValueError` exactly when its
wrong places are ordered so. -/
theorem checks_end (rendering : Rendering) (value : Dict) :
    Ends (fun error => ¬ Proper value ∧ (IsValueError error ↔
        Shielded Site.Raises (Site.Wrong (rootDefs (textEntries value))) (sites value)))
      (fun _ => Proper value)
      (runChecks ((sites value).map (Site.check rendering (rootDefs (textEntries value))))) := by
  have walked := walk_ends rendering (rootDefs (textEntries value)) (sites value)
  simpa [Proper] using walked

/-- A document is accepted when it is converted to a proper dictionary that the meta-schema admits. -/
theorem validateSchemaProfile_ok : validateSchemaProfile rendering checkSchema schema = .ok () ↔
    ∃ value, dictOf schema = .ok value ∧ Proper value ∧ checkSchema value = none := by
  simp only [validateSchemaProfile, bind_ok]
  refine exists_congr fun value => and_congr_right fun _ => ?_
  have ends := checks_end rendering value
  cases found : checkSchema value with
  | some message =>
    refine iff_of_false ?_ (by simp)
    rintro ⟨_, -, raised⟩
    exact throw_ok raised
  | none =>
    constructor
    · rintro ⟨_, passed, -⟩
      exact ⟨ends.result passed, rfl⟩
    · rintro ⟨proper, -⟩
      cases ran : runChecks ((sites value).map (Site.check rendering (rootDefs (textEntries value))))
      case ok => exact ⟨(), rfl, rfl⟩
      case error => exact absurd proper (ends.raised ran).1

/-- References to definitions lead to finitely many names. -/
theorem refersTo_listed (defs : Entries) :
    ∀ name target, RefersTo defs name target → target ∈ defs.map Prod.fst := by
  rintro name target ⟨-, known⟩
  clear name
  induction defs with
  | nil => cases known
  | cons entry rest ih =>
    obtain ⟨key, value⟩ := entry
    unfold lookup at known
    split at known
    · rename_i same
      exact same ▸ List.mem_cons_self
    · exact List.mem_cons_of_mem _ (ih known)

theorem validate_unconverted {error : ProfileError} (raised : dictOf schema = .error error) :
    validateSchemaProfile rendering checkSchema schema = .error error := by
  simp only [validateSchemaProfile, raised]
  rfl

theorem validate_refused {value : Dict} {error : ProfileError}
    (converted : dictOf schema = .ok value)
    (raised : runChecks ((sites value).map
      (Site.check rendering (rootDefs (textEntries value)))) = .error error) :
    validateSchemaProfile rendering checkSchema schema = .error error := by
  simp only [validateSchemaProfile, converted, ok_bind, raised]
  rfl

/-- A soundly validated document is checkable. -/
theorem Sound.checkable (sound : Sound rendering checkSchema asserts schema) :
    Checkable checkSchema schema := by
  have refusal : ∀ error, validateSchemaProfile rendering checkSchema schema = .error error →
      IsValueError error := by
    intro error raised
    rcases sound.total with accepted | ⟨message, refused⟩
    · rw [accepted] at raised
      cases raised
    · rw [refused] at raised
      cases raised
      exact ⟨message, rfl⟩
  have described : ∀ value, dictOf schema = .ok value → Proper value → checkSchema value = none := by
    intro value converted proper
    cases found : checkSchema value with
    | none => rfl
    | some message =>
      -- The meta-schema would raise an exception of its own.
      cases ran : runChecks ((sites value).map
          (Site.check rendering (rootDefs (textEntries value)))) with
      | error error => exact absurd proper ((checks_end rendering value).raised ran).1
      | ok passed =>
        have raised : validateSchemaProfile rendering checkSchema schema =
            .error (.schemaError message) := by
          simp only [validateSchemaProfile, converted, ok_bind, ran, found]
          rfl
        obtain ⟨_, other⟩ := refusal _ raised
        cases other
  refine ⟨?_, fun value converted => ?_, described, fun value converted proper => ?_⟩
  · have ends := dictOf_ends schema
    cases converted : dictOf schema with
    | ok value => exact ends.result converted
    | error error =>
      exact (ends.raised converted).mp (refusal error (validate_unconverted converted))
  · have ends := checks_end rendering value
    cases ran : runChecks ((sites value).map
        (Site.check rendering (rootDefs (textEntries value)))) with
    | ok passed => exact shielded_of_quiet fun site member raises =>
        ends.result ran site member raises.wrong
    | error error =>
      exact (ends.raised ran).2.mp (refusal error (validate_refused converted ran))
  · exact sound.grounded (validateSchemaProfile_ok.mpr
      ⟨value, converted, proper, described value converted proper⟩) value converted

/-- A checkable document is accepted or refused with a `ValueError`. -/
theorem Checkable.total (checkable : Checkable checkSchema schema) :
    validateSchemaProfile rendering checkSchema schema = .ok () ∨
      ∃ message, validateSchemaProfile rendering checkSchema schema =
        .error (.valueError message) := by
  cases converted : dictOf schema with
  | error error =>
    obtain ⟨message, rfl⟩ := ((dictOf_ends schema).raised converted).mpr checkable.convertible
    exact .inr ⟨message, validate_unconverted converted⟩
  | ok value =>
    have ends := checks_end rendering value
    cases ran : runChecks ((sites value).map
        (Site.check rendering (rootDefs (textEntries value)))) with
    | error error =>
      obtain ⟨message, rfl⟩ := (ends.raised ran).2.mpr (checkable.hashable value converted)
      exact .inr ⟨message, validate_refused converted ran⟩
    | ok passed =>
      have proper := ends.result ran
      exact .inl (validateSchemaProfile_ok.mpr
        ⟨value, converted, proper, checkable.described value converted proper⟩)

/-- A schema document is validated soundly exactly when it is checkable. -/
theorem schema_profile_exact : Sound rendering checkSchema asserts schema ↔
    Checkable checkSchema schema := by
  constructor
  · exact Sound.checkable
  · intro checkable
    have acyclic : validateSchemaProfile rendering checkSchema schema = .ok () →
        ∀ value, dictOf schema = .ok value →
          Ranked.Acyclic (RefersTo (rootDefs (textEntries value))) := by
      intro accepted value converted
      obtain ⟨found, same, proper, -⟩ := validateSchemaProfile_ok.mp accepted
      cases converted.symm.trans same
      exact checkable.acyclic value converted proper
    refine ⟨checkable.total, fun accepted value converted instance' => ?_, acyclic⟩
    -- Definitions that do not refer to each other in a circle can be ranked.
    obtain ⟨rank, lowers⟩ :=
      (Ranked.acyclic_iff (refersTo_listed _)).mp (acyclic accepted value converted)
    exact evaluate_terminates lowers _ instance'

end Profile

section Samples

/-- Messages without the values they are about. -/
def Sample.rendering : Rendering :=
  { repr := fun _ => "value", sortedKeys := fun _ => "keys", unordered := fun _ => "unordered" }

/-- A document whose type is a list. -/
def Sample.listType : Json := .obj [(pyString "type", .arr [])]

/-- A reference to a definition. -/
def Sample.reference : Json := .obj [(pyString "$ref", .str (pyString "#/$defs/a"))]

/-- A document with a definition that is only a reference to itself. -/
def Sample.circular : Json :=
  .obj [(pyString "$ref", .str (pyString "#/$defs/a")),
    (pyString "$defs", .obj [(pyString "a", Sample.reference)])]

/-- The definitions of the circular document. -/
def Sample.circularDefs : Entries := [(pyString "a", Sample.reference)]

/-- A node that refers to a definition that refers to itself is evaluated without end. -/
theorem circular_endless (fuel : Nat) (instance' : Json) :
    ∀ node ∈ [Sample.reference, Sample.circular],
      evaluate Sample.circularDefs (fun _ _ => true) fuel node instance' = none := by
  induction fuel with
  | zero => intro node _; rfl
  | succ fuel ih =>
    -- Both nodes come to the definition first, which is evaluated with less.
    have below := ih Sample.reference List.mem_cons_self
    intro node member
    have called : ∃ rest entries, node = .obj entries ∧
        conjuncts Sample.circularDefs entries instance' =
          (Sample.reference, instance') :: rest := by
      simp only [List.mem_cons, List.not_mem_nil, or_false] at member
      rcases member with rfl | rfl <;> exact ⟨_, _, rfl, rfl⟩
    obtain ⟨rest, entries, rfl, first⟩ := called
    simp [evaluate, evaluateWith, first, List.mapM_cons, below]

/-- A list as a type raises a `TypeError`, and a circular document is accepted though its evaluation
never ends. -/
theorem schema_profile_exact_not :
    ¬ Sound Sample.rendering (fun _ => none) (fun _ _ => true) Sample.listType ∧
      ¬ Sound Sample.rendering (fun _ => none) (fun _ _ => true) Sample.circular ∧
      validateSchemaProfile Sample.rendering (fun _ => none) Sample.circular = .ok () := by
  have raised : validateSchemaProfile Sample.rendering (fun _ => none) Sample.listType =
      .error (.typeError "unhashable type: 'list'") := by decide +kernel
  have accepted :
      validateSchemaProfile Sample.rendering (fun _ => none) Sample.circular = .ok () := by
    decide +kernel
  refine ⟨fun sound => ?_, fun sound => ?_, accepted⟩
  · rcases sound.total with passed | ⟨message, refused⟩
    · rw [raised] at passed
      cases passed
    · rw [raised] at refused
      cases refused
  · obtain ⟨enough, evaluates⟩ := sound.terminates accepted _ rfl .null
    have ends : (evaluate Sample.circularDefs (fun _ _ => true) enough Sample.circular
        .null).isSome := evaluates enough (Nat.le_refl _)
    rw [circular_endless enough .null Sample.circular (by simp)] at ends
    cases ends

end Samples

end Aar.SchemaProfile
