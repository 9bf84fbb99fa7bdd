import Aar.Lib.Guarded

/-! The bounded pattern subset of embedded schemas, and the part of `re.compile` it reaches. -/

namespace Aar.SchemaProfile

open Guarded

/-- What the checks of a schema document raise. -/
inductive ProfileError where
  | valueError (message : String)
  | typeError (message : String)
  | schemaError (message : String)
  deriving DecidableEq

section Characters

/-- The longest pattern that is read. -/
def maxPatternLength : Nat := 256

/-- The largest repetition that a quantifier may name. -/
def maxRepeat : Nat := 64

/-- The characters that a backslash may stand before. -/
def escapableLiterals : List Char :=
  ['\\', '.', '^', '$', '*', '+', '?', '{', '}', '[', ']', '(', ')', '|']

/-- The characters that are no atoms by themselves. -/
def forbiddenAtomChars : List Char :=
  ['.', '^', '$', '*', '+', '?', '{', '}', '[', ']', '(', ')', '|']

/-- A printable ASCII character. -/
def Printable (character : Char) : Prop := 0x20 ≤ character.toNat ∧ character.toNat ≤ 0x7E

instance (character : Char) : Decidable (Printable character) :=
  inferInstanceAs (Decidable (_ ∧ _))

/-- What stands before the first closing character and what stands after it, as `find` tells. -/
def splitAtClosing (closing : Char) (text : List Char) : Option (List Char × List Char) :=
  match text.dropWhile (· ≠ closing) with
  | [] => none
  | _ :: after => some (text.takeWhile (· ≠ closing), after)

/-- The value of decimal digits, as `int` reads them. -/
def decimal (digits : List Char) : Nat :=
  digits.foldl (fun value digit => value * 10 + (digit.toNat - 48)) 0

end Characters

section Scanner

/-- The items of a class: single characters and ascending ranges. -/
def checkClassItems : List Char → Except ProfileError Unit
  | [] => .ok ()
  | '-' :: _ => .error (.valueError "schema regex class has a bare hyphen")
  | [_, '-'] => .error (.valueError "schema regex class range is incomplete")
  | start :: '-' :: finish :: rest =>
    if finish = '-' ∨ finish.toNat < start.toNat then
      .error (.valueError "schema regex class range is invalid")
    else checkClassItems rest
  | _ :: rest => checkClassItems rest

-- The characters are decided along the list, never by going through all of `Char`.
local instance decidableAmong (content : List Char) (holds : Char → Prop) [DecidablePred holds] :
    Decidable (∀ character ∈ content, holds character) := List.decidableBAll holds content

/-- `_validate_positive_class`. -/
def validatePositiveClass (content : List Char) : Except ProfileError Unit := do
  require (content ≠ [] ∧ content.head? ≠ some '^')
    (.valueError "schema regex class must be positive and non-empty")
  require (∀ character ∈ content, Printable character)
    (.valueError "schema regex class must contain printable ASCII")
  require (∀ character ∈ content, character ∉ ['\\', '[', ']', '^'])
    (.valueError "schema regex class escape or nesting is forbidden")
  checkClassItems content

/-- `_consume_atom`: what follows the atom that a character begins. -/
def consumeAtom (character : Char) (rest : List Char) : Except ProfileError (List Char) :=
  if character = '\\' then
    match rest with
    | escaped :: after =>
      if escaped ∈ escapableLiterals then .ok after
      else .error (.valueError "schema regex escape is not portable")
    | [] => .error (.valueError "schema regex escape is not portable")
  else if character = '[' then
    match splitAtClosing ']' rest with
    | none => .error (.valueError "schema regex class is unterminated")
    | some (content, after) => do
      validatePositiveClass content
      return after
  else if character ∈ forbiddenAtomChars then
    .error (.valueError "schema regex construct is forbidden")
  else if ¬ Printable character then
    .error (.valueError "schema regex literal must be printable ASCII")
  else .ok rest

/-- One or two decimal digits. -/
def Digits (text : List Char) : Prop :=
  1 ≤ text.length ∧ text.length ≤ 2 ∧ ∀ character ∈ text, character.isDigit

instance (text : List Char) : Decidable (Digits text) := inferInstanceAs (Decidable (_ ∧ _ ∧ _))

/-- The two groups of `([0-9]{1,2})(?:,([0-9]{1,2}))?`, when it matches all of a text. -/
def matchRepeat (text : List Char) : Option (List Char × Option (List Char)) :=
  let first := text.takeWhile Char.isDigit
  if Digits first then
    match text.dropWhile Char.isDigit with
    | [] => some (first, none)
    | ',' :: second => if Digits second then some (first, some second) else none
    | _ => none
  else none

/-- `_consume_optional_quantifier`: what follows it, and whether there was one. -/
def consumeOptionalQuantifier (text : List Char) : Except ProfileError (List Char × Bool) :=
  match text with
  | [] => .ok ([], false)
  | '?' :: rest => .ok (rest, true)
  | '{' :: rest =>
    match splitAtClosing '}' rest with
    | none => .error (.valueError "schema regex repeat is unterminated")
    | some (content, after) =>
      match matchRepeat content with
      | none => .error (.valueError "schema regex repeat must be finite")
      | some (first, second) =>
        let minimum := decimal first
        let maximum := decimal (second.getD first)
        if maximum < minimum ∨ maxRepeat < maximum then
          .error (.valueError "schema regex repeat exceeds bounded profile")
        else .ok (after, true)
  | _ => .ok (text, false)

/-- What follows a closing character is shorter than the text. -/
theorem splitAtClosing_length {closing : Char} {text content after : List Char}
    (split : splitAtClosing closing text = some (content, after)) :
    after.length < text.length := by
  unfold splitAtClosing at split
  have suffix : (text.dropWhile (· ≠ closing)).length ≤ text.length :=
    List.Sublist.length_le (List.dropWhile_sublist _)
  cases dropped : text.dropWhile (· ≠ closing) with
  | nil =>
    rw [dropped] at split
    cases split
  | cons found rest =>
    rw [dropped] at split suffix
    cases split
    exact Nat.lt_of_lt_of_le (Nat.lt_succ_self _) suffix

/-- An atom leaves at most what follows its first character. -/
theorem consumeAtom_length {character : Char} {rest after : List Char}
    (consumed : consumeAtom character rest = .ok after) : after.length ≤ rest.length := by
  unfold consumeAtom at consumed
  split at consumed
  · split at consumed
    · split at consumed
      · cases consumed
        exact Nat.le_succ _
      · cases consumed
    · cases consumed
  · split at consumed
    · split at consumed
      · cases consumed
      · next split' =>
        simp only [bind_ok, pure_ok] at consumed
        obtain ⟨-, -, rfl⟩ := consumed
        exact Nat.le_of_lt (splitAtClosing_length split')
    · split at consumed
      · cases consumed
      · split at consumed
        · cases consumed
        · cases consumed
          exact Nat.le_refl _

/-- A quantifier leaves at most the text it is looked for in. -/
theorem consumeOptionalQuantifier_length {text next : List Char} {quantified : Bool}
    (consumed : consumeOptionalQuantifier text = .ok (next, quantified)) :
    next.length ≤ text.length := by
  unfold consumeOptionalQuantifier at consumed
  split at consumed
  · cases consumed
    exact Nat.le_refl _
  · cases consumed
    exact Nat.le_succ _
  · split at consumed
    · cases consumed
    · next split' =>
      split at consumed
      · cases consumed
      · dsimp only at consumed
        split at consumed
        · cases consumed
        · cases consumed
          exact Nat.le_of_lt (Nat.lt_succ_of_lt (splitAtClosing_length split'))
  · cases consumed
    exact Nat.le_refl _

/-- The loop over the atoms of a pattern, with the number of quantified ones so far. -/
def scanAtoms (quantifiedAtoms : Nat) : List Char → Except ProfileError Unit
  | [] => .ok ()
  | character :: rest =>
    match consumed : consumeAtom character rest with
    | .error error => .error error
    | .ok after =>
      match scanned : consumeOptionalQuantifier after with
      | .error error => .error error
      | .ok (next, quantified) =>
        if 1 < quantifiedAtoms + quantified.toNat then
          .error (.valueError "schema regex permits at most one quantified atom")
        else
          have : next.length < rest.length + 1 := Nat.lt_succ_of_le
            (Nat.le_trans (consumeOptionalQuantifier_length scanned)
              (consumeAtom_length consumed))
          scanAtoms (quantifiedAtoms + quantified.toNat) next
  termination_by text => text.length

end Scanner

section Compile

/-- What a quantifier would apply to. -/
inductive LastItem where
  | nothing | anchor | item | repeated
  deriving DecidableEq

/-- Only an item that is not repeated yet may be repeated. -/
def LastItem.repeats : LastItem → Except String Unit
  | .item => .ok ()
  | .repeated => .error "multiple repeat"
  | _ => .error "nothing to repeat"

/-- The rest of a character set after what has been read of it; escapes in sets are left out. -/
def compileSet (empty : Bool) : List Char → Except String (List Char)
  | [] => .error "unterminated character set"
  | low :: rest =>
    -- A closing bracket at the start of a set stands for itself.
    if low = ']' ∧ empty = false then .ok rest
    else if low = '\\' then .error "bad escape"
    else
      match rest with
      | ['-'] => .error "unterminated character set"
      | '-' :: ']' :: after => .ok after
      | '-' :: high :: after =>
        if high = '\\' ∨ high.toNat < low.toNat then .error "bad character range"
        else compileSet false after
      | after => compileSet false after
  termination_by text => text.length

/-- What follows a set is shorter than the text. -/
theorem compileSet_length {empty : Bool} {text after : List Char}
    (compiled : compileSet empty text = .ok after) : after.length < text.length := by
  fun_induction compileSet empty text with
  | case1 => cases compiled
  | case2 => cases compiled; simp
  | case3 => cases compiled
  | case4 => cases compiled
  | case5 => cases compiled; simp; omega
  | case6 => cases compiled
  | case7 _ _ _ _ _ _ _ _ ih =>
    have := ih compiled
    simp only [List.length_cons]
    omega
  | case8 _ _ _ _ _ _ _ _ ih =>
    have := ih compiled
    simp only [List.length_cons]
    omega

/-- The digits of the two bounds of a repetition, which may be empty, and what follows them. -/
def repeatBounds (text : List Char) : List Char × List Char × List Char :=
  let low := text.takeWhile Char.isDigit
  match text.dropWhile Char.isDigit with
  | ',' :: rest => (low, rest.takeWhile Char.isDigit, rest.dropWhile Char.isDigit)
  | rest => (low, low, rest)

/-- The bounds leave at most the text they are read from. -/
theorem repeatBounds_length (text : List Char) : (repeatBounds text).2.2.length ≤ text.length := by
  have first : (text.dropWhile Char.isDigit).length ≤ text.length :=
    List.Sublist.length_le (List.dropWhile_sublist _)
  unfold repeatBounds
  dsimp only
  split
  · next rest dropped =>
    have second : (rest.dropWhile Char.isDigit).length ≤ rest.length :=
      List.Sublist.length_le (List.dropWhile_sublist _)
    rw [dropped, List.length_cons] at first
    exact Nat.le_trans second (Nat.le_of_succ_le first)
  · exact first

/-- A repetition in braces: nothing when the brace stands for itself, else what follows it. -/
def compileRepeat (text : List Char) : Option (Except String (List Char)) :=
  if text.head? = some '}' then none
  else
    let (low, high, rest) := repeatBounds text
    match rest with
    | '}' :: after =>
      if 4294967295 ≤ decimal low ∨ 4294967295 ≤ decimal high then
        some (.error "the repetition number is too large")
      else if high ≠ [] ∧ decimal high < decimal low then
        some (.error "min repeat greater than max repeat")
      else some (.ok after)
    | _ => none

/-- What follows a quantifier and the mark that makes it lazy or possessive. -/
def compileMark : List Char → List Char
  | '?' :: rest => rest
  | '+' :: rest => rest
  | rest => rest

/-- What follows a repetition is shorter than the text. -/
theorem compileRepeat_length {text after : List Char}
    (compiled : compileRepeat text = some (.ok after)) : after.length < text.length := by
  have within := repeatBounds_length text
  unfold compileRepeat at compiled
  split at compiled
  · cases compiled
  · rcases bounds : repeatBounds text with ⟨low, high, rest⟩
    simp only [bounds] at compiled within
    split at compiled
    · split at compiled
      · cases compiled
      · split at compiled
        · cases compiled
        · cases compiled
          exact within
    · cases compiled

/-- A mark that is skipped leaves at most the text it is looked for in. -/
theorem compileMark_length (text : List Char) : (compileMark text).length ≤ text.length := by
  unfold compileMark
  split
  · exact Nat.le_succ _
  · exact Nat.le_succ _
  · exact Nat.le_refl _

/-- Skip a negation mark. -/
def compileNegation : List Char → List Char
  | '^' :: rest => rest
  | rest => rest

/-- A negation mark that is skipped leaves at most the text it is looked for in. -/
theorem compileNegation_length (text : List Char) :
    (compileNegation text).length ≤ text.length := by
  unfold compileNegation
  split
  · exact Nat.le_succ _
  · exact Nat.le_refl _

/--
`re.compile`, as far as the profile reaches it.

Groups and the escapes of letters and digits are left out: they are refused here.
-/
def compile (last : LastItem) : List Char → Except String Unit
  | [] => .ok ()
  | '\\' :: [] => .error "bad escape (end of pattern)"
  | '\\' :: escaped :: rest =>
    if escaped.isAlphanum then .error "bad escape" else compile .item rest
  | '[' :: rest =>
    match compiled : compileSet true (compileNegation rest) with
    | .error error => .error error
    | .ok after =>
      have := Nat.lt_of_lt_of_le (compileSet_length compiled) (compileNegation_length rest)
      compile .item after
  | '|' :: rest => compile .nothing rest
  | '^' :: rest => compile .anchor rest
  | '$' :: rest => compile .anchor rest
  | '(' :: _ => .error "groups are left out"
  | ')' :: _ => .error "unbalanced parenthesis"
  | character :: rest =>
    if character ∈ ['*', '+', '?'] then
      have := compileMark_length rest
      match last.repeats with
      | .error error => .error error
      | .ok _ => compile .repeated (compileMark rest)
    else if character = '{' then
      match compiled : compileRepeat rest with
      | none => compile .item rest
      | some (.error error) => .error error
      | some (.ok after) =>
        have := Nat.lt_of_le_of_lt (compileMark_length after) (compileRepeat_length compiled)
        match last.repeats with
        | .error error => .error error
        | .ok _ => compile .repeated (compileMark after)
    else compile .item rest
  termination_by text => text.length

/-- What follows the anchor of a pattern. -/
def patternBody : List Char → List Char
  | '^' :: rest => rest
  | text => text

/-- The checks of `validate_portable_pattern` before it compiles the pattern. -/
def scanPattern (pattern : String) : Except ProfileError Unit := do
  require (pattern.length ≤ maxPatternLength) (.valueError "schema pattern invalid")
  require (pattern.toList.all fun character => character.toNat < 128)
    (.valueError "schema pattern must be ASCII")
  require (patternBody pattern.toList ≠ []) (.valueError "schema pattern must contain an atom")
  scanAtoms 0 (patternBody pattern.toList)

/-- `validate_portable_pattern`, on a text. -/
def validatePortablePattern (pattern : String) : Except ProfileError Unit := do
  scanPattern pattern
  (compile .nothing pattern.toList).mapError fun error =>
    .valueError ("schema regex invalid: " ++ error)

end Compile

end Aar.SchemaProfile
