import Aar.Lib.JsonScanner
import Mathlib.Data.List.TakeWhile

/-! The grammar of strict JSON texts, and that the scanner reads exactly what it derives. -/

namespace StrictJson

open Guarded Utf8

section Grammar

/-- Characters between the parts of a value. -/
def Blanks (input : Text) : Prop := ∀ point ∈ input, Blank point

/-- The written parts of a string. -/
inductive Pieces : List Piece → Text → Prop where
  | nil : Pieces [] []
  | plain {point : Code} {pieces : List Piece} {written : Text}
      (plain : 0x20 ≤ point.val ∧ point.val ≠ 0x22 ∧ point.val ≠ 0x5c)
      (rest : Pieces pieces written) : Pieces (.point point :: pieces) (point :: written)
  | short {letter escaped : Code} {pieces : List Piece} {written : Text}
      (escape : shortEscape letter = some escaped) (rest : Pieces pieces written) :
      Pieces (.point escaped :: pieces) (0x5c :: letter :: written)
  | unit {first second third fourth : Code} {unit : Nat} {pieces : List Piece} {written : Text}
      (digits : hexUnit first second third fourth = some unit) (rest : Pieces pieces written) :
      Pieces (.unit unit :: pieces) (0x5c :: 0x75 :: first :: second :: third :: fourth :: written)

/-- A string as it is written between its quotes. -/
def StringText (content written : Text) : Prop :=
  ∃ pieces, Pieces pieces written ∧ join pieces = content

/-- The digits of a natural number, without zeros at the start. -/
structure Natural (digits : Text) : Prop where
  some_digits : digits ≠ []
  each : ∀ point ∈ digits, Digit point
  no_zeros : ∀ point ∈ digits.head?, point.val = 0x30 → digits = [point]

/-- An integer as it is written. -/
inductive IntLiteral : Text → Prop where
  | natural {digits : Text} (natural : Natural digits) : IntLiteral digits
  | minus {digits : Text} (natural : Natural digits) : IntLiteral (0x2d :: digits)

/-- The number that digits are for. -/
def digitsValue (digits : Text) : Nat :=
  digits.foldl (fun sofar digit => 10 * sofar + (digit.val - 0x30)) 0

/-- `int`: the number that a literal is for. -/
def literalValue (literal : Text) : Int :=
  match literal with
  | [] => 0
  | point :: rest => if point.val = 0x2d then -(digitsValue rest) else digitsValue (point :: rest)

/-- A key as it is written, up to the value under it. -/
def KeyText (key written : Text) : Prop :=
  ∃ content before after, StringText key content ∧ Blanks before ∧ Blanks after ∧
    written = 0x22 :: (content ++ 0x22 :: (before ++ 0x3a :: after))

mutual

/-- A text is a JSON value whose integers are admissible and whose keys are distinct. -/
inductive Writes (admits : Text → Prop) : Value → Text → Prop where
  | null : Writes admits .null (text "null")
  | true : Writes admits (.bool true) (text "true")
  | false : Writes admits (.bool false) (text "false")
  | int {literal : Text} (integer : IntLiteral literal) (admitted : admits literal) :
      Writes admits (.int (literalValue literal)) literal
  | str {content written : Text} (string : StringText content written) :
      Writes admits (.str content) (0x22 :: (written ++ [0x22]))
  | noItems {between : Text} (blanks : Blanks between) :
      Writes admits (.arr []) (0x5b :: (between ++ [0x5d]))
  | items {items : List Value} {written : Text} (each : WritesItems admits items written) :
      Writes admits (.arr items) (0x5b :: (written ++ [0x5d]))
  | noEntries {between : Text} (blanks : Blanks between) :
      Writes admits (.obj []) (0x7b :: (between ++ [0x7d]))
  | entries {entries : List (Text × Value)} {written : Text}
      (distinct : (entries.map Prod.fst).Nodup) (members : WritesMembers admits entries written) :
      Writes admits (.obj entries) (0x7b :: (written ++ [0x7d]))

/-- A text is the items of an array with the commas between them. -/
inductive WritesItems (admits : Text → Prop) : List Value → Text → Prop where
  | one {item : Value} {before written after : Text} (leading : Blanks before)
      (value : Writes admits item written) (trailing : Blanks after) :
      WritesItems admits [item] (before ++ (written ++ after))
  | more {item : Value} {before written after rest : Text} {items : List Value}
      (leading : Blanks before) (value : Writes admits item written) (trailing : Blanks after)
      (others : WritesItems admits items rest) :
      WritesItems admits (item :: items) (before ++ (written ++ (after ++ 0x2c :: rest)))

/-- A text is the entries of an object with the commas between them. -/
inductive WritesMembers (admits : Text → Prop) : List (Text × Value) → Text → Prop where
  | one {key : Text} {item : Value} {before name written after : Text} (leading : Blanks before)
      (named : KeyText key name) (value : Writes admits item written) (trailing : Blanks after) :
      WritesMembers admits [(key, item)] (before ++ (name ++ (written ++ after)))
  | more {key : Text} {item : Value} {before name written after rest : Text}
      {entries : List (Text × Value)} (leading : Blanks before) (named : KeyText key name)
      (value : Writes admits item written) (trailing : Blanks after)
      (others : WritesMembers admits entries rest) :
      WritesMembers admits ((key, item) :: entries)
        (before ++ (name ++ (written ++ (after ++ 0x2c :: rest))))

end

/-- A text is one JSON value with blanks around it. -/
def JsonText (admits : Text → Prop) (value : Value) (input : Text) : Prop :=
  ∃ before written after, Blanks before ∧ Writes admits value written ∧ Blanks after ∧
    input = before ++ (written ++ after)

mutual

/-- How deep the arrays and objects of a value are nested. -/
def Value.depth : Value → Nat
  | .null | .bool _ | .int _ | .str _ => 0
  | .arr items => depthItems items + 1
  | .obj entries => depthEntries entries + 1

/-- How deep the items of an array are nested. -/
def depthItems : List Value → Nat
  | [] => 0
  | item :: rest => max item.depth (depthItems rest)

/-- How deep the values of an object are nested. -/
def depthEntries : List (Text × Value) → Nat
  | [] => 0
  | (_, item) :: rest => max item.depth (depthEntries rest)

end

/-- An object is nested no deeper than its values are. -/
theorem depthEntries_le {entries : List (Text × Value)} {depth : Nat}
    (shallow : ∀ entry ∈ entries, entry.2.depth ≤ depth) : depthEntries entries ≤ depth := by
  induction entries with
  | nil => exact Nat.zero_le depth
  | cons entry rest ih =>
    obtain ⟨first, others⟩ := List.forall_mem_cons.mp shallow
    exact max_le first (ih others)

end Grammar

section Blanks

variable {first second input : Text} {point : Code}

theorem Blanks.nil : Blanks [] := fun _ member => by cases member

theorem Blanks.append (one : Blanks first) (other : Blanks second) : Blanks (first ++ second) := by
  intro point member
  exact (List.mem_append.mp member).elim (one point) (other point)

/-- What is skipped is blank. -/
theorem skipBlank_split (input : Text) :
    ∃ before, Blanks before ∧ input = before ++ skipBlank input := by
  refine ⟨input.takeWhile fun point => Blank point, fun point member => ?_, ?_⟩
  · simpa using List.mem_takeWhile_imp member
  · exact List.takeWhile_append_dropWhile.symm

theorem skipBlank_append (blanks : Blanks first) :
    skipBlank (first ++ second) = skipBlank second :=
  List.dropWhile_append_of_pos fun point member => by simpa using blanks point member

theorem skipBlank_of_not (apart : ¬ Blank point) : skipBlank (point :: input) = point :: input := by
  simp [skipBlank, apart]

theorem skipBlank_eq_nil : skipBlank input = [] ↔ Blanks input := by
  simp [skipBlank, List.dropWhile_eq_nil_iff, Blanks]

end Blanks

section Strings

variable {input rest written : Text} {pieces : List Piece}

/-- A piece that is put first was written first. -/
theorem put_sound {piece : Piece} {after : Text} {scanned : Option (List Piece × Text)}
    {result : List Piece × Text} (found : put piece scanned = some result)
    (ih : ∀ {rest : Text} {pieces : List Piece}, scanned = some (pieces, rest) →
      ∃ written, Pieces pieces written ∧ after = written ++ 0x22 :: rest) :
    ∃ pieces written, result.1 = piece :: pieces ∧ Pieces pieces written ∧
      after = written ++ 0x22 :: result.2 := by
  obtain ⟨⟨pieces, rest⟩, scanned, rfl⟩ := Option.map_eq_some_iff.mp found
  obtain ⟨written, derived, same⟩ := ih scanned
  exact ⟨pieces, written, rfl, derived, same⟩

/-- Scanned pieces were written before the closing quote. -/
theorem scanPieces_sound (input : Text) : ∀ {rest : Text} {pieces : List Piece},
    scanPieces input = some (pieces, rest) →
      ∃ written, Pieces pieces written ∧ input = written ++ 0x22 :: rest := by
  -- Each step reads one piece; the others end the string or raise.
  fun_induction scanPieces input with
  | case2 point after closing =>
    intro rest pieces scanned
    obtain ⟨rfl, rfl⟩ := Prod.mk.inj (Option.some.inj scanned)
    obtain rfl : point = 0x22 := Fin.ext closing
    exact ⟨[], .nil, rfl⟩
  | case4 point _ slash letter isUnit first second third fourth after unit digits ih =>
    intro rest pieces scanned
    obtain ⟨others, written, same, derived, rfl⟩ := put_sound scanned ih
    obtain rfl : point = 0x5c := Fin.ext slash
    obtain rfl : letter = 0x75 := Fin.ext isUnit
    obtain rfl : pieces = .unit unit :: others := same
    exact ⟨_, .unit digits derived, rfl⟩
  | case7 point _ slash letter after _ escaped found ih =>
    intro rest pieces scanned
    obtain ⟨others, written, same, derived, rfl⟩ := put_sound scanned ih
    obtain rfl : point = 0x5c := Fin.ext slash
    obtain rfl : pieces = .point escaped :: others := same
    exact ⟨_, .short found derived, rfl⟩
  | case10 point after apart slash large ih =>
    intro rest pieces scanned
    obtain ⟨others, written, same, derived, rfl⟩ := put_sound scanned ih
    obtain rfl : pieces = .point point :: others := same
    exact ⟨_, .plain ⟨by omega, apart, slash⟩ derived, rfl⟩
  | case1 | case3 | case5 | case6 | case8 | case9 => exact fun scanned => by cases scanned

/-- Written pieces are scanned up to the closing quote. -/
theorem scanPieces_complete (derived : Pieces pieces written) :
    scanPieces (written ++ 0x22 :: rest) = some (pieces, rest) := by
  induction derived with
  | nil =>
    rw [List.nil_append, scanPieces.eq_def]
    exact if_pos rfl
  | plain plain _ ih =>
    obtain ⟨large, apart, slash⟩ := plain
    rw [List.cons_append, scanPieces.eq_def]
    simp only [apart, slash, if_false, ih, put, Option.map_some]
    rw [if_neg (by omega)]
  | @short letter escaped _ _ escape _ ih =>
    -- A letter with a meaning of its own is not the one that starts a code unit.
    have apart : letter.val ≠ 0x75 := by
      intro same
      have none_such : shortEscapes.lookup 0x75 = none := by decide
      simp only [shortEscape, same, none_such, Option.map_none] at escape
      cases escape
    rw [List.cons_append, List.cons_append, scanPieces.eq_def]
    simp [apart, escape, ih, put]
  | unit digits _ ih =>
    simp only [List.cons_append]
    rw [scanPieces.eq_def]
    simp [digits, ih, put]

/-- A scanned string was written before its closing quote. -/
theorem scanString_sound {content : Text} (scanned : scanString input = some (content, rest)) :
    ∃ written, StringText content written ∧ input = written ++ 0x22 :: rest := by
  obtain ⟨⟨pieces, after⟩, found, same⟩ := Option.map_eq_some_iff.mp scanned
  obtain ⟨rfl, rfl⟩ := Prod.mk.inj same
  obtain ⟨written, derived, split⟩ := scanPieces_sound input found
  exact ⟨written, ⟨pieces, derived, rfl⟩, split⟩

/-- A written string is scanned up to its closing quote. -/
theorem scanString_complete {content : Text} (derived : StringText content written) :
    scanString (written ++ 0x22 :: rest) = some (content, rest) := by
  obtain ⟨pieces, derived, rfl⟩ := derived
  rw [scanString, scanPieces_complete derived]
  rfl

end Strings

section Numbers

variable {input rest literal digits : Text}

/-- Nothing that follows continues a number. -/
def Delimited (rest : Text) : Prop :=
  ∀ point ∈ rest.head?, ¬ Digit point ∧ point.val ∉ [0x2e, 0x45, 0x65]

/-- The digits at the start of a text are all that are there. -/
theorem spanDigits_append (each : ∀ point ∈ digits, Digit point)
    (apart : ∀ point ∈ rest.head?, ¬ Digit point) : spanDigits (digits ++ rest) = (digits, rest) := by
  have inside : ∀ point ∈ digits, decide (Digit point) = true := by simpa using each
  unfold spanDigits
  rw [List.takeWhile_append_of_pos inside, List.dropWhile_append_of_pos inside]
  cases rest with
  | nil => simp
  | cons point after =>
    have outside := apart point rfl
    simp [outside]

/-- What is spanned are digits. -/
theorem spanDigits_split (input : Text) : (∀ point ∈ (spanDigits input).1, Digit point) ∧
    input = (spanDigits input).1 ++ (spanDigits input).2 := by
  refine ⟨fun point member => ?_, List.takeWhile_append_dropWhile.symm⟩
  simpa using List.mem_takeWhile_imp member

/-- The whole part of a number is a natural number. -/
theorem scanWhole_sound (scanned : scanWhole input = some (digits, rest)) :
    Natural digits ∧ input = digits ++ rest := by
  unfold scanWhole at scanned
  split at scanned
  · cases scanned
  · next point after =>
    split at scanned
    · -- A zero stands alone.
      next zero =>
      obtain ⟨rfl, rfl⟩ := Prod.mk.inj (Option.some.inj scanned)
      refine ⟨⟨by simp, ?_, by simp⟩, rfl⟩
      intro digit member
      rw [List.mem_singleton.mp member]
      unfold Digit
      omega
    · next nonzero =>
      split at scanned
      · next digit =>
        obtain ⟨rfl, rfl⟩ := Prod.mk.inj (Option.some.inj scanned)
        obtain ⟨each, same⟩ := spanDigits_split after
        refine ⟨⟨by simp, ?_, ?_⟩, by rw [List.cons_append, ← same]⟩
        · exact List.forall_mem_cons.mpr ⟨digit, each⟩
        · intro first found zero
          obtain rfl := Option.some.inj found
          exact absurd zero nonzero
      · cases scanned

/-- A natural number is the whole part of a number. -/
theorem scanWhole_complete (natural : Natural digits)
    (apart : ∀ point ∈ rest.head?, ¬ Digit point) :
    scanWhole (digits ++ rest) = some (digits, rest) := by
  obtain ⟨nonempty, each, no_zeros⟩ := natural
  cases digits with
  | nil => exact absurd rfl nonempty
  | cons point after =>
    obtain ⟨first, later⟩ := List.forall_mem_cons.mp each
    rw [List.cons_append, scanWhole]
    split
    · next zero =>
      obtain ⟨-, rfl⟩ := List.cons.inj (no_zeros point rfl zero)
      rfl
    · rw [spanDigits_append later apart]

/-- A number that is delimited has no fraction. -/
theorem scanFraction_delimited (delimited : Delimited rest) : scanFraction rest = ([], rest) := by
  unfold scanFraction
  cases rest with
  | nil => rfl
  | cons point after =>
    obtain ⟨-, apart⟩ := delimited point rfl
    simp only [List.mem_cons, List.not_mem_nil, or_false, not_or] at apart
    simp [apart.1]

/-- A number that is delimited has no exponent. -/
theorem scanExponent_delimited (delimited : Delimited rest) : scanExponent rest = ([], rest) := by
  unfold scanExponent
  cases rest with
  | nil => rfl
  | cons point after =>
    obtain ⟨-, apart⟩ := delimited point rfl
    simp only [List.mem_cons, List.not_mem_nil, or_false, not_or] at apart
    simp [apart.2.1, apart.2.2]

/-- A fraction that is scanned stands at the start of the text. -/
theorem scanFraction_split (input : Text) :
    input = (scanFraction input).1 ++ (scanFraction input).2 := by
  unfold scanFraction
  cases input with
  | nil => rfl
  | cons point after =>
    dsimp only
    split
    · rw [List.cons_append, ← (spanDigits_split after).2]
    · rfl

/-- An exponent that is scanned stands at the start of the text. -/
theorem scanExponent_split (input : Text) :
    input = (scanExponent input).1 ++ (scanExponent input).2 := by
  have signed (rest : Text) : rest = (scanSign rest).1 ++ (scanSign rest).2 := by
    unfold scanSign
    split
    · split <;> rfl
    · rfl
  unfold scanExponent
  cases input with
  | nil => rfl
  | cons point after =>
    dsimp only
    split
    · rw [List.cons_append, List.append_assoc, ← (spanDigits_split (scanSign after).2).2,
        ← signed after]
    · rfl

/-- A scanned integer is an integer as it is written. -/
theorem scanNumber_sound (scanned : scanNumber input = some (false, literal, rest)) :
    IntLiteral literal ∧ input = literal ++ rest := by
  unfold scanNumber at scanned
  simp only [Option.bind_eq_bind, Option.bind_eq_some_iff, Option.pure_def, Option.some.injEq,
    Prod.mk.injEq, decide_eq_false_iff_not, not_or, not_not] at scanned
  obtain ⟨⟨digits, after⟩, whole, ⟨no_fraction, no_exponent⟩, rfl, rfl⟩ := scanned
  obtain ⟨natural, split⟩ := scanWhole_sound whole
  have fraction := scanFraction_split after
  have exponent := scanExponent_split (scanFraction after).2
  rw [no_fraction, List.nil_append] at fraction
  rw [no_exponent, List.nil_append] at exponent
  simp only [no_fraction, no_exponent, List.append_nil]
  rw [← exponent, ← fraction]
  unfold scanMinus at split ⊢
  cases input with
  | nil =>
    exact ⟨.natural natural, split⟩
  | cons point tail =>
    dsimp only at split ⊢
    by_cases minus : point.val = 0x2d
    · rw [if_pos minus] at split ⊢
      obtain rfl : point = 0x2d := Fin.ext minus
      exact ⟨.minus natural, congrArg (List.cons 0x2d) split⟩
    · rw [if_neg minus] at split ⊢
      exact ⟨.natural natural, split⟩

/-- A delimited integer is scanned as it is written. -/
theorem scanNumber_complete (integer : IntLiteral literal) (delimited : Delimited rest) :
    scanNumber (literal ++ rest) = some (false, literal, rest) := by
  have apart : ∀ point ∈ rest.head?, ¬ Digit point := fun point member => (delimited point member).1
  unfold scanNumber
  cases integer with
  | natural natural =>
    -- The first digit is no minus sign.
    have unsigned : scanMinus (literal ++ rest) = ([], literal ++ rest) := by
      obtain ⟨nonempty, each, -⟩ := natural
      cases literal with
      | nil => exact absurd rfl nonempty
      | cons point after =>
        have digit := each point List.mem_cons_self
        unfold Digit at digit
        unfold scanMinus
        rw [List.cons_append]
        dsimp only
        rw [if_neg (by omega)]
    simp [unsigned, scanWhole_complete natural apart, scanFraction_delimited delimited,
      scanExponent_delimited delimited]
  | @minus digits natural =>
    have signed : scanMinus (0x2d :: (digits ++ rest)) = ([0x2d], digits ++ rest) := rfl
    simp [signed, scanWhole_complete natural apart, scanFraction_delimited delimited,
      scanExponent_delimited delimited]

end Numbers

section Words

variable {word : String} {input rest : Text}

/-- What follows a word is found. -/
theorem afterWord_eq_some : afterWord word input = some rest ↔ input = text word ++ rest := by
  unfold afterWord
  constructor
  · intro found
    split at found
    · next starts =>
      obtain ⟨after, rfl⟩ := starts
      obtain rfl : after = rest := by simpa using found
      rfl
    · cases found
  · intro same
    subst same
    simp

/-- A text with another start than a word does not continue it. -/
theorem afterWord_eq_none {point other : Code} {after letters : Text}
    (starts : text word = other :: letters) (apart : point ≠ other) :
    afterWord word (point :: after) = none := by
  rw [Option.eq_none_iff_forall_ne_some]
  intro rest found
  rw [afterWord_eq_some, starts, List.cons_append] at found
  exact apart (List.cons.inj found).1

end Words

section Heads

variable {admits : Text → Prop} {value : Value} {written : Text}

/-- A written value starts with a character of its own. -/
theorem Writes.head (writes : Writes admits value written) :
    ∃ point after, written = point :: after ∧ ¬ Blank point ∧ point.val ≠ 0x5d := by
  cases writes with
  | null | true | false => exact ⟨_, _, rfl, by decide, by decide⟩
  | int integer =>
    have digits {digits : Text} (natural : Natural digits) : ∃ point after,
        digits = point :: after ∧ ¬ Blank point ∧ point.val ≠ 0x5d := by
      obtain ⟨nonempty, each, -⟩ := natural
      cases digits with
      | nil => exact absurd rfl nonempty
      | cons point after =>
        obtain ⟨low, high⟩ := each point List.mem_cons_self
        refine ⟨point, after, rfl, ?_, by omega⟩
        simp only [Blank, List.mem_cons, List.not_mem_nil, or_false]
        omega
    cases integer with
    | natural natural => exact digits natural
    | minus natural => exact ⟨_, _, rfl, by decide, by decide⟩
  | str | noItems | items | noEntries | entries => exact ⟨_, _, rfl, by decide, by decide⟩

/-- Blanks may stand before the first item of an array. -/
theorem WritesItems.leading {items : List Value} {before : Text} (blanks : Blanks before)
    (writes : WritesItems admits items written) : WritesItems admits items (before ++ written) := by
  cases writes with
  | one leading value trailing =>
    rw [← List.append_assoc]
    exact .one (blanks.append leading) value trailing
  | more leading value trailing others =>
    rw [← List.append_assoc]
    exact .more (blanks.append leading) value trailing others

/-- Blanks may stand before the first entry of an object. -/
theorem WritesMembers.leading {entries : List (Text × Value)} {before : Text}
    (blanks : Blanks before) (writes : WritesMembers admits entries written) :
    WritesMembers admits entries (before ++ written) := by
  cases writes with
  | one leading named value trailing =>
    rw [← List.append_assoc]
    exact .one (blanks.append leading) named value trailing
  | more leading named value trailing others =>
    rw [← List.append_assoc]
    exact .more (blanks.append leading) named value trailing others

/-- A value is followed by nothing that continues a number. -/
theorem Blanks.delimited {before rest : Text} (blanks : Blanks before)
    (delimited : Delimited rest) : Delimited (before ++ rest) := by
  cases before with
  | nil => exact delimited
  | cons point after =>
    intro other found
    obtain rfl : point = other := by simpa using found
    have blank := blanks point List.mem_cons_self
    simp only [Blank, List.mem_cons, List.not_mem_nil, or_false] at blank
    simp only [Digit, List.mem_cons, List.not_mem_nil, or_false]
    omega

theorem Blanks.ends {after : Text} (blanks : Blanks after) : Delimited after := by
  rw [← List.append_nil after]
  exact blanks.delimited fun _ member => by cases member

end Heads

section Keys

variable {admits : Text → Prop}

mutual

/-- A written value has no key twice. -/
theorem Writes.distinct {value : Value} {written : Text} (writes : Writes admits value written) :
    value.Distinct := by
  cases writes with
  | null | true | false | int | str | noItems => trivial
  | items each => exact each.distinct
  | noEntries => exact ⟨List.nodup_nil, trivial⟩
  | entries distinct members => exact ⟨distinct, members.distinct⟩

/-- Written items have no key twice. -/
theorem WritesItems.distinct {items : List Value} {written : Text}
    (writes : WritesItems admits items written) : DistinctItems items := by
  cases writes with
  | one _ value _ => exact ⟨value.distinct, trivial⟩
  | more _ value _ others => exact ⟨value.distinct, others.distinct⟩

/-- Written entries hold values that have no key twice. -/
theorem WritesMembers.distinct {entries : List (Text × Value)} {written : Text}
    (writes : WritesMembers admits entries written) : DistinctEntries entries := by
  cases writes with
  | one _ _ value _ => exact ⟨value.distinct, trivial⟩
  | more _ _ value _ others => exact ⟨value.distinct, others.distinct⟩

end

end Keys

end StrictJson
