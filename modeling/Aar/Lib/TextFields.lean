import Aar.Lib.JsonWriter

/-! The fields of a line: the text after the last separator, words between blanks, integers. -/

namespace TextFields

open Utf8 StrictJson

section Separators

variable {first : Code} {more before rest input : Text}

/-- What follows the last occurrence of a separator, as `rfind` and a slice give it. -/
def afterLast (separator : Text) : Text → Option Text
  | [] => none
  | point :: rest =>
    match afterLast separator rest with
    | some found => some found
    | none =>
      if separator <+: point :: rest then some ((point :: rest).drop separator.length) else none

/-- A separator whose first character is nowhere is nowhere. -/
theorem afterLast_absent (absent : first ∉ input) : afterLast (first :: more) input = none := by
  induction input with
  | nil => rfl
  | cons point rest ih =>
    obtain ⟨other, later⟩ := List.ne_and_not_mem_of_not_mem_cons absent
    rw [afterLast, ih later]
    refine if_neg fun starts => other ?_
    exact (List.cons_prefix_cons.mp starts).1

/-- What follows the last occurrence is what follows an occurrence with no later one. -/
theorem afterLast_last (single : first ∉ more) (absent : first ∉ rest) :
    afterLast (first :: more) (before ++ first :: (more ++ rest)) = some rest := by
  -- The characters before the occurrence only find what was found behind them.
  induction before with
  | nil =>
    have none_later : afterLast (first :: more) (more ++ rest) = none :=
      afterLast_absent fun member => (List.mem_append.mp member).elim single absent
    have starts : first :: more <+: first :: (more ++ rest) := ⟨rest, rfl⟩
    rw [List.nil_append, afterLast, none_later]
    show (if first :: more <+: first :: (more ++ rest) then _ else _) = _
    rw [if_pos starts]
    simp
  | cons point before ih =>
    rw [List.cons_append, afterLast, ih]

end Separators

section Words

variable {point : Code} {word before after : Text}

/-- The white space among the characters of ASCII. -/
def White (point : Code) : Prop :=
  (0x09 ≤ point.val ∧ point.val ≤ 0x0d) ∨ (0x1c ≤ point.val ∧ point.val ≤ 0x20)

instance : DecidablePred White := fun _ => inferInstanceAs (Decidable (_ ∨ _))

/-- A text of ASCII. -/
def Ascii (input : Text) : Prop := ∀ point ∈ input, point.val < 0x80

instance : DecidablePred Ascii :=
  fun input => inferInstanceAs (Decidable (∀ point ∈ input, point.val < 0x80))

/-- `split`: the words between white space. -/
def split (input : Text) : List Text :=
  (input.splitOnP fun point => decide (White point)).filter fun word => word ≠ []

/-- No white space is within a word. -/
def Dark (word : Text) : Prop := word ≠ [] ∧ ∀ point ∈ word, ¬ White point

theorem split_white (white : White point) :
    split (before ++ point :: after) = split before ++ split after := by
  rw [split, List.splitOnP_append_cons before after (by simpa using white), List.filter_append]
  rfl

/-- A word alone is not split. -/
theorem split_word (dark : Dark word) : split word = [word] := by
  have whole : word.splitOnP (fun point => decide (White point)) = [word] :=
    List.splitOnP_eq_singleton fun point member => by simpa using dark.2 point member
  rw [split, whole]
  simpa using dark.1

/-- Words with a space after each but the last, which ends the line. -/
def line : List Text → Text
  | [] => [0x0a]
  | [word] => word ++ [0x0a]
  | word :: next :: rest => word ++ 0x20 :: line (next :: rest)

/-- A line is split into its words. -/
theorem split_line : ∀ {words : List Text}, (∀ word ∈ words, Dark word) → split (line words) = words
  | [], _ => rfl
  | [word], dark => by
    rw [line, split_white (by decide), split_word (dark word List.mem_cons_self)]
    rfl
  | word :: next :: rest, dark => by
    -- The space behind the first word separates it from the line of the others.
    have others : split (line (next :: rest)) = next :: rest :=
      split_line fun word member => dark word (List.mem_cons_of_mem _ member)
    rw [line, split_white (by decide), split_word (dark word List.mem_cons_self), others]
    rfl

/-- A character that no word has is in the line of the words only as a blank. -/
theorem not_mem_line (letter : ¬ White point) :
    ∀ {words : List Text}, (∀ word ∈ words, point ∉ word) → point ∉ line words
  | [], _ => fun member => letter (List.mem_singleton.mp member ▸ by decide)
  | [word], absent => fun member => by
    rcases List.mem_append.mp member with inside | last
    · exact absent word List.mem_cons_self inside
    · exact letter (List.mem_singleton.mp last ▸ by decide)
  | word :: next :: rest, absent => fun member => by
    rcases List.mem_append.mp member with inside | later
    · exact absent word List.mem_cons_self inside
    · rcases List.mem_cons.mp later with space | later
      · exact letter (space ▸ by decide)
      · exact not_mem_line letter (fun word member => absent word (List.mem_cons_of_mem _ member)) later

end Words

section Integers

variable {number : Nat}

/-- The natural number that digits spell, which may have single underscores between them. -/
def natural (digits : Text) : Option Nat :=
  let parts := digits.splitOnP fun point => point.val = 0x5f
  if (∀ part ∈ parts, part ≠ [] ∧ ∀ point ∈ part, Digit point) ∧ parts.flatten.length ≤ 4300 then
    some (digitsValue parts.flatten)
  else none

/-- `int`: the integer that a text spells. -/
def int : Text → Option Int
  | [] => none
  | point :: rest =>
    if point.val = 0x2d then (natural rest).map fun number => -(number : Int)
    else if point.val = 0x2b then (natural rest).map Int.ofNat
    else (natural (point :: rest)).map Int.ofNat

/-- The digits of a number spell it, unless they are too many to be read. -/
theorem natural_spelled :
    natural (decimal number) =
      if (decimal number).length ≤ 4300 then some number else none := by
  have spelled := (natural_decimal number).1
  -- A digit is no underscore, so the digits are one part.
  have whole : (decimal number).splitOnP (fun point => decide (point.val = 0x5f)) =
      [decimal number] := by
    refine List.splitOnP_eq_singleton fun point member => ?_
    have digit := spelled.each point member
    unfold Digit at digit
    simp only [decide_eq_false_iff_not]
    omega
  have flat : [decimal number].flatten = decimal number := by simp
  have digits : ∀ part ∈ [decimal number], part ≠ [] ∧ ∀ point ∈ part, Digit point := by
    intro part member
    rw [List.mem_singleton.mp member]
    exact ⟨spelled.some_digits, spelled.each⟩
  simp only [natural, whole, flat, digitsValue_decimal]
  exact if_congr (and_iff_right digits) rfl rfl

/-- The digits of a number are an integer, unless they are too many to be read. -/
theorem int_decimal :
    int (decimal number) =
      if (decimal number).length ≤ 4300 then some (number : Int) else none := by
  have spelled := (natural_decimal number).1
  have read : int (decimal number) = (natural (decimal number)).map Int.ofNat := by
    cases digits : decimal number with
    | nil => exact absurd digits spelled.some_digits
    | cons point rest =>
      -- The first digit is no sign.
      have digit := spelled.each point (digits ▸ List.mem_cons_self)
      unfold Digit at digit
      rw [int, if_neg (by omega), if_neg (by omega)]
  rw [read, natural_spelled]
  split
  · rfl
  · rfl

/-- A character of an integer's literal is a sign or a digit. -/
theorem mem_intText {point : Code} {integer : Int} (member : point ∈ intText integer) :
    point.val = 0x2d ∨ Digit point := by
  unfold intText at member
  split at member
  · rcases List.mem_cons.mp member with rfl | later
    · exact Or.inl rfl
    · exact Or.inr ((natural_decimal _).1.each point later)
  · exact Or.inr ((natural_decimal _).1.each point member)

/-- An integer's literal is a word. -/
theorem dark_intText (integer : Int) : Dark (intText integer) := by
  constructor
  · unfold intText
    split
    · exact List.cons_ne_nil _ _
    · exact (natural_decimal _).1.some_digits
  · intro point member white
    have sign_or_digit := mem_intText member
    unfold Digit at sign_or_digit
    unfold White at white
    omega

/-- The digits of a number are a word. -/
theorem dark_decimal (number : Nat) : Dark (decimal number) := by
  have spelled := (natural_decimal number).1
  refine ⟨spelled.some_digits, fun point member white => ?_⟩
  have digit := spelled.each point member
  unfold Digit at digit
  unfold White at white
  omega

end Integers

end TextFields
