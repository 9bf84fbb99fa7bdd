import Aar.Lib.JsonReading
import Aar.Lib.Strings
import Mathlib.Data.List.Induction
import Mathlib.Algebra.Ring.Nat

/-! The writer of JSON texts without blanks that Python has, and that what it writes is read back. -/

namespace StrictJson

open Guarded Utf8

section Decimal

/-- The decimal digits of a number. -/
def decimal (number : Nat) : Text :=
  (Nat.toDigits 10 number).map fun digit => code digit.toNat

/-- The digit of a number below ten. -/
def digitCode (number : Nat) : Code := code (0x30 + number)

/-- The character of a small number is its digit. -/
theorem code_digitChar {number : Nat} (small : number < 10) :
    code (Nat.digitChar number).toNat = digitCode number := by
  -- Ten characters, each checked by itself.
  rcases number with _ | _ | _ | _ | _ | _ | _ | _ | _ | _ | number
  all_goals first | rfl | omega

theorem digitCode_val {number : Nat} (small : number < 10) :
    (digitCode number).val = 0x30 + number :=
  code_val _ (by omega)

theorem decimal_small {number : Nat} (small : number < 10) :
    decimal number = [digitCode number] := by
  rw [decimal, Nat.toDigits_of_lt_base small, List.map_singleton, code_digitChar small]

/-- Any other number has its last digit after the digits of its tenth part. -/
theorem decimal_large {number : Nat} (large : 10 ≤ number) :
    decimal number = decimal (number / 10) ++ [digitCode (number % 10)] := by
  have last : number % 10 < 10 := Nat.mod_lt _ (by decide)
  rw [decimal, Nat.toDigits_of_base_le (by decide) large, List.map_append, List.map_singleton,
    code_digitChar last]
  rfl

theorem digit_digitCode {number : Nat} (small : number < 10) : Digit (digitCode number) := by
  unfold Digit
  rw [digitCode_val small]
  omega

/-- The digits of a number are a natural number as it is written. -/
theorem natural_decimal (number : Nat) :
    Natural (decimal number) ∧ (0 < number → ∀ point ∈ (decimal number).head?, point.val ≠ 0x30) := by
  -- The tenth part of a number has fewer digits, and a positive one starts with no zero.
  induction number using Nat.strongRecOn with
  | ind number ih =>
    rcases Nat.lt_or_ge number 10 with small | large
    · rw [decimal_small small]
      refine ⟨⟨by simp, ?_, ?_⟩, ?_⟩
      · simpa using digit_digitCode small
      · simp
      · intro positive point found
        obtain rfl : digitCode number = point := by simpa using found
        rw [digitCode_val small]
        omega
    · obtain ⟨natural, nonzero⟩ := ih (number / 10) (by omega)
      have starts := nonzero (by omega)
      rw [decimal_large large]
      cases first : decimal (number / 10) with
      | nil => exact absurd first natural.some_digits
      | cons point rest =>
        rw [first] at natural starts
        have apart := starts point rfl
        refine ⟨⟨by simp, ?_, ?_⟩, ?_⟩
        · intro digit member
          rcases List.mem_append.mp member with inside | last
          · exact natural.each digit inside
          · rw [List.mem_singleton.mp last]
            exact digit_digitCode (Nat.mod_lt _ (by decide))
        · intro digit found zero
          obtain rfl : point = digit := by simpa using found
          exact absurd zero apart
        · intro _ digit found
          obtain rfl : point = digit := by simpa using found
          exact apart

/-- The digits of a number are for that number. -/
theorem digitsValue_decimal (number : Nat) : digitsValue (decimal number) = number := by
  induction number using Nat.strongRecOn with
  | ind number ih =>
    rcases Nat.lt_or_ge number 10 with small | large
    · rw [decimal_small small]
      simp [digitsValue, digitCode_val small]
    · have tenth := ih (number / 10) (by omega)
      have last := @digitCode_val (number % 10) (Nat.mod_lt _ (by decide))
      unfold digitsValue at tenth
      rw [decimal_large large, digitsValue, List.foldl_append, tenth]
      simp only [List.foldl_cons, List.foldl_nil, last]
      omega

/-- The digits that are written for a number are those that it is written with. -/
theorem decimal_digitsValue {digits : Text} (natural : Natural digits) :
    decimal (digitsValue digits) = digits := by
  -- The induction takes the digits from the last one on.
  induction digits using List.reverseRecOn with
  | nil => exact absurd rfl natural.some_digits
  | append_singleton early last ih =>
    have digit := natural.each last (by simp)
    have code : digitCode (last.val - 0x30) = last := by
      refine Fin.ext ?_
      rw [digitCode_val (by unfold Digit at digit; omega)]
      unfold Digit at digit
      omega
    have small : last.val - 0x30 < 10 := by
      unfold Digit at digit
      omega
    have total : digitsValue (early ++ [last]) = 10 * digitsValue early + (last.val - 0x30) := by
      simp [digitsValue]
    rw [total]
    cases first : early with
    | nil =>
      rw [show digitsValue [] = 0 from rfl, Nat.mul_zero, Nat.zero_add, decimal_small small, code]
      rfl
    | cons point rest =>
      rw [← first]
      -- The digits before the last one start with no zero, so their number is positive.
      have inner : Natural early := by
        refine ⟨by simp [first], fun other member => natural.each other (by simp [member]), ?_⟩
        intro other found zero
        have starts : (early ++ [last]).head? = some other := by
          rw [first] at found ⊢
          exact found
        have alone := natural.no_zeros other starts zero
        simp [first] at alone
      have positive : 0 < digitsValue early := by
        refine Nat.pos_of_ne_zero fun nothing => ?_
        have alone := ih inner
        rw [nothing] at alone
        have zero := natural.no_zeros 0x30 (by rw [← alone]; rfl) rfl
        rw [← alone] at zero
        cases zero
      rw [decimal_large (by omega)]
      have tenth : (10 * digitsValue early + (last.val - 0x30)) / 10 = digitsValue early := by
        omega
      have rest : (10 * digitsValue early + (last.val - 0x30)) % 10 = last.val - 0x30 := by
        omega
      rw [tenth, rest, ih inner, code]

/-- `int.__repr__`: the literal of an integer. -/
def intText (number : Int) : Text :=
  if number < 0 then 0x2d :: decimal number.natAbs else decimal number.natAbs

theorem intLiteral_intText (number : Int) : IntLiteral (intText number) := by
  unfold intText
  split
  · exact .minus (natural_decimal _).1
  · exact .natural (natural_decimal _).1

/-- A natural number as it is written is for the number of its digits. -/
theorem literalValue_natural {digits : Text} (natural : Natural digits) :
    literalValue digits = digitsValue digits := by
  obtain ⟨nonempty, each, -⟩ := natural
  cases digits with
  | nil => exact absurd rfl nonempty
  | cons point rest =>
    have digit := (each point List.mem_cons_self).1
    rw [literalValue, if_neg (by omega)]

/-- The literal of an integer is for that integer. -/
theorem literalValue_intText (number : Int) : literalValue (intText number) = number := by
  unfold intText
  split
  · show -(digitsValue _ : Int) = number
    rw [digitsValue_decimal]
    omega
  · rw [literalValue_natural (natural_decimal _).1, digitsValue_decimal]
    omega

end Decimal

section Strings

/-- The digit of a code unit. -/
def hexDigit (value : Nat) : Code := if value < 10 then code (0x30 + value) else code (0x57 + value)

theorem hexDigit_printable {value : Nat} (small : value < 16) : 0x20 ≤ (hexDigit value).val := by
  unfold hexDigit
  split
  · rw [code_val _ (by omega)]
    omega
  · rw [code_val _ (by omega)]
    omega

/-- `ESCAPE_DCT`: the characters that have a letter of their own, and the letter. -/
def escapeLetters : List (Nat × Nat) :=
  [(0x5c, 0x5c), (0x22, 0x22), (0x08, 0x62), (0x0c, 0x66), (0x0a, 0x6e), (0x0d, 0x72),
    (0x09, 0x74)]

/-- A code point within a string as it is written. -/
def escape (point : Code) : Text :=
  match escapeLetters.lookup point.val with
  | some letter => [0x5c, code letter]
  | none =>
    if point.val < 0x20 then
      [0x5c, 0x75, 0x30, 0x30, hexDigit (point.val / 16), hexDigit (point.val % 16)]
    else [point]

/-- `encode_basestring`: a string as it is written between its quotes. -/
def escapeAll (content : Text) : Text := content.flatMap escape

/-- A control character without a letter of its own is written by its code unit. -/
theorem escape_unit {value : Nat} (small : value < 0x20) :
    hexUnit 0x30 0x30 (hexDigit (value / 16)) (hexDigit (value % 16)) = some value := by
  have each : ∀ value : Fin 0x20,
      hexUnit 0x30 0x30 (hexDigit (value.val / 16)) (hexDigit (value.val % 16)) =
        some value.val := by decide
  exact each ⟨value, small⟩

/-- The letter of a character is read back as that character. -/
theorem shortEscape_letter {point : Code} {letter : Nat}
    (found : escapeLetters.lookup point.val = some letter) :
    shortEscape (code letter) = some point := by
  have each : ∀ entry ∈ escapeLetters, shortEscape (code entry.2) = some (code entry.1) := by
    decide
  obtain ⟨before, after, same, -⟩ := List.lookup_eq_some_iff.mp found
  have back := each (point.val, letter) (by rw [same]; simp)
  rw [back]
  exact congrArg some (Fin.ext (code_val _ point.isLt))

/-- What a written code point is read back as: itself, or a code unit that starts no pair. -/
def readPiece (point : Code) : Piece :=
  if escapeLetters.lookup point.val = none ∧ point.val < 0x20 then .unit point.val
  else .point point

/-- A written code point is one piece of a string. -/
theorem escape_piece {point : Code} {pieces : List Piece} {written : Text}
    (rest : Pieces pieces written) :
    Pieces (readPiece point :: pieces) (escape point ++ written) := by
  unfold escape readPiece
  cases found : escapeLetters.lookup point.val with
  | some letter =>
    rw [if_neg fun both => by cases both.1]
    exact .short (shortEscape_letter found) rest
  | none =>
    dsimp only
    by_cases small : point.val < 0x20
    · rw [if_pos small, if_pos ⟨rfl, small⟩]
      exact .unit (escape_unit small) rest
    · rw [if_neg small, if_neg fun both => small both.2]
      -- A quote and a backslash have letters of their own.
      refine .plain ⟨Nat.not_lt.mp small, ?_, ?_⟩ rest
      all_goals
        intro same
        rw [same] at found
        exact absurd found (by decide)

/-- A code unit that starts no pair is joined with nothing. -/
theorem join_unit {unit : Nat} {pieces : List Piece} (single : ¬ High unit) :
    join (.unit unit :: pieces) = code unit :: join pieces := by
  rcases pieces with _ | ⟨point | other, rest⟩
  · rfl
  · rfl
  · exact if_neg fun pair => single pair.1

/-- A written string is read back as it was. -/
theorem stringText_escapeAll (content : Text) : StringText content (escapeAll content) := by
  refine ⟨content.map readPiece, ?_, ?_⟩
  · induction content with
    | nil => exact .nil
    | cons point rest ih => exact escape_piece ih
  · induction content with
    | nil => rfl
    | cons point rest ih =>
      rw [List.map_cons, readPiece]
      split
      · next low =>
        have single : ¬ High point.val := fun high => by
          have bound := high.1
          omega
        rw [join_unit single, ih]
        exact congrArg (· :: rest) (Fin.ext (code_val _ point.isLt))
      · show point :: join (rest.map readPiece) = point :: rest
        rw [ih]

/-- Nothing that is written for a string is a control character. -/
theorem escapeAll_printable (content : Text) : ∀ point ∈ escapeAll content, 0x20 ≤ point.val := by
  intro point member
  obtain ⟨origin, -, inside⟩ := List.mem_flatMap.mp member
  unfold escape at inside
  split at inside
  · next letter found =>
    have each : ∀ entry ∈ escapeLetters, 0x20 ≤ (code entry.2).val := by decide
    obtain ⟨before, after, same, -⟩ := List.lookup_eq_some_iff.mp found
    have large := each (origin.val, letter) (by rw [same]; simp)
    rcases List.mem_cons.mp inside with rfl | last
    · decide
    · rw [List.mem_singleton.mp last]
      exact large
  · split at inside
    · next small =>
      simp only [List.mem_cons, List.not_mem_nil, or_false] at inside
      rcases inside with rfl | rfl | rfl | rfl | rfl | rfl
      · decide
      · decide
      · decide
      · decide
      · exact hexDigit_printable (by omega)
      · exact hexDigit_printable (by omega)
    · next large =>
      rw [List.mem_singleton.mp inside]
      exact Nat.not_lt.mp large

end Strings

section Writing

/-- A key with the colon after it. -/
def writeKey (key : Text) : Text := 0x22 :: (escapeAll key ++ [0x22, 0x3a])

mutual

/-- `json.dumps`: the text of a value, with nothing between its parts. -/
def write : Value → Text
  | .null => text "null"
  | .bool true => text "true"
  | .bool false => text "false"
  | .int number => intText number
  | .str content => 0x22 :: (escapeAll content ++ [0x22])
  | .arr items => 0x5b :: (writeItems items ++ [0x5d])
  | .obj entries => 0x7b :: (writeEntries entries ++ [0x7d])

/-- The text of the items of an array. -/
def writeItems : List Value → Text
  | [] => []
  | [item] => write item
  | item :: rest => write item ++ 0x2c :: writeItems rest

/-- The text of the entries of an object. -/
def writeEntries : List (Text × Value) → Text
  | [] => []
  | [(key, item)] => writeKey key ++ write item
  | (key, item) :: rest => writeKey key ++ (write item ++ 0x2c :: writeEntries rest)

end

mutual

/-- The integers within a value. -/
def Value.integers : Value → List Int
  | .null | .bool _ | .str _ => []
  | .int number => [number]
  | .arr items => integersOfItems items
  | .obj entries => integersOfEntries entries

/-- The integers within an array. -/
def integersOfItems : List Value → List Int
  | [] => []
  | item :: rest => item.integers ++ integersOfItems rest

/-- The integers within the values of an object. -/
def integersOfEntries : List (Text × Value) → List Int
  | [] => []
  | (_, item) :: rest => item.integers ++ integersOfEntries rest

end

theorem keyText_writeKey (key : Text) : KeyText key (writeKey key) :=
  ⟨escapeAll key, [], [], stringText_escapeAll key, Blanks.nil, Blanks.nil, rfl⟩

mutual

/-- What is written for a value with distinct keys is that value as it may be written. -/
theorem writes_write {admits : Text → Prop} : ∀ {value : Value}, value.Distinct →
    (∀ number ∈ value.integers, admits (intText number)) → Writes admits value (write value)
  | .null, _, _ => .null
  | .bool true, _, _ => .true
  | .bool false, _, _ => .false
  | .int number, _, admitted => by
    have writes := Writes.int (intLiteral_intText number) (admitted number List.mem_cons_self)
    rw [literalValue_intText] at writes
    exact writes
  | .str content, _, _ => .str (stringText_escapeAll content)
  | .arr [], _, _ => .noItems Blanks.nil
  | .arr (item :: rest), distinct, admitted =>
    .items (writesItems_write (List.cons_ne_nil item rest) distinct admitted)
  | .obj [], _, _ => .noEntries Blanks.nil
  | .obj (entry :: rest), distinct, admitted =>
    .entries distinct.1 (writesMembers_write (List.cons_ne_nil entry rest) distinct.2 admitted)

/-- What is written for the items of an array is those items. -/
theorem writesItems_write {admits : Text → Prop} : ∀ {items : List Value}, items ≠ [] →
    DistinctItems items → (∀ number ∈ integersOfItems items, admits (intText number)) →
      WritesItems admits items (writeItems items)
  | [], nonempty, _, _ => absurd rfl nonempty
  | [item], _, distinct, admitted => by
    have writes := writes_write distinct.1 fun number member =>
      admitted number (List.mem_append_left _ member)
    have items := WritesItems.one Blanks.nil writes Blanks.nil
    rw [List.nil_append, List.append_nil] at items
    exact items
  | item :: other :: rest, _, distinct, admitted => by
    have writes := writes_write distinct.1 fun number member =>
      admitted number (List.mem_append_left _ member)
    have later := writesItems_write (List.cons_ne_nil other rest) distinct.2 fun number member =>
      admitted number (List.mem_append_right _ member)
    exact .more Blanks.nil writes Blanks.nil later

/-- What is written for the entries of an object is those entries. -/
theorem writesMembers_write {admits : Text → Prop} : ∀ {entries : List (Text × Value)},
    entries ≠ [] → DistinctEntries entries →
    (∀ number ∈ integersOfEntries entries, admits (intText number)) →
      WritesMembers admits entries (writeEntries entries)
  | [], nonempty, _, _ => absurd rfl nonempty
  | [(key, item)], _, distinct, admitted => by
    have writes := writes_write distinct.1 fun number member =>
      admitted number (List.mem_append_left _ member)
    have members := WritesMembers.one Blanks.nil (keyText_writeKey key) writes Blanks.nil
    rw [List.nil_append, List.append_nil] at members
    exact members
  | (key, item) :: other :: rest, _, distinct, admitted => by
    have writes := writes_write distinct.1 fun number member =>
      admitted number (List.mem_append_left _ member)
    have later := writesMembers_write (List.cons_ne_nil other rest) distinct.2
      fun number member => admitted number (List.mem_append_right _ member)
    exact .more Blanks.nil (keyText_writeKey key) writes Blanks.nil later

end

/-- What is written for a value is a text of that value. -/
theorem jsonText_write {admits : Text → Prop} {value : Value} (distinct : value.Distinct)
    (admitted : ∀ number ∈ value.integers, admits (intText number)) :
    JsonText admits value (write value) := by
  refine ⟨[], write value, [], Blanks.nil, writes_write distinct admitted, Blanks.nil, ?_⟩
  rw [List.nil_append, List.append_nil]

/-- Values with distinct keys are written differently. -/
theorem write_injective {left right : Value} (one : left.Distinct) (other : right.Distinct)
    (same : write left = write right) : left = right := by
  have first := @jsonText_write (fun _ => True) left one fun _ _ => trivial
  have second := @jsonText_write (fun _ => True) right other fun _ _ => trivial
  rw [same] at first
  exact first.unique second

end Writing

section Characters

theorem not_surrogate {point : Code} (small : point.val < 0x80) : ¬ Surrogate point := by
  unfold Surrogate
  omega

@[simp] theorem whole_append {first second : Text} :
    Whole (first ++ second) ↔ Whole first ∧ Whole second :=
  List.forall_mem_append

@[simp] theorem whole_cons {point : Code} {rest : Text} :
    Whole (point :: rest) ↔ ¬ Surrogate point ∧ Whole rest :=
  List.forall_mem_cons

@[simp] theorem whole_nil : Whole [] := fun _ member => by cases member

/-- What is written for a code point has a surrogate exactly when it is one. -/
theorem whole_escape (point : Code) : Whole (escape point) ↔ ¬ Surrogate point := by
  unfold escape
  split
  · next letter found =>
    have each : ∀ entry ∈ escapeLetters, entry.1 < 0x80 ∧ (code entry.2).val < 0x80 := by decide
    obtain ⟨before, after, same, -⟩ := List.lookup_eq_some_iff.mp found
    obtain ⟨origin, short⟩ := each (point.val, letter) (by rw [same]; simp)
    simp [not_surrogate origin, not_surrogate short, show ¬ Surrogate 0x5c by decide]
  · split
    · next small =>
      have hex {value : Nat} (small : value < 16) : ¬ Surrogate (hexDigit value) := by
        refine not_surrogate ?_
        unfold hexDigit
        split
        · rw [code_val _ (by omega)]
          omega
        · rw [code_val _ (by omega)]
          omega
      have high : ¬ Surrogate (hexDigit (point.val / 16)) := hex (by omega)
      have low : ¬ Surrogate (hexDigit (point.val % 16)) := hex (by omega)
      have itself : ¬ Surrogate point := not_surrogate (by omega)
      simp [high, low, itself, show ¬ Surrogate 0x5c by decide, show ¬ Surrogate 0x75 by decide,
        show ¬ Surrogate 0x30 by decide]
    · simp

/-- What is written for a string is whole exactly when the string is. -/
theorem whole_escapeAll (content : Text) : Whole (escapeAll content) ↔ Whole content := by
  induction content with
  | nil => simp [escapeAll]
  | cons point rest ih =>
    rw [escapeAll, List.flatMap_cons, whole_append, whole_escape, whole_cons]
    exact and_congr Iff.rfl ih

theorem whole_decimal (number : Nat) : Whole (decimal number) := fun point member => by
  have digit := ((natural_decimal number).1.each point member).2
  exact not_surrogate (by omega)

theorem whole_intText (number : Int) : Whole (intText number) := by
  unfold intText
  split
  · exact whole_cons.mpr ⟨by decide, whole_decimal _⟩
  · exact whole_decimal _

theorem whole_writeKey (key : Text) : Whole (writeKey key) ↔ Whole key := by
  have quote : ¬ Surrogate 0x22 := by decide
  have colon : ¬ Surrogate 0x3a := by decide
  simp [writeKey, whole_escapeAll, quote, colon]

mutual

/-- What is written for a value is whole exactly when all its strings are. -/
theorem whole_write : ∀ value : Value, Whole (write value) ↔ value.Encodable
  | .null => iff_of_true (whole_of_string _) trivial
  | .bool true => iff_of_true (whole_of_string _) trivial
  | .bool false => iff_of_true (whole_of_string _) trivial
  | .int number => iff_of_true (whole_intText number) trivial
  | .str content => by
    have quote : ¬ Surrogate 0x22 := by decide
    simp [write, Value.Encodable, whole_escapeAll, quote]
  | .arr items => by
    have opening : ¬ Surrogate 0x5b := by decide
    have closing : ¬ Surrogate 0x5d := by decide
    simp [write, Value.Encodable, opening, closing, whole_writeItems items]
  | .obj entries => by
    have opening : ¬ Surrogate 0x7b := by decide
    have closing : ¬ Surrogate 0x7d := by decide
    simp [write, Value.Encodable, opening, closing, whole_writeEntries entries]

/-- What is written for the items of an array is whole exactly when all their strings are. -/
theorem whole_writeItems : ∀ items : List Value, Whole (writeItems items) ↔ EncodableItems items
  | [] => iff_of_true whole_nil trivial
  | [item] => by simp [writeItems, EncodableItems, whole_write item]
  | item :: other :: rest => by
    have comma : ¬ Surrogate 0x2c := by decide
    rw [writeItems, whole_append, whole_cons, whole_write item,
      whole_writeItems (other :: rest), EncodableItems]
    · simp only [comma, not_false_eq_true, true_and]
      exact Iff.rfl
    · exact List.cons_ne_nil _ _

/-- What is written for the entries of an object is whole exactly when all their strings are. -/
theorem whole_writeEntries : ∀ entries : List (Text × Value),
    Whole (writeEntries entries) ↔ EncodableEntries entries
  | [] => iff_of_true whole_nil trivial
  | [(key, item)] => by
    simp [writeEntries, EncodableEntries, whole_write item, whole_writeKey]
  | (key, item) :: other :: rest => by
    have comma : ¬ Surrogate 0x2c := by decide
    rw [writeEntries, whole_append, whole_append, whole_cons, whole_write item, whole_writeKey,
      whole_writeEntries (other :: rest), EncodableEntries]
    · simp only [comma, not_false_eq_true, true_and]
      exact Iff.rfl
    · exact List.cons_ne_nil _ _

end

end Characters

section Bytes

/-- A text of printable ASCII characters that are written as they are. -/
def Plain (content : Text) : Prop :=
  ∀ point ∈ content, 0x20 ≤ point.val ∧ point.val < 0x7f ∧ point.val ≠ 0x22 ∧ point.val ≠ 0x5c

instance : DecidablePred Plain := fun content => List.decidableBAll _ content

/-- How many bytes a text is. -/
def size (content : Text) : Nat := (encodeAll content).length

theorem size_append (first second : Text) : size (first ++ second) = size first + size second := by
  simp [size, encodeAll]

theorem size_cons (point : Code) (rest : Text) :
    size (point :: rest) = (encodeCode point).length + size rest := by
  simp [size, encodeAll]

theorem encodeCode_length {point : Code} (ascii : point.val < 0x80) :
    (encodeCode point).length = 1 := by
  simp [encodeCode, ascii]

/-- A text in ASCII is as many bytes as characters. -/
theorem size_ascii {content : Text} (ascii : ∀ point ∈ content, point.val < 0x80) :
    size content = content.length := by
  induction content with
  | nil => rfl
  | cons point rest ih =>
    obtain ⟨first, later⟩ := List.forall_mem_cons.mp ascii
    rw [size_cons, encodeCode_length first, ih later, List.length_cons, Nat.add_comm]

/-- A plain text is written as it is. -/
theorem escapeAll_plain {content : Text} (plain : Plain content) : escapeAll content = content := by
  induction content with
  | nil => rfl
  | cons point rest ih =>
    obtain ⟨⟨low, high, quote, slash⟩, later⟩ := List.forall_mem_cons.mp plain
    have unlettered : escapeLetters.lookup point.val = none := by
      rw [List.lookup_eq_none_iff]
      simp only [escapeLetters, List.forall_mem_cons]
      simp only [ne_eq, List.not_mem_nil, false_implies, implies_true,
        and_true, bne_iff_ne]
      omega
    have itself : escape point = [point] := by
      unfold escape
      rw [unlettered]
      exact if_neg (by omega)
    rw [escapeAll, List.flatMap_cons, itself]
    exact congrArg (point :: ·) (ih later)

theorem whole_plain {content : Text} (plain : Plain content) : Whole content := fun point member =>
  not_surrogate (by
    have high := (plain point member).2.1
    omega)

/-- A plain string is two quotes longer as it is written. -/
theorem size_plain {content : Text} (plain : Plain content) :
    size (write (.str content)) = content.length + 2 := by
  have ascii : ∀ point ∈ content, point.val < 0x80 := fun point member => by
    have high := (plain point member).2.1
    omega
  have quote : (encodeCode 0x22).length = 1 := rfl
  rw [write, size_cons, size_append, escapeAll_plain plain, size_ascii ascii, size_cons, quote]
  show 1 + (content.length + (1 + 0)) = content.length + 2
  omega

/-- A plain key is two quotes and a colon longer as it is written. -/
theorem size_key {key : Text} (plain : Plain key) : size (writeKey key) = key.length + 3 := by
  have ascii : ∀ point ∈ key, point.val < 0x80 := fun point member => by
    have high := (plain point member).2.1
    omega
  have quote : (encodeCode 0x22).length = 1 := rfl
  have colon : size [0x22, 0x3a] = 2 := rfl
  rw [writeKey, size_cons, size_append, escapeAll_plain plain, size_ascii ascii, quote, colon]
  omega

/-- A number has no more digits than its bound. -/
theorem decimal_length {number digits : Nat} (small : number < 10 ^ (digits + 1)) :
    (decimal number).length ≤ digits + 1 := by
  induction digits generalizing number with
  | zero =>
    rw [decimal_small (by simpa using small)]
    exact Nat.le_refl 1
  | succ digits ih =>
    rcases Nat.lt_or_ge number 10 with little | large
    · rw [decimal_small little]
      simp
    · have tenth : number / 10 < 10 ^ (digits + 1) := by
        rw [Nat.div_lt_iff_lt_mul (by decide), ← Nat.pow_succ]
        exact small
      rw [decimal_large large, List.length_append]
      exact Nat.succ_le_succ (ih tenth)

/-- A natural number is as many bytes as it has digits. -/
theorem size_int {number : Int} (positive : 0 ≤ number) :
    size (write (.int number)) = (decimal number.natAbs).length := by
  rw [write, intText, if_neg (Int.not_lt.mpr positive)]
  refine size_ascii fun point member => ?_
  have digit := ((natural_decimal number.natAbs).1.each point member).2
  omega

/-- The entries of an object are as many bytes as their keys, their values and the commas. -/
theorem size_writeEntries : ∀ {entries : List (Text × Value)}, entries ≠ [] →
    size (writeEntries entries) + 1 =
      (entries.map fun entry => size (writeKey entry.1) + size (write entry.2) + 1).sum
  | [], nonempty => absurd rfl nonempty
  | [(key, item)], _ => by
    rw [writeEntries, size_append]
    simp
  | (key, item) :: other :: rest, _ => by
    have comma : (encodeCode 0x2c).length = 1 := rfl
    have later := size_writeEntries (List.cons_ne_nil other rest)
    rw [List.map_cons, List.sum_cons, ← later, writeEntries, size_append, size_append, size_cons,
      comma]
    · dsimp only
      omega
    · exact List.cons_ne_nil _ _

/-- An object is two braces longer than its entries, in whatever order they are written. -/
theorem size_object {entries : List (Text × Value)} (nonempty : entries ≠ []) :
    size (write (.obj (sortEntries entries))) =
      (entries.map fun entry => size (writeKey entry.1) + size (write entry.2) + 1).sum + 1 := by
  have sorted : sortEntries entries ≠ [] := fun empty => by
    have same := (sortEntries_perm entries).length_eq
    rw [empty] at same
    exact nonempty (List.length_eq_zero_iff.mp same.symm)
  have total := size_writeEntries sorted
  rw [((sortEntries_perm entries).map _).sum_nat] at total
  have opening : (encodeCode 0x7b).length = 1 := rfl
  have closing : size [0x7d] = 1 := rfl
  rw [write, size_cons, size_append, opening, closing]
  omega

/-- Nothing that is written for an integer is a control character. -/
theorem intText_printable (number : Int) : ∀ point ∈ intText number, 0x20 ≤ point.val := by
  have digits (number : Nat) : ∀ point ∈ decimal number, 0x20 ≤ point.val := fun point member => by
    have digit := ((natural_decimal number).1.each point member).1
    omega
  unfold intText
  split
  · exact List.forall_mem_cons.mpr ⟨by decide, digits _⟩
  · exact digits _

/-- Nothing that is written for a key is a control character. -/
theorem writeKey_printable (key : Text) : ∀ point ∈ writeKey key, 0x20 ≤ point.val := by
  rw [writeKey]
  simp only [List.forall_mem_cons, List.forall_mem_append]
  exact ⟨by decide, escapeAll_printable key, by decide, by decide, fun _ member => by cases member⟩

/-- The code points of a word without control characters are none. -/
theorem text_printable {word : String}
    (printable : word.toList.all fun letter => 0x20 ≤ letter.toNat) :
    ∀ point ∈ text word, 0x20 ≤ point.val := by
  intro point member
  obtain ⟨letter, inside, rfl⟩ := List.mem_map.mp member
  rw [(code_char letter).1]
  exact of_decide_eq_true (List.all_eq_true.mp printable letter inside)

mutual

/-- Nothing that is written for a value is a control character. -/
theorem write_printable : ∀ value : Value, ∀ point ∈ write value, 0x20 ≤ point.val
  | .null => text_printable (by decide)
  | .bool true => text_printable (by decide)
  | .bool false => text_printable (by decide)
  | .int number => intText_printable number
  | .str content => by
    rw [write]
    simp only [List.forall_mem_cons, List.forall_mem_append]
    exact ⟨by decide, escapeAll_printable content, by decide, fun _ member => by cases member⟩
  | .arr items => by
    rw [write]
    simp only [List.forall_mem_cons, List.forall_mem_append]
    exact ⟨by decide, writeItems_printable items, by decide, fun _ member => by cases member⟩
  | .obj entries => by
    rw [write]
    simp only [List.forall_mem_cons, List.forall_mem_append]
    exact ⟨by decide, writeEntries_printable entries, by decide, fun _ member => by cases member⟩

/-- Nothing that is written for the items of an array is a control character. -/
theorem writeItems_printable : ∀ items : List Value,
    ∀ point ∈ writeItems items, 0x20 ≤ point.val
  | [] => fun _ member => by cases member
  | [item] => write_printable item
  | item :: other :: rest => by
    rw [writeItems]
    · simp only [List.forall_mem_cons, List.forall_mem_append]
      exact ⟨write_printable item, by decide, writeItems_printable (other :: rest)⟩
    · exact List.cons_ne_nil _ _

/-- Nothing that is written for the entries of an object is a control character. -/
theorem writeEntries_printable : ∀ entries : List (Text × Value),
    ∀ point ∈ writeEntries entries, 0x20 ≤ point.val
  | [] => fun _ member => by cases member
  | [(key, item)] => by
    rw [writeEntries]
    exact List.forall_mem_append.mpr ⟨writeKey_printable key, write_printable item⟩
  | (key, item) :: other :: rest => by
    rw [writeEntries]
    · simp only [List.forall_mem_cons, List.forall_mem_append]
      exact ⟨writeKey_printable key, write_printable item, by decide,
        writeEntries_printable (other :: rest)⟩
    · exact List.cons_ne_nil _ _

end

/-- The bytes of a text without control characters are none. -/
theorem encodeAll_printable {content : Text} (printable : ∀ point ∈ content, 0x20 ≤ point.val) :
    ∀ unit ∈ encodeAll content, 0x20 ≤ unit.toNat := by
  intro unit member
  obtain ⟨point, inside, held⟩ := List.mem_flatMap.mp member
  have low := printable point inside
  have high := point.isLt
  unfold encodeCode at held
  dsimp only at held
  split_ifs at held <;> simp only [List.mem_cons, List.not_mem_nil, or_false] at held
  · rw [held, byte_toNat _ (by omega)]
    exact low
  · rcases held with rfl | rfl <;> rw [byte_toNat _ (by omega)] <;> omega
  · rcases held with rfl | rfl | rfl <;> rw [byte_toNat _ (by omega)] <;> omega
  · rcases held with rfl | rfl | rfl | rfl <;> rw [byte_toNat _ (by omega)] <;> omega

end Bytes

end StrictJson
