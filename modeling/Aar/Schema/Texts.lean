import Mathlib.Tactic.Common

/-! Texts as the program reads and writes them: canonical JSON, blanks, and bounded identities. -/

namespace Aar

/-- `json.dumps` of one character; other than the first control characters stand for themselves. -/
def jsonCharacter (character : Char) : String :=
  match character.toNat with
  | 34 => "\\\""
  | 92 => "\\\\"
  | 8 => "\\b"
  | 9 => "\\t"
  | 10 => "\\n"
  | 12 => "\\f"
  | 13 => "\\r"
  | code =>
    if code < 32 then "\\u00" ++ (if code < 16 then "0" else "1") ++
      String.ofList (Nat.toDigits 16 (code % 16))
    else String.ofList [character]

/-- `json.dumps` of a string. -/
def jsonString (text : String) : String :=
  "\"" ++ String.join (text.toList.map jsonCharacter) ++ "\""

/-- `canonical_json_bytes` of an object whose fields are strings, given in the order of their
names. -/
def canonicalJson (fields : List (String × String)) : String :=
  "\x7b" ++ ",".intercalate (fields.map fun field =>
    jsonString field.1 ++ ":" ++ jsonString field.2) ++ "\x7d"

/-- The characters that `str.split` and `str.strip` take for blanks. -/
def blankCodes : List Nat :=
  [9, 10, 11, 12, 13, 28, 29, 30, 31, 32, 133, 160, 5760, 8192, 8193, 8194, 8195, 8196, 8197, 8198,
    8199, 8200, 8201, 8202, 8232, 8233, 8239, 8287, 12288]

/-- A blank character. -/
def Blank (character : Char) : Prop := character.toNat ∈ blankCodes

instance (character : Char) : Decidable (Blank character) :=
  inferInstanceAs (Decidable (_ ∈ _))

/-- A text that `str.strip` leaves as it is. -/
def Stripped (text : String) : Prop :=
  (∀ first ∈ text.toList.head?, ¬ Blank first) ∧ ∀ last ∈ text.toList.getLast?, ¬ Blank last

instance (text : String) : Decidable (Stripped text) :=
  inferInstanceAs (Decidable (_ ∧ _))

/-- A text whose length in characters is between one and a bound. -/
def Bounded (limit : Nat) (text : String) : Prop := 1 ≤ text.length ∧ text.length ≤ limit

instance (limit : Nat) (text : String) : Decidable (Bounded limit text) :=
  inferInstanceAs (Decidable (_ ∧ _))

/-- A bounded public identity. -/
def IsToken (text : String) : Prop :=
  match text.toList with
  | [] => False
  | first :: rest => first.isAlphanum ∧ rest.length ≤ 127 ∧
    ∀ character ∈ rest, character.isAlphanum ∨ character ∈ "._~-".toList

instance (text : String) : Decidable (IsToken text) :=
  -- The characters are decided along the text, never by going through all of `Char`.
  match found : text.toList with
  | [] => isFalse (by simp only [IsToken, found, not_false_eq_true])
  | first :: rest =>
    decidable_of_iff (first.isAlphanum ∧ rest.length ≤ 127 ∧
      rest.all fun character => character.isAlphanum || "._~-".toList.elem character)
      (by simp only [IsToken, found, List.all_eq_true, Bool.or_eq_true, List.elem_eq_mem,
        decide_eq_true_eq])

/-- A bounded public identity, as a value of its own. -/
abbrev Token := { text : String // IsToken text }

/-- A text has at most as many characters as it has bytes. -/
theorem length_le_utf8ByteSize (text : String) : text.length ≤ text.utf8ByteSize := by
  -- Every character takes at least one byte.
  have along : ∀ characters : List Char,
      characters.length ≤ (String.ofList characters).utf8ByteSize := by
    intro characters
    induction characters with
    | nil => exact Nat.zero_le _
    | cons character rest ih =>
      have split : String.ofList (character :: rest) =
          String.singleton character ++ String.ofList rest := by
        rw [← String.toList_inj]
        simp
      have positive := character.utf8Size_pos
      rw [split, String.utf8ByteSize_append, String.utf8ByteSize_singleton, List.length_cons]
      omega
  have whole := along text.toList
  rwa [String.ofList_toList, String.length_toList] at whole

end Aar
