import Aar.Lib.JsonScanner

/-! Strings as texts of code points, and texts without surrogates as strings. -/

namespace StrictJson

open Utf8

/-- The string that a text without surrogates is. -/
def string (content : Text) : String :=
  String.ofList (content.map fun point => Char.ofNat point.val)

/-- The number of a character is a code point, and no surrogate. -/
theorem code_char (letter : Char) :
    (code letter.toNat).val = letter.toNat ∧ ¬ Surrogate (code letter.toNat) := by
  have valid : letter.toNat.isValidChar := letter.valid
  unfold Nat.isValidChar at valid
  have kept : (code letter.toNat).val = letter.toNat := code_val _ (by omega)
  refine ⟨kept, fun surrogate => ?_⟩
  unfold Surrogate at surrogate
  omega

theorem whole_of_string (content : String) : Whole (text content) := by
  intro point member
  obtain ⟨letter, _, rfl⟩ := List.mem_map.mp member
  exact (code_char letter).2

/-- A string is read back from its text. -/
theorem string_text (content : String) : string (text content) = content := by
  have each : (text content).map (fun point => Char.ofNat point.val) = content.toList := by
    unfold text
    rw [List.map_map]
    refine (List.map_congr_left fun letter _ => ?_).trans (List.map_id _)
    simp only [Function.comp_apply, (code_char letter).1, Char.ofNat_toNat, id_eq]
  rw [string, each, String.ofList_toList]

/-- A text without surrogates is read back from its string. -/
theorem text_string {content : Text} (whole : Whole content) : text (string content) = content := by
  unfold text string
  rw [String.toList_ofList, List.map_map]
  refine (List.map_congr_left fun point member => ?_).trans (List.map_id _)
  have plain := whole point member
  unfold Surrogate at plain
  have valid : point.val.isValidChar := by
    have bound := point.isLt
    unfold Nat.isValidChar
    omega
  have same : (Char.ofNat point.val).toNat = point.val := by
    rw [Char.ofNat, dif_pos valid]
    rfl
  refine Fin.ext ?_
  rw [Function.comp_apply, same, code_val _ point.isLt]
  rfl

end StrictJson
