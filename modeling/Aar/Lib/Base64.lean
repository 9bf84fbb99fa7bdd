import Aar.Lib.Utf8

/-! Base64 with padding, and that its canonical texts are those of bytes. -/

namespace Base64

open Utf8

section Letters

/-- The letter of six bits. -/
def letter (value : Nat) : Code :=
  if value < 26 then code (0x41 + value)
  else if value < 52 then code (0x47 + value)
  else if value < 62 then code (value - 4)
  else if value = 62 then 0x2b
  else 0x2f

/-- The six bits that a letter is for. -/
def letterValue (point : Code) : Option Nat :=
  if 0x41 ≤ point.val ∧ point.val ≤ 0x5a then some (point.val - 0x41)
  else if 0x61 ≤ point.val ∧ point.val ≤ 0x7a then some (point.val - 0x47)
  else if 0x30 ≤ point.val ∧ point.val ≤ 0x39 then some (point.val + 4)
  else if point.val = 0x2b then some 62
  else if point.val = 0x2f then some 63
  else none

/-- The character that fills up the last group. -/
def padding : Code := 0x3d

/-- The number of a letter. -/
theorem letter_val {value : Nat} (small : value < 64) : (letter value).val =
    if value < 26 then 0x41 + value else if value < 52 then 0x47 + value
    else if value < 62 then value - 4 else if value = 62 then 0x2b else 0x2f := by
  unfold letter
  split
  · exact code_val _ (by omega)
  · split
    · exact code_val _ (by omega)
    · split
      · exact code_val _ (by omega)
      · split <;> rfl

/-- A letter is read as the bits that it is for. -/
theorem letterValue_letter {value : Nat} (small : value < 64) :
    letterValue (letter value) = some value := by
  have number := letter_val small
  unfold letterValue
  rw [number]
  split_ifs <;> first | omega | (congr 1; omega)

theorem letter_plain {value : Nat} (small : value < 64) :
    0x2b ≤ (letter value).val ∧ (letter value).val ≤ 0x7a ∧ (letter value).val ≠ 0x5c := by
  rw [letter_val small]
  split_ifs <;> omega

/-- A letter is no padding. -/
theorem letter_ne_padding {value : Nat} (small : value < 64) : letter value ≠ padding := by
  intro same
  have number := congrArg Fin.val same
  rw [letter_val small] at number
  have filled : padding.val = 0x3d := rfl
  rw [filled] at number
  split_ifs at number <;> omega

end Letters

section Groups

/-- `b64encode`: three bytes by four letters, the last group being filled up. -/
def encode : List UInt8 → Text
  | [] => []
  | [first] =>
    [letter (first.toNat / 4), letter (first.toNat % 4 * 16), padding, padding]
  | [first, second] =>
    [letter (first.toNat / 4), letter (first.toNat % 4 * 16 + second.toNat / 16),
      letter (second.toNat % 16 * 4), padding]
  | first :: second :: third :: rest =>
    letter (first.toNat / 4) :: letter (first.toNat % 4 * 16 + second.toNat / 16) ::
      letter (second.toNat % 16 * 4 + third.toNat / 64) :: letter (third.toNat % 64) ::
        encode rest

/-- The bytes of a group that is filled up. -/
def lastBytes (first second third : Code) : Option (List UInt8) := do
  let one ← letterValue first
  let two ← letterValue second
  if third = padding then return [byte (one * 4 + two / 16)]
  else do
    let three ← letterValue third
    return [byte (one * 4 + two / 16), byte (two % 16 * 16 + three / 4)]

/-- The bytes of a full group. -/
def groupBytes (first second third fourth : Code) : Option (List UInt8) := do
  let one ← letterValue first
  let two ← letterValue second
  let three ← letterValue third
  let four ← letterValue fourth
  return [byte (one * 4 + two / 16), byte (two % 16 * 16 + three / 4),
    byte (three % 4 * 64 + four)]

/-- `b64decode` with validation: four letters by three bytes, up to a group that is filled up. -/
def decode : Text → Option (List UInt8)
  | [] => some []
  | first :: second :: third :: fourth :: rest =>
    if fourth = padding then
      if rest = [] then lastBytes first second third else none
    else do
      let group ← groupBytes first second third fourth
      let others ← decode rest
      return group ++ others
  | _ => none

theorem byte_parts (unit : UInt8) (high low : Nat) (same : unit.toNat = high + low) :
    byte (high + low) = unit := by
  rw [← same]
  simp [byte]

/-- What is encoded is decoded as it was. -/
theorem decode_encode (bytes : List UInt8) : decode (encode bytes) = some bytes := by
  -- The induction goes from one group to the next.
  fun_induction encode bytes with
  | case1 => rfl
  | case2 first =>
    have small := first.toNat_lt
    have one := letterValue_letter (show first.toNat / 4 < 64 by omega)
    have two := letterValue_letter (show first.toNat % 4 * 16 < 64 by omega)
    have whole : byte (first.toNat / 4 * 4 + first.toNat % 4 * 16 / 16) = first := by
      refine byte_parts first _ _ ?_
      omega
    rw [decode, if_pos rfl, if_pos rfl, lastBytes, one, two]
    show some [byte _] = some [first]
    rw [whole]
  | case3 first second =>
    have small := first.toNat_lt
    have other := second.toNat_lt
    have one := letterValue_letter (show first.toNat / 4 < 64 by omega)
    have two := letterValue_letter
      (show first.toNat % 4 * 16 + second.toNat / 16 < 64 by omega)
    have three := letterValue_letter (show second.toNat % 16 * 4 < 64 by omega)
    have apart := letter_ne_padding (show second.toNat % 16 * 4 < 64 by omega)
    have whole : byte (first.toNat / 4 * 4 +
        (first.toNat % 4 * 16 + second.toNat / 16) / 16) = first := by
      refine byte_parts first _ _ ?_
      omega
    have last : byte ((first.toNat % 4 * 16 + second.toNat / 16) % 16 * 16 +
        second.toNat % 16 * 4 / 4) = second := by
      refine byte_parts second _ _ ?_
      omega
    rw [decode, if_pos rfl, if_pos rfl, lastBytes, one, two]
    simp only [apart, if_false, three]
    show some [byte _, byte _] = some [first, second]
    rw [whole, last]
  | case4 first second third rest ih =>
    have small := first.toNat_lt
    have other := second.toNat_lt
    have further := third.toNat_lt
    have one := letterValue_letter (show first.toNat / 4 < 64 by omega)
    have two := letterValue_letter
      (show first.toNat % 4 * 16 + second.toNat / 16 < 64 by omega)
    have three := letterValue_letter
      (show second.toNat % 16 * 4 + third.toNat / 64 < 64 by omega)
    have four := letterValue_letter (show third.toNat % 64 < 64 by omega)
    have apart := letter_ne_padding (show third.toNat % 64 < 64 by omega)
    have whole : byte (first.toNat / 4 * 4 +
        (first.toNat % 4 * 16 + second.toNat / 16) / 16) = first := by
      refine byte_parts first _ _ ?_
      omega
    have middle : byte ((first.toNat % 4 * 16 + second.toNat / 16) % 16 * 16 +
        (second.toNat % 16 * 4 + third.toNat / 64) / 4) = second := by
      refine byte_parts second _ _ ?_
      omega
    have last : byte ((second.toNat % 16 * 4 + third.toNat / 64) % 4 * 64 +
        third.toNat % 64) = third := by
      refine byte_parts third _ _ ?_
      omega
    rw [decode, if_neg apart, groupBytes, one, two, three, four, ih]
    show some (byte _ :: byte _ :: byte _ :: rest) = some (first :: second :: third :: rest)
    rw [whole, middle, last]

theorem encode_injective : Function.Injective encode := fun first second same =>
  Option.some.inj (by rw [← decode_encode first, ← decode_encode second, same])

/-- What is encoded are printable ASCII characters other than a quote and a backslash. -/
theorem encode_plain (bytes : List UInt8) :
    ∀ point ∈ encode bytes, 0x2b ≤ point.val ∧ point.val ≤ 0x7a ∧ point.val ≠ 0x5c := by
  have filled : 0x2b ≤ padding.val ∧ padding.val ≤ 0x7a ∧ padding.val ≠ 0x5c := by decide
  fun_induction encode bytes with
  | case1 => exact fun _ member => by cases member
  | case2 first =>
    have small := first.toNat_lt
    simp only [List.forall_mem_cons]
    exact ⟨letter_plain (by omega), letter_plain (by omega), filled, filled,
      fun _ member => by cases member⟩
  | case3 first second =>
    have small := first.toNat_lt
    have other := second.toNat_lt
    simp only [List.forall_mem_cons]
    exact ⟨letter_plain (by omega), letter_plain (by omega), letter_plain (by omega), filled,
      fun _ member => by cases member⟩
  | case4 first second third rest ih =>
    have small := first.toNat_lt
    have other := second.toNat_lt
    have further := third.toNat_lt
    simp only [List.forall_mem_cons]
    exact ⟨letter_plain (by omega), letter_plain (by omega), letter_plain (by omega),
      letter_plain (by omega), ih⟩

end Groups

end Base64
