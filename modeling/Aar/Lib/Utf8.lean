import Mathlib.Algebra.Ring.Nat
import Mathlib.Data.List.Basic
import Mathlib.Tactic.Common

/-! Texts of Unicode code points, and the bytes that they are in UTF-8. -/

namespace Utf8

instance codesExist : NeZero 0x110000 := ⟨by decide⟩

/-- A Unicode code point. -/
abbrev Code := Fin 0x110000

/-- A text as its code points, lone surrogates included. -/
abbrev Text := List Code

instance : LawfulBEq Text := inferInstance

/-- A code point that stands for half of another one, and for no character. -/
def Surrogate (code : Code) : Prop := 0xd800 ≤ code.val ∧ code.val ≤ 0xdfff

instance : DecidablePred Surrogate := fun _ => inferInstanceAs (Decidable (_ ∧ _))

/-- A text of characters only. -/
def Whole (text : Text) : Prop := ∀ code ∈ text, ¬ Surrogate code

instance : DecidablePred Whole := fun text => List.decidableBAll _ text

section Encoding

/-- A number as a byte. -/
def byte (value : Nat) : UInt8 := UInt8.ofNat value

theorem byte_toNat (value : Nat) (small : value < 256) : (byte value).toNat = value := by
  simp only [byte, UInt8.toNat_ofNat']
  exact Nat.mod_eq_of_lt small

/-- The bytes of one code point. -/
def encodeCode (code : Code) : List UInt8 :=
  let value := code.val
  if value < 0x80 then [byte value]
  else if value < 0x800 then [byte (0xc0 + value / 64), byte (0x80 + value % 64)]
  else if value < 0x10000 then
    [byte (0xe0 + value / 4096), byte (0x80 + value / 64 % 64), byte (0x80 + value % 64)]
  else
    [byte (0xf0 + value / 262144), byte (0x80 + value / 4096 % 64),
      byte (0x80 + value / 64 % 64), byte (0x80 + value % 64)]

/-- The bytes of a text, code point by code point. -/
def encodeAll (text : Text) : List UInt8 := text.flatMap encodeCode

/-- The bytes of a text, if it has no surrogates. -/
def encode (text : Text) : Option (List UInt8) :=
  if Whole text then some (encodeAll text) else none

@[simp] theorem encode_eq_some {text : Text} {bytes : List UInt8} :
    encode text = some bytes ↔ Whole text ∧ encodeAll text = bytes := by
  unfold encode
  split <;> simp [*]

end Encoding

section Decoding

/-- A byte continues a character. -/
def Tail (unit : UInt8) : Prop := 0x80 ≤ unit.toNat ∧ unit.toNat < 0xc0

instance : DecidablePred Tail := fun _ => inferInstanceAs (Decidable (_ ∧ _))

/-- The bits that a continuing byte adds. -/
def tailBits (unit : UInt8) : Nat := unit.toNat - 0x80

/-- A number as a code point. -/
def code (value : Nat) : Code := Fin.ofNat 0x110000 value

theorem code_val (value : Nat) (small : value < 0x110000) : (code value).val = value := by
  simp only [code, Fin.val_ofNat]
  exact Nat.mod_eq_of_lt small

/-- The number that two bytes are for. -/
def twoBytes (first second : UInt8) : Nat := (first.toNat - 0xc0) * 64 + tailBits second

/-- The number that three bytes are for. -/
def threeBytes (first second third : UInt8) : Nat :=
  (first.toNat - 0xe0) * 4096 + tailBits second * 64 + tailBits third

/-- The number that four bytes are for. -/
def fourBytes (first second third fourth : UInt8) : Nat :=
  (first.toNat - 0xf0) * 262144 + tailBits second * 4096 + tailBits third * 64 + tailBits fourth

/-- Two bytes are a character of their own, and not a longer form of a shorter one. -/
def Two (first second : UInt8) : Prop :=
  0xc2 ≤ first.toNat ∧ first.toNat < 0xe0 ∧ Tail second

/-- Three bytes are a character of their own. -/
def Three (first second third : UInt8) : Prop :=
  0xe0 ≤ first.toNat ∧ first.toNat < 0xf0 ∧ Tail second ∧ Tail third ∧
    0x800 ≤ threeBytes first second third ∧
      ¬ (0xd800 ≤ threeBytes first second third ∧ threeBytes first second third ≤ 0xdfff)

/-- Four bytes are a character of their own. -/
def Four (first second third fourth : UInt8) : Prop :=
  0xf0 ≤ first.toNat ∧ first.toNat < 0xf5 ∧ Tail second ∧ Tail third ∧ Tail fourth ∧
    0x10000 ≤ fourBytes first second third fourth ∧
      fourBytes first second third fourth < 0x110000

instance (first second : UInt8) : Decidable (Two first second) :=
  inferInstanceAs (Decidable (_ ∧ _))

instance (first second third : UInt8) : Decidable (Three first second third) :=
  inferInstanceAs (Decidable (_ ∧ _))

instance (first second third fourth : UInt8) : Decidable (Four first second third fourth) :=
  inferInstanceAs (Decidable (_ ∧ _))

/-- The text of a list of bytes, if it is the encoding of one. -/
def decode : List UInt8 → Option Text
  | [] => some []
  | first :: rest =>
    if first.toNat < 0x80 then (decode rest).map (code first.toNat :: ·)
    else
      match rest with
      | [] => none
      | second :: rest =>
        if Two first second then (decode rest).map (code (twoBytes first second) :: ·)
        else
          match rest with
          | [] => none
          | third :: rest =>
            if Three first second third then
              (decode rest).map (code (threeBytes first second third) :: ·)
            else
              match rest with
              | [] => none
              | fourth :: rest =>
                if Four first second third fourth then
                  (decode rest).map (code (fourBytes first second third fourth) :: ·)
                else none

end Decoding

section RoundTrip

variable {bytes rest : List UInt8} {text : Text} {value : Nat}

/-- Characters of one byte are decoded. -/
theorem decode_one (small : value < 0x80) :
    decode (byte value :: rest) = (decode rest).map (code value :: ·) := by
  have first := byte_toNat value (by omega)
  rw [decode.eq_def]
  simp only [first, small, if_true]

/-- Characters of two bytes are decoded. -/
theorem decode_two (large : 0x80 ≤ value) (small : value < 0x800) :
    decode (byte (0xc0 + value / 64) :: byte (0x80 + value % 64) :: rest) =
      (decode rest).map (code value :: ·) := by
  have first := byte_toNat (0xc0 + value / 64) (by omega)
  have second := byte_toNat (0x80 + value % 64) (by omega)
  have two : Two (byte (0xc0 + value / 64)) (byte (0x80 + value % 64)) := by
    unfold Two Tail
    omega
  have same : twoBytes (byte (0xc0 + value / 64)) (byte (0x80 + value % 64)) = value := by
    unfold twoBytes tailBits
    omega
  rw [decode.eq_def]
  simp only [first, two, same, if_true]
  rw [if_neg (by omega)]

/-- Characters of three bytes are decoded. -/
theorem decode_three (large : 0x800 ≤ value) (small : value < 0x10000)
    (whole : ¬ (0xd800 ≤ value ∧ value ≤ 0xdfff)) :
    decode (byte (0xe0 + value / 4096) :: byte (0x80 + value / 64 % 64) ::
        byte (0x80 + value % 64) :: rest) = (decode rest).map (code value :: ·) := by
  have first := byte_toNat (0xe0 + value / 4096) (by omega)
  have second := byte_toNat (0x80 + value / 64 % 64) (by omega)
  have third := byte_toNat (0x80 + value % 64) (by omega)
  have same : threeBytes (byte (0xe0 + value / 4096)) (byte (0x80 + value / 64 % 64))
      (byte (0x80 + value % 64)) = value := by
    unfold threeBytes tailBits
    omega
  -- The first byte is above those that lead two.
  have two : ¬ Two (byte (0xe0 + value / 4096)) (byte (0x80 + value / 64 % 64)) := by
    unfold Two
    omega
  have three : Three (byte (0xe0 + value / 4096)) (byte (0x80 + value / 64 % 64))
      (byte (0x80 + value % 64)) := by
    unfold Three Tail
    rw [same]
    omega
  rw [decode.eq_def]
  simp only [first, two, three, same, if_true, if_false]
  rw [if_neg (by omega)]

/-- Characters of four bytes are decoded. -/
theorem decode_four (large : 0x10000 ≤ value) (small : value < 0x110000) :
    decode (byte (0xf0 + value / 262144) :: byte (0x80 + value / 4096 % 64) ::
        byte (0x80 + value / 64 % 64) :: byte (0x80 + value % 64) :: rest) =
      (decode rest).map (code value :: ·) := by
  have first := byte_toNat (0xf0 + value / 262144) (by omega)
  have second := byte_toNat (0x80 + value / 4096 % 64) (by omega)
  have third := byte_toNat (0x80 + value / 64 % 64) (by omega)
  have fourth := byte_toNat (0x80 + value % 64) (by omega)
  have same : fourBytes (byte (0xf0 + value / 262144)) (byte (0x80 + value / 4096 % 64))
      (byte (0x80 + value / 64 % 64)) (byte (0x80 + value % 64)) = value := by
    unfold fourBytes tailBits
    omega
  -- The first byte is above those that lead two or three.
  have two : ¬ Two (byte (0xf0 + value / 262144)) (byte (0x80 + value / 4096 % 64)) := by
    unfold Two
    omega
  have three : ¬ Three (byte (0xf0 + value / 262144)) (byte (0x80 + value / 4096 % 64))
      (byte (0x80 + value / 64 % 64)) := by
    unfold Three
    omega
  have four : Four (byte (0xf0 + value / 262144)) (byte (0x80 + value / 4096 % 64))
      (byte (0x80 + value / 64 % 64)) (byte (0x80 + value % 64)) := by
    unfold Four Tail
    rw [same]
    omega
  rw [decode.eq_def]
  simp only [first, two, three, four, same, if_true, if_false]
  rw [if_neg (by omega)]

theorem code_of_val (point : Code) : code point.val = point :=
  Fin.ext (code_val point.val point.isLt)

/-- The bytes of a code point are decoded to it. -/
theorem decode_encodeCode {point : Code} (whole : ¬ Surrogate point) :
    decode (encodeCode point ++ rest) = (decode rest).map (point :: ·) := by
  have bound := point.isLt
  unfold Surrogate at whole
  unfold encodeCode
  dsimp only
  -- One case for each length of a character.
  split
  · next small =>
    rw [List.singleton_append, decode_one small, code_of_val]
  · split
    · next large small =>
      rw [List.cons_append, List.singleton_append, decode_two (by omega) small, code_of_val]
    · split
      · next large small =>
        simp only [List.cons_append, List.nil_append]
        rw [decode_three (by omega) small whole, code_of_val]
      · simp only [List.cons_append, List.nil_append]
        rw [decode_four (by omega) bound, code_of_val]

/-- The bytes of a text are decoded to it. -/
theorem decode_encodeAll (whole : Whole text) : decode (encodeAll text) = some text := by
  induction text with
  | nil => rfl
  | cons point rest ih =>
    rw [Whole, List.forall_mem_cons] at whole
    rw [encodeAll, List.flatMap_cons, decode_encodeCode whole.1, ← encodeAll, ih whole.2]
    rfl

theorem byte_of_toNat (unit : UInt8) : byte unit.toNat = unit := UInt8.ofNat_toNat

theorem byte_eq (unit : UInt8) {number : Nat} (same : number = unit.toNat) : byte number = unit := by
  rw [same, byte_of_toNat]

/-- Two bytes that are a character are its bytes. -/
theorem encode_two {first second : UInt8} (two : Two first second) :
    ¬ Surrogate (code (twoBytes first second)) ∧
      encodeCode (code (twoBytes first second)) = [first, second] := by
  unfold Two Tail at two
  have value := code_val (twoBytes first second) (by unfold twoBytes tailBits; omega)
  unfold Surrogate encodeCode
  dsimp only
  rw [value]
  unfold twoBytes tailBits
  refine ⟨by omega, ?_⟩
  rw [if_neg (by omega), if_pos (by omega), byte_eq first (by omega), byte_eq second (by omega)]

/-- Three bytes that are a character are its bytes. -/
theorem encode_three {first second third : UInt8} (three : Three first second third) :
    ¬ Surrogate (code (threeBytes first second third)) ∧
      encodeCode (code (threeBytes first second third)) = [first, second, third] := by
  unfold Three Tail at three
  have value := code_val (threeBytes first second third) (by unfold threeBytes tailBits; omega)
  unfold Surrogate encodeCode
  dsimp only
  rw [value]
  refine ⟨by omega, ?_⟩
  unfold threeBytes tailBits at three ⊢
  rw [if_neg (by omega), if_neg (by omega), if_pos (by omega), byte_eq first (by omega),
    byte_eq second (by omega), byte_eq third (by omega)]

/-- Four bytes that are a character are its bytes. -/
theorem encode_four {first second third fourth : UInt8} (four : Four first second third fourth) :
    ¬ Surrogate (code (fourBytes first second third fourth)) ∧
      encodeCode (code (fourBytes first second third fourth)) =
        [first, second, third, fourth] := by
  unfold Four Tail at four
  have value := code_val (fourBytes first second third fourth) (by omega)
  unfold Surrogate encodeCode
  dsimp only
  rw [value]
  refine ⟨by omega, ?_⟩
  unfold fourBytes tailBits at four ⊢
  rw [if_neg (by omega), if_neg (by omega), if_neg (by omega), byte_eq first (by omega),
    byte_eq second (by omega), byte_eq third (by omega), byte_eq fourth (by omega)]

/-- A text that was decoded starts with a character whose bytes were read. -/
theorem decoded_cons {point : Code} {read : List UInt8}
    (own : ¬ Surrogate point ∧ encodeCode point = read)
    (ih : ∀ {text : Text}, decode rest = some text → Whole text ∧ encodeAll text = rest)
    (decoded : (decode rest).map (point :: ·) = some text) :
    Whole text ∧ encodeAll text = read ++ rest := by
  obtain ⟨later, found, rfl⟩ := Option.map_eq_some_iff.mp decoded
  obtain ⟨whole, same⟩ := ih found
  refine ⟨?_, ?_⟩
  · rw [Whole, List.forall_mem_cons]
    exact ⟨own.1, whole⟩
  · rw [encodeAll, List.flatMap_cons, own.2, ← encodeAll, same]

/-- What is decoded is the text that the bytes encode. -/
theorem encodeAll_decode (bytes : List UInt8) :
    ∀ {text : Text}, decode bytes = some text → Whole text ∧ encodeAll text = bytes := by
  -- Each step reads one character and leaves fewer bytes.
  fun_induction decode bytes with
  | case1 =>
    intro text decoded
    obtain rfl := Option.some.inj decoded
    exact ⟨nofun, rfl⟩
  | case2 first rest small ih =>
    intro text decoded
    have value := code_val first.toNat (by omega)
    have own : ¬ Surrogate (code first.toNat) ∧ encodeCode (code first.toNat) = [first] := by
      unfold Surrogate encodeCode
      dsimp only
      rw [value]
      exact ⟨by omega, by rw [if_pos small, byte_of_toNat]⟩
    exact decoded_cons own ih decoded
  | case4 first small second rest two ih =>
    exact fun decoded => decoded_cons (encode_two two) ih decoded
  | case6 first small second two third rest three ih =>
    exact fun decoded => decoded_cons (encode_three three) ih decoded
  | case8 first small second two third three fourth rest four ih =>
    exact fun decoded => decoded_cons (encode_four four) ih decoded
  | case3 | case5 | case7 | case9 => exact fun decoded => by cases decoded

theorem decode_eq_some : decode bytes = some text ↔ encode text = some bytes := by
  rw [encode_eq_some]
  refine ⟨encodeAll_decode bytes, fun ⟨whole, same⟩ => ?_⟩
  rw [← same]
  exact decode_encodeAll whole

/-- Different texts have different bytes. -/
theorem encode_injective {first second : Text} (one : encode first = some bytes)
    (other : encode second = some bytes) : first = second :=
  Option.some.inj ((decode_eq_some.mpr one).symm.trans (decode_eq_some.mpr other))

end RoundTrip

end Utf8
