import Aar.Lib.Guarded
import Aar.Lib.JsonValue

/-! The scanner of JSON texts that Python has, with the hooks that build values or raise. -/

namespace StrictJson

open Guarded Utf8

section Characters

/-- The text of a word. -/
def text (word : String) : Text := word.toList.map fun letter => code letter.toNat

/-- A character between the parts of a value. -/
def Blank (point : Code) : Prop := point.val ∈ [0x20, 0x09, 0x0a, 0x0d]

instance : DecidablePred Blank := fun _ => inferInstanceAs (Decidable (_ ∈ _))

/-- What follows the characters between the parts of a value. -/
def skipBlank (input : Text) : Text := input.dropWhile fun point => Blank point

/-- A decimal digit. -/
def Digit (point : Code) : Prop := 0x30 ≤ point.val ∧ point.val ≤ 0x39

instance : DecidablePred Digit := fun _ => inferInstanceAs (Decidable (_ ∧ _))

/-- The value of a digit of a code unit. -/
def hexValue (point : Code) : Option Nat :=
  if Digit point then some (point.val - 0x30)
  else if 0x61 ≤ point.val ∧ point.val ≤ 0x66 then some (point.val - 0x61 + 10)
  else if 0x41 ≤ point.val ∧ point.val ≤ 0x46 then some (point.val - 0x41 + 10)
  else none

/-- The code unit that four digits are for. -/
def hexUnit (first second third fourth : Code) : Option Nat := do
  let first ← hexValue first
  let second ← hexValue second
  let third ← hexValue third
  let fourth ← hexValue fourth
  return ((first * 16 + second) * 16 + third) * 16 + fourth

/-- A code unit that starts a pair. -/
def High (unit : Nat) : Prop := 0xd800 ≤ unit ∧ unit ≤ 0xdbff

instance : DecidablePred High := fun _ => inferInstanceAs (Decidable (_ ∧ _))

/-- A code unit that ends a pair. -/
def Low (unit : Nat) : Prop := 0xdc00 ≤ unit ∧ unit ≤ 0xdfff

instance : DecidablePred Low := fun _ => inferInstanceAs (Decidable (_ ∧ _))

/-- The code point that a pair is for. -/
def joined (high low : Nat) : Code := code (0x10000 + (high - 0xd800) * 0x400 + (low - 0xdc00))

/-- The letters after a backslash, and what they are for. -/
def shortEscapes : List (Nat × Nat) :=
  [(0x22, 0x22), (0x5c, 0x5c), (0x2f, 0x2f), (0x62, 0x08), (0x66, 0x0c), (0x6e, 0x0a),
    (0x72, 0x0d), (0x74, 0x09)]

/-- The code point that a letter after a backslash is for. -/
def shortEscape (letter : Code) : Option Code :=
  (shortEscapes.lookup letter.val).map code

/-- A part of a string: a code point that is written or escaped, or an escaped code unit. -/
inductive Piece where
  | point (point : Code)
  | unit (unit : Nat)

/-- The text of the parts of a string: half a pair is joined with the other half that follows. -/
def join : List Piece → Text
  | [] => []
  | .point point :: rest => point :: join rest
  | [.unit unit] => [code unit]
  | .unit unit :: .point point :: rest => code unit :: point :: join rest
  | .unit unit :: .unit other :: rest =>
    if High unit ∧ Low other then joined unit other :: join rest
    else code unit :: join (.unit other :: rest)

/-- Pieces with one more at their start. -/
def put (piece : Piece) : Option (List Piece × Text) → Option (List Piece × Text) :=
  Option.map fun scanned => (piece :: scanned.1, scanned.2)

/-- The parts of a string after its opening quote, and what follows its closing quote. -/
def scanPieces : Text → Option (List Piece × Text)
  | [] => none
  | point :: rest =>
    if point.val = 0x22 then some ([], rest)
    else if point.val = 0x5c then
      match rest with
      | [] => none
      | letter :: rest =>
        if letter.val = 0x75 then
          match rest with
          | first :: second :: third :: fourth :: rest =>
            match hexUnit first second third fourth with
            | some unit => put (.unit unit) (scanPieces rest)
            | none => none
          | _ => none
        else
          match shortEscape letter with
          | some escaped => put (.point escaped) (scanPieces rest)
          | none => none
    else if point.val < 0x20 then none
    else put (.point point) (scanPieces rest)

/-- `scanstring`: the string after an opening quote, and what follows its closing quote. -/
def scanString (input : Text) : Option (Text × Text) :=
  (scanPieces input).map fun scanned => (join scanned.1, scanned.2)

/-- The digits at the start of a text, and what follows them. -/
def spanDigits (input : Text) : Text × Text :=
  (input.takeWhile fun point => Digit point, input.dropWhile fun point => Digit point)

/-- The fraction at the start of a text, and what follows it. -/
def scanFraction (input : Text) : Text × Text :=
  match input with
  | point :: rest =>
    let (digits, after) := spanDigits rest
    if point.val = 0x2e ∧ digits ≠ [] then (point :: digits, after) else ([], input)
  | [] => ([], [])

/-- The sign of an exponent, and what follows it. -/
def scanSign (input : Text) : Text × Text :=
  match input with
  | point :: rest => if point.val = 0x2b ∨ point.val = 0x2d then ([point], rest) else ([], input)
  | [] => ([], [])

/-- The exponent at the start of a text, and what follows it. -/
def scanExponent (input : Text) : Text × Text :=
  match input with
  | point :: rest =>
    let (sign, unsigned) := scanSign rest
    let (digits, after) := spanDigits unsigned
    if (point.val = 0x65 ∨ point.val = 0x45) ∧ digits ≠ [] then
      (point :: (sign ++ digits), after)
    else ([], input)
  | [] => ([], [])

/-- The whole part of a number without its sign, and what follows it. -/
def scanWhole (input : Text) : Option (Text × Text) :=
  match input with
  | [] => none
  | point :: rest =>
    if point.val = 0x30 then some ([point], rest)
    else if Digit point then some (point :: (spanDigits rest).1, (spanDigits rest).2)
    else none

/-- The minus sign of a number, and what follows it. -/
def scanMinus (input : Text) : Text × Text :=
  match input with
  | point :: rest => if point.val = 0x2d then ([point], rest) else ([], input)
  | [] => ([], [])

/-- The literal of a number: whether it is a float, its text, and what follows it. -/
def scanNumber (input : Text) : Option (Bool × Text × Text) := do
  let (minus, unsigned) := scanMinus input
  let (whole, rest) ← scanWhole unsigned
  let (fraction, rest) := scanFraction rest
  let (exponent, rest) := scanExponent rest
  return (fraction ≠ [] ∨ exponent ≠ [], minus ++ whole ++ fraction ++ exponent, rest)

/-- What follows a word at the start of a text. -/
def afterWord (word : String) (input : Text) : Option Text :=
  if text word <+: input then some (input.drop (text word).length) else none

end Characters

section Scanning

variable {ε ν : Type}

/-- What scanning a text raises: its own errors, or what a hook raised. -/
inductive ScanError (ε : Type) where
  | invalid
  | extraData
  | recursion
  | raised (error : ε)

/-- What the parts of a text become. -/
structure Hooks (ε ν : Type) where
  null : ν
  bool : Bool → ν
  string : Text → ν
  list : List ν → ν
  integer : Text → Except ε ν
  float : Text → Except ε ν
  constant : Text → Except ε ν
  object : List (Text × ν) → Except ε ν

/-- What a hook makes of a part, with what follows it. -/
def hooked {α : Type} (made : Except ε α) (rest : Text) : Except (ScanError ε) (α × Text) :=
  match made with
  | .ok value => .ok (value, rest)
  | .error error => .error (.raised error)

/-- The items of an array up to its end, each scanned in the same way. -/
def scanItems (one : Text → Except (ScanError ε) (ν × Text)) :
    Nat → Text → Except (ScanError ε) (List ν × Text)
  | 0, _ => .error .invalid
  | fuel + 1, input => do
    let (item, rest) ← one input
    match skipBlank rest with
    | [] => .error .invalid
    | point :: rest =>
      if point.val = 0x5d then return ([item], rest)
      else if point.val = 0x2c then do
        let (items, rest) ← scanItems one fuel (skipBlank rest)
        return (item :: items, rest)
      else .error .invalid

/-- The key of an entry, with what follows the colon after it. -/
def scanKey (input : Text) : Except (ScanError ε) (Text × Text) :=
  match input with
  | [] => .error .invalid
  | point :: rest =>
    if point.val = 0x22 then
      match scanString rest with
      | none => .error .invalid
      | some (key, rest) =>
        match skipBlank rest with
        | [] => .error .invalid
        | point :: rest =>
          if point.val = 0x3a then .ok (key, skipBlank rest) else .error .invalid
    else .error .invalid

/-- The entries of an object up to its end, each value scanned in the same way. -/
def scanMembers (one : Text → Except (ScanError ε) (ν × Text)) :
    Nat → Text → Except (ScanError ε) (List (Text × ν) × Text)
  | 0, _ => .error .invalid
  | fuel + 1, input => do
    let (key, rest) ← scanKey input
    let (item, rest) ← one rest
    match skipBlank rest with
    | [] => .error .invalid
    | point :: rest =>
      if point.val = 0x7d then return ([(key, item)], rest)
      else if point.val = 0x2c then do
        let (entries, rest) ← scanMembers one fuel (skipBlank rest)
        return ((key, item) :: entries, rest)
      else .error .invalid

/-- The array after its opening bracket. -/
def scanArray (hooks : Hooks ε ν) (one : Text → Except (ScanError ε) (ν × Text)) (input : Text) :
    Except (ScanError ε) (ν × Text) :=
  match skipBlank input with
  | [] => .error .invalid
  | point :: rest =>
    if point.val = 0x5d then .ok (hooks.list [], rest)
    else do
      let (items, rest) ← scanItems one (input.length + 1) (point :: rest)
      return (hooks.list items, rest)

/-- The object after its opening brace. -/
def scanObject (hooks : Hooks ε ν) (one : Text → Except (ScanError ε) (ν × Text)) (input : Text) :
    Except (ScanError ε) (ν × Text) :=
  match skipBlank input with
  | [] => .error .invalid
  | point :: rest =>
    if point.val = 0x7d then hooked (hooks.object []) rest
    else do
      let (entries, rest) ← scanMembers one (input.length + 1) (point :: rest)
      hooked (hooks.object entries) rest

/-- A value that is no string, array or object. -/
def scanAtom (hooks : Hooks ε ν) (input : Text) : Except (ScanError ε) (ν × Text) :=
  match afterWord "null" input, afterWord "true" input, afterWord "false" input with
  | some rest, _, _ => .ok (hooks.null, rest)
  | _, some rest, _ => .ok (hooks.bool true, rest)
  | _, _, some rest => .ok (hooks.bool false, rest)
  | none, none, none =>
    match ["NaN", "Infinity", "-Infinity"].findSome? fun word =>
        (afterWord word input).map fun rest => (word, rest) with
    | some (word, rest) => hooked (hooks.constant (text word)) rest
    | none =>
      match scanNumber input with
      | some (true, literal, rest) => hooked (hooks.float literal) rest
      | some (false, literal, rest) => hooked (hooks.integer literal) rest
      | none => .error .invalid

/-- `scan_once`: the value at the start of a text, arrays and objects being nested no deeper than
the interpreter recurses. -/
def scanOnce (hooks : Hooks ε ν) : Nat → Text → Except (ScanError ε) (ν × Text)
  | depth, input =>
    match input with
    | [] => .error .invalid
    | point :: rest =>
      if point.val = 0x22 then
        match scanString rest with
        | none => .error .invalid
        | some (content, rest) => .ok (hooks.string content, rest)
      else if point.val = 0x5b then
        match depth with
        | 0 => .error .recursion
        | depth + 1 => scanArray hooks (scanOnce hooks depth) rest
      else if point.val = 0x7b then
        match depth with
        | 0 => .error .recursion
        | depth + 1 => scanObject hooks (scanOnce hooks depth) rest
      else scanAtom hooks input

/-- `json.loads`: the only value of a text. -/
def loads (hooks : Hooks ε ν) (depth : Nat) (input : Text) : Except (ScanError ε) ν := do
  let (value, rest) ← scanOnce hooks depth (skipBlank input)
  if skipBlank rest = [] then return value else .error .extraData

end Scanning

end StrictJson
