import Aar.Lib.JsonGrammar

/-! The scanner reads a value from a text exactly when the grammar derives the text from it. -/

namespace StrictJson

open Guarded Utf8

variable {ε : Type}

/-- Hooks that build values from the parts that are admissible, and raise for all others. -/
structure Reads (hooks : Hooks ε Value) (admits : Text → Prop) : Prop where
  null : hooks.null = .null
  bool : ∀ flag, hooks.bool flag = .bool flag
  string : ∀ content, hooks.string content = .str content
  list : ∀ items, hooks.list items = .arr items
  integer : ∀ literal value, hooks.integer literal = .ok value ↔
    admits literal ∧ value = .int (literalValue literal)
  float : ∀ literal value, hooks.float literal ≠ .ok value
  constant : ∀ word value, hooks.constant word ≠ .ok value
  object : ∀ entries value, hooks.object entries = .ok value ↔
    (entries.map Prod.fst).Nodup ∧ value = .obj entries

section Parts

variable {input rest : Text}

/-- A hook that succeeds leaves what follows. -/
theorem hooked_ok {α : Type} {made : Except ε α} {value : α} {after : Text} :
    hooked made rest = .ok (value, after) ↔ made = .ok value ∧ after = rest := by
  unfold hooked
  cases made with
  | error error => simp
  | ok found =>
    simp only [Except.ok.injEq, Prod.mk.injEq]
    exact and_congr Iff.rfl eq_comm

/-- A scanned key was written up to the value under it. -/
theorem scanKey_sound {key : Text}
    (scanned : (scanKey input : Except (ScanError ε) _) = .ok (key, rest)) :
    ∃ name, KeyText key name ∧ input = name ++ rest := by
  unfold scanKey at scanned
  split at scanned
  · cases scanned
  · next quote after =>
    split at scanned
    · next isQuote =>
      split at scanned
      · cases scanned
      · next content tail found =>
        split at scanned
        · cases scanned
        · next colon last skipped =>
          split at scanned
          · next isColon =>
            obtain ⟨rfl, rfl⟩ := Prod.mk.inj (Except.ok.inj scanned)
            obtain rfl : quote = 0x22 := Fin.ext isQuote
            obtain rfl : colon = 0x3a := Fin.ext isColon
            obtain ⟨written, derived, rfl⟩ := scanString_sound found
            obtain ⟨before, leading, same⟩ := skipBlank_split tail
            obtain ⟨between, trailing, later⟩ := skipBlank_split last
            refine ⟨_, ⟨written, before, between, derived, leading, trailing, rfl⟩, ?_⟩
            rw [skipped, later] at same
            simp only [same, List.cons_append, List.append_assoc]
          · cases scanned
    · cases scanned

/-- A written key is scanned up to the value under it. -/
theorem scanKey_complete {key name : Text} (named : KeyText key name)
    (starts : ∀ point ∈ rest.head?, ¬ Blank point) :
    (scanKey (name ++ rest) : Except (ScanError ε) _) = .ok (key, rest) := by
  obtain ⟨content, before, after, derived, leading, trailing, rfl⟩ := named
  have scanned : scanString (content ++ 0x22 :: (before ++ 0x3a :: (after ++ rest))) =
      some (key, before ++ 0x3a :: (after ++ rest)) := scanString_complete derived
  have colon : skipBlank (before ++ 0x3a :: (after ++ rest)) = 0x3a :: (after ++ rest) := by
    rw [skipBlank_append leading, skipBlank_of_not (by decide)]
  have last : skipBlank (after ++ rest) = rest := by
    rw [skipBlank_append trailing]
    cases rest with
    | nil => rfl
    | cons point tail => exact skipBlank_of_not (starts point rfl)
  simp only [List.cons_append, List.append_assoc]
  unfold scanKey
  simp [scanned, colon, last]

end Parts

section Soundness

variable {admits : Text → Prop} {depth : Nat} {input rest : Text}
  {one : Text → Except (ScanError ε) (Value × Text)}

/-- What scans one value from a text reads a written value that is nested no deeper than that. -/
def Sound (admits : Text → Prop) (depth : Nat)
    (one : Text → Except (ScanError ε) (Value × Text)) : Prop :=
  ∀ {input rest : Text} {value : Value}, one input = .ok (value, rest) →
    ∃ written, Writes admits value written ∧ input = written ++ rest ∧ value.depth ≤ depth

/-- Scanned items were written before the end of the array. -/
theorem scanItems_sound (sound : Sound admits depth one) : ∀ {fuel : Nat} {input rest : Text}
    {items : List Value}, scanItems one fuel input = .ok (items, rest) →
      ∃ written, WritesItems admits items written ∧ input = written ++ 0x5d :: rest ∧
        depthItems items ≤ depth := by
  intro fuel
  induction fuel with
  | zero => exact fun scanned => by cases scanned
  | succ fuel ih =>
    intro input rest items scanned
    unfold scanItems at scanned
    obtain ⟨⟨item, after⟩, first, scanned⟩ := bind_ok.mp scanned
    obtain ⟨written, writes, same, shallow⟩ := sound first
    obtain ⟨before, blanks, split⟩ := skipBlank_split after
    dsimp only at scanned
    split at scanned
    · cases scanned
    · next point tail skipped =>
      rw [skipped] at split
      split at scanned
      · -- The item was the last one.
        next closing =>
        obtain ⟨rfl, rfl⟩ := Prod.mk.inj (Except.ok.inj scanned)
        obtain rfl : point = 0x5d := Fin.ext closing
        refine ⟨_, .one Blanks.nil writes blanks, ?_, ?_⟩
        · simp only [same, split, List.nil_append, List.append_assoc]
        · simpa [depthItems] using shallow
      · split at scanned
        · next comma =>
          obtain rfl : point = 0x2c := Fin.ext comma
          obtain ⟨⟨others, last⟩, later, ended⟩ := bind_ok.mp scanned
          obtain ⟨rfl, rfl⟩ := Prod.mk.inj (Except.ok.inj ended)
          obtain ⟨remaining, derived, equal, deep⟩ := ih later
          obtain ⟨between, leading, cut⟩ := skipBlank_split tail
          refine ⟨_, .more Blanks.nil writes blanks
            (derived.leading leading), ?_, ?_⟩
          · rw [equal] at cut
            simp only [same, split, cut, List.nil_append, List.append_assoc, List.cons_append]
          · simpa [depthItems] using ⟨shallow, deep⟩
        · cases scanned

/-- Scanned entries were written before the end of the object. -/
theorem scanMembers_sound (sound : Sound admits depth one) : ∀ {fuel : Nat} {input rest : Text}
    {entries : List (Text × Value)}, scanMembers one fuel input = .ok (entries, rest) →
      ∃ written, WritesMembers admits entries written ∧ input = written ++ 0x7d :: rest ∧
        depthEntries entries ≤ depth := by
  intro fuel
  induction fuel with
  | zero => exact fun scanned => by cases scanned
  | succ fuel ih =>
    intro input rest entries scanned
    unfold scanMembers at scanned
    obtain ⟨⟨key, valued⟩, keyed, scanned⟩ := bind_ok.mp scanned
    obtain ⟨⟨item, after⟩, first, scanned⟩ := bind_ok.mp scanned
    obtain ⟨name, named, same⟩ := scanKey_sound keyed
    obtain ⟨written, writes, equal, shallow⟩ := sound first
    obtain ⟨before, blanks, split⟩ := skipBlank_split after
    dsimp only at scanned equal
    split at scanned
    · cases scanned
    · next point tail skipped =>
      rw [skipped] at split
      split at scanned
      · -- The entry was the last one.
        next closing =>
        obtain ⟨rfl, rfl⟩ := Prod.mk.inj (Except.ok.inj scanned)
        obtain rfl : point = 0x7d := Fin.ext closing
        refine ⟨_, .one Blanks.nil named writes blanks,
          ?_, ?_⟩
        · simp only [same, equal, split, List.nil_append, List.append_assoc]
        · simpa [depthEntries] using shallow
      · split at scanned
        · next comma =>
          obtain rfl : point = 0x2c := Fin.ext comma
          obtain ⟨⟨others, last⟩, later, ended⟩ := bind_ok.mp scanned
          obtain ⟨rfl, rfl⟩ := Prod.mk.inj (Except.ok.inj ended)
          obtain ⟨remaining, derived, read, deep⟩ := ih later
          obtain ⟨between, leading, cut⟩ := skipBlank_split tail
          refine ⟨_, .more Blanks.nil named writes blanks
            (derived.leading leading), ?_, ?_⟩
          · rw [read] at cut
            simp only [same, equal, split, cut, List.nil_append, List.append_assoc, List.cons_append]
          · simpa [depthEntries] using ⟨shallow, deep⟩
        · cases scanned

variable {hooks : Hooks ε Value} {value : Value}

/-- A scanned string was written between its quotes. -/
theorem scannedString_sound (reads : Reads hooks admits)
    (scanned : (match scanString input with
      | none => .error ScanError.invalid
      | some (content, rest) => .ok (hooks.string content, rest) :
        Except (ScanError ε) (Value × Text)) = .ok (value, rest)) :
    ∃ written, Writes admits value written ∧ 0x22 :: input = written ++ rest ∧
      value.depth ≤ depth := by
  split at scanned
  · cases scanned
  · next content after found =>
    obtain ⟨rfl, rfl⟩ := Prod.mk.inj (Except.ok.inj scanned)
    obtain ⟨written, derived, same⟩ := scanString_sound found
    rw [reads.string]
    exact ⟨_, .str derived, by simp [same], Nat.zero_le _⟩

/-- A scanned array was written after its opening bracket. -/
theorem scanArray_sound (reads : Reads hooks admits) (sound : Sound admits depth one)
    (scanned : scanArray hooks one input = .ok (value, rest)) :
    ∃ written, Writes admits value written ∧ 0x5b :: input = written ++ rest ∧
      value.depth ≤ depth + 1 := by
  unfold scanArray at scanned
  obtain ⟨before, leading, same⟩ := skipBlank_split input
  split at scanned
  · cases scanned
  · next point after skipped =>
    rw [skipped] at same
    split at scanned
    · next closing =>
      obtain ⟨rfl, rfl⟩ := Prod.mk.inj (Except.ok.inj scanned)
      obtain rfl : point = 0x5d := Fin.ext closing
      rw [reads.list]
      refine ⟨_, .noItems leading, by simp [same], ?_⟩
      simp [Value.depth, depthItems]
    · obtain ⟨⟨items, last⟩, each, ended⟩ := bind_ok.mp scanned
      obtain ⟨rfl, rfl⟩ := Prod.mk.inj (Except.ok.inj ended)
      obtain ⟨written, writes, equal, shallow⟩ := scanItems_sound sound each
      rw [reads.list]
      refine ⟨_, .items (writes.leading leading), ?_, Nat.succ_le_succ shallow⟩
      rw [same, equal]
      simp

/-- A scanned object was written after its opening brace. -/
theorem scanObject_sound (reads : Reads hooks admits) (sound : Sound admits depth one)
    (scanned : scanObject hooks one input = .ok (value, rest)) :
    ∃ written, Writes admits value written ∧ 0x7b :: input = written ++ rest ∧
      value.depth ≤ depth + 1 := by
  unfold scanObject at scanned
  obtain ⟨before, leading, same⟩ := skipBlank_split input
  split at scanned
  · cases scanned
  · next point after skipped =>
    rw [skipped] at same
    split at scanned
    · next closing =>
      obtain ⟨made, rfl⟩ := hooked_ok.mp scanned
      obtain ⟨-, rfl⟩ := (reads.object _ _).mp made
      obtain rfl : point = 0x7d := Fin.ext closing
      refine ⟨_, .noEntries leading, by simp [same], ?_⟩
      simp [Value.depth, depthEntries]
    · obtain ⟨⟨entries, last⟩, each, ended⟩ := bind_ok.mp scanned
      obtain ⟨made, rfl⟩ := hooked_ok.mp ended
      obtain ⟨distinct, rfl⟩ := (reads.object _ _).mp made
      obtain ⟨written, writes, equal, shallow⟩ := scanMembers_sound sound each
      refine ⟨_, .entries distinct (writes.leading leading), ?_, Nat.succ_le_succ shallow⟩
      rw [same, equal]
      simp

/-- A scanned atom was written as a word or as an integer. -/
theorem scanAtom_sound (reads : Reads hooks admits)
    (scanned : scanAtom hooks input = .ok (value, rest)) :
    ∃ written, Writes admits value written ∧ input = written ++ rest ∧ value.depth ≤ depth := by
  unfold scanAtom at scanned
  split at scanned
  · next after word =>
    obtain ⟨rfl, rfl⟩ := Prod.mk.inj (Except.ok.inj scanned)
    rw [reads.null]
    exact ⟨_, .null, afterWord_eq_some.mp word, Nat.zero_le _⟩
  · next after word _ =>
    obtain ⟨rfl, rfl⟩ := Prod.mk.inj (Except.ok.inj scanned)
    rw [reads.bool]
    exact ⟨_, .true, afterWord_eq_some.mp word, Nat.zero_le _⟩
  · next after word _ _ =>
    obtain ⟨rfl, rfl⟩ := Prod.mk.inj (Except.ok.inj scanned)
    rw [reads.bool]
    exact ⟨_, .false, afterWord_eq_some.mp word, Nat.zero_le _⟩
  · split at scanned
    · exact absurd (hooked_ok.mp scanned).1 (reads.constant _ _)
    · split at scanned
      · exact absurd (hooked_ok.mp scanned).1 (reads.float _ _)
      · next literal after found =>
        obtain ⟨made, rfl⟩ := hooked_ok.mp scanned
        obtain ⟨admitted, rfl⟩ := (reads.integer _ _).mp made
        obtain ⟨integer, same⟩ := scanNumber_sound found
        exact ⟨_, .int integer admitted, same, Nat.zero_le _⟩
      · cases scanned

/-- A scanned value was written at the start of the text. -/
theorem scanOnce_sound (reads : Reads hooks admits) (depth : Nat) :
    Sound admits depth (scanOnce hooks depth) := by
  -- The induction is on how deep arrays and objects may still be nested.
  induction depth with
  | zero =>
    intro input rest value scanned
    unfold scanOnce at scanned
    split at scanned
    · cases scanned
    · next point after =>
      split at scanned
      · next quote =>
        obtain rfl : point = 0x22 := Fin.ext quote
        exact scannedString_sound reads scanned
      · split at scanned
        · cases scanned
        · split at scanned
          · cases scanned
          · exact scanAtom_sound reads scanned
  | succ depth ih =>
    intro input rest value scanned
    unfold scanOnce at scanned
    split at scanned
    · cases scanned
    · next point after =>
      split at scanned
      · next quote =>
        obtain rfl : point = 0x22 := Fin.ext quote
        exact scannedString_sound reads scanned
      · split at scanned
        · next bracket =>
          obtain rfl : point = 0x5b := Fin.ext bracket
          exact scanArray_sound reads ih scanned
        · split at scanned
          · next brace =>
            obtain rfl : point = 0x7b := Fin.ext brace
            exact scanObject_sound reads ih scanned
          · exact scanAtom_sound reads scanned

end Soundness

section Completeness

variable {admits : Text → Prop} {hooks : Hooks ε Value} {depth : Nat} {input rest : Text}

/-- A quote starts a string. -/
theorem scanOnce_string {written content : Text} (reads : Reads hooks admits)
    (derived : StringText content written) :
    scanOnce hooks depth (0x22 :: (written ++ 0x22 :: rest)) = .ok (.str content, rest) := by
  unfold scanOnce
  simp [scanString_complete derived, reads.string]

theorem scanOnce_array :
    scanOnce hooks (depth + 1) (0x5b :: input) = scanArray hooks (scanOnce hooks depth) input := by
  conv => lhs; unfold scanOnce
  rfl

theorem scanOnce_object :
    scanOnce hooks (depth + 1) (0x7b :: input) = scanObject hooks (scanOnce hooks depth) input := by
  conv => lhs; unfold scanOnce
  rfl

/-- Any other character starts an atom. -/
theorem scanOnce_atom {point : Code} (apart : point.val ∉ [0x22, 0x5b, 0x7b]) :
    scanOnce hooks depth (point :: input) = scanAtom hooks (point :: input) := by
  simp only [List.mem_cons, List.not_mem_nil, or_false, not_or] at apart
  unfold scanOnce
  simp [apart.1, apart.2.1, apart.2.2]

/-- An integer is scanned as an atom: no word starts as it does. -/
theorem scanOnce_number {literal : Text} (integer : IntLiteral literal)
    (scanned : scanNumber (literal ++ rest) = some (false, literal, rest)) :
    scanOnce hooks depth (literal ++ rest) = hooked (hooks.integer literal) rest := by
  -- What the scanner does when no word is found.
  have last (none : ∀ word ∈ ["null", "true", "false", "NaN", "Infinity", "-Infinity"],
      afterWord word (literal ++ rest) = none) :
      scanAtom hooks (literal ++ rest) = hooked (hooks.integer literal) rest := by
    simp only [List.forall_mem_cons] at none
    obtain ⟨null, true, false, nan, infinity, negative, -⟩ := none
    unfold scanAtom
    simp [null, true, false, nan, infinity, negative, scanned]
  have digit {digits : Text} (natural : Natural digits) : ∃ point after,
      digits = point :: after ∧ Digit point := by
    obtain ⟨nonempty, each, -⟩ := natural
    cases digits with
    | nil => exact absurd rfl nonempty
    | cons point after => exact ⟨point, after, rfl, each point List.mem_cons_self⟩
  cases integer with
  | natural natural =>
    obtain ⟨point, after, rfl, low, high⟩ := digit natural
    have apart (other : Code) (outside : other.val < 0x30 ∨ 0x39 < other.val) :
        point ≠ other := by
      intro same
      subst same
      omega
    rw [List.cons_append, scanOnce_atom (by simp; omega), ← List.cons_append]
    refine last fun word member => ?_
    simp only [List.mem_cons, List.not_mem_nil, or_false] at member
    rcases member with rfl | rfl | rfl | rfl | rfl | rfl <;>
      exact afterWord_eq_none rfl (apart _ (by decide))
  | minus natural =>
    obtain ⟨point, after, rfl, low, high⟩ := digit natural
    rw [List.cons_append, scanOnce_atom (by decide), ← List.cons_append]
    refine last fun word member => ?_
    simp only [List.mem_cons, List.not_mem_nil, or_false] at member
    rcases member with rfl | rfl | rfl | rfl | rfl | rfl
    -- Only one word starts with a minus sign, and no digit follows it.
    case inr.inr.inr.inr.inr =>
      rw [Option.eq_none_iff_forall_ne_some]
      intro others found
      rw [afterWord_eq_some] at found
      have second : point = 0x49 := (List.cons.inj (List.cons.inj found).2).1
      subst second
      exact absurd high (by decide)
    all_goals exact afterWord_eq_none rfl (by decide)

/-- An admissible integer is scanned. -/
theorem scanOnce_integer {literal : Text} (reads : Reads hooks admits)
    (integer : IntLiteral literal) (admitted : admits literal) (delimited : Delimited rest) :
    scanOnce hooks depth (literal ++ rest) = .ok (.int (literalValue literal), rest) := by
  rw [scanOnce_number integer (scanNumber_complete integer delimited),
    (reads.integer literal _).mpr ⟨admitted, rfl⟩]
  rfl

/-- Another word does not start a text. -/
theorem afterWord_other {word other : String} {first second : Code} {letters others : Text}
    (one : text word = first :: letters) (two : text other = second :: others)
    (apart : second ≠ first) : afterWord word (text other ++ rest) = none := by
  rw [two, List.cons_append]
  exact afterWord_eq_none one apart

/-- A word is scanned as an atom. -/
theorem scanOnce_word {word : String} {point : Code} {letters : Text}
    (starts : text word = point :: letters) (apart : point.val ∉ [0x22, 0x5b, 0x7b]) :
    scanOnce hooks depth (text word ++ rest) = scanAtom hooks (text word ++ rest) := by
  rw [starts, List.cons_append, scanOnce_atom apart]

theorem scanAtom_null : scanAtom hooks (text "null" ++ rest) = .ok (hooks.null, rest) := by
  unfold scanAtom
  rw [afterWord_eq_some.mpr rfl]

/-- The word for truth is scanned. -/
theorem scanAtom_true : scanAtom hooks (text "true" ++ rest) = .ok (hooks.bool true, rest) := by
  have null : afterWord "null" (text "true" ++ rest) = none :=
    afterWord_other rfl rfl (by decide)
  unfold scanAtom
  rw [null, afterWord_eq_some.mpr rfl]

/-- The word for falsehood is scanned. -/
theorem scanAtom_false : scanAtom hooks (text "false" ++ rest) = .ok (hooks.bool false, rest) := by
  have null : afterWord "null" (text "false" ++ rest) = none :=
    afterWord_other rfl rfl (by decide)
  have true : afterWord "true" (text "false" ++ rest) = none :=
    afterWord_other rfl rfl (by decide)
  unfold scanAtom
  rw [null, true, afterWord_eq_some.mpr rfl]

/-- A written value is the start of an array's item or of an object's value. -/
theorem Writes.skipped {value : Value} {written : Text} (writes : Writes admits value written) :
    skipBlank (written ++ rest) = written ++ rest := by
  obtain ⟨point, after, rfl, apart, -⟩ := writes.head
  exact skipBlank_of_not apart

/-- A written value does not start with a blank. -/
theorem Writes.unskipped {value : Value} {written : Text} (writes : Writes admits value written) :
    ∀ point ∈ (written ++ rest).head?, ¬ Blank point := by
  obtain ⟨point, after, rfl, apart, -⟩ := writes.head
  intro other found
  obtain rfl : point = other := by simpa using found
  exact apart

theorem KeyText.skipped {key name : Text} (named : KeyText key name) :
    skipBlank (name ++ rest) = name ++ rest := by
  obtain ⟨content, before, after, -, -, -, rfl⟩ := named
  exact skipBlank_of_not (by decide)

/-- An item is followed by what ends it. -/
theorem delimited_end {point : Code} (ends : point.val ∈ [0x2c, 0x5d, 0x7d]) :
    Delimited (point :: rest) := by
  intro other found
  obtain rfl : point = other := by simpa using found
  simp only [List.mem_cons, List.not_mem_nil, or_false] at ends
  simp only [Digit, List.mem_cons, List.not_mem_nil, or_false]
  omega

/-- Items of an array start with a character of their own. -/
theorem WritesItems.head {items : List Value} {written : Text}
    (writes : WritesItems admits items written) :
    ∃ point after, skipBlank (written ++ rest) = point :: after ∧ point.val ≠ 0x5d := by
  cases writes with
  | one leading value _ | more leading value _ _ =>
    obtain ⟨point, after, same, apart, other⟩ := value.head
    subst same
    simp only [List.append_assoc, List.cons_append]
    rw [skipBlank_append leading, skipBlank_of_not apart]
    exact ⟨_, _, rfl, other⟩

/-- Entries of an object start with a quote. -/
theorem WritesMembers.head {entries : List (Text × Value)} {written : Text}
    (writes : WritesMembers admits entries written) :
    ∃ after, skipBlank (written ++ rest) = 0x22 :: after := by
  cases writes with
  | one leading named _ _ | more leading named _ _ _ =>
    obtain ⟨content, before, after, -, -, -, rfl⟩ := named
    simp only [List.append_assoc, List.cons_append]
    rw [skipBlank_append leading, skipBlank_of_not (by decide)]
    exact ⟨_, rfl⟩

mutual

/-- A written value is scanned. -/
theorem Writes.scanned (reads : Reads hooks admits) {value : Value} {written : Text}
    (writes : Writes admits value written) (depth : Nat) (rest : Text)
    (delimited : Delimited rest) (shallow : value.depth ≤ depth) :
    scanOnce hooks depth (written ++ rest) = .ok (value, rest) := by
  cases writes with
  | null => rw [scanOnce_word rfl (by decide), scanAtom_null, reads.null]
  | true => rw [scanOnce_word rfl (by decide), scanAtom_true, reads.bool]
  | false => rw [scanOnce_word rfl (by decide), scanAtom_false, reads.bool]
  | int integer admitted => exact scanOnce_integer reads integer admitted delimited
  | str string =>
    rw [List.cons_append, List.append_assoc]
    exact scanOnce_string reads string
  | @noItems between blanks =>
    obtain ⟨depth, rfl⟩ := Nat.exists_eq_succ_of_ne_zero (Nat.ne_zero_of_lt shallow)
    rw [List.cons_append, scanOnce_array, scanArray, List.append_assoc, skipBlank_append blanks,
      List.singleton_append, skipBlank_of_not (by decide), ← reads.list]
    rfl
  | @items items written each =>
    obtain ⟨depth, rfl⟩ := Nat.exists_eq_succ_of_ne_zero (Nat.ne_zero_of_lt shallow)
    have scanned := each.scanned reads depth ((written ++ [0x5d] ++ rest).length + 1) rest
      (by simp only [List.length_append]; omega) (Nat.le_of_succ_le_succ shallow)
    obtain ⟨point, after, starts, apart⟩ := @WritesItems.head _ (0x5d :: rest) _ _ each
    rw [List.cons_append, scanOnce_array, scanArray]
    rw [List.append_assoc, List.singleton_append] at scanned ⊢
    rw [starts] at scanned ⊢
    simp only [apart, if_false, scanned, ok_bind, reads.list]
    rfl
  | @noEntries between blanks =>
    obtain ⟨depth, rfl⟩ := Nat.exists_eq_succ_of_ne_zero (Nat.ne_zero_of_lt shallow)
    rw [List.cons_append, scanOnce_object, scanObject, List.append_assoc,
      skipBlank_append blanks, List.singleton_append, skipBlank_of_not (by decide)]
    exact hooked_ok.mpr ⟨(reads.object _ _).mpr ⟨List.nodup_nil, rfl⟩, rfl⟩
  | @entries entries written distinct members =>
    obtain ⟨depth, rfl⟩ := Nat.exists_eq_succ_of_ne_zero (Nat.ne_zero_of_lt shallow)
    have scanned := members.scanned reads depth ((written ++ [0x7d] ++ rest).length + 1) rest
      (by simp only [List.length_append]; omega) (Nat.le_of_succ_le_succ shallow)
    obtain ⟨after, starts⟩ := @WritesMembers.head _ (0x7d :: rest) _ _ members
    rw [List.cons_append, scanOnce_object, scanObject]
    rw [List.append_assoc, List.singleton_append] at scanned ⊢
    rw [starts] at scanned ⊢
    have apart : ¬ (0x22 : Code).val = 0x7d := by decide
    simp only [apart, if_false, scanned, ok_bind]
    exact hooked_ok.mpr ⟨(reads.object _ _).mpr ⟨distinct, rfl⟩, rfl⟩

/-- Written items are scanned. -/
theorem WritesItems.scanned (reads : Reads hooks admits) {items : List Value} {written : Text}
    (writes : WritesItems admits items written) (depth fuel : Nat) (rest : Text)
    (enough : written.length < fuel) (shallow : depthItems items ≤ depth) :
    scanItems (scanOnce hooks depth) fuel (skipBlank (written ++ 0x5d :: rest)) =
      .ok (items, rest) := by
  cases fuel with
  | zero => exact absurd enough (Nat.not_lt_zero _)
  | succ fuel =>
    cases writes with
    | @one item before written after leading value trailing =>
      have scanned := value.scanned reads depth (after ++ 0x5d :: rest)
        (trailing.delimited (delimited_end (by decide))) (by simpa [depthItems] using shallow)
      have ended : skipBlank (after ++ 0x5d :: rest) = 0x5d :: rest := by
        rw [skipBlank_append trailing, skipBlank_of_not (by decide)]
      simp only [List.append_assoc]
      rw [skipBlank_append leading, value.skipped, scanItems, scanned]
      simp only [ok_bind, ended]
      rfl
    | @more item before written after remaining items leading value trailing others =>
      obtain ⟨first, later⟩ := Nat.max_le.mp shallow
      have scanned := value.scanned reads depth (after ++ 0x2c :: (remaining ++ 0x5d :: rest))
        (trailing.delimited (delimited_end (by decide))) first
      have comma : skipBlank (after ++ 0x2c :: (remaining ++ 0x5d :: rest)) =
          0x2c :: (remaining ++ 0x5d :: rest) := by
        rw [skipBlank_append trailing, skipBlank_of_not (by decide)]
      have continued := others.scanned reads depth fuel rest
        (by simp only [List.length_append, List.length_cons] at enough; omega) later
      simp only [List.append_assoc, List.cons_append]
      rw [skipBlank_append leading, value.skipped, scanItems, scanned]
      simp only [ok_bind, comma, continued]
      rfl

/-- Written entries are scanned. -/
theorem WritesMembers.scanned (reads : Reads hooks admits) {entries : List (Text × Value)}
    {written : Text} (writes : WritesMembers admits entries written) (depth fuel : Nat)
    (rest : Text) (enough : written.length < fuel) (shallow : depthEntries entries ≤ depth) :
    scanMembers (scanOnce hooks depth) fuel (skipBlank (written ++ 0x7d :: rest)) =
      .ok (entries, rest) := by
  cases fuel with
  | zero => exact absurd enough (Nat.not_lt_zero _)
  | succ fuel =>
    cases writes with
    | @one key item before name written after leading named value trailing =>
      have scanned := value.scanned reads depth (after ++ 0x7d :: rest)
        (trailing.delimited (delimited_end (by decide))) (by simpa [depthEntries] using shallow)
      have keyed := @scanKey_complete ε (written ++ (after ++ 0x7d :: rest)) _ _ named value.unskipped
      have ended : skipBlank (after ++ 0x7d :: rest) = 0x7d :: rest := by
        rw [skipBlank_append trailing, skipBlank_of_not (by decide)]
      simp only [List.append_assoc]
      rw [skipBlank_append leading, named.skipped, scanMembers, keyed]
      simp only [ok_bind, scanned, ended]
      rfl
    | @more key item before name written after remaining entries leading named value trailing
        others =>
      obtain ⟨first, later⟩ := Nat.max_le.mp shallow
      have scanned := value.scanned reads depth (after ++ 0x2c :: (remaining ++ 0x7d :: rest))
        (trailing.delimited (delimited_end (by decide))) first
      have keyed := @scanKey_complete ε
        (written ++ (after ++ 0x2c :: (remaining ++ 0x7d :: rest))) _ _ named value.unskipped
      have comma : skipBlank (after ++ 0x2c :: (remaining ++ 0x7d :: rest)) =
          0x2c :: (remaining ++ 0x7d :: rest) := by
        rw [skipBlank_append trailing, skipBlank_of_not (by decide)]
      have continued := others.scanned reads depth fuel rest
        (by simp only [List.length_append, List.length_cons] at enough; omega) later
      simp only [List.append_assoc, List.cons_append]
      rw [skipBlank_append leading, named.skipped, scanMembers, keyed]
      simp only [ok_bind, scanned, comma, continued]
      rfl

end

end Completeness

section Reading

variable {admits : Text → Prop} {hooks : Hooks ε Value} {depth : Nat} {input : Text} {value : Value}

/-- `json.loads` reads a value from a text exactly when the text is that value as it may be
written, nested no deeper than the interpreter recurses. -/
theorem loads_eq_ok (reads : Reads hooks admits) : loads hooks depth input = .ok value ↔
    JsonText admits value input ∧ value.depth ≤ depth := by
  constructor
  · intro loaded
    obtain ⟨⟨found, rest⟩, scanned, ended⟩ := bind_ok.mp loaded
    dsimp only at ended
    split at ended
    · next last =>
      obtain rfl := Except.ok.inj ended
      obtain ⟨written, writes, same, shallow⟩ := scanOnce_sound reads depth scanned
      obtain ⟨before, leading, split⟩ := skipBlank_split input
      exact ⟨⟨before, written, rest, leading, writes, skipBlank_eq_nil.mp last, same ▸ split⟩,
        shallow⟩
    · cases ended
  · intro ⟨⟨before, written, after, leading, writes, trailing, same⟩, shallow⟩
    have scanned := writes.scanned reads depth after trailing.ends shallow
    unfold loads
    rw [same, skipBlank_append leading, writes.skipped, scanned]
    simp only [ok_bind, skipBlank_eq_nil.mpr trailing, if_true]
    rfl

/-- Hooks that build the values of a text, whatever integers are admissible. -/
def valueHooks (admits : Text → Prop) [DecidablePred admits] : Hooks Unit Value where
  null := .null
  bool := .bool
  string := .str
  list := .arr
  integer literal := if admits literal then .ok (.int (literalValue literal)) else .error ()
  float _ := .error ()
  constant _ := .error ()
  object entries := if (entries.map Prod.fst).Nodup then .ok (.obj entries) else .error ()

/-- Hooks that build values do. -/
theorem reads_valueHooks [DecidablePred admits] : Reads (valueHooks admits) admits where
  null := rfl
  bool _ := rfl
  string _ := rfl
  list _ := rfl
  integer literal value := by
    simp only [valueHooks]
    split <;> simp [*, eq_comm]
  float _ _ := by simp [valueHooks]
  constant _ _ := by simp [valueHooks]
  object entries value := by
    simp only [valueHooks]
    split <;> simp [*, eq_comm]

/-- A text is no more than one value. -/
theorem JsonText.unique {other : Value} (one : JsonText admits value input)
    (two : JsonText admits other input) : value = other := by
  classical
  have first := (loads_eq_ok (@reads_valueHooks admits _)).mpr ⟨one, Nat.le_max_left _ other.depth⟩
  have second := (loads_eq_ok (@reads_valueHooks admits _)).mpr ⟨two, Nat.le_max_right value.depth _⟩
  exact Except.ok.inj (first.symm.trans second)

end Reading

end StrictJson
