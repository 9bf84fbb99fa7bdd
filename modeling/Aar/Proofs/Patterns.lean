import Aar.SchemaProfile.Pattern

/-! The pattern scanner accepts exactly its grammar, and `re.compile` refuses none of it. -/

namespace Aar.SchemaProfile

open Guarded

section Grammar

/-- A character that a class may list. -/
def ClassCharacter (character : Char) : Prop :=
  Printable character ∧ character ∉ ['-', '[', ']', '^', '\\']

/-- One or more characters and ascending ranges. -/
inductive ClassItems : List Char → Prop where
  | character {single : Char} : ClassCharacter single → ClassItems [single]
  | range {low high : Char} : ClassCharacter low → ClassCharacter high →
      low.toNat ≤ high.toNat → ClassItems [low, '-', high]
  | moreCharacters {single : Char} {rest : List Char} : ClassCharacter single →
      ClassItems rest → ClassItems (single :: rest)
  | moreRanges {low high : Char} {rest : List Char} : ClassCharacter low →
      ClassCharacter high → low.toNat ≤ high.toNat → ClassItems rest →
      ClassItems (low :: '-' :: high :: rest)

/-- A literal character, an escaped one, or a class. -/
inductive Atom : List Char → Prop where
  | literal {single : Char} : Printable single → single ∉ forbiddenAtomChars →
      single ≠ '\\' → Atom [single]
  | escaped {single : Char} : single ∈ forbiddenAtomChars ∨ single = '\\' → Atom ['\\', single]
  | items {items : List Char} : ClassItems items → Atom ('[' :: items ++ [']'])

/-- An optional atom, or a bounded number of repetitions. -/
inductive Quantifier : List Char → Prop where
  | optional : Quantifier ['?']
  | exactly {count : List Char} : Digits count → decimal count ≤ 64 →
      Quantifier ('{' :: count ++ ['}'])
  | between {low high : List Char} : Digits low → Digits high →
      decimal low ≤ decimal high → decimal high ≤ 64 →
      Quantifier ('{' :: low ++ ',' :: high ++ ['}'])

/-- A sequence of atoms, counted by how many of them are quantified. -/
inductive Pairs : Nat → List Char → Prop where
  | nil : Pairs 0 []
  | plain {atom rest : List Char} {quantified : Nat} : Atom atom → Pairs quantified rest →
      Pairs quantified (atom ++ rest)
  | quantified {atom quantifier rest : List Char} {quantified : Nat} : Atom atom →
      Quantifier quantifier → Pairs quantified rest →
      Pairs (quantified + 1) (atom ++ (quantifier ++ rest))

/-- An optional anchor and one or more atoms, of which at most one is quantified. -/
def Portable (text : List Char) : Prop :=
  ∃ anchor body quantified, (anchor = [] ∨ anchor = ['^']) ∧ body ≠ [] ∧
    Pairs quantified body ∧ quantified ≤ 1 ∧ text = anchor ++ body

end Grammar

section Classes

variable {content rest : List Char}

/-- Characters of a class are none of its punctuation. -/
theorem ClassItems.characters (items : ClassItems content) :
    ∀ character ∈ content, Printable character ∧ character ∉ ['\\', '[', ']', '^'] := by
  have listed {character : Char} (plain : ClassCharacter character) :
      Printable character ∧ character ∉ ['\\', '[', ']', '^'] := by
    refine ⟨plain.1, fun member => plain.2 ?_⟩
    simp only [List.mem_cons, List.not_mem_nil, or_false] at member ⊢
    tauto
  have hyphen : Printable '-' ∧ '-' ∉ ['\\', '[', ']', '^'] := by decide
  induction items with
  | character single =>
    intro character member
    rw [List.mem_singleton.mp member]
    exact listed single
  | range low high _ =>
    intro character member
    simp only [List.mem_cons, List.not_mem_nil, or_false] at member
    rcases member with rfl | rfl | rfl
    · exact listed low
    · exact hyphen
    · exact listed high
  | moreCharacters single _ ih =>
    intro character member
    rcases List.mem_cons.mp member with rfl | later
    · exact listed single
    · exact ih character later
  | moreRanges low high _ _ ih =>
    intro character member
    simp only [List.mem_cons] at member
    rcases member with rfl | rfl | rfl | later
    · exact listed low
    · exact hyphen
    · exact listed high
    · exact ih character later

theorem ClassCharacter.ne_hyphen {character : Char} (plain : ClassCharacter character) :
    character ≠ '-' := fun same => plain.2 (same ▸ List.mem_cons_self)

theorem ClassItems.first (items : ClassItems content) :
    ∃ character more, content = character :: more ∧ ClassCharacter character := by
  cases items with
  | character single => exact ⟨_, _, rfl, single⟩
  | range low _ _ => exact ⟨_, _, rfl, low⟩
  | moreCharacters single _ => exact ⟨_, _, rfl, single⟩
  | moreRanges low _ _ _ => exact ⟨_, _, rfl, low⟩

theorem ClassItems.not_hyphen : ¬ ClassItems ('-' :: rest) := by
  intro items
  obtain ⟨character, more, same, first⟩ := items.first
  cases same
  exact first.ne_hyphen rfl

/-- Items that begin with a range are that range and what follows it. -/
theorem classItems_range {low high : Char} : ClassItems (low :: '-' :: high :: rest) ↔
    ClassCharacter low ∧ ClassCharacter high ∧ low.toNat ≤ high.toNat ∧
      (rest = [] ∨ ClassItems rest) := by
  constructor
  · intro items
    cases items with
    | range first second ascending => exact ⟨first, second, ascending, .inl rfl⟩
    | moreCharacters _ later => exact absurd later ClassItems.not_hyphen
    | moreRanges first second ascending later => exact ⟨first, second, ascending, .inr later⟩
  · intro parts
    obtain ⟨first, second, ascending, rfl | later⟩ := parts
    · exact .range first second ascending
    · exact .moreRanges first second ascending later

/-- Items that begin with a character before anything but a hyphen. -/
theorem classItems_character {single : Char} (apart : ∀ more, rest ≠ '-' :: more) :
    ClassItems (single :: rest) ↔
      ClassCharacter single ∧ (rest = [] ∨ ClassItems rest) := by
  constructor
  · intro items
    cases items with
    | character first => exact ⟨first, .inl rfl⟩
    | range => exact absurd rfl (apart _)
    | moreCharacters first later => exact ⟨first, .inr later⟩
    | moreRanges => exact absurd rfl (apart _)
  · intro parts
    obtain ⟨first, rfl | later⟩ := parts
    · exact .character first
    · exact .moreCharacters first later

/-- The walk over a class returns exactly on items, and on nothing. -/
theorem checkClassItems_ok (plain : ∀ character ∈ content,
      Printable character ∧ character ∉ ['\\', '[', ']', '^']) :
    checkClassItems content = .ok () ↔ content = [] ∨ ClassItems content := by
  have listed {character : Char} (member : character ∈ content) (apart : character ≠ '-') :
      ClassCharacter character := by
    refine ⟨(plain character member).1, fun found => (plain character member).2 ?_⟩
    simp only [List.mem_cons, List.not_mem_nil, or_false] at found ⊢
    tauto
  fun_induction checkClassItems content with
  | case1 => simp
  | case2 rest =>
    have none : ¬ ClassItems ('-' :: rest) := ClassItems.not_hyphen
    simp [none]
  | case3 single apart =>
    -- The range has no end, and the hyphen is no character of its own.
    have none : ¬ ClassItems [single, '-'] := by
      intro items
      cases items with
      | moreCharacters _ later => exact ClassItems.not_hyphen later
    simp [none]
  | case4 low high rest apart wrong =>
    have none : ¬ ClassItems (low :: '-' :: high :: rest) := by
      rw [classItems_range]
      intro parts
      obtain ⟨-, second, ascending, -⟩ := parts
      rcases wrong with same | descending
      · exact second.ne_hyphen same
      · omega
    simp [none]
  | case5 low high rest apart right ih =>
    have first : ClassCharacter low := listed (by simp) (by simpa using apart)
    have second : ClassCharacter high := listed (by simp) fun same => right (.inl same)
    have later := ih (fun character member => plain character (by simp [member]))
      fun member => listed (by simp [member])
    have ascending : low.toNat ≤ high.toNat := by omega
    refine later.trans ?_
    rw [classItems_range]
    simp [first, second, ascending]
  | case6 single rest hyphen incomplete range ih =>
    have first : ClassCharacter single := listed (by simp) (by simpa using hyphen)
    have apart : ∀ more, rest ≠ '-' :: more := by
      intro more same
      subst same
      cases more with
      | nil => exact incomplete rfl
      | cons high after => exact range high after rfl
    have later := ih (fun character member => plain character (by simp [member]))
      fun member => listed (by simp [member])
    refine later.trans ?_
    rw [classItems_character apart]
    simp [first]

/-- A class is valid exactly when its content is items. -/
theorem validatePositiveClass_ok :
    validatePositiveClass content = .ok () ↔ ClassItems content := by
  simp only [validatePositiveClass, bind_ok, require_ok]
  constructor
  · intro passed
    obtain ⟨-, ⟨present, -⟩, -, printable, -, plain, walked⟩ := passed
    have both : ∀ character ∈ content, Printable character ∧ character ∉ ['\\', '[', ']', '^'] :=
      fun character member => ⟨printable character member, plain character member⟩
    exact ((checkClassItems_ok both).mp walked).resolve_left present
  · intro items
    have both := items.characters
    have walked := (checkClassItems_ok both).mpr (.inr items)
    obtain ⟨character, more, same, first⟩ := items.first
    refine ⟨(), ⟨?_, ?_⟩, (), fun other member => (both other member).1, (),
      fun other member => (both other member).2, walked⟩
    · rw [same]
      exact List.cons_ne_nil _ _
    · rw [same]
      intro caret
      cases caret
      exact first.2 (by decide)

end Classes

section Scan

variable {text rest after content : List Char} {character : Char}

/-- A text is split exactly at the first closing character. -/
theorem splitAtClosing_some {closing : Char} :
    splitAtClosing closing text = some (content, after) ↔
      closing ∉ content ∧ text = content ++ closing :: after := by
  unfold splitAtClosing
  constructor
  · intro split
    have whole : text.takeWhile (· ≠ closing) ++ text.dropWhile (· ≠ closing) = text :=
      List.takeWhile_append_dropWhile
    cases dropped : text.dropWhile (· ≠ closing) with
    | nil =>
      rw [dropped] at split
      cases split
    | cons found later =>
      rw [dropped] at split whole
      cases split
      -- The character that stopped the walk is the closing one.
      have stopped : found = closing := by
        have present : text.dropWhile (· ≠ closing) ≠ [] := by
          rw [dropped]
          exact List.cons_ne_nil _ _
        have head := List.head_dropWhile_not (fun found => decide (found ≠ closing)) present
        simpa only [dropped, List.head_cons, decide_eq_false_iff_not, not_not] using head
      subst stopped
      refine ⟨fun member => ?_, whole.symm⟩
      have apart := List.all_takeWhile (p := fun other => decide (other ≠ found)) (l := text)
      have differs := List.all_eq_true.mp apart found member
      simp at differs
  · intro parts
    obtain ⟨absent, rfl⟩ := parts
    have passes : ∀ found ∈ content, (decide (found ≠ closing)) = true := by
      intro found member
      have apart : found ≠ closing := fun same => absent (same ▸ member)
      simpa using apart
    rw [List.dropWhile_append_of_pos passes, List.takeWhile_append_of_pos passes]
    simp

theorem ClassItems.unclosed (items : ClassItems content) : ']' ∉ content :=
  fun member => (items.characters _ member).2 (by decide)

/-- An atom is consumed exactly where the text begins with one. -/
theorem consumeAtom_ok : consumeAtom character rest = .ok after ↔
    ∃ atom, Atom atom ∧ character :: rest = atom ++ after := by
  constructor
  · intro consumed
    unfold consumeAtom at consumed
    split at consumed
    · next backslash =>
      split at consumed
      · next escaped after' =>
        split at consumed
        · next listed =>
          cases consumed
          have either : escaped ∈ forbiddenAtomChars ∨ escaped = '\\' :=
            (List.mem_cons.mp listed).symm
          exact ⟨_, .escaped either, by rw [backslash]; rfl⟩
        · cases consumed
      · cases consumed
    · next plain =>
      split at consumed
      · next bracket =>
        split at consumed
        · cases consumed
        · next content after' split' =>
          simp only [bind_ok, pure_ok] at consumed
          obtain ⟨_, valid, rfl⟩ := consumed
          obtain ⟨-, rfl⟩ := splitAtClosing_some.mp split'
          exact ⟨_, .items (validatePositiveClass_ok.mp valid), by rw [bracket]; simp⟩
      · split at consumed
        · cases consumed
        · next allowed =>
          split at consumed
          · cases consumed
          · next printable =>
            cases consumed
            exact ⟨_, .literal (not_not.mp printable) allowed plain, rfl⟩
  · intro begins
    obtain ⟨atom, is, same⟩ := begins
    unfold consumeAtom
    cases is with
    | literal printable allowed plain =>
      cases same
      have bracket : character ≠ '[' := by
        intro equal
        exact allowed (equal ▸ by decide)
      simp [plain, bracket, allowed, printable]
    | escaped either =>
      cases same
      next escaped =>
      have listed : escaped ∈ escapableLiterals := List.mem_cons.mpr either.symm
      simp [listed]
    | items items =>
      cases same
      next items' =>
      have split : splitAtClosing ']' (items' ++ ']' :: after) = some (items', after) :=
        splitAtClosing_some.mpr ⟨items.unclosed, rfl⟩
      have valid := validatePositiveClass_ok.mpr items
      simp [split, valid]

/-- The digits before something else are read as a whole. -/
theorem digits_split {digits : List Char} (rest : List Char) (all : ∀ digit ∈ digits, digit.isDigit)
    (stops : ∀ first ∈ rest.head?, first.isDigit = false) :
    (digits ++ rest).takeWhile Char.isDigit = digits ∧
      (digits ++ rest).dropWhile Char.isDigit = rest := by
  rw [List.takeWhile_append_of_pos all, List.dropWhile_append_of_pos all]
  cases rest with
  | nil => simp
  | cons first more =>
    have other : first.isDigit = false := stops first rfl
    simp [other]

/-- The bounds of a repetition are one or two digits each, with a comma between them. -/
theorem matchRepeat_some {first : List Char} {second : Option (List Char)} :
    matchRepeat text = some (first, second) ↔ Digits first ∧
      match second with
      | none => text = first
      | some second => Digits second ∧ text = first ++ ',' :: second := by
  constructor
  · intro found
    have whole : text.takeWhile Char.isDigit ++ text.dropWhile Char.isDigit = text :=
      List.takeWhile_append_dropWhile
    unfold matchRepeat at found
    dsimp only at found
    split at found
    · next digits =>
      split at found
      · next ends =>
        cases found
        rw [ends, List.append_nil] at whole
        exact ⟨digits, whole.symm⟩
      · next second' comma =>
        split at found
        · next digits' =>
          cases found
          rw [comma] at whole
          exact ⟨digits, digits', whole.symm⟩
        · cases found
      · cases found
    · cases found
  · intro parts
    obtain ⟨digits, rest⟩ := parts
    unfold matchRepeat
    cases second with
    | none =>
      have same : text = first := rest
      have read := digits_split [] digits.2.2 (by simp)
      rw [List.append_nil] at read
      rw [same, read.1, read.2]
      simp [digits]
    | some second =>
      obtain ⟨digits', same⟩ : Digits second ∧ text = first ++ ',' :: second := rest
      have comma : ∀ found ∈ (',' :: second).head?, found.isDigit = false := by
        intro found is
        cases is
        decide
      have read := digits_split _ digits.2.2 comma
      rw [same, read.1, read.2]
      simp [digits, digits']

theorem Digits.unclosed {digits : List Char} (is : Digits digits) : '}' ∉ digits := by
  intro member
  have digit := is.2.2 _ member
  revert digit
  decide

/-- A quantifier is consumed exactly where the text begins with one. -/
theorem consumeOptionalQuantifier_true {next : List Char} :
    consumeOptionalQuantifier text = .ok (next, true) ↔
      ∃ quantifier, Quantifier quantifier ∧ text = quantifier ++ next := by
  constructor
  · intro consumed
    unfold consumeOptionalQuantifier at consumed
    split at consumed
    · cases consumed
    · cases consumed
      exact ⟨_, .optional, rfl⟩
    · split at consumed
      · cases consumed
      · next content after split' =>
        obtain ⟨-, rfl⟩ := splitAtClosing_some.mp split'
        split at consumed
        · cases consumed
        · next first second matched =>
          dsimp only at consumed
          split at consumed
          · cases consumed
          · next within =>
            cases consumed
            obtain ⟨digits, parts⟩ := matchRepeat_some.mp matched
            cases second with
            | none =>
              have same : content = first := parts
              subst same
              have bounded : decimal content ≤ 64 := by
                simp only [Option.getD_none, maxRepeat] at within
                omega
              exact ⟨_, .exactly digits bounded, by simp⟩
            | some second =>
              obtain ⟨digits', same⟩ : Digits second ∧ content = first ++ ',' :: second := parts
              subst same
              have bounded : decimal first ≤ decimal second ∧ decimal second ≤ 64 := by
                simp only [Option.getD_some, maxRepeat] at within
                omega
              exact ⟨_, .between digits digits' bounded.1 bounded.2, by simp⟩
    · cases consumed
  · intro begins
    obtain ⟨quantifier, is, rfl⟩ := begins
    cases is with
    | optional => rfl
    | exactly digits bounded =>
      next count =>
      have split : splitAtClosing '}' (count ++ '}' :: next) = some (count, next) :=
        splitAtClosing_some.mpr ⟨digits.unclosed, rfl⟩
      have matched : matchRepeat count = some (count, none) :=
        matchRepeat_some.mpr ⟨digits, rfl⟩
      have within : decimal count ≤ maxRepeat := bounded
      simp [consumeOptionalQuantifier, split, matched, within]
    | between digits digits' ascending bounded =>
      next low high =>
      have absent : '}' ∉ low ++ ',' :: high := by
        simp [digits.unclosed, digits'.unclosed]
      have split : splitAtClosing '}' ((low ++ ',' :: high) ++ '}' :: next) =
          some (low ++ ',' :: high, next) := splitAtClosing_some.mpr ⟨absent, rfl⟩
      have matched : matchRepeat (low ++ ',' :: high) = some (low, some high) :=
        matchRepeat_some.mpr ⟨digits, digits', rfl⟩
      have within : ¬ (decimal high < decimal low ∨ maxRepeat < decimal high) := by
        simp only [maxRepeat]
        omega
      simp only [List.append_assoc, List.cons_append] at split
      simp [consumeOptionalQuantifier, split, matched, within]

/-- A text begins no quantifier. -/
def Unquantified (text : List Char) : Prop :=
  ∀ first ∈ text.head?, first ≠ '?' ∧ first ≠ '{'

/-- No quantifier is consumed exactly where the text begins with none. -/
theorem consumeOptionalQuantifier_false {next : List Char} :
    consumeOptionalQuantifier text = .ok (next, false) ↔ Unquantified text ∧ text = next := by
  constructor
  · intro consumed
    unfold consumeOptionalQuantifier at consumed
    split at consumed
    · cases consumed
      exact ⟨by simp [Unquantified], rfl⟩
    · cases consumed
    · split at consumed
      · cases consumed
      · split at consumed
        · cases consumed
        · dsimp only at consumed
          split at consumed <;> cases consumed
    · next text' absent optional brace =>
      cases consumed
      refine ⟨fun first is => ⟨fun same => ?_, fun same => ?_⟩, rfl⟩
      · cases text with
        | nil => cases is
        | cons head more =>
          cases is
          exact optional more (by rw [same])
      · cases text with
        | nil => cases is
        | cons head more =>
          cases is
          exact brace more (by rw [same])
  · intro parts
    obtain ⟨plain, rfl⟩ := parts
    cases text with
    | nil => rfl
    | cons first more =>
      obtain ⟨optional, brace⟩ := plain first rfl
      unfold consumeOptionalQuantifier
      split
      · next same => cases same
      · next same => cases same; exact absurd rfl optional
      · next same => cases same; exact absurd rfl brace
      · rfl

theorem Atom.first {atom : List Char} (is : Atom atom) :
    ∃ first more, atom = first :: more ∧ (first = '[' ∨ first ∉ forbiddenAtomChars) := by
  cases is with
  | literal _ allowed _ => exact ⟨_, _, rfl, .inr allowed⟩
  | escaped _ => exact ⟨_, _, rfl, .inr (by decide)⟩
  | items _ => exact ⟨_, _, rfl, .inl rfl⟩

/-- A sequence of atoms begins with no other forbidden character. -/
theorem Pairs.begins {quantified : Nat} (other : Char) (pairs : Pairs quantified text)
    (forbidden : other ∈ forbiddenAtomChars) (apart : other ≠ '[') :
    ∀ first ∈ text.head?, first ≠ other := by
  have atoms {atom rest : List Char} (is : Atom atom) :
      ∀ first ∈ (atom ++ rest).head?, first ≠ other := by
    obtain ⟨first, more, rfl, kind⟩ := is.first
    intro found same equal
    cases same
    subst equal
    exact kind.elim apart fun allowed => allowed forbidden
  cases pairs with
  | nil => simp
  | plain is _ => exact atoms is
  | quantified is _ _ => exact atoms is

theorem Pairs.unquantified {quantified : Nat} (pairs : Pairs quantified text) :
    Unquantified text := fun first same =>
  ⟨pairs.begins '?' (by decide) (by decide) first same,
    pairs.begins '{' (by decide) (by decide) first same⟩

/-- One turn of the loop consumes an atom and the quantifier that may follow it. -/
theorem scanAtoms_step {quantifiedAtoms : Nat} {atom next : List Char} {quantified : Bool}
    (is : Atom atom) (scanned : consumeOptionalQuantifier rest = .ok (next, quantified))
    (few : quantifiedAtoms + quantified.toNat ≤ 1) :
    scanAtoms quantifiedAtoms (atom ++ rest) =
      scanAtoms (quantifiedAtoms + quantified.toNat) next := by
  obtain ⟨first, more, rfl, -⟩ := is.first
  have consumed : consumeAtom first (more ++ rest) = .ok rest :=
    consumeAtom_ok.mpr ⟨_, is, rfl⟩
  rw [List.cons_append, scanAtoms]
  split
  · next refused =>
    rw [consumed] at refused
    cases refused
  · next after passed =>
    cases consumed.symm.trans passed
    split
    · next refused =>
      rw [scanned] at refused
      cases refused
    · next passed' =>
      cases scanned.symm.trans passed'
      rw [if_neg (by omega)]

/-- The loop returns exactly on sequences of atoms that keep to one quantifier in all. -/
theorem scanAtoms_ok {quantifiedAtoms : Nat} (few : quantifiedAtoms ≤ 1) :
    scanAtoms quantifiedAtoms text = .ok () ↔
      ∃ quantified, Pairs quantified text ∧ quantifiedAtoms + quantified ≤ 1 := by
  constructor
  · intro scanned
    fun_induction scanAtoms quantifiedAtoms text with
    | case1 => exact ⟨0, .nil, few⟩
    | case2 => cases scanned
    | case3 => cases scanned
    | case4 => cases scanned
    | case5 quantifiedAtoms character rest after consumed next quantified scanned' within _ ih =>
      obtain ⟨atom, is, same⟩ := consumeAtom_ok.mp consumed
      obtain ⟨count, pairs, total⟩ := ih (by omega) scanned
      rw [same]
      cases quantified with
      | true =>
        obtain ⟨quantifier, is', rfl⟩ := consumeOptionalQuantifier_true.mp scanned'
        refine ⟨count + 1, .quantified is is' pairs, ?_⟩
        simp only [Bool.toNat_true] at total
        omega
      | false =>
        obtain ⟨-, rfl⟩ := consumeOptionalQuantifier_false.mp scanned'
        exact ⟨count, .plain is pairs, total⟩
  · intro derived
    obtain ⟨quantified, pairs, total⟩ := derived
    induction pairs generalizing quantifiedAtoms with
    | nil => simp [scanAtoms]
    | @plain atom rest quantified is pairs ih =>
      have plain := consumeOptionalQuantifier_false.mpr ⟨pairs.unquantified, rfl⟩
      rw [scanAtoms_step is plain few]
      exact ih few total
    | @quantified atom quantifier rest quantified is is' pairs ih =>
      have consumed : consumeOptionalQuantifier (quantifier ++ rest) = .ok (rest, true) :=
        consumeOptionalQuantifier_true.mpr ⟨quantifier, is', rfl⟩
      rw [scanAtoms_step is consumed (by simp only [Bool.toNat_true]; omega)]
      exact ih (by simp only [Bool.toNat_true]; omega) (by simp only [Bool.toNat_true]; omega)

end Scan

section Compile

variable {text rest content : List Char} {last : LastItem}

theorem ClassCharacter.plain {character : Char} (is : ClassCharacter character) :
    character ≠ ']' ∧ character ≠ '\\' :=
  ⟨fun same => is.2 (by simp [same]), fun same => is.2 (by simp [same])⟩

/-- A single character of a set is passed. -/
theorem compileSet_character {character : Char} {empty : Bool} (is : ClassCharacter character)
    (apart : ∀ tail, rest ≠ '-' :: tail) :
    compileSet empty (character :: rest) = compileSet false rest := by
  obtain ⟨unclosed, unescaped⟩ := is.plain
  rw [compileSet]
  · simp only [unclosed, false_and, if_false, unescaped]
  · exact apart []
  · exact fun after => apart (']' :: after)
  · exact fun high after => apart (high :: after)

/-- An ascending range of a set is passed. -/
theorem compileSet_range {low high : Char} {empty : Bool} (is : ClassCharacter low)
    (is' : ClassCharacter high) (ascending : low.toNat ≤ high.toNat) :
    compileSet empty (low :: '-' :: high :: rest) = compileSet false rest := by
  obtain ⟨unclosed, unescaped⟩ := is.plain
  obtain ⟨unclosed', unescaped'⟩ := is'.plain
  rw [compileSet]
  · simp only [unclosed, false_and, if_false, unescaped, unescaped', false_or,
      Nat.not_lt.mpr ascending]
  · exact unclosed'

/-- A set of class items compiles up to its closing bracket. -/
theorem compileSet_items (rest : List Char) (items : ClassItems content) :
    ∀ empty, compileSet empty (content ++ ']' :: rest) = .ok rest := by
  have closed : compileSet false (']' :: rest) = .ok rest := by
    unfold compileSet
    simp
  induction items with
  | character single =>
    intro empty
    refine (compileSet_character single fun tail same => ?_).trans closed
    cases same
  | range low high ascending =>
    exact fun empty => (compileSet_range low high ascending).trans closed
  | moreCharacters single later ih =>
    intro empty
    obtain ⟨next, more, rfl, first⟩ := later.first
    refine (compileSet_character single fun tail same => ?_).trans (ih false)
    cases same
    exact first.ne_hyphen rfl
  | moreRanges low high ascending _ ih =>
    exact fun empty => (compileSet_range low high ascending).trans (ih false)

/-- An atom compiles to an item. -/
theorem compile_atom {atom : List Char} (is : Atom atom) :
    compile last (atom ++ rest) = compile .item rest := by
  cases is with
  | @literal single printable allowed plain =>
    have apart {other : Char} (listed : other ∈ forbiddenAtomChars) : single ≠ other :=
      fun same => allowed (same ▸ listed)
    have mark : single ∉ ['*', '+', '?'] := by
      simp only [List.mem_cons, List.not_mem_nil, or_false, not_or]
      exact ⟨apart (by decide), apart (by decide), apart (by decide)⟩
    have brace : single ≠ '{' := apart (by decide)
    show compile last (single :: rest) = _
    rw [compile]
    · rw [if_neg mark, if_neg brace]
    · exact fun same _ => plain same
    · exact fun _ _ same _ => plain same
    all_goals exact apart (by decide)
  | @escaped single either =>
    have punctuation : single.isAlphanum = false := by
      have plain : forbiddenAtomChars.all fun other => !other.isAlphanum := by decide
      rcases either with listed | rfl
      · simpa using List.all_eq_true.mp plain single listed
      · decide
    show compile last ('\\' :: single :: rest) = _
    rw [compile]
    simp [punctuation]
  | @items items is =>
    have kept : compileNegation (items ++ ']' :: rest) = items ++ ']' :: rest := by
      obtain ⟨first, more, rfl, plain⟩ := is.first
      unfold compileNegation
      split
      · next caret =>
        cases caret
        exact absurd (by decide) plain.2
      · rfl
    have set := compileSet_items rest is true
    show compile last ('[' :: ((items ++ [']']) ++ rest)) = _
    rw [List.append_assoc, compile]
    split
    · next refused =>
      rw [List.singleton_append, kept, set] at refused
      cases refused
    · next after passed =>
      rw [List.singleton_append, kept, set] at passed
      cases passed
      rfl

theorem compileMark_unmarked (unmarked : ∀ first ∈ rest.head?, first ≠ '?' ∧ first ≠ '+') :
    compileMark rest = rest := by
  unfold compileMark
  split
  · exact absurd rfl (unmarked _ rfl).1
  · exact absurd rfl (unmarked _ rfl).2
  · rfl

/-- The bounds of a repetition are read back. -/
theorem compileRepeat_bounds (rest : List Char) {first : List Char} (second : Option (List Char))
    (digits : Digits first) (digits' : ∀ high ∈ second, Digits high)
    (ascending : decimal first ≤ decimal (second.getD first))
    (bounded : decimal (second.getD first) ≤ 64) :
    compileRepeat (first ++ (second.elim [] (',' :: ·)) ++ '}' :: rest) = some (.ok rest) := by
  have brace : ∀ found ∈ ('}' :: rest).head?, found.isDigit = false := by
    intro found is
    cases is
    decide
  obtain ⟨digit, more, rfl⟩ := List.exists_cons_of_length_pos digits.1
  have open' : digit ≠ '}' := by
    rintro rfl
    exact digits.unclosed List.mem_cons_self
  have bounds : repeatBounds (digit :: more ++ (second.elim [] (',' :: ·)) ++ '}' :: rest) =
      (digit :: more, second.getD (digit :: more), '}' :: rest) := by
    unfold repeatBounds
    cases second with
    | none =>
      have read := digits_split _ digits.2.2 brace
      simp only [Option.elim_none, List.append_nil, read.1, read.2, Option.getD_none]
      rfl
    | some high =>
      have comma : ∀ found ∈ (',' :: (high ++ '}' :: rest)).head?, found.isDigit = false := by
        intro found is
        cases is
        decide
      have read := digits_split _ digits.2.2 comma
      have read' := digits_split _ (digits' high rfl).2.2 brace
      simp only [Option.elim_some, List.append_assoc, List.cons_append] at read ⊢
      simp only [read.1, read.2, read'.1, read'.2, Option.getD_some]
  unfold compileRepeat
  rw [bounds]
  have small : ¬ (4294967295 ≤ decimal (digit :: more) ∨
      4294967295 ≤ decimal (second.getD (digit :: more))) := by omega
  have ordered : ¬ decimal (second.getD (digit :: more)) < decimal (digit :: more) := by omega
  simp [open', small, ordered]

/-- A quantifier after an item compiles, when no mark follows it. -/
theorem compile_quantifier {quantifier : List Char} (is : Quantifier quantifier)
    (unmarked : ∀ first ∈ rest.head?, first ≠ '?' ∧ first ≠ '+') :
    compile .item (quantifier ++ rest) = compile .repeated rest := by
  have kept := compileMark_unmarked unmarked
  -- A repetition in braces is read back as its bounds.
  have braces (body : List Char)
      (compiled : compileRepeat (body ++ '}' :: rest) = some (.ok rest)) :
      compile .item ('{' :: (body ++ '}' :: rest)) = compile .repeated rest := by
    rw [compile]
    · rw [if_neg (by decide), if_pos rfl]
      split
      · next stands =>
        rw [compiled] at stands
        cases stands
      · next refused =>
        rw [compiled] at refused
        cases refused
      · next after passed =>
        cases compiled.symm.trans passed
        simp only [LastItem.repeats, kept]
    all_goals simp
  cases is with
  | optional =>
    show compile .item ('?' :: rest) = _
    rw [compile]
    · simp only [List.mem_cons, true_or, or_true, if_true, LastItem.repeats, kept]
    all_goals simp
  | @exactly count digits bounded =>
    have compiled := compileRepeat_bounds rest none digits
      (fun _ none => by cases none) (Nat.le_refl _) bounded
    simpa using braces count (by simpa using compiled)
  | @between low high digits digits' ascending bounded =>
    have compiled := compileRepeat_bounds rest (some high) digits
      (fun _ same => by cases same; exact digits') ascending bounded
    simpa using braces (low ++ ',' :: high) (by simpa using compiled)

/-- A sequence of atoms compiles after anything. -/
theorem compile_pairs {quantified : Nat} (pairs : Pairs quantified text) :
    compile last text = .ok () := by
  induction pairs generalizing last with
  | nil => rw [compile]
  | plain atom _ ih => exact (compile_atom atom).trans ih
  | quantified atom quantifier pairs ih =>
    have unmarked := fun first same => And.intro
      (pairs.begins '?' (by decide) (by decide) first same)
      (pairs.begins '+' (by decide) (by decide) first same)
    exact ((compile_atom atom).trans (compile_quantifier quantifier unmarked)).trans ih

theorem compile_body (text : List Char) :
    compile .nothing text = compile .anchor (patternBody text) ∨
    compile .nothing text = compile .nothing (patternBody text) := by
  unfold patternBody
  split
  · exact .inl (by rw [compile])
  · exact .inr rfl

theorem patternBody_anchored (text : List Char) :
    ∃ anchor, (anchor = [] ∨ anchor = ['^']) ∧ text = anchor ++ patternBody text := by
  unfold patternBody
  split
  · exact ⟨['^'], .inr rfl, rfl⟩
  · exact ⟨[], .inl rfl, rfl⟩

/-- A pattern is portable exactly when what follows its anchor is a sequence of atoms. -/
theorem portable_body : Portable text ↔ patternBody text ≠ [] ∧
    ∃ quantified, Pairs quantified (patternBody text) ∧ quantified ≤ 1 := by
  constructor
  · intro portable
    obtain ⟨anchor, body, quantified, either, present, pairs, few, rfl⟩ := portable
    have same : patternBody (anchor ++ body) = body := by
      rcases either with rfl | rfl
      · -- The body does not begin with another anchor.
        unfold patternBody
        split
        · next caret =>
          have first : '^' ∈ body.head? := by
            rw [List.nil_append] at caret
            rw [caret]
            rfl
          exact absurd rfl (pairs.begins '^' (by decide) (by decide) '^' first)
        · rfl
      · rfl
    rw [same]
    exact ⟨present, quantified, pairs, few⟩
  · intro derived
    obtain ⟨present, quantified, pairs, few⟩ := derived
    obtain ⟨anchor, either, same⟩ := patternBody_anchored text
    exact ⟨anchor, patternBody text, quantified, either, present, pairs, few, same⟩

/-- The scanner passes exactly the bounded ASCII patterns of the grammar. -/
theorem scanPattern_ok {pattern : String} : scanPattern pattern = .ok () ↔
    pattern.length ≤ 256 ∧ (∀ character ∈ pattern.toList, character.toNat < 128) ∧
      Portable pattern.toList := by
  simp only [scanPattern, bind_ok, require_ok, portable_body, List.all_eq_true, decide_eq_true_eq,
    scanAtoms_ok (Nat.zero_le 1), Nat.zero_add]
  constructor
  · intro passed
    obtain ⟨_, bounded, _, ascii, _, present, derived⟩ := passed
    exact ⟨bounded, ascii, present, derived⟩
  · intro derived
    obtain ⟨bounded, ascii, present, derived⟩ := derived
    exact ⟨(), bounded, (), ascii, (), present, derived⟩

/-- A pattern that the scanner has passed is never refused by `re.compile`. -/
theorem compile_scanned {pattern : String} (scanned : scanPattern pattern = .ok ()) :
    compile .nothing pattern.toList = .ok () := by
  obtain ⟨-, -, portable⟩ := scanPattern_ok.mp scanned
  obtain ⟨-, quantified, pairs, -⟩ := portable_body.mp portable
  rcases compile_body pattern.toList with same | same
  · exact same.trans (compile_pairs pairs)
  · exact same.trans (compile_pairs pairs)

theorem validatePortablePattern_ok {pattern : String} :
    validatePortablePattern pattern = .ok () ↔ scanPattern pattern = .ok () := by
  simp only [validatePortablePattern, bind_ok]
  constructor
  · rintro ⟨_, scanned, -⟩
    exact scanned
  · intro scanned
    refine ⟨(), scanned, ?_⟩
    rw [compile_scanned scanned]
    rfl

/--
The portable pattern parser accepts exactly its grammar.

A text is accepted exactly when it is ASCII of at most 256 characters and derivable from the
grammar, and a pattern that the scanner has passed is never refused by `re.compile`.
-/
theorem portable_pattern_grammar (pattern : String) :
    (validatePortablePattern pattern = .ok () ↔
      pattern.length ≤ 256 ∧ (∀ character ∈ pattern.toList, character.toNat < 128) ∧
        Portable pattern.toList) ∧
    (scanPattern pattern = .ok () → compile .nothing pattern.toList = .ok ()) :=
  ⟨validatePortablePattern_ok.trans scanPattern_ok, compile_scanned⟩

end Compile

end Aar.SchemaProfile
