import Aar.Lib.JsonWriter

/-! Where reading a text meets a limit: an array or object that is nested too deep, or an integer
that is not admissible. -/

namespace StrictJson

open Guarded Utf8

section Stopping

mutual

/-- Reading a value from the start of a text meets a limit before any error. -/
inductive Stops (admits : Text → Prop) : Nat → Text → Prop where
  | deep {point : Code} {rest : Text} (opens : point.val ∈ [0x5b, 0x7b]) :
      Stops admits 0 (point :: rest)
  | long {depth : Nat} {literal rest : Text}
      (scanned : scanNumber (literal ++ rest) = some (false, literal, rest))
      (refused : ¬ admits literal) : Stops admits depth (literal ++ rest)
  | items {depth : Nat} {input : Text} (each : StopsItems admits depth input) :
      Stops admits (depth + 1) (0x5b :: input)
  | members {depth : Nat} {input : Text} (each : StopsMembers admits depth input) :
      Stops admits (depth + 1) (0x7b :: input)

/-- Reading the items of an array meets a limit in one of them. -/
inductive StopsItems (admits : Text → Prop) : Nat → Text → Prop where
  | here {depth : Nat} {before input : Text} (leading : Blanks before)
      (stops : Stops admits depth input) : StopsItems admits depth (before ++ input)
  | next {depth : Nat} {item : Value} {before written after rest : Text} (leading : Blanks before)
      (value : Writes admits item written) (shallow : item.depth ≤ depth)
      (trailing : Blanks after) (later : StopsItems admits depth rest) :
      StopsItems admits depth (before ++ (written ++ (after ++ 0x2c :: rest)))

/-- Reading the entries of an object meets a limit in one of their values. -/
inductive StopsMembers (admits : Text → Prop) : Nat → Text → Prop where
  | here {depth : Nat} {key before name input : Text} (leading : Blanks before)
      (named : KeyText key name) (stops : Stops admits depth input) :
      StopsMembers admits depth (before ++ (name ++ input))
  | next {depth : Nat} {key : Text} {item : Value} {before name written after rest : Text}
      (leading : Blanks before) (named : KeyText key name) (value : Writes admits item written)
      (shallow : item.depth ≤ depth) (trailing : Blanks after)
      (later : StopsMembers admits depth rest) :
      StopsMembers admits depth (before ++ (name ++ (written ++ (after ++ 0x2c :: rest))))

end

variable {admits : Text → Prop} {depth : Nat} {input before : Text}

/-- Blanks may stand before the items of an array. -/
theorem StopsItems.leading (blanks : Blanks before) (stops : StopsItems admits depth input) :
    StopsItems admits depth (before ++ input) := by
  cases stops with
  | here leading stops =>
    rw [← List.append_assoc]
    exact .here (blanks.append leading) stops
  | next leading value shallow trailing later =>
    rw [← List.append_assoc]
    exact .next (blanks.append leading) value shallow trailing later

/-- Blanks may stand before the entries of an object. -/
theorem StopsMembers.leading (blanks : Blanks before) (stops : StopsMembers admits depth input) :
    StopsMembers admits depth (before ++ input) := by
  cases stops with
  | here leading named stops =>
    rw [← List.append_assoc]
    exact .here (blanks.append leading) named stops
  | next leading named value shallow trailing later =>
    rw [← List.append_assoc]
    exact .next (blanks.append leading) named value shallow trailing later

/-- A literal starts with a character of its own. -/
theorem IntLiteral.head {literal : Text} (integer : IntLiteral literal) : ∃ point after,
    literal = point :: after ∧ ¬ Blank point ∧ point.val ≠ 0x5d ∧ point.val ≠ 0x7d := by
  have digits {digits : Text} (natural : Natural digits) : ∃ point after,
      digits = point :: after ∧ ¬ Blank point ∧ point.val ≠ 0x5d ∧ point.val ≠ 0x7d := by
    obtain ⟨nonempty, each, -⟩ := natural
    cases digits with
    | nil => exact absurd rfl nonempty
    | cons point after =>
      obtain ⟨low, high⟩ := each point List.mem_cons_self
      refine ⟨point, after, rfl, ?_, by omega, by omega⟩
      simp only [Blank, List.mem_cons, List.not_mem_nil, or_false]
      omega
  cases integer with
  | natural natural => exact digits natural
  | minus natural => exact ⟨_, _, rfl, by decide, by decide, by decide⟩

/-- What meets a limit starts with a character of its own. -/
theorem Stops.head (stops : Stops admits depth input) : ∃ point after,
    input = point :: after ∧ ¬ Blank point ∧ point.val ≠ 0x5d := by
  cases stops with
  | @deep point rest opens =>
    refine ⟨point, rest, rfl, ?_, ?_⟩
    · simp only [List.mem_cons, List.not_mem_nil, or_false] at opens
      simp only [Blank, List.mem_cons, List.not_mem_nil, or_false]
      omega
    · simp only [List.mem_cons, List.not_mem_nil, or_false] at opens
      omega
  | long scanned =>
    obtain ⟨point, after, rfl, blank, apart, -⟩ := (scanNumber_sound scanned).1.head
    exact ⟨point, _, rfl, blank, apart⟩
  | items | members => exact ⟨_, _, rfl, by decide, by decide⟩

/-- Items that meet a limit start with a character of their own. -/
theorem StopsItems.head (stops : StopsItems admits depth input) :
    ∃ point after, skipBlank input = point :: after ∧ point.val ≠ 0x5d := by
  cases stops with
  | here leading stops =>
    obtain ⟨point, after, rfl, apart, other⟩ := stops.head
    rw [skipBlank_append leading, skipBlank_of_not apart]
    exact ⟨point, after, rfl, other⟩
  | next leading value _ _ _ =>
    obtain ⟨point, after, rfl, apart, other⟩ := value.head
    rw [skipBlank_append leading, List.cons_append, skipBlank_of_not apart]
    exact ⟨point, _, rfl, other⟩

/-- Entries that meet a limit start with a quote. -/
theorem StopsMembers.head (stops : StopsMembers admits depth input) :
    ∃ after, skipBlank input = 0x22 :: after := by
  cases stops with
  | here leading named _ | next leading named _ _ _ _ =>
    obtain ⟨content, between, last, -, -, -, rfl⟩ := named
    rw [skipBlank_append leading, List.cons_append, skipBlank_of_not (by decide)]
    exact ⟨_, rfl⟩

end Stopping

section Errors

variable {ε : Type}

/-- An error comes from a limit: the interpreter recursed too deep, or a hook says so. -/
def ScanError.Limit (limit : ε → Prop) : ScanError ε → Prop
  | .invalid | .extraData => False
  | .recursion => True
  | .raised error => limit error

/-- Hooks that meet a limit in integers only. -/
structure Limited (hooks : Hooks ε Value) (limit : ε → Prop) : Prop where
  integer : ∀ literal error, hooks.integer literal = .error error → limit error
  float : ∀ literal error, hooks.float literal = .error error → ¬ limit error
  constant : ∀ word error, hooks.constant word = .error error → ¬ limit error
  object : ∀ entries error, hooks.object entries = .error error → ¬ limit error

/-- A hook that raises is why a part is not made. -/
theorem hooked_error {α : Type} {made : Except ε α} {rest : Text} {error : ScanError ε} :
    hooked made rest = .error error ↔ ∃ raised, made = .error raised ∧ error = .raised raised := by
  unfold hooked
  cases made with
  | ok value => simp
  | error raised => simp [eq_comm]

end Errors

section Soundness

variable {ε : Type} {limit : ε → Prop} {admits : Text → Prop} {hooks : Hooks ε Value}
  {depth : Nat} {one : Text → Except (ScanError ε) (Value × Text)} {error : ScanError ε}

/-- What scans one value meets a limit only where reading the text does. -/
def Stopped (limit : ε → Prop) (admits : Text → Prop) (depth : Nat)
    (one : Text → Except (ScanError ε) (Value × Text)) : Prop :=
  ∀ {input : Text} {error : ScanError ε}, one input = .error error → error.Limit limit →
    Stops admits depth input

/-- Scanned items meet a limit only in one of them. -/
theorem scanItems_stops (sound : Sound admits depth one) (stopped : Stopped limit admits depth one)
    (limited : error.Limit limit) : ∀ {fuel : Nat} {input : Text},
      scanItems one fuel input = .error error → StopsItems admits depth input := by
  intro fuel
  induction fuel with
  | zero =>
    intro input failed
    obtain rfl := Except.error.inj failed
    exact limited.elim
  | succ fuel ih =>
    intro input failed
    unfold scanItems at failed
    rcases bind_error.mp failed with first | ⟨⟨item, after⟩, first, failed⟩
    · exact .here Blanks.nil (stopped first limited)
    · obtain ⟨written, writes, same, shallow⟩ := sound first
      obtain ⟨before, blanks, split⟩ := skipBlank_split after
      dsimp only at failed
      split at failed
      · obtain rfl := Except.error.inj failed
        exact limited.elim
      · next point tail skipped =>
        rw [skipped] at split
        split at failed
        · cases failed
        · split at failed
          · next comma =>
            obtain rfl : point = 0x2c := Fin.ext comma
            rcases bind_error.mp failed with later | ⟨_, -, ended⟩
            · obtain ⟨between, leading, cut⟩ := skipBlank_split tail
              have stops := (ih later).leading leading
              rw [← cut] at stops
              rw [same, split]
              exact .next Blanks.nil writes shallow blanks stops
            · cases ended
          · obtain rfl := Except.error.inj failed
            exact limited.elim

/-- A key that is scanned meets no limit. -/
theorem scanKey_error {input : Text} (failed : scanKey input = .error error) :
    error = .invalid := by
  unfold scanKey at failed
  split at failed
  · exact (Except.error.inj failed).symm
  · split at failed
    · split at failed
      · exact (Except.error.inj failed).symm
      · split at failed
        · exact (Except.error.inj failed).symm
        · split at failed
          · cases failed
          · exact (Except.error.inj failed).symm
    · exact (Except.error.inj failed).symm

/-- Scanned entries meet a limit only in one of their values. -/
theorem scanMembers_stops (sound : Sound admits depth one)
    (stopped : Stopped limit admits depth one) (limited : error.Limit limit) :
    ∀ {fuel : Nat} {input : Text}, scanMembers one fuel input = .error error →
      StopsMembers admits depth input := by
  intro fuel
  induction fuel with
  | zero =>
    intro input failed
    obtain rfl := Except.error.inj failed
    exact limited.elim
  | succ fuel ih =>
    intro input failed
    unfold scanMembers at failed
    rcases bind_error.mp failed with keyless | ⟨⟨key, valued⟩, keyed, failed⟩
    · obtain rfl := scanKey_error keyless
      exact limited.elim
    · obtain ⟨name, named, origin⟩ := scanKey_sound keyed
      rcases bind_error.mp failed with first | ⟨⟨item, after⟩, first, failed⟩
      · rw [origin]
        exact .here Blanks.nil named (stopped first limited)
      · obtain ⟨written, writes, same, shallow⟩ := sound first
        obtain ⟨before, blanks, split⟩ := skipBlank_split after
        dsimp only at failed same
        split at failed
        · obtain rfl := Except.error.inj failed
          exact limited.elim
        · next point tail skipped =>
          rw [skipped] at split
          split at failed
          · cases failed
          · split at failed
            · next comma =>
              obtain rfl : point = 0x2c := Fin.ext comma
              rcases bind_error.mp failed with later | ⟨_, -, ended⟩
              · obtain ⟨between, leading, cut⟩ := skipBlank_split tail
                have stops := (ih later).leading leading
                rw [← cut] at stops
                rw [origin, same, split]
                exact .next Blanks.nil named writes shallow blanks stops
              · cases ended
            · obtain rfl := Except.error.inj failed
              exact limited.elim

/-- A scanned array meets a limit only in one of its items. -/
theorem scanArray_stops (sound : Sound admits depth one) (stopped : Stopped limit admits depth one)
    (limited : error.Limit limit) {input : Text}
    (failed : scanArray hooks one input = .error error) :
    Stops admits (depth + 1) (0x5b :: input) := by
  unfold scanArray at failed
  obtain ⟨before, leading, same⟩ := skipBlank_split input
  split at failed
  · obtain rfl := Except.error.inj failed
    exact limited.elim
  · next point after skipped =>
    rw [skipped] at same
    split at failed
    · cases failed
    · rcases bind_error.mp failed with each | ⟨_, -, ended⟩
      · rw [same]
        exact .items ((scanItems_stops sound stopped limited each).leading leading)
      · cases ended

/-- A scanned object meets a limit only in one of its values. -/
theorem scanObject_stops (bounded : Limited hooks limit) (sound : Sound admits depth one)
    (stopped : Stopped limit admits depth one) (limited : error.Limit limit) {input : Text}
    (failed : scanObject hooks one input = .error error) :
    Stops admits (depth + 1) (0x7b :: input) := by
  -- What the hook raises for the entries is no limit.
  have made {entries : List (Text × Value)} {rest : Text}
      (failed : hooked (hooks.object entries) rest = .error error) :
      Stops admits (depth + 1) (0x7b :: input) := by
    obtain ⟨raised, refused, rfl⟩ := hooked_error.mp failed
    exact absurd limited (bounded.object _ _ refused)
  unfold scanObject at failed
  obtain ⟨before, leading, same⟩ := skipBlank_split input
  split at failed
  · obtain rfl := Except.error.inj failed
    exact limited.elim
  · next point after skipped =>
    rw [skipped] at same
    split at failed
    · exact made failed
    · rcases bind_error.mp failed with each | ⟨_, -, ended⟩
      · rw [same]
        exact .members ((scanMembers_stops sound stopped limited each).leading leading)
      · exact made ended

/-- A scanned atom meets a limit only in an integer that is not admissible. -/
theorem scanAtom_stops (reads : Reads hooks admits) (bounded : Limited hooks limit)
    (limited : error.Limit limit) {input : Text} (failed : scanAtom hooks input = .error error) :
    Stops admits depth input := by
  unfold scanAtom at failed
  split at failed
  · cases failed
  · cases failed
  · cases failed
  · split at failed
    · obtain ⟨raised, refused, rfl⟩ := hooked_error.mp failed
      exact absurd limited (bounded.constant _ _ refused)
    · split at failed
      · obtain ⟨raised, refused, rfl⟩ := hooked_error.mp failed
        exact absurd limited (bounded.float _ _ refused)
      · next literal rest scanned =>
        obtain ⟨raised, refused, rfl⟩ := hooked_error.mp failed
        obtain ⟨-, same⟩ := scanNumber_sound scanned
        rw [same] at scanned ⊢
        refine .long scanned fun admitted => ?_
        rw [(reads.integer literal _).mpr ⟨admitted, rfl⟩] at refused
        cases refused
      · obtain rfl := Except.error.inj failed
        exact limited.elim

/-- A scanned string meets no limit. -/
theorem scannedString_error {input : Text}
    (failed : (match scanString input with
      | none => .error ScanError.invalid
      | some (content, rest) => .ok (hooks.string content, rest) :
        Except (ScanError ε) (Value × Text)) = .error error) : error = .invalid := by
  split at failed
  · exact (Except.error.inj failed).symm
  · cases failed

/-- A scanned value meets a limit only where reading the text does. -/
theorem scanOnce_stops (reads : Reads hooks admits) (bounded : Limited hooks limit) (depth : Nat) :
    Stopped limit admits depth (scanOnce hooks depth) := by
  induction depth with
  | zero =>
    intro input error failed limited
    unfold scanOnce at failed
    split at failed
    · obtain rfl := Except.error.inj failed
      exact limited.elim
    · next point after =>
      split at failed
      · obtain rfl := scannedString_error failed
        exact limited.elim
      · split at failed
        · next bracket =>
          exact .deep (List.mem_cons.mpr (.inl bracket))
        · split at failed
          · next brace => exact .deep (List.mem_cons.mpr (.inr (List.mem_singleton.mpr brace)))
          · exact scanAtom_stops reads bounded limited failed
  | succ depth ih =>
    intro input error failed limited
    have sound : Sound admits depth (scanOnce hooks depth) := scanOnce_sound reads depth
    unfold scanOnce at failed
    split at failed
    · obtain rfl := Except.error.inj failed
      exact limited.elim
    · next point after =>
      split at failed
      · obtain rfl := scannedString_error failed
        exact limited.elim
      · split at failed
        · next bracket =>
          obtain rfl : point = 0x5b := Fin.ext bracket
          exact scanArray_stops sound ih limited failed
        · split at failed
          · next brace =>
            obtain rfl : point = 0x7b := Fin.ext brace
            exact scanObject_stops bounded sound ih limited failed
          · exact scanAtom_stops reads bounded limited failed

end Soundness

section Completeness

variable {ε : Type} {limit : ε → Prop} {admits : Text → Prop} {hooks : Hooks ε Value}

/-- An item before a comma is scanned up to what follows the comma. -/
theorem scanItems_next (reads : Reads hooks admits) {item : Value}
    {before written after rest : Text} {depth fuel : Nat} (leading : Blanks before)
    (value : Writes admits item written) (shallow : item.depth ≤ depth)
    (trailing : Blanks after) :
    scanItems (scanOnce hooks depth) (fuel + 1)
        (skipBlank (before ++ (written ++ (after ++ 0x2c :: rest)))) =
      (do
        let (items, last) ← scanItems (scanOnce hooks depth) fuel (skipBlank rest)
        return (item :: items, last)) := by
  have scanned := value.scanned reads depth (after ++ 0x2c :: rest)
    (trailing.delimited (delimited_end (by decide))) shallow
  have comma : skipBlank (after ++ 0x2c :: rest) = 0x2c :: rest := by
    rw [skipBlank_append trailing, skipBlank_of_not (by decide)]
  rw [skipBlank_append leading, value.skipped, scanItems, scanned]
  simp only [ok_bind, comma]
  rfl

/-- An entry before a comma is scanned up to what follows the comma. -/
theorem scanMembers_next (reads : Reads hooks admits) {key : Text} {item : Value}
    {before name written after rest : Text} {depth fuel : Nat} (leading : Blanks before)
    (named : KeyText key name) (value : Writes admits item written)
    (shallow : item.depth ≤ depth) (trailing : Blanks after) :
    scanMembers (scanOnce hooks depth) (fuel + 1)
        (skipBlank (before ++ (name ++ (written ++ (after ++ 0x2c :: rest))))) =
      (do
        let (entries, last) ← scanMembers (scanOnce hooks depth) fuel (skipBlank rest)
        return ((key, item) :: entries, last)) := by
  have scanned := value.scanned reads depth (after ++ 0x2c :: rest)
    (trailing.delimited (delimited_end (by decide))) shallow
  have keyed := @scanKey_complete ε (written ++ (after ++ 0x2c :: rest)) _ _ named value.unskipped
  have comma : skipBlank (after ++ 0x2c :: rest) = 0x2c :: rest := by
    rw [skipBlank_append trailing, skipBlank_of_not (by decide)]
  rw [skipBlank_append leading, named.skipped, scanMembers, keyed]
  simp only [ok_bind, scanned, comma]
  rfl

mutual

/-- Where reading a value meets a limit, scanning it does. -/
theorem Stops.scanned (reads : Reads hooks admits) (bounded : Limited hooks limit) {depth : Nat}
    {input : Text} (stops : Stops admits depth input) :
    ∃ error, scanOnce hooks depth input = .error error ∧ error.Limit limit := by
  cases stops with
  | @deep point rest opens =>
    refine ⟨.recursion, ?_, trivial⟩
    simp only [List.mem_cons, List.not_mem_nil, or_false] at opens
    rcases opens with bracket | brace
    · obtain rfl : point = 0x5b := Fin.ext bracket
      rw [scanOnce]
      rfl
    · obtain rfl : point = 0x7b := Fin.ext brace
      rw [scanOnce]
      rfl
  | @long _ literal rest scanned refused =>
    rw [scanOnce_number (scanNumber_sound scanned).1 scanned]
    cases made : hooks.integer literal with
    | ok value => exact absurd ((reads.integer literal value).mp made).1 refused
    | error raised => exact ⟨.raised raised, rfl, bounded.integer literal raised made⟩
  | @items depth input each =>
    obtain ⟨error, failed, limited⟩ := each.scanned reads bounded (input.length + 1)
      (Nat.lt_succ_self _)
    obtain ⟨point, after, starts, apart⟩ := each.head
    refine ⟨error, ?_, limited⟩
    rw [scanOnce_array, scanArray]
    rw [starts] at failed ⊢
    simp only [apart, if_false, failed]
    rfl
  | @members depth input each =>
    obtain ⟨error, failed, limited⟩ := each.scanned reads bounded (input.length + 1)
      (Nat.lt_succ_self _)
    obtain ⟨after, starts⟩ := each.head
    refine ⟨error, ?_, limited⟩
    rw [scanOnce_object, scanObject]
    rw [starts] at failed ⊢
    have apart : ¬ (0x22 : Code).val = 0x7d := by decide
    simp only [apart, if_false, failed]
    rfl

/-- Where reading the items of an array meets a limit, scanning them does. -/
theorem StopsItems.scanned (reads : Reads hooks admits) (bounded : Limited hooks limit)
    {depth : Nat} {input : Text} (stops : StopsItems admits depth input) (fuel : Nat)
    (enough : input.length < fuel) :
    ∃ error, scanItems (scanOnce hooks depth) fuel (skipBlank input) = .error error ∧
      error.Limit limit := by
  cases fuel with
  | zero => exact absurd enough (Nat.not_lt_zero _)
  | succ fuel =>
    cases stops with
    | here leading stops =>
      obtain ⟨error, failed, limited⟩ := stops.scanned reads bounded
      obtain ⟨point, after, rfl, apart, -⟩ := stops.head
      refine ⟨error, ?_, limited⟩
      rw [skipBlank_append leading, skipBlank_of_not apart, scanItems, failed]
      rfl
    | next leading value shallow trailing later =>
      obtain ⟨error, failed, limited⟩ := later.scanned reads bounded fuel
        (by simp only [List.length_append, List.length_cons] at enough; omega)
      refine ⟨error, ?_, limited⟩
      rw [scanItems_next reads leading value shallow trailing, failed]
      rfl

/-- Where reading the entries of an object meets a limit, scanning them does. -/
theorem StopsMembers.scanned (reads : Reads hooks admits) (bounded : Limited hooks limit)
    {depth : Nat} {input : Text} (stops : StopsMembers admits depth input) (fuel : Nat)
    (enough : input.length < fuel) :
    ∃ error, scanMembers (scanOnce hooks depth) fuel (skipBlank input) = .error error ∧
      error.Limit limit := by
  cases fuel with
  | zero => exact absurd enough (Nat.not_lt_zero _)
  | succ fuel =>
    cases stops with
    | @here _ key before name input leading named stops =>
      obtain ⟨error, failed, limited⟩ := stops.scanned reads bounded
      obtain ⟨point, after, rfl, apart, -⟩ := stops.head
      have keyed := @scanKey_complete ε (point :: after) _ _ named fun other found => by
        obtain rfl : point = other := by simpa using found
        exact apart
      refine ⟨error, ?_, limited⟩
      rw [skipBlank_append leading, named.skipped, scanMembers, keyed]
      simp only [ok_bind, failed]
      rfl
    | next leading named value shallow trailing later =>
      obtain ⟨error, failed, limited⟩ := later.scanned reads bounded fuel
        (by simp only [List.length_append, List.length_cons] at enough; omega)
      refine ⟨error, ?_, limited⟩
      rw [scanMembers_next reads leading named value shallow trailing, failed]
      rfl

end

end Completeness

section Admission

variable {admits wider : Text → Prop}

mutual

/-- What may be written with some integers may be written with more of them. -/
theorem Writes.weaken (more : ∀ literal, admits literal → wider literal) {value : Value}
    {written : Text} (writes : Writes admits value written) : Writes wider value written := by
  cases writes with
  | null => exact .null
  | true => exact .true
  | false => exact .false
  | int integer admitted => exact .int integer (more _ admitted)
  | str string => exact .str string
  | noItems blanks => exact .noItems blanks
  | items each => exact .items (each.weaken more)
  | noEntries blanks => exact .noEntries blanks
  | entries distinct members => exact .entries distinct (members.weaken more)

/-- Items that may be written with some integers may be written with more of them. -/
theorem WritesItems.weaken (more : ∀ literal, admits literal → wider literal) {items : List Value}
    {written : Text} (writes : WritesItems admits items written) :
    WritesItems wider items written := by
  cases writes with
  | one leading value trailing => exact .one leading (value.weaken more) trailing
  | more leading value trailing others =>
    exact .more leading (value.weaken more) trailing (others.weaken more)

/-- Entries that may be written with some integers may be written with more of them. -/
theorem WritesMembers.weaken (more : ∀ literal, admits literal → wider literal)
    {entries : List (Text × Value)} {written : Text}
    (writes : WritesMembers admits entries written) : WritesMembers wider entries written := by
  cases writes with
  | one leading named value trailing => exact .one leading named (value.weaken more) trailing
  | more leading named value trailing others =>
    exact .more leading named (value.weaken more) trailing (others.weaken more)

end

mutual

/-- A written value is read within the limits, or reading it meets one of them. -/
theorem Writes.fits_or_stops {value : Value} {written : Text}
    (writes : Writes wider value written) (depth : Nat) (rest : Text)
    (delimited : Delimited rest) :
    (Writes admits value written ∧ value.depth ≤ depth) ∨ Stops admits depth (written ++ rest) := by
  cases writes with
  | null => exact .inl ⟨.null, Nat.zero_le _⟩
  | true => exact .inl ⟨.true, Nat.zero_le _⟩
  | false => exact .inl ⟨.false, Nat.zero_le _⟩
  | int integer =>
    rcases Classical.em (admits written) with admitted | refused
    · exact .inl ⟨.int integer admitted, Nat.zero_le _⟩
    · exact .inr (.long (scanNumber_complete integer delimited) refused)
  | str string => exact .inl ⟨.str string, Nat.zero_le _⟩
  | noItems blanks =>
    cases depth with
    | zero => exact .inr (.deep (by decide))
    | succ depth => exact .inl ⟨.noItems blanks, Nat.succ_le_succ (Nat.zero_le _)⟩
  | items each =>
    cases depth with
    | zero => exact .inr (.deep (by decide))
    | succ depth =>
      rcases each.fits_or_stops depth (0x5d :: rest) (delimited_end (by decide)) with
        ⟨writes, shallow⟩ | stops
      · exact .inl ⟨.items writes, Nat.succ_le_succ shallow⟩
      · rw [List.cons_append, List.append_assoc]
        exact .inr (.items stops)
  | noEntries blanks =>
    cases depth with
    | zero => exact .inr (.deep (by decide))
    | succ depth => exact .inl ⟨.noEntries blanks, Nat.succ_le_succ (Nat.zero_le _)⟩
  | entries distinct members =>
    cases depth with
    | zero => exact .inr (.deep (by decide))
    | succ depth =>
      rcases members.fits_or_stops depth (0x7d :: rest) (delimited_end (by decide)) with
        ⟨writes, shallow⟩ | stops
      · exact .inl ⟨.entries distinct writes, Nat.succ_le_succ shallow⟩
      · rw [List.cons_append, List.append_assoc]
        exact .inr (.members stops)

/-- Written items are read within the limits, or reading them meets one. -/
theorem WritesItems.fits_or_stops {items : List Value} {written : Text}
    (writes : WritesItems wider items written) (depth : Nat) (rest : Text)
    (delimited : Delimited rest) : (WritesItems admits items written ∧ depthItems items ≤ depth) ∨
      StopsItems admits depth (written ++ rest) := by
  cases writes with
  | @one item before written after leading value trailing =>
    rcases value.fits_or_stops depth (after ++ rest) (trailing.delimited delimited) with
      ⟨writes, shallow⟩ | stops
    · exact .inl ⟨.one leading writes trailing, Nat.max_le.mpr ⟨shallow, Nat.zero_le _⟩⟩
    · simp only [List.append_assoc]
      exact .inr (.here leading stops)
  | @more item before written after remaining items leading value trailing others =>
    rcases value.fits_or_stops depth (after ++ 0x2c :: (remaining ++ rest))
      (trailing.delimited (delimited_end (by decide))) with ⟨writes, shallow⟩ | stops
    · rcases others.fits_or_stops depth rest delimited with ⟨later, deep⟩ | stops
      · exact .inl ⟨.more leading writes trailing later, Nat.max_le.mpr ⟨shallow, deep⟩⟩
      · simp only [List.append_assoc, List.cons_append]
        exact .inr (.next leading writes shallow trailing stops)
    · simp only [List.append_assoc, List.cons_append]
      exact .inr (.here leading stops)

/-- Written entries are read within the limits, or reading them meets one. -/
theorem WritesMembers.fits_or_stops {entries : List (Text × Value)} {written : Text}
    (writes : WritesMembers wider entries written) (depth : Nat) (rest : Text)
    (delimited : Delimited rest) :
    (WritesMembers admits entries written ∧ depthEntries entries ≤ depth) ∨
      StopsMembers admits depth (written ++ rest) := by
  cases writes with
  | @one key item before name written after leading named value trailing =>
    rcases value.fits_or_stops depth (after ++ rest) (trailing.delimited delimited) with
      ⟨writes, shallow⟩ | stops
    · exact .inl ⟨.one leading named writes trailing, Nat.max_le.mpr ⟨shallow, Nat.zero_le _⟩⟩
    · simp only [List.append_assoc]
      exact .inr (.here leading named stops)
  | @more key item before name written after remaining entries leading named value trailing
      others =>
    rcases value.fits_or_stops depth (after ++ 0x2c :: (remaining ++ rest))
      (trailing.delimited (delimited_end (by decide))) with ⟨writes, shallow⟩ | stops
    · rcases others.fits_or_stops depth rest delimited with ⟨later, deep⟩ | stops
      · exact .inl ⟨.more leading named writes trailing later, Nat.max_le.mpr ⟨shallow, deep⟩⟩
      · simp only [List.append_assoc, List.cons_append]
        exact .inr (.next leading named writes shallow trailing stops)
    · simp only [List.append_assoc, List.cons_append]
      exact .inr (.here leading named stops)

end

end Admission

section Integers

variable {admits wider : Text → Prop} {fits : Int → Prop}

mutual

/-- The integers of a written value are admissible. -/
theorem Writes.integers (same : ∀ literal, IntLiteral literal → admits literal →
    fits (literalValue literal)) {value : Value} {written : Text}
    (writes : Writes admits value written) : ∀ number ∈ value.integers, fits number := by
  cases writes with
  | null | true | false | str _ | noItems _ | noEntries _ => exact fun _ member => by cases member
  | int integer admitted =>
    intro number member
    rw [List.mem_singleton.mp member]
    exact same _ integer admitted
  | items each => exact each.integers same
  | entries _ members => exact members.integers same

/-- The integers of written items are admissible. -/
theorem WritesItems.integers (same : ∀ literal, IntLiteral literal → admits literal →
    fits (literalValue literal)) {items : List Value} {written : Text}
    (writes : WritesItems admits items written) :
    ∀ number ∈ integersOfItems items, fits number := by
  cases writes with
  | one _ value _ =>
    intro number member
    rw [integersOfItems, integersOfItems, List.append_nil] at member
    exact value.integers same number member
  | more _ value _ others =>
    exact List.forall_mem_append.mpr ⟨value.integers same, others.integers same⟩

/-- The integers of written entries are admissible. -/
theorem WritesMembers.integers (same : ∀ literal, IntLiteral literal → admits literal →
    fits (literalValue literal)) {entries : List (Text × Value)} {written : Text}
    (writes : WritesMembers admits entries written) :
    ∀ number ∈ integersOfEntries entries, fits number := by
  cases writes with
  | one _ _ value _ =>
    intro number member
    rw [integersOfEntries, integersOfEntries, List.append_nil] at member
    exact value.integers same number member
  | more _ _ value _ others =>
    exact List.forall_mem_append.mpr ⟨value.integers same, others.integers same⟩

end

mutual

/-- A value whose integers fit is written with admissible ones. -/
theorem Writes.narrow (same : ∀ literal, IntLiteral literal → fits (literalValue literal) →
    admits literal) {value : Value} {written : Text} (writes : Writes wider value written)
    (each : ∀ number ∈ value.integers, fits number) : Writes admits value written := by
  cases writes with
  | null => exact .null
  | true => exact .true
  | false => exact .false
  | int integer _ => exact .int integer (same _ integer (each _ List.mem_cons_self))
  | str string => exact .str string
  | noItems blanks => exact .noItems blanks
  | items items => exact .items (items.narrow same each)
  | noEntries blanks => exact .noEntries blanks
  | entries distinct members => exact .entries distinct (members.narrow same each)

/-- Items whose integers fit are written with admissible ones. -/
theorem WritesItems.narrow (same : ∀ literal, IntLiteral literal → fits (literalValue literal) →
    admits literal) {items : List Value} {written : Text}
    (writes : WritesItems wider items written)
    (each : ∀ number ∈ integersOfItems items, fits number) :
    WritesItems admits items written := by
  cases writes with
  | one leading value trailing =>
    rw [integersOfItems, integersOfItems, List.append_nil] at each
    exact .one leading (value.narrow same each) trailing
  | more leading value trailing others =>
    obtain ⟨first, later⟩ := List.forall_mem_append.mp each
    exact .more leading (value.narrow same first) trailing (others.narrow same later)

/-- Entries whose integers fit are written with admissible ones. -/
theorem WritesMembers.narrow (same : ∀ literal, IntLiteral literal →
    fits (literalValue literal) → admits literal) {entries : List (Text × Value)} {written : Text}
    (writes : WritesMembers wider entries written)
    (each : ∀ number ∈ integersOfEntries entries, fits number) :
    WritesMembers admits entries written := by
  cases writes with
  | one leading named value trailing =>
    rw [integersOfEntries, integersOfEntries, List.append_nil] at each
    exact .one leading named (value.narrow same each) trailing
  | more leading named value trailing others =>
    obtain ⟨first, later⟩ := List.forall_mem_append.mp each
    exact .more leading named (value.narrow same first) trailing (others.narrow same later)

end

end Integers

section Measures

variable {leaf array object bound : Nat}

mutual

/-- How high a value is, when its leaves, arrays and objects count for as much as is said. -/
def Value.height (leaf array object : Nat) : Value → Nat
  | .null | .bool _ | .int _ | .str _ => leaf
  | .arr items => heightItems leaf array object items + array
  | .obj entries => heightEntries leaf array object entries + object

/-- How high the items of an array are. -/
def heightItems (leaf array object : Nat) : List Value → Nat
  | [] => 0
  | item :: rest => max (item.height leaf array object) (heightItems leaf array object rest)

/-- How high the values of an object are. -/
def heightEntries (leaf array object : Nat) : List (Text × Value) → Nat
  | [] => 0
  | (_, item) :: rest => max (item.height leaf array object) (heightEntries leaf array object rest)

end

mutual

/-- The depth of a value counts its arrays and objects. -/
theorem Value.depth_eq_height : ∀ value : Value, value.depth = value.height 0 1 1
  | .null | .bool _ | .int _ | .str _ => rfl
  | .arr items => congrArg (· + 1) (depthItems_eq_height items)
  | .obj entries => congrArg (· + 1) (depthEntries_eq_height entries)

theorem depthItems_eq_height : ∀ items : List Value, depthItems items = heightItems 0 1 1 items
  | [] => rfl
  | item :: rest => by
    rw [depthItems, heightItems, item.depth_eq_height, depthItems_eq_height rest]

/-- The depth of entries counts their arrays and objects. -/
theorem depthEntries_eq_height : ∀ entries : List (Text × Value),
    depthEntries entries = heightEntries 0 1 1 entries
  | [] => rfl
  | (_, item) :: rest => by
    rw [depthEntries, heightEntries, item.depth_eq_height, depthEntries_eq_height rest]

end

/-- The values of an object are bounded one by one. -/
theorem heightEntries_le {entries : List (Text × Value)} :
    heightEntries leaf array object entries ≤ bound ↔
      ∀ entry ∈ entries, entry.2.height leaf array object ≤ bound := by
  induction entries with
  | nil => simp [heightEntries]
  | cons entry rest ih => simp [heightEntries, ih]

/-- Sorting the entries of an object keeps how high they are. -/
theorem heightEntries_sort (entries : List (Text × Value)) :
    heightEntries leaf array object (sortEntries entries) =
      heightEntries leaf array object entries := by
  refine le_antisymm ?_ ?_
  · rw [heightEntries_le]
    intro entry member
    exact heightEntries_le.mp le_rfl entry (mem_sortEntries.mp member)
  · rw [heightEntries_le]
    intro entry member
    exact heightEntries_le.mp le_rfl entry (mem_sortEntries.mpr member)

mutual

/-- Sorting keeps how high a value is. -/
theorem Value.height_sorted : ∀ value : Value,
    value.sorted.height leaf array object = value.height leaf array object
  | .null | .bool _ | .int _ | .str _ => rfl
  | .arr items => congrArg (· + array) (heightItems_sorted items)
  | .obj entries => by
    rw [Value.sorted, Value.height, heightEntries_sort, heightEntries_sorted entries]
    rfl

/-- Sorting keeps how high items are. -/
theorem heightItems_sorted : ∀ items : List Value,
    heightItems leaf array object (sortedItems items) = heightItems leaf array object items
  | [] => rfl
  | item :: rest => by
    rw [sortedItems, heightItems, item.height_sorted, heightItems_sorted rest]
    rfl

/-- Sorting the values of an object keeps how high they are. -/
theorem heightEntries_sorted : ∀ entries : List (Text × Value),
    heightEntries leaf array object (sortedEntries entries) =
      heightEntries leaf array object entries
  | [] => rfl
  | (_, item) :: rest => by
    rw [sortedEntries, heightEntries, item.height_sorted, heightEntries_sorted rest]
    rfl

end

/-- The integers of an object are those of its values. -/
theorem mem_integersOfEntries {number : Int} {entries : List (Text × Value)} :
    number ∈ integersOfEntries entries ↔ ∃ entry ∈ entries, number ∈ entry.2.integers := by
  induction entries with
  | nil => simp [integersOfEntries]
  | cons entry rest ih => simp [integersOfEntries, ih]

mutual

/-- Sorting keeps the integers of a value. -/
theorem Value.mem_integers_sorted {number : Int} : ∀ value : Value,
    number ∈ value.sorted.integers ↔ number ∈ value.integers
  | .null | .bool _ | .int _ | .str _ => Iff.rfl
  | .arr items => mem_integers_sortedItems items
  | .obj entries => by
    show number ∈ integersOfEntries (sortEntries (sortedEntries entries)) ↔
      number ∈ integersOfEntries entries
    rw [← mem_integers_sortedEntries entries, mem_integersOfEntries, mem_integersOfEntries]
    simp only [mem_sortEntries]

/-- Sorting keeps the integers of items. -/
theorem mem_integers_sortedItems {number : Int} : ∀ items : List Value,
    number ∈ integersOfItems (sortedItems items) ↔ number ∈ integersOfItems items
  | [] => Iff.rfl
  | item :: rest => by
    simp only [sortedItems, integersOfItems, List.mem_append, item.mem_integers_sorted,
      mem_integers_sortedItems rest]

/-- Sorting the values of an object keeps their integers. -/
theorem mem_integers_sortedEntries {number : Int} : ∀ entries : List (Text × Value),
    number ∈ integersOfEntries (sortedEntries entries) ↔ number ∈ integersOfEntries entries
  | [] => Iff.rfl
  | (_, item) :: rest => by
    simp only [sortedEntries, integersOfEntries, List.mem_append, item.mem_integers_sorted,
      mem_integers_sortedEntries rest]

end

section Same

variable {left right : Value}

/-- Equal values are as high as each other. -/
theorem Value.Same.height (same : left.Same right) (one : left.Distinct) (other : right.Distinct) :
    left.height leaf array object = right.height leaf array object := by
  rw [← left.height_sorted, ← right.height_sorted, same.sorted_eq one other]

/-- Equal values have the same integers. -/
theorem Value.Same.integers (same : left.Same right) (one : left.Distinct)
    (other : right.Distinct) {number : Int} :
    number ∈ left.integers ↔ number ∈ right.integers := by
  rw [← left.mem_integers_sorted, ← right.mem_integers_sorted, same.sorted_eq one other]

end Same

end Measures

section Loading

variable {ε : Type} {limit : ε → Prop} {admits : Text → Prop} {hooks : Hooks ε Value}
  {depth : Nat} {input : Text} {value : Value}

/-- Loading a text meets a limit exactly where reading its value does. -/
theorem loads_limit (reads : Reads hooks admits) (bounded : Limited hooks limit) :
    (∃ error, loads hooks depth input = .error error ∧ error.Limit limit) ↔
      Stops admits depth (skipBlank input) := by
  constructor
  · intro ⟨error, failed, limited⟩
    rcases bind_error.mp failed with scanned | ⟨⟨found, rest⟩, -, ended⟩
    · exact scanOnce_stops reads bounded depth scanned limited
    · dsimp only at ended
      split at ended
      · cases ended
      · obtain rfl := Except.error.inj ended
        exact limited.elim
  · intro stops
    obtain ⟨error, failed, limited⟩ := stops.scanned reads bounded
    refine ⟨error, ?_, limited⟩
    unfold loads
    rw [failed]
    rfl

/-- A text with any integers is loaded as its value unless reading it meets a limit. -/
theorem loads_of_not_stops (reads : Reads hooks admits)
    (free : ¬ Stops admits depth (skipBlank input)) :
    loads hooks depth input = .ok value ↔ JsonText (fun _ => True) value input := by
  rw [loads_eq_ok reads]
  constructor
  · intro ⟨⟨before, written, after, leading, writes, trailing, same⟩, _⟩
    exact ⟨before, written, after, leading, writes.weaken fun _ _ => trivial, trailing, same⟩
  · intro ⟨before, written, after, leading, writes, trailing, same⟩
    rcases @Writes.fits_or_stops admits _ _ _ writes depth after trailing.ends with
      ⟨fits, shallow⟩ | stops
    · exact ⟨⟨before, written, after, leading, fits, trailing, same⟩, shallow⟩
    · rw [same, skipBlank_append leading, writes.skipped] at free
      exact absurd stops free

end Loading

end StrictJson
