import Aar.Canonical

/-! Canonical bytes are faithful: they are read back as the value that they were written for. -/

namespace Aar.Canonical

open Guarded Utf8 StrictJson

section Normalizing

variable {normalized : List (Text × Value)} {key : Text} {item : Value}

theorem assign_fresh (fresh : key ∉ normalized.map Prod.fst) :
    assign key item normalized = normalized ++ [(key, item)] := by
  induction normalized with
  | nil => rfl
  | cons entry rest ih =>
    obtain ⟨other, old⟩ := entry
    simp only [List.map_cons, List.mem_cons, not_or] at fresh
    rw [assign, if_neg fun same => fresh.1 same.symm, ih fresh.2]
    rfl

mutual

/-- What a value is normalized to is the JSON value that it is. -/
theorem jsonValue_is : ∀ {value : PyValue} {result : Value}, value.Distinct →
    jsonValue value = .ok result → value.Is result ∧ result.Distinct
  | .none, result, _, made | .bool _, result, _, made | .int _, result, _, made
  | .str _, result, _, made => by
    obtain rfl := Except.ok.inj made
    exact ⟨by simp [PyValue.Is], trivial⟩
  | .float, _, _, made | .unsupported _, _, _, made => by cases made
  | .enum value, result, distinct, made => @jsonValue_is value result distinct made
  | .model dump, result, distinct, made => @jsonValue_is dump result distinct made
  | .sequence items, result, distinct, made => by
    rw [jsonValue] at made
    obtain ⟨values, each, same⟩ := bind_ok.mp made
    obtain rfl := Except.ok.inj same
    exact jsonItems_is distinct each
  | .mapping entries, result, distinct, made => by
    rw [jsonValue] at made
    obtain ⟨values, each, same⟩ := bind_ok.mp made
    obtain rfl := Except.ok.inj same
    obtain ⟨added, rfl, is, apart, keys⟩ := jsonEntries_is distinct.2 distinct.1
      (fun _ _ member => by cases member) each
    exact ⟨is, keys ▸ distinct.1, apart⟩

/-- What the items of a sequence are normalized to are the JSON values that they are. -/
theorem jsonItems_is : ∀ {items : List PyValue} {results : List Value}, DistinctItems items →
    jsonItems items = .ok results → IsItems items results ∧ StrictJson.DistinctItems results
  | [], _, _, made => by
    obtain rfl := Except.ok.inj made
    exact ⟨trivial, trivial⟩
  | item :: rest, _, distinct, made => by
    rw [jsonItems] at made
    obtain ⟨value, first, made⟩ := bind_ok.mp made
    obtain ⟨values, others, same⟩ := bind_ok.mp made
    obtain rfl := Except.ok.inj same
    obtain ⟨one, apart⟩ := jsonValue_is distinct.1 first
    obtain ⟨more, later⟩ := jsonItems_is distinct.2 others
    exact ⟨⟨one, more⟩, apart, later⟩

/-- What the entries of a mapping are normalized to stands after the entries before them. -/
theorem jsonEntries_is : ∀ {entries : List (Key × PyValue)}
    {normalized results : List (Text × Value)}, DistinctEntries entries →
    (entries.filterMap fun entry => entry.1.string).Nodup →
    (∀ key ∈ entries.filterMap fun entry => entry.1.string, key ∉ normalized.map Prod.fst) →
    jsonEntries normalized entries = .ok results → ∃ added, results = normalized ++ added ∧
      IsEntries entries added ∧ StrictJson.DistinctEntries added ∧
      added.map Prod.fst = entries.filterMap fun entry => entry.1.string
  | [], normalized, _, _, _, _, made => by
    obtain rfl := Except.ok.inj made
    exact ⟨[], (List.append_nil _).symm, trivial, trivial, rfl⟩
  | (.other, _) :: _, _, _, _, _, _, made => by cases made
  | (.str key, item) :: rest, normalized, _, distinct, keys, fresh, made => by
    rw [jsonEntries] at made
    obtain ⟨value, first, made⟩ := bind_ok.mp made
    obtain ⟨one, apart⟩ := jsonValue_is distinct.1 first
    simp only [List.filterMap_cons, Key.string, List.nodup_cons, List.forall_mem_cons]
      at keys fresh
    rw [assign_fresh fresh.1] at made
    -- The keys that follow are neither among the earlier ones nor this one.
    have later : ∀ other ∈ rest.filterMap fun entry => entry.1.string,
        other ∉ (normalized ++ [(key, value)]).map Prod.fst := by
      intro other member
      rw [List.map_append, List.mem_append, not_or]
      refine ⟨fresh.2 other member, fun same => ?_⟩
      obtain rfl : other = key := by simpa using same
      exact keys.1 member
    obtain ⟨added, rfl, more, others, names⟩ := jsonEntries_is distinct.2 keys.2 later made
    refine ⟨(key, value) :: added, by simp, ⟨rfl, one, more⟩, ⟨apart, others⟩, ?_⟩
    simp [Key.string, names]

end

end Normalizing

section Refusals

/-- What occurs among some entries of a mapping occurs with one more entry. -/
theorem PyValue.Offends.cons {entry : Key × PyValue} {rest : List (Key × PyValue)}
    (offends : (PyValue.mapping rest).Offends) : (PyValue.mapping (entry :: rest)).Offends := by
  cases offends with
  | key member => exact .key (List.mem_cons_of_mem _ member)
  | keySurrogate member broken => exact .keySurrogate (List.mem_cons_of_mem _ member) broken
  | value member offends => exact .value (List.mem_cons_of_mem _ member) offends

mutual

/-- What cannot be normalized has something that has no canonical JSON. -/
theorem offends_of_jsonValue : ∀ {value : PyValue} {error : CanonicalError},
    jsonValue value = .error error → value.Offends
  | .none, _, made | .bool _, _, made | .int _, _, made | .str _, _, made => by cases made
  | .float, _, _ => .float
  | .unsupported _, _, _ => .unsupported
  | .enum value, error, made => .enum (@offends_of_jsonValue value error made)
  | .model dump, error, made => .model (@offends_of_jsonValue dump error made)
  | .sequence items, error, made => by
    rw [jsonValue] at made
    cases each : jsonItems items with
    | ok values =>
      rw [each] at made
      cases made
    | error raised =>
      obtain ⟨item, member, offends⟩ := offends_of_jsonItems each
      exact .item member offends
  | .mapping entries, error, made => by
    rw [jsonValue] at made
    cases each : jsonEntries [] entries with
    | ok values =>
      rw [each] at made
      cases made
    | error raised => exact offends_of_jsonEntries each

/-- Items that cannot be normalized have one that cannot. -/
theorem offends_of_jsonItems : ∀ {items : List PyValue} {error : CanonicalError},
    jsonItems items = .error error → ∃ item ∈ items, item.Offends
  | [], _, made => by cases made
  | item :: rest, error, made => by
    rw [jsonItems] at made
    cases first : jsonValue item with
    | error raised => exact ⟨item, List.mem_cons_self, offends_of_jsonValue first⟩
    | ok value =>
      rw [first] at made
      cases others : jsonItems rest with
      | ok values =>
        rw [ok_bind, others] at made
        cases made
      | error raised =>
        obtain ⟨other, member, offends⟩ := offends_of_jsonItems others
        exact ⟨other, List.mem_cons_of_mem _ member, offends⟩

/-- Entries that cannot be normalized have a key that is no string or a value that cannot. -/
theorem offends_of_jsonEntries : ∀ {entries : List (Key × PyValue)}
    {normalized : List (Text × Value)} {error : CanonicalError},
    jsonEntries normalized entries = .error error → (PyValue.mapping entries).Offends
  | [], _, _, made => by cases made
  | (.other, _) :: _, _, _, _ => .key List.mem_cons_self
  | (.str key, item) :: rest, normalized, error, made => by
    rw [jsonEntries] at made
    cases first : jsonValue item with
    | error raised => exact .value List.mem_cons_self (offends_of_jsonValue first)
    | ok value =>
      rw [first, ok_bind] at made
      exact (offends_of_jsonEntries made).cons

end

mutual

/-- A JSON value with a surrogate is a value that offends. -/
theorem PyValue.Is.offends : ∀ {value : PyValue} {result : Value}, value.Is result →
    ¬ result.Encodable → value.Offends
  | .none, .null, _, broken | .bool _, .bool _, _, broken | .int _, .int _, _, broken =>
    absurd trivial broken
  | .str text, .str other, same, broken => by
    obtain rfl : text = other := same
    exact .surrogate broken
  | .sequence items, .arr results, is, broken => by
    obtain ⟨item, member, offends⟩ := IsItems.offends is broken
    exact .item member offends
  | .mapping entries, .obj results, is, broken => IsEntries.offends is broken
  | .enum value, result, is, broken => .enum (@PyValue.Is.offends value result is broken)
  | .model dump, result, is, broken => .model (@PyValue.Is.offends dump result is broken)

/-- An array with a surrogate is a sequence with an item that offends. -/
theorem IsItems.offends : ∀ {items : List PyValue} {results : List Value}, IsItems items results →
    ¬ EncodableItems results → ∃ item ∈ items, item.Offends
  | [], [], _, broken => absurd trivial broken
  | item :: rest, value :: values, is, broken => by
    by_cases first : value.Encodable
    · obtain ⟨other, member, offends⟩ := IsItems.offends is.2 fun later => broken ⟨first, later⟩
      exact ⟨other, List.mem_cons_of_mem _ member, offends⟩
    · exact ⟨item, List.mem_cons_self, is.1.offends first⟩

/-- An object with a surrogate is a mapping that offends. -/
theorem IsEntries.offends : ∀ {entries : List (Key × PyValue)} {results : List (Text × Value)},
    IsEntries entries results → ¬ EncodableEntries results → (PyValue.mapping entries).Offends
  | [], [], _, broken => absurd trivial broken
  | (key, item) :: rest, (name, value) :: values, is, broken => by
    obtain ⟨rfl, one, others⟩ := is
    by_cases whole : Whole name
    · by_cases first : value.Encodable
      · exact (IsEntries.offends others fun later => broken ⟨whole, first, later⟩).cons
      · exact .value List.mem_cons_self (one.offends first)
    · exact .keySurrogate List.mem_cons_self whole

end

/-- The item of a sequence is an item of its array. -/
theorem IsItems.of_mem {item : PyValue} : ∀ {items : List PyValue} {results : List Value},
    IsItems items results → item ∈ items → ∃ result ∈ results, item.Is result
  | [], _, _, member => by cases member
  | first :: rest, value :: values, is, member => by
    rcases List.mem_cons.mp member with rfl | later
    · exact ⟨value, List.mem_cons_self, is.1⟩
    · obtain ⟨result, inside, same⟩ := IsItems.of_mem is.2 later
      exact ⟨result, List.mem_cons_of_mem _ inside, same⟩

/-- The entry of a mapping is an entry of its object. -/
theorem IsEntries.of_mem {entry : Key × PyValue} : ∀ {entries : List (Key × PyValue)}
    {results : List (Text × Value)}, IsEntries entries results → entry ∈ entries →
      ∃ result ∈ results, entry.1 = .str result.1 ∧ entry.2.Is result.2
  | [], _, _, member => by cases member
  | (key, item) :: rest, (name, value) :: values, is, member => by
    rcases List.mem_cons.mp member with rfl | later
    · exact ⟨(name, value), List.mem_cons_self, is.1, is.2.1⟩
    · obtain ⟨result, inside, same⟩ := IsEntries.of_mem is.2.2 later
      exact ⟨result, List.mem_cons_of_mem _ inside, same⟩

/-- A value that offends is no JSON value without surrogates. -/
theorem PyValue.Offends.not_encodable {value : PyValue} (offends : value.Offends) :
    ∀ {result : Value}, value.Is result → ¬ result.Encodable := by
  -- The induction follows the path to what offends.
  induction offends with
  | float | unsupported => intro result is; cases result <;> exact is.elim
  | surrogate broken =>
    intro result is
    cases result with
    | str text =>
      obtain rfl : _ = text := is
      exact broken
    | null | bool _ | int _ | arr _ | obj _ => exact is.elim
  | item member _ ih =>
    intro result is whole
    cases result with
    | arr results =>
      obtain ⟨inner, inside, same⟩ := IsItems.of_mem is member
      exact ih same (encodableItems_iff.mp whole inner inside)
    | null | bool _ | int _ | str _ | obj _ => exact is.elim
  | key member =>
    intro result is
    cases result with
    | obj results =>
      obtain ⟨inner, -, same, -⟩ := IsEntries.of_mem is member
      cases same
    | null | bool _ | int _ | str _ | arr _ => exact is.elim
  | keySurrogate member broken =>
    intro result is whole
    cases result with
    | obj results =>
      obtain ⟨inner, inside, same, -⟩ := IsEntries.of_mem is member
      obtain rfl := Key.str.inj same
      exact broken (encodableEntries_iff.mp whole inner inside).1
    | null | bool _ | int _ | str _ | arr _ => exact is.elim
  | value member _ ih =>
    intro result is whole
    cases result with
    | obj results =>
      obtain ⟨inner, inside, -, same⟩ := IsEntries.of_mem is member
      exact ih same (encodableEntries_iff.mp whole inner inside).2
    | null | bool _ | int _ | str _ | arr _ => exact is.elim
  | enum _ ih | model _ ih => exact fun is => ih is

end Refusals

section Meaning

mutual

/-- A Python value is no more than one JSON value. -/
theorem PyValue.Is.unique : ∀ {value : PyValue} {left right : Value}, value.Is left →
    value.Is right → left = right
  | .none, .null, .null, _, _ => rfl
  | .bool _, .bool _, .bool _, one, other => congrArg Value.bool (one.symm.trans other)
  | .int _, .int _, .int _, one, other => congrArg Value.int (one.symm.trans other)
  | .str _, .str _, .str _, one, other => congrArg Value.str (one.symm.trans other)
  | .sequence _, .arr _, .arr _, one, other => congrArg Value.arr (IsItems.unique one other)
  | .mapping _, .obj _, .obj _, one, other => congrArg Value.obj (IsEntries.unique one other)
  | .enum value, left, right, one, other => @PyValue.Is.unique value left right one other
  | .model dump, left, right, one, other => @PyValue.Is.unique dump left right one other

theorem IsItems.unique : ∀ {items : List PyValue} {left right : List Value}, IsItems items left →
    IsItems items right → left = right
  | [], [], [], _, _ => rfl
  | _ :: _, _ :: _, _ :: _, one, other => by
    rw [one.1.unique other.1, IsItems.unique one.2 other.2]

/-- A mapping is no more than one object. -/
theorem IsEntries.unique : ∀ {entries : List (Key × PyValue)} {left right : List (Text × Value)},
    IsEntries entries left → IsEntries entries right → left = right
  | [], [], [], _, _ => rfl
  | _ :: _, (_, _) :: _, (_, _) :: _, one, other => by
    obtain ⟨same, first, later⟩ := one
    rw [Key.str.inj (same.symm.trans other.1), first.unique other.2.1,
      IsEntries.unique later other.2.2]

end

mutual

/-- What a JSON value is read as is normalized to that value. -/
theorem jsonValue_ofJson : ∀ {value : Value}, value.Distinct → jsonValue (ofJson value) = .ok value
  | .null, _ | .bool _, _ | .int _, _ | .str _, _ => rfl
  | .arr items, distinct => by
    rw [ofJson, jsonValue, jsonItems_ofItems distinct]
    rfl
  | .obj entries, distinct => by
    rw [ofJson, jsonValue, jsonEntries_ofEntries distinct.2 distinct.1 fun _ _ member => by
      cases member]
    rfl

theorem jsonItems_ofItems : ∀ {items : List Value}, StrictJson.DistinctItems items →
    jsonItems (ofItems items) = .ok items
  | [], _ => rfl
  | item :: rest, distinct => by
    rw [ofItems, jsonItems, jsonValue_ofJson distinct.1, jsonItems_ofItems distinct.2]
    rfl

/-- What an object is read as is normalized to the entries of that object. -/
theorem jsonEntries_ofEntries : ∀ {entries normalized : List (Text × Value)},
    StrictJson.DistinctEntries entries → (entries.map Prod.fst).Nodup →
    (∀ key ∈ entries.map Prod.fst, key ∉ normalized.map Prod.fst) →
      jsonEntries normalized (ofEntries entries) = .ok (normalized ++ entries)
  | [], _, _, _, _ => by
    rw [List.append_nil]
    rfl
  | (key, item) :: rest, normalized, distinct, keys, fresh => by
    simp only [List.map_cons, List.nodup_cons, List.forall_mem_cons] at keys fresh
    have later : ∀ other ∈ rest.map Prod.fst,
        other ∉ (normalized ++ [(key, item)]).map Prod.fst := by
      intro other member
      rw [List.map_append, List.mem_append, not_or]
      refine ⟨fresh.2 other member, fun same => ?_⟩
      obtain rfl : other = key := by simpa using same
      exact keys.1 member
    rw [ofEntries, jsonEntries, jsonValue_ofJson distinct.1, ok_bind, assign_fresh fresh.1,
      jsonEntries_ofEntries distinct.2 keys.2 later, List.append_assoc]
    rfl

end

mutual

theorem is_ofJson : ∀ value : Value, (ofJson value).Is value
  | .null => trivial
  | .bool _ | .int _ | .str _ => rfl
  | .arr items => is_ofItems items
  | .obj entries => is_ofEntries entries

theorem is_ofItems : ∀ items : List Value, IsItems (ofItems items) items
  | [] => trivial
  | item :: rest => ⟨is_ofJson item, is_ofItems rest⟩

theorem is_ofEntries : ∀ entries : List (Text × Value), IsEntries (ofEntries entries) entries
  | [] => trivial
  | (_, item) :: rest => ⟨rfl, is_ofJson item, is_ofEntries rest⟩

end

theorem ofEntries_keys (entries : List (Text × Value)) :
    (ofEntries entries).filterMap (fun entry => entry.1.string) = entries.map Prod.fst := by
  induction entries with
  | nil => rfl
  | cons entry rest ih =>
    obtain ⟨key, item⟩ := entry
    show key :: (ofEntries rest).filterMap (fun entry => entry.1.string) = key :: _
    rw [ih]

mutual

theorem distinct_ofJson : ∀ {value : Value}, value.Distinct → (ofJson value).Distinct
  | .null, _ | .bool _, _ | .int _, _ | .str _, _ => trivial
  | .arr items, distinct => @distinct_ofItems items distinct
  | .obj entries, distinct => by
    refine ⟨?_, distinct_ofEntries distinct.2⟩
    rw [ofEntries_keys]
    exact distinct.1

theorem distinct_ofItems : ∀ {items : List Value}, StrictJson.DistinctItems items →
    DistinctItems (ofItems items)
  | [], _ => trivial
  | _ :: _, distinct => ⟨distinct_ofJson distinct.1, distinct_ofItems distinct.2⟩

theorem distinct_ofEntries : ∀ {entries : List (Text × Value)},
    StrictJson.DistinctEntries entries → DistinctEntries (ofEntries entries)
  | [], _ => trivial
  | (_, _) :: _, distinct => ⟨distinct_ofJson distinct.1, distinct_ofEntries distinct.2⟩

end

end Meaning

section Faithful

variable {value : PyValue} {bytes : List UInt8}

theorem canonicalJsonBytes_ok : canonicalJsonBytes value = .ok bytes ↔
    ∃ result, jsonValue value = .ok result ∧ encode (write result.sorted) = some bytes := by
  rw [canonicalJsonBytes, bind_ok]
  simp only [orRaise_ok]

/-- Bytes are refused exactly for a value that offends. -/
theorem canonicalJsonBytes_raises (distinct : value.Distinct) :
    (∃ error, canonicalJsonBytes value = .error error) ↔ value.Offends := by
  constructor
  · intro ⟨error, raised⟩
    cases made : jsonValue value with
    | error found => exact offends_of_jsonValue made
    | ok result =>
      refine (jsonValue_is distinct made).1.offends fun whole => ?_
      -- A value without surrogates has bytes.
      rw [← Value.encodable_sorted, ← whole_write] at whole
      have encoded : canonicalJsonBytes value = .ok (encodeAll (write result.sorted)) :=
        canonicalJsonBytes_ok.mpr ⟨result, made, encode_eq_some.mpr ⟨whole, rfl⟩⟩
      rw [encoded] at raised
      cases raised
  · intro offends
    cases made : canonicalJsonBytes value with
    | error error => exact ⟨error, rfl⟩
    | ok bytes =>
      obtain ⟨result, normal, encoded⟩ := canonicalJsonBytes_ok.mp made
      have whole := (encode_eq_some.mp encoded).1
      rw [whole_write, Value.encodable_sorted] at whole
      exact absurd whole (offends.not_encodable (jsonValue_is distinct normal).1)

/-- Canonical bytes are read as the sorted value. -/
theorem parse_canonical {result : Value} (distinct : result.Distinct)
    (encoded : encode (write result.sorted) = some bytes) {depth : Nat}
    (shallow : result.sorted.depth ≤ depth) : parse depth bytes = some result.sorted := by
  have text : JsonText (fun _ => True) result.sorted (write result.sorted) :=
    jsonText_write distinct.sorted fun _ _ => trivial
  have read := (loads_eq_ok reads_valueHooks).mpr ⟨text, shallow⟩
  simp only [parse, decode_eq_some.mpr encoded, Option.bind_eq_bind, Option.bind_some]
  rw [read]
  rfl

theorem canonicalJsonBytes_ofJson {result : Value} (distinct : result.Distinct)
    (encoded : encode (write result.sorted) = some bytes) :
    canonicalJsonBytes (ofJson result.sorted) = .ok bytes := by
  refine canonicalJsonBytes_ok.mpr ⟨result.sorted, jsonValue_ofJson distinct.sorted, ?_⟩
  rw [Value.sorted_idem]
  exact encoded

/-- Two values have the same bytes exactly when their sorted forms are the same. -/
theorem encode_write_eq {left right : Value} {leftBytes rightBytes : List UInt8}
    (one : left.Distinct) (other : right.Distinct)
    (leftEncoded : encode (write left.sorted) = some leftBytes)
    (rightEncoded : encode (write right.sorted) = some rightBytes) :
    leftBytes = rightBytes ↔ left.Same right := by
  rw [same_iff_sorted one other]
  constructor
  · intro same
    subst same
    exact write_injective one.sorted other.sorted (encode_injective leftEncoded rightEncoded)
  · intro same
    rw [same] at leftEncoded
    exact Option.some.inj (leftEncoded.symm.trans rightEncoded)

/-- Canonical encoding is faithful: it raises exactly for a value in which something has no
canonical JSON, its bytes are read strictly as the value itself, the value that is read is encoded
to the same bytes again, and two values have the same bytes exactly when they are equal as JSON
values. -/
theorem canonicalJsonBytes_faithful (data other : PyData) :
    ((∃ error, canonicalJsonBytes data.value = .error error) ↔ data.value.Offends) ∧
    (∀ bytes, canonicalJsonBytes data.value = .ok bytes → ∃ value parsed,
      data.value.Is value ∧ parsed.Same value ∧
      (∀ depth, parsed.depth ≤ depth → parse depth bytes = some parsed) ∧
      canonicalJsonBytes (ofJson parsed) = .ok bytes) ∧
    (∀ bytes otherBytes value otherValue, canonicalJsonBytes data.value = .ok bytes →
      canonicalJsonBytes other.value = .ok otherBytes →
        data.value.Is value → other.value.Is otherValue →
          (bytes = otherBytes ↔ value.Same otherValue)) := by
  refine ⟨canonicalJsonBytes_raises data.distinct, ?_, ?_⟩
  · intro bytes made
    obtain ⟨value, normal, encoded⟩ := canonicalJsonBytes_ok.mp made
    obtain ⟨is, distinct⟩ := jsonValue_is data.distinct normal
    exact ⟨value, value.sorted, is, value.same_sorted,
      fun depth shallow => parse_canonical distinct encoded shallow,
      canonicalJsonBytes_ofJson distinct encoded⟩
  · intro bytes otherBytes value otherValue made otherMade is otherIs
    obtain ⟨result, normal, encoded⟩ := canonicalJsonBytes_ok.mp made
    obtain ⟨otherResult, otherNormal, otherEncoded⟩ := canonicalJsonBytes_ok.mp otherMade
    obtain ⟨same, distinct⟩ := jsonValue_is data.distinct normal
    obtain ⟨otherSame, otherDistinct⟩ := jsonValue_is other.distinct otherNormal
    -- What was normalized is the JSON value that each of the two is.
    obtain rfl := is.unique same
    obtain rfl := otherIs.unique otherSame
    exact encode_write_eq distinct otherDistinct encoded otherEncoded

end Faithful

end Aar.Canonical
