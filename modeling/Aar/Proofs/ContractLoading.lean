import Aar.ProviderReadyContract
import Aar.Proofs.Canonical

/-! Loading a provider-ready document is total and exact up to the limits of the interpreter. -/

namespace Aar.ProviderReadyContract

open Guarded Utf8 StrictJson

section Specification

/-- Bytes are the text of one JSON object: UTF-8 without a byte order mark, no key twice in an
object, and no float or constant. -/
def ObjectText (data : List UInt8) (entries : List (Text × Value)) : Prop :=
  ¬ byteOrderMark <+: data ∧
    ∃ input, encode input = some data ∧ JsonText (fun _ => True) (.obj entries) input

/-- Bytes are loaded exactly when they are the text of an object, and are refused otherwise. -/
def LoadsExactly (limits : Limits) (data : List UInt8) (ν : Type) : Prop :=
  (∀ entries, (loadProviderReadyJsonBytes limits data : Except (Failure ν) _) = .ok entries ↔
    ObjectText data entries) ∧
  ∀ failure : Failure ν, loadProviderReadyJsonBytes limits data = .error failure →
    ∃ error, failure = .contract error

/-- Nothing is raised but a contract error or the model's own. -/
def RaisesDeclared {ν δ : Type} (result : Except (Failure ν) δ) : Prop :=
  ∀ failure, result = .error failure →
    (∃ error, failure = .contract error) ∨ ∃ error, failure = .validation error

/-- Bytes are within the limits of the interpreter: reading them meets none, and a document that is
dispatched has no surrogate and is not nested too deep to be written again. -/
def Manageable (limits : Limits) (data : List UInt8) (expected : Option Text) : Prop :=
  ¬ byteOrderMark <+: data → ∀ input, encode input = some data →
    ¬ Stops limits.Admits limits.scanDepth (skipBlank input) ∧
    ∀ entries schemaId, JsonText (fun _ => True) (.obj entries) input →
      entries.lookup (text "schema_version") = some (.str schemaId) →
      (∃ model, schemaModel schemaId = some model) → (∀ other ∈ expected, schemaId = other) →
        (Value.obj entries).Encodable ∧ limits.framesOf (.obj entries) ≤ limits.frames ∧
          (Value.obj entries).depth ≤ limits.writeDepth

end Specification

section Registry

/-- An entry under a key that occurs once is found. -/
theorem lookup_of_mem {β : Type} {entries : List (Text × β)} {key : Text} {value : β}
    (distinct : (entries.map Prod.fst).Nodup) (member : (key, value) ∈ entries) :
    entries.lookup key = some value := by
  induction entries with
  | nil => cases member
  | cons entry rest ih =>
    obtain ⟨other, found⟩ := entry
    rw [List.map_cons, List.nodup_cons] at distinct
    rcases List.mem_cons.mp member with same | later
    · obtain ⟨rfl, rfl⟩ := Prod.mk.inj same
      simp
    · have apart : key ≠ other := fun same =>
        distinct.1 (List.mem_map.mpr ⟨(key, value), later, same⟩)
      rw [List.lookup_cons, beq_false_of_ne apart]
      exact ih distinct.2 later

/-- Merging keeps every key at one place. -/
theorem mergeSchemaRegistries_nodup : ∀ {rest merged result : List (Text × SchemaModel)},
    (merged.map Prod.fst).Nodup → mergeSchemaRegistries merged rest = .ok result →
      (result.map Prod.fst).Nodup
  | [], merged, result, distinct, made => by
    rw [← Except.ok.inj made]
    exact distinct
  | (schemaId, model) :: rest, merged, result, distinct, made => by
    rw [mergeSchemaRegistries] at made
    split at made
    · cases made
    · next fresh =>
      refine mergeSchemaRegistries_nodup ?_ made
      rw [List.map_append, List.nodup_append]
      refine ⟨distinct, by simp, fun one member other same => ?_⟩
      obtain rfl : other = schemaId := by simpa using same
      exact fun equal => fresh (equal ▸ member)

/-- Every model is found under its identifier. -/
theorem schemaModel_schemaId (model : SchemaModel) :
    schemaModel (text model.schemaId) = some model := by
  have listed : model ∈ schemaModels ++ operatorSchemaModels ++ runtimeSchemaModels ++
      evaluationSchemaModels := by
    cases model <;> decide
  have keys : (providerReadySchemaModels.map Prod.fst).Nodup :=
    @mergeSchemaRegistries_nodup _ [] _ List.nodup_nil mergeSchemaRegistries_ok
  exact lookup_of_mem keys (List.mem_map_of_mem listed)

end Registry

section Hooks

variable {ν : Type} {limits : Limits}

/-- Entries are kept exactly when no key is among the earlier ones. -/
theorem rejectDuplicateObjectKeys_ok : ∀ {pairs result entries : List (Text × Value)},
    (result.map Prod.fst).Nodup →
    ((rejectDuplicateObjectKeys result pairs : Except (Failure ν) _) = .ok entries ↔
      ((result ++ pairs).map Prod.fst).Nodup ∧ entries = result ++ pairs)
  | [], result, entries, distinct => by
    rw [rejectDuplicateObjectKeys, List.append_nil]
    simp [distinct, eq_comm]
  | (key, value) :: rest, result, entries, distinct => by
    rw [rejectDuplicateObjectKeys]
    split
    · next again =>
      -- The key occurs again among the entries that follow the earlier ones.
      refine iff_of_false (fun made => by cases made) fun both => ?_
      have apart := both.1
      rw [List.map_append, List.nodup_append] at apart
      exact apart.2.2 key again key (by simp) rfl
    · next fresh =>
      have longer : ((result ++ [(key, value)]).map Prod.fst).Nodup := by
        rw [List.map_append, List.nodup_append]
        refine ⟨distinct, by simp, fun one member other same => ?_⟩
        obtain rfl : other = key := by simpa using same
        exact fun equal => fresh (equal ▸ member)
      rw [rejectDuplicateObjectKeys_ok longer, List.append_assoc, List.singleton_append]

theorem rejectDuplicateObjectKeys_nil {pairs entries : List (Text × Value)} :
    (rejectDuplicateObjectKeys [] pairs : Except (Failure ν) _) = .ok entries ↔
      (pairs.map Prod.fst).Nodup ∧ entries = pairs :=
  @rejectDuplicateObjectKeys_ok ν pairs [] entries List.nodup_nil

/-- Entries are refused only for a key that occurs twice. -/
theorem rejectDuplicateObjectKeys_error {failure : Failure ν} :
    ∀ {pairs result : List (Text × Value)},
      rejectDuplicateObjectKeys result pairs = .error failure →
        ∃ key, failure = .contract (.duplicateKey key)
  | [], _, failed => by cases failed
  | (key, value) :: rest, result, failed => by
    rw [rejectDuplicateObjectKeys] at failed
    split at failed
    · exact ⟨key, (Except.error.inj failed).symm⟩
    · exact rejectDuplicateObjectKeys_error failed

/-- The hooks build values. -/
theorem reads_hooks : Reads (hooks limits : Hooks (Failure ν) Value) limits.Admits where
  null := rfl
  bool _ := rfl
  string _ := rfl
  list _ := rfl
  integer literal value := by
    simp only [hooks]
    split <;> simp [*, eq_comm]
  float _ _ := by simp [hooks]
  constant _ _ := by simp [hooks]
  object entries value := by
    simp only [hooks, bind_ok, pure_ok]
    constructor
    · rintro ⟨result, kept, same⟩
      obtain ⟨distinct, rfl⟩ := rejectDuplicateObjectKeys_nil.mp kept
      exact ⟨distinct, same.symm⟩
    · rintro ⟨distinct, same⟩
      exact ⟨entries, rejectDuplicateObjectKeys_nil.mpr ⟨distinct, rfl⟩, same.symm⟩

/-- A failure is none of the contract's. -/
def Undeclared (failure : Failure ν) : Prop := ∀ error, failure ≠ .contract error

/-- The hooks raise contract errors for everything but integers. -/
theorem limited_hooks : Limited (hooks limits : Hooks (Failure ν) Value) Undeclared where
  integer literal error failed := by
    simp only [hooks] at failed
    split at failed
    · cases failed
    · obtain rfl := Except.error.inj failed
      exact fun _ same => by cases same
  float literal error failed undeclared := undeclared _ (Except.error.inj failed).symm
  constant word error failed undeclared := undeclared _ (Except.error.inj failed).symm
  object entries error failed undeclared := by
    simp only [hooks, bind_error] at failed
    rcases failed with refused | ⟨_, _, ended⟩
    · obtain ⟨key, same⟩ := rejectDuplicateObjectKeys_error refused
      exact undeclared _ same
    · cases ended

/-- What scanning raises becomes a contract error unless it met a limit. -/
theorem scanFailure_declared {error : ScanError (Failure ν)} :
    ¬ error.Limit Undeclared ↔ ∃ declared, scanFailure error = .contract declared := by
  cases error with
  | invalid => exact iff_of_true id ⟨_, rfl⟩
  | extraData => exact iff_of_true id ⟨_, rfl⟩
  | recursion => exact iff_of_false (fun free => free trivial) fun ⟨_, same⟩ => by cases same
  | raised failure =>
    show ¬ (∀ error, failure ≠ .contract error) ↔ ∃ declared, failure = .contract declared
    simp only [ne_eq, not_forall, not_not]

end Hooks

section Loading

variable {ν : Type} {limits : Limits} {data : List UInt8} {input : Text}
  {entries : List (Text × Value)}

/-- Loading bytes is loading the text that they are. -/
theorem load_decoded (unmarked : ¬ byteOrderMark <+: data) (encoded : encode input = some data) :
    (loadProviderReadyJsonBytes limits data : Except (Failure ν) _) =
      match loads (hooks limits) limits.scanDepth input with
      | .error error => .error (scanFailure error)
      | .ok (.obj entries) => .ok entries
      | .ok _ => .error (.contract .nonObject) := by
  have passed : (require (¬ byteOrderMark <+: data) (.contract .bom) : Except (Failure ν) Unit) =
      .ok () := require_ok.mpr unmarked
  rw [loadProviderReadyJsonBytes, passed, ok_bind, decode_eq_some.mpr encoded]
  rfl

/-- Bytes that have a byte order mark or are no text are refused. -/
theorem load_refused (broken : byteOrderMark <+: data ∨ ∀ input, encode input ≠ some data) :
    ∃ error, (loadProviderReadyJsonBytes limits data : Except (Failure ν) _) =
      .error (.contract error) := by
  by_cases marked : byteOrderMark <+: data
  · refine ⟨.bom, ?_⟩
    rw [loadProviderReadyJsonBytes, require, if_neg (not_not.mpr marked)]
    rfl
  · refine ⟨.utf8, ?_⟩
    have undecoded : decode data = none := by
      rw [Option.eq_none_iff_forall_ne_some]
      intro input decoded
      exact (broken.resolve_left marked) input (decode_eq_some.mp decoded)
    rw [loadProviderReadyJsonBytes, require, if_pos marked, ok_bind, undecoded]
    rfl

/-- The object that bytes are is loaded unless reading it meets a limit. -/
theorem load_ok (unmarked : ¬ byteOrderMark <+: data) (encoded : encode input = some data)
    (free : ¬ Stops limits.Admits limits.scanDepth (skipBlank input)) :
    (loadProviderReadyJsonBytes limits data : Except (Failure ν) _) = .ok entries ↔
      JsonText (fun _ => True) (.obj entries) input := by
  rw [load_decoded unmarked encoded, ← loads_of_not_stops reads_hooks free]
  cases loads (hooks limits : Hooks (Failure ν) Value) limits.scanDepth input with
  | error error => simp
  | ok value => cases value <;> simp

/-- What is raised for bytes is a contract error unless reading them meets a limit. -/
theorem load_error {failure : Failure ν} (unmarked : ¬ byteOrderMark <+: data)
    (encoded : encode input = some data)
    (free : ¬ Stops limits.Admits limits.scanDepth (skipBlank input))
    (failed : loadProviderReadyJsonBytes limits data = .error failure) :
    ∃ error, failure = .contract error := by
  rw [load_decoded unmarked encoded] at failed
  rw [← loads_limit (reads_hooks : Reads (hooks limits : Hooks (Failure ν) Value) _)
    limited_hooks] at free
  cases scanned : loads (hooks limits : Hooks (Failure ν) Value) limits.scanDepth input with
  | error error =>
    rw [scanned] at failed
    rw [← Except.error.inj failed]
    exact scanFailure_declared.mp fun limited => free ⟨error, scanned, limited⟩
  | ok value =>
    rw [scanned] at failed
    cases value with
    | obj entries => cases failed
    | null | bool _ | int _ | str _ | arr _ => exact ⟨_, (Except.error.inj failed).symm⟩

/-- Where reading bytes meets a limit, loading them raises something else than a contract error. -/
theorem load_stops (unmarked : ¬ byteOrderMark <+: data) (encoded : encode input = some data)
    (stops : Stops limits.Admits limits.scanDepth (skipBlank input)) :
    ∃ failure : Failure ν, loadProviderReadyJsonBytes limits data = .error failure ∧
      Undeclared failure := by
  obtain ⟨error, failed, limited⟩ := (loads_limit
    (reads_hooks : Reads (hooks limits : Hooks (Failure ν) Value) _) limited_hooks).mpr stops
  refine ⟨scanFailure error, ?_, fun declared same => ?_⟩
  · rw [load_decoded unmarked encoded, failed]
  · exact scanFailure_declared.mpr ⟨declared, same⟩ limited

/-- Bytes are loaded exactly unless reading them meets a limit. -/
theorem loadsExactly_iff : LoadsExactly limits data ν ↔
    (¬ byteOrderMark <+: data → ∀ input, encode input = some data →
      ¬ Stops limits.Admits limits.scanDepth (skipBlank input)) := by
  constructor
  · intro ⟨_, declared⟩ unmarked input encoded stops
    obtain ⟨failure, failed, undeclared⟩ := load_stops unmarked encoded stops
    obtain ⟨error, same⟩ := declared failure failed
    exact undeclared error same
  · intro free
    by_cases broken : byteOrderMark <+: data ∨ ∀ input, encode input ≠ some data
    · obtain ⟨error, refused⟩ := load_refused broken
      refine ⟨fun entries => iff_of_false ?_ ?_, fun failure failed => ⟨error, ?_⟩⟩
      · rw [refused]
        exact fun loaded => by cases loaded
      · intro ⟨unmarked, input, encoded, _⟩
        exact broken.elim unmarked fun none => none input encoded
      · rw [refused] at failed
        exact (Except.error.inj failed).symm
    · simp only [not_or, not_forall, not_not] at broken
      obtain ⟨unmarked, input, encoded⟩ := broken
      have unstopped := free unmarked input encoded
      refine ⟨fun entries => ?_, fun failure => load_error unmarked encoded unstopped⟩
      rw [load_ok unmarked encoded unstopped]
      constructor
      · exact fun text => ⟨unmarked, input, encoded, text⟩
      · intro ⟨_, other, same, text⟩
        rw [encode_injective encoded same]
        exact text

end Loading

section Encoding

variable {ν : Type} {limits : Limits} {value : Value} {bytes : List UInt8}

/-- A value has an encoder's limits kept. -/
structure Encodes (limits : Limits) (value : Value) : Prop where
  frames : limits.framesOf value ≤ limits.frames
  depth : value.depth ≤ limits.writeDepth
  digits : ∀ number ∈ value.integers, limits.Admits (intText number)
  encodable : value.Encodable

/-- A value is encoded to the bytes of its sorted form, within the limits. -/
theorem canonicalBytes_ok (distinct : value.Distinct) :
    (canonicalBytes limits value : Except (Failure ν) _) = .ok bytes ↔
      Encodes limits value ∧ encode (write value.sorted) = some bytes := by
  have result : Canonical.canonicalJsonBytes (Canonical.ofJson value) = .ok bytes ↔
      encode (write value.sorted) = some bytes := by
    rw [Canonical.canonicalJsonBytes_ok, Canonical.jsonValue_ofJson distinct]
    simp
  have whole : encode (write value.sorted) = some bytes → value.Encodable := fun encoded => by
    rw [← Value.encodable_sorted, ← whole_write]
    exact (encode_eq_some.mp encoded).1
  simp only [canonicalBytes, bind_ok, require_ok]
  constructor
  · rintro ⟨_, frames, _, depth, _, digits, made⟩
    split at made
    · next found encoded =>
      obtain rfl := Except.ok.inj made
      exact ⟨⟨frames, depth, digits, whole (result.mp encoded)⟩, result.mp encoded⟩
    · cases made
    · cases made
  · rintro ⟨fits, encoded⟩
    refine ⟨(), fits.frames, (), fits.depth, (), fits.digits, ?_⟩
    rw [result.mpr encoded]

/-- A failure is neither the contract's nor the model's. -/
def Foreign (failure : Failure ν) : Prop :=
  (∀ error, failure ≠ .contract error) ∧ ∀ error, failure ≠ .validation error

/-- What encoding a value raises is neither the contract's nor the model's. -/
theorem canonicalBytes_error {failure : Failure ν}
    (failed : canonicalBytes limits value = .error failure) : Foreign failure := by
  have foreign {other : Failure ν} (shape : other = .recursion ∨ other = .integerDigits ∨
      other = .unicodeEncode ∨ ∃ message, other = .type message) : Foreign other := by
    rcases shape with rfl | rfl | rfl | ⟨_, rfl⟩ <;> exact ⟨nofun, nofun⟩
  simp only [canonicalBytes, bind_error, require_error] at failed
  rcases failed with ⟨-, rfl⟩ | ⟨_, -, ⟨-, rfl⟩ | ⟨_, -, ⟨-, rfl⟩ | ⟨_, -, failed⟩⟩⟩
  · exact foreign (.inl rfl)
  · exact foreign (.inl rfl)
  · exact foreign (.inr (.inl rfl))
  · split at failed
    · cases failed
    · exact foreign (.inr (.inr (.inr ⟨_, (Except.error.inj failed).symm⟩)))
    · exact foreign (.inr (.inr (.inl (Except.error.inj failed).symm)))

/-- A value is encoded exactly when it keeps the limits of the encoder. -/
theorem canonicalBytes_encodes (distinct : value.Distinct) :
    (∃ bytes, (canonicalBytes limits value : Except (Failure ν) _) = .ok bytes) ↔
      Encodes limits value := by
  simp only [canonicalBytes_ok distinct]
  constructor
  · exact fun ⟨_, fits, _⟩ => fits
  · intro fits
    have whole := fits.encodable
    rw [← Value.encodable_sorted, ← whole_write] at whole
    exact ⟨_, fits, encode_eq_some.mpr ⟨whole, rfl⟩⟩

end Encoding

section Dispatch

variable {ν : Type} {document : List (Text × Value)} {expected : Option Text}
  {model : SchemaModel}

theorem schemaIdOf_ok {version : Value} {schemaId : Text} :
    (schemaIdOf version : Except (Failure ν) _) = .ok schemaId ↔ version = .str schemaId := by
  cases version <;> simp [schemaIdOf]

theorem requireExpected_ok {schemaId : Text} {passed : Unit} :
    (requireExpected schemaId expected : Except (Failure ν) _) = .ok passed ↔
      ∀ other ∈ expected, schemaId = other := by
  cases expected <;> simp [requireExpected]

/-- A document is dispatched to the model of its schema version, if that is the expected one. -/
theorem dispatch_ok : (dispatch document expected : Except (Failure ν) _) = .ok model ↔
    ∃ schemaId, document.lookup (text "schema_version") = some (.str schemaId) ∧
      schemaModel schemaId = some model ∧ ∀ other ∈ expected, schemaId = other := by
  simp only [dispatch, bind_ok, orRaise_ok, schemaIdOf_ok, requireExpected_ok, pure_ok]
  constructor
  · rintro ⟨_, found, schemaId, rfl, _, registered, _, matched, rfl⟩
    exact ⟨schemaId, found, registered, matched⟩
  · rintro ⟨schemaId, found, registered, matched⟩
    exact ⟨_, found, schemaId, rfl, model, registered, (), matched, rfl⟩

/-- A document that is not dispatched is refused by a contract error. -/
theorem dispatch_error {failure : Failure ν}
    (failed : dispatch document expected = .error failure) :
    ∃ error, failure = .contract error := by
  have raised {α : Type} {value : Option α} {error : ContractError} {failure : Failure ν}
      (failed : orRaise value (.contract error) = .error failure) :
      ∃ error, failure = .contract error := by
    cases value with
    | none => exact ⟨error, (Except.error.inj failed).symm⟩
    | some found => cases failed
  simp only [dispatch, bind_error] at failed
  rcases failed with missing | ⟨version, -, kind | ⟨schemaId, -, unknown | ⟨model, -, other⟩⟩⟩
  · exact raised missing
  · unfold schemaIdOf at kind
    split at kind
    · cases kind
    · exact ⟨_, (Except.error.inj kind).symm⟩
  · exact raised unknown
  · rcases other with mismatch | ⟨_, -, ended⟩
    · unfold requireExpected at mismatch
      split at mismatch
      · cases mismatch
      · exact ⟨_, (require_error.mp mismatch).2.symm⟩
    · cases ended

end Dispatch

section Digits

variable {limits : Limits}

theorem literalDigits_natural {digits : Text} (natural : Natural digits) :
    literalDigits digits = digits := by
  obtain ⟨nonempty, each, -⟩ := natural
  cases digits with
  | nil => exact absurd rfl nonempty
  | cons point rest =>
    have digit := (each point List.mem_cons_self).1
    exact if_neg (by omega)

theorem literalDigits_intText (number : Int) :
    literalDigits (intText number) = decimal number.natAbs := by
  unfold intText
  split
  · rfl
  · exact literalDigits_natural (natural_decimal _).1

/-- The digits of a literal are those of its integer's size. -/
theorem literalDigits_value {literal : Text} (integer : IntLiteral literal) :
    literalDigits literal = decimal (literalValue literal).natAbs := by
  cases integer with
  | natural natural =>
    rw [literalDigits_natural natural, literalValue_natural natural, Int.natAbs_natCast,
      decimal_digitsValue natural]
  | @minus digits natural =>
    have negative : literalValue (0x2d :: digits) = -(digitsValue digits : Int) := rfl
    have kept : literalDigits (0x2d :: digits) = digits := rfl
    rw [kept, negative, Int.natAbs_neg, Int.natAbs_natCast, decimal_digitsValue natural]

theorem admits_value {literal : Text} (integer : IntLiteral literal) :
    limits.Admits literal ↔ limits.Admits (intText (literalValue literal)) := by
  unfold Limits.Admits
  rw [literalDigits_intText, literalDigits_value integer]

end Digits

section Validation

variable {ν δ : Type} {limits : Limits} {models : Models ν δ} {data : List UInt8}
  {expected : Option Text}

theorem validated_declared {result : Except ν δ} : RaisesDeclared (validated result) := by
  intro failure failed
  unfold validated at failed
  split at failed
  · cases failed
  · exact .inr ⟨_, (Except.error.inj failed).symm⟩

/-- Validation raises declared errors only, exactly when loading is exact and a document that is
dispatched keeps the limits of the encoder. -/
theorem validate_declared (exact : LoadsExactly limits data ν) :
    RaisesDeclared (validateProviderReadyDocumentBytes limits models data expected) ↔
      ∀ entries model, ObjectText data entries →
        (dispatch entries expected : Except (Failure ν) _) = .ok model →
          ∃ bytes, (canonicalBytes limits (.obj entries) : Except (Failure ν) _) = .ok bytes := by
  constructor
  · intro declared entries model object dispatched
    cases made : (canonicalBytes limits (.obj entries) : Except (Failure ν) _) with
    | ok bytes => exact ⟨bytes, rfl⟩
    | error failure =>
      -- A failure of the encoder is raised as it is.
      have failed : validateProviderReadyDocumentBytes limits models data expected =
          .error failure := by
        rw [validateProviderReadyDocumentBytes, (exact.1 entries).mpr object, ok_bind,
          dispatched, ok_bind, made]
        rfl
      obtain ⟨contract, validation⟩ := canonicalBytes_error made
      rcases declared failure failed with ⟨error, same⟩ | ⟨error, same⟩
      · exact absurd same (contract error)
      · exact absurd same (validation error)
  · intro encodes failure failed
    rcases bind_error.mp failed with unloaded | ⟨entries, loaded, failed⟩
    · exact .inl (exact.2 failure unloaded)
    · rcases bind_error.mp failed with undispatched | ⟨model, dispatched, failed⟩
      · exact .inl (dispatch_error undispatched)
      · obtain ⟨bytes, made⟩ := encodes entries model ((exact.1 entries).mp loaded) dispatched
        rw [made, ok_bind] at failed
        exact validated_declared failure failed

end Validation

section Manageable

variable {ν δ : Type} {limits : Limits} {models : Models ν δ} {data : List UInt8} {input : Text}
  {entries : List (Text × Value)} {expected : Option Text}

/-- An object that is read without meeting a limit keeps the scanner's. -/
theorem read_within (text : JsonText (fun _ => True) (.obj entries) input)
    (free : ¬ Stops limits.Admits limits.scanDepth (skipBlank input)) :
    (Value.obj entries).Distinct ∧ (Value.obj entries).depth ≤ limits.scanDepth ∧
      ∀ number ∈ (Value.obj entries).integers, limits.Admits (intText number) := by
  have hooked : Reads (hooks limits : Hooks (Failure Unit) Value) limits.Admits := reads_hooks
  have loaded := (loads_of_not_stops hooked free).mpr text
  obtain ⟨⟨_, _, _, _, writes, _, _⟩, shallow⟩ := (loads_eq_ok hooked).mp loaded
  exact ⟨writes.distinct, shallow, @Writes.integers _ (fun number => limits.Admits (intText number))
    (fun _ integer admitted => (admits_value integer).mp admitted) _ _ writes⟩

/-- Loading is exact and validation raises nothing else than it declares, exactly when the bytes
are within the limits of the interpreter. -/
theorem manageable_iff : (LoadsExactly limits data ν ∧
    RaisesDeclared (validateProviderReadyDocumentBytes limits models data expected)) ↔
      Manageable limits data expected := by
  constructor
  · intro ⟨exact, declared⟩ unmarked input encoded
    have free := loadsExactly_iff.mp exact unmarked input encoded
    refine ⟨free, fun entries schemaId text found registered matched => ?_⟩
    obtain ⟨model, registered⟩ := registered
    obtain ⟨bytes, made⟩ := (validate_declared exact).mp declared entries model
      ⟨unmarked, input, encoded, text⟩ (dispatch_ok.mpr ⟨schemaId, found, registered, matched⟩)
    obtain ⟨distinct, -, -⟩ := read_within text free
    obtain ⟨frames, depth, -, encodable⟩ := ((canonicalBytes_ok distinct).mp made).1
    exact ⟨encodable, frames, depth⟩
  · intro manageable
    have exact : LoadsExactly limits data ν := loadsExactly_iff.mpr
      fun unmarked input encoded => (manageable unmarked input encoded).1
    refine ⟨exact, (validate_declared exact).mpr fun entries model object dispatched => ?_⟩
    obtain ⟨unmarked, input, encoded, text⟩ := object
    obtain ⟨free, kept⟩ := manageable unmarked input encoded
    obtain ⟨schemaId, found, registered, matched⟩ := dispatch_ok.mp dispatched
    obtain ⟨encodable, frames, depth⟩ :=
      kept entries schemaId text found ⟨model, registered⟩ matched
    obtain ⟨distinct, -, digits⟩ := read_within text free
    exact (canonicalBytes_encodes distinct).mpr ⟨frames, depth, digits, encodable⟩

end Manageable

section Lookups

variable {entries others : List (Text × Value)} {key : Text}

theorem mem_of_lookup {value : Value} (found : entries.lookup key = some value) :
    (key, value) ∈ entries := by
  obtain ⟨before, after, rfl, -⟩ := List.lookup_eq_some_iff.mp found
  simp

theorem same_symm {left right : Value} (one : left.Distinct) (other : right.Distinct)
    (same : left.Same right) : right.Same left :=
  (same_iff_sorted other one).mpr ((same_iff_sorted one other).mp same).symm

/-- Equal objects have the same schema version, or none that is a string. -/
theorem schemaIdOf_same {ν : Type} {left right : Value} (same : left.Same right) :
    (schemaIdOf left : Except (Failure ν) _) = schemaIdOf right := by
  cases left with
  | str content =>
    cases right with
    | str other =>
      obtain rfl : content = other := same
      rfl
    | null | bool _ | int _ | arr _ | obj _ => exact same.elim
  | null | bool _ | int _ | arr _ | obj _ =>
    cases right with
    | str other => exact same.elim
    | null | bool _ | int _ | arr _ | obj _ => rfl

/-- Equal objects have equal values under a key, or both have none. -/
theorem lookup_same (one : (Value.obj entries).Distinct) (other : (Value.obj others).Distinct)
    (same : (Value.obj entries).Same (.obj others)) :
    (entries.lookup key = none ∧ others.lookup key = none) ∨
      ∃ left right, entries.lookup key = some left ∧ others.lookup key = some right ∧
        left.Same right := by
  -- An entry of either object has its like in the other one.
  have matched {first second : List (Text × Value)} (distinct : (Value.obj second).Distinct)
      (same : (Value.obj first).Same (.obj second)) {value : Value}
      (found : first.lookup key = some value) :
      ∃ like, second.lookup key = some like ∧ value.Same like := by
    obtain ⟨like, member, equal⟩ := sameEntries_iff.mp same.2 _ (mem_of_lookup found)
    exact ⟨like, lookup_of_mem distinct.1 member, equal⟩
  cases found : entries.lookup key with
  | some value =>
    obtain ⟨like, there, equal⟩ := matched other same found
    exact .inr ⟨value, like, rfl, there, equal⟩
  | none =>
    refine .inl ⟨rfl, ?_⟩
    cases there : others.lookup key with
    | none => rfl
    | some value =>
      obtain ⟨like, here, -⟩ := matched one (same_symm one other same) there
      rw [found] at here
      cases here

/-- Equal objects are dispatched in the same way. -/
theorem dispatch_same {ν : Type} {expected : Option Text} (one : (Value.obj entries).Distinct)
    (other : (Value.obj others).Distinct) (same : (Value.obj entries).Same (.obj others)) :
    (dispatch entries expected : Except (Failure ν) _) = dispatch others expected := by
  unfold dispatch
  rcases @lookup_same _ _ (text "schema_version") one other same with
    ⟨none, missing⟩ | ⟨left, right, found, there, equal⟩
  · rw [none, missing]
  · rw [found, there]
    simp only [orRaise, ok_bind, schemaIdOf_same equal]

/-- Equal values are encoded in the same way. -/
theorem canonicalBytes_same {ν : Type} {limits : Limits} {left right : Value}
    (one : left.Distinct) (other : right.Distinct) (same : left.Same right) :
    (canonicalBytes limits left : Except (Failure ν) _) = canonicalBytes limits right := by
  have frames : limits.framesOf left = limits.framesOf right := same.height one other
  have depth : left.depth = right.depth := by
    rw [left.depth_eq_height, right.depth_eq_height, same.height one other]
  have digits : (∀ number ∈ left.integers, limits.Admits (intText number)) =
      ∀ number ∈ right.integers, limits.Admits (intText number) := by
    simp only [same.integers one other]
  have bytes : Canonical.canonicalJsonBytes (Canonical.ofJson left) =
      Canonical.canonicalJsonBytes (Canonical.ofJson right) := by
    rw [Canonical.canonicalJsonBytes, Canonical.canonicalJsonBytes,
      Canonical.jsonValue_ofJson one, Canonical.jsonValue_ofJson other, ok_bind, ok_bind,
      same.sorted_eq one other]
  unfold canonicalBytes
  rw [frames, depth, bytes]
  simp only [digits]

end Lookups

section Outcomes

variable {ν δ : Type} {limits : Limits} {models : Models ν δ} {data : List UInt8}
  {input : Text} {entries : List (Text × Value)} {expected : Option Text}

/-- The text of an object whose depth and integers are within the limits is loaded. -/
theorem load_within (unmarked : ¬ byteOrderMark <+: data) (encoded : encode input = some data)
    (text : JsonText (fun _ => True) (.obj entries) input)
    (shallow : (Value.obj entries).depth ≤ limits.scanDepth)
    (digits : ∀ number ∈ (Value.obj entries).integers, limits.Admits (intText number)) :
    (loadProviderReadyJsonBytes limits data : Except (Failure ν) _) = .ok entries := by
  obtain ⟨before, written, after, leading, writes, trailing, same⟩ := text
  have narrow : Writes limits.Admits (.obj entries) written :=
    @Writes.narrow _ _ (fun number => limits.Admits (intText number))
      (fun _ integer fits => (admits_value integer).mpr fits) _ _ writes digits
  have loaded := (loads_eq_ok (reads_hooks : Reads (hooks limits : Hooks (Failure ν) Value) _)).mpr
    ⟨⟨before, written, after, leading, narrow, trailing, same⟩, shallow⟩
  rw [load_decoded unmarked encoded, loaded]

/-- Bytes of equal objects are validated with the same outcome. -/
theorem validate_same {other : List UInt8} {others : List (Text × Value)}
    (manageable : Manageable limits data expected) (one : ObjectText data entries)
    (two : ObjectText other others) (same : (Value.obj entries).Same (.obj others)) :
    validateProviderReadyDocumentBytes limits models data expected =
      validateProviderReadyDocumentBytes limits models other expected := by
  obtain ⟨unmarked, input, encoded, text⟩ := one
  obtain ⟨otherUnmarked, otherInput, otherEncoded, otherText⟩ := two
  have free := (manageable unmarked input encoded).1
  obtain ⟨distinct, shallow, digits⟩ := read_within text free
  have otherDistinct : (Value.obj others).Distinct := by
    obtain ⟨_, _, _, _, writes, _, _⟩ := otherText
    exact writes.distinct
  -- Equal objects are as deep as each other and have the same integers.
  have otherShallow : (Value.obj others).depth ≤ limits.scanDepth := by
    rw [Value.depth_eq_height, ← same.height distinct otherDistinct, ← Value.depth_eq_height]
    exact shallow
  have otherDigits : ∀ number ∈ (Value.obj others).integers, limits.Admits (intText number) :=
    fun number member => digits number ((same.integers distinct otherDistinct).mpr member)
  rw [validateProviderReadyDocumentBytes, validateProviderReadyDocumentBytes,
    load_within unmarked encoded text shallow digits,
    load_within otherUnmarked otherEncoded otherText otherShallow otherDigits, ok_bind, ok_bind,
    dispatch_same distinct otherDistinct same, canonicalBytes_same distinct otherDistinct same]

end Outcomes

section Documents

variable {ν δ : Type} {limits : Limits} {models : Models ν δ}

/-- What is documented of the models: a dump is JSON that the interpreter can handle, with the
schema version that its model is registered under, and the strict validation of a dump's canonical
bytes gives the document back. -/
structure Models.Documented (models : Models ν δ) (limits : Limits) : Prop where
  distinct : ∀ document, (models.dump document).Distinct
  encodable : ∀ document, ¬ (models.dump document).Offends
  version : ∀ document value, (models.dump document).Is value → ∃ entries, value = .obj entries ∧
    entries.lookup (text "schema_version") = some (.str (text (models.model document).schemaId))
  small : ∀ document value, (models.dump document).Is value →
    limits.framesOf value ≤ limits.frames ∧ value.depth ≤ limits.writeDepth ∧
      value.depth ≤ limits.scanDepth ∧ ∀ number ∈ value.integers, limits.Admits (intText number)
  roundTrip : ∀ document bytes,
    Canonical.canonicalJsonBytes (.model (models.dump document)) = .ok bytes →
      models.validate (models.model document) bytes = .ok document

/-- The text of an object has no byte order mark. -/
theorem unmarked_write {entries : List (Text × Value)} {data : List UInt8}
    (encoded : encode (write (.obj entries)) = some data) : ¬ byteOrderMark <+: data := by
  obtain ⟨-, rfl⟩ := encode_eq_some.mp encoded
  intro marked
  obtain ⟨rest, same⟩ := marked
  -- The first byte is a brace.
  have first : encodeAll (write (.obj entries)) =
      0x7b :: encodeAll (writeEntries entries ++ [0x7d]) := rfl
  rw [first] at same
  exact absurd (List.cons.inj same).1 (by decide)

/-- The canonical bytes of a document are validated as that document. -/
theorem validate_document (documented : models.Documented limits) (document : δ)
    {expected : Option Text}
    (matched : ∀ other ∈ expected, text (models.model document).schemaId = other) :
    ∃ bytes, Canonical.canonicalJsonBytes (.model (models.dump document)) = .ok bytes ∧
      validateProviderReadyDocumentBytes limits models bytes expected = .ok document := by
  have distinct := documented.distinct document
  cases made : Canonical.canonicalJsonBytes (.model (models.dump document)) with
  | error error =>
    have offends := (@Canonical.canonicalJsonBytes_raises (.model (models.dump document))
      distinct).mp ⟨error, made⟩
    cases offends with
    | model offends => exact absurd offends (documented.encodable document)
  | ok bytes =>
    refine ⟨bytes, rfl, ?_⟩
    obtain ⟨value, normal, encoded⟩ := Canonical.canonicalJsonBytes_ok.mp made
    obtain ⟨is, apart⟩ := Canonical.jsonValue_is distinct normal
    obtain ⟨entries, rfl, version⟩ := documented.version document value is
    obtain ⟨frames, depth, shallow, digits⟩ := documented.small document _ is
    -- The bytes are the text of the sorted object, which is equal to the dump.
    have equal := (Value.obj entries).same_sorted
    have sortedDistinct := apart.sorted
    rw [Value.sorted] at encoded equal sortedDistinct
    have text : JsonText (fun _ => True) (.obj (sortEntries (sortedEntries entries)))
        (write (.obj (sortEntries (sortedEntries entries)))) :=
      jsonText_write sortedDistinct fun _ _ => trivial
    have loaded : (loadProviderReadyJsonBytes limits bytes : Except (Failure ν) _) =
        .ok (sortEntries (sortedEntries entries)) := by
      refine load_within (unmarked_write encoded) encoded text ?_ fun number member => ?_
      · rw [Value.depth_eq_height, equal.height sortedDistinct apart, ← Value.depth_eq_height]
        exact shallow
      · exact digits number ((equal.integers sortedDistinct apart).mp member)
    have dispatched : (dispatch entries expected : Except (Failure ν) _) =
        .ok (models.model document) :=
      dispatch_ok.mpr ⟨_, version, schemaModel_schemaId _, matched⟩
    have whole : (Value.obj entries).Encodable := by
      rw [← Value.encodable_sorted, ← whole_write]
      exact (encode_eq_some.mp encoded).1
    have encodes : (canonicalBytes limits (.obj entries) : Except (Failure ν) _) = .ok bytes :=
      (canonicalBytes_ok apart).mpr ⟨⟨frames, depth, digits, whole⟩, encoded⟩
    rw [validateProviderReadyDocumentBytes, loaded, ok_bind,
      dispatch_same sortedDistinct apart equal, dispatched, ok_bind,
      canonicalBytes_same sortedDistinct apart equal, encodes, ok_bind,
      documented.roundTrip document bytes made]
    rfl

end Documents

section Total

/-- Strict contract loading is total and exact, exactly for bytes that are within the limits of the
interpreter and have no surrogate in a document that is dispatched; there the outcome depends on
the JSON value of the bytes only, and every document is validated from its canonical bytes as
itself. -/
theorem loading_exact_iff {ν δ : Type} (limits : Limits) (models : Models ν δ)
    (documented : models.Documented limits) :
    (∀ data expected, (LoadsExactly limits data ν ∧
      RaisesDeclared (validateProviderReadyDocumentBytes limits models data expected)) ↔
        Manageable limits data expected) ∧
    (∀ data other entries others expected, Manageable limits data expected →
      ObjectText data entries → ObjectText other others → (Value.obj entries).Same (.obj others) →
        validateProviderReadyDocumentBytes limits models data expected =
          validateProviderReadyDocumentBytes limits models other expected) ∧
    (∀ document expected, (∀ other ∈ expected, text (models.model document).schemaId = other) →
      ∃ bytes, Canonical.canonicalJsonBytes (.model (models.dump document)) = .ok bytes ∧
        validateProviderReadyDocumentBytes limits models bytes expected = .ok document) :=
  ⟨fun _ _ => manageable_iff,
    fun _ _ _ _ _ manageable one two same => validate_same manageable one two same,
    fun document _ matched => validate_document documented document matched⟩

/-- What an interpreter can do. -/
def Sample.limits : Limits :=
  { digits := 4300, scanDepth := 1000, writeDepth := 1000, frames := 900, comprehension := 1 }

/-- A digest of one digit repeated. -/
def Sample.digest (digit : Code) : Text := text "sha256:" ++ List.replicate 64 digit

/-- The fields of a document that is issued for the first generation of a profile. -/
def Sample.entries : List (Text × Value) :=
  [(text "schema_version", .str (text "aar.activation-generation-authority.v1")),
    (text "authority_store_id", .str (text "local-file-authority-v1:a")),
    (text "profile_id", .str (text "profile-1")),
    (text "activation_generation", .int 1),
    (text "intent_digest", .str (Sample.digest 0x61)),
    (text "profile_digest", .str (Sample.digest 0x62)),
    (text "migration_attestation_digest", .str (Sample.digest 0x63)),
    (text "previous_activation_authority_digest", .null),
    (text "authority_digest", .str (text
      "sha256:06199d099494fcf6afac4ae66bdea8bec3981daca1337f62cb11ddaaf58aa85d"))]

/-- A model with one document, which its canonical bytes and no others are validated as. -/
def Sample.only (kind : SchemaModel) (dump : Canonical.PyValue) : Models Unit Unit where
  model _ := kind
  dump _ := dump
  validate model bytes :=
    if model = kind ∧ Canonical.canonicalJsonBytes (.model dump) = .ok bytes then .ok ()
    else .error ()

/-- The model of that document. -/
def Sample.models : Models Unit Unit :=
  Sample.only .activationGenerationAuthority (Canonical.ofJson (.obj Sample.entries))

theorem Sample.distinct : (Value.obj Sample.entries).Distinct := by
  refine ⟨by decide, ?_⟩
  simp [Sample.entries, DistinctEntries, Value.Distinct]

theorem Sample.encodable : (Value.obj Sample.entries).Encodable := by
  simp only [Sample.entries, Value.Encodable, EncodableEntries]
  decide +kernel

theorem Sample.small : Sample.limits.framesOf (.obj Sample.entries) ≤ Sample.limits.frames ∧
    (Value.obj Sample.entries).depth ≤ Sample.limits.writeDepth ∧
    (Value.obj Sample.entries).depth ≤ Sample.limits.scanDepth ∧
    ∀ number ∈ (Value.obj Sample.entries).integers, Sample.limits.Admits (intText number) :=
  ⟨by decide, by decide, by decide, by decide⟩

theorem Sample.version : Sample.entries.lookup (text "schema_version") =
    some (.str (text SchemaModel.activationGenerationAuthority.schemaId)) := rfl

theorem Sample.only_validate {kind : SchemaModel} {dump : Canonical.PyValue} {bytes : List UInt8}
    (made : Canonical.canonicalJsonBytes (.model dump) = .ok bytes) :
    (Sample.only kind dump).validate kind bytes = .ok () :=
  if_pos ⟨rfl, made⟩

/-- The document is what is documented of one. -/
theorem Sample.documented : Sample.models.Documented Sample.limits := by
  have dump : (Canonical.ofJson (.obj Sample.entries)).Is (.obj Sample.entries) :=
    Canonical.is_ofJson _
  constructor
  · exact fun _ => Canonical.distinct_ofJson Sample.distinct
  · exact fun _ offends => offends.not_encodable dump Sample.encodable
  · intro _ value is
    exact ⟨Sample.entries, is.unique dump, Sample.version⟩
  · intro _ value is
    rw [is.unique dump]
    exact Sample.small
  · exact fun _ bytes made => Sample.only_validate made

/-- A document that is issued is validated from its canonical bytes. -/
theorem loading_exact_sample :
    ∃ bytes, Canonical.canonicalJsonBytes (.model (Sample.models.dump ())) = .ok bytes ∧
      validateProviderReadyDocumentBytes Sample.limits Sample.models bytes none = .ok () :=
  (loading_exact_iff Sample.limits Sample.models Sample.documented).2.2 () none
    fun _ member => by cases member

/-- A document with an escaped surrogate. -/
def Sample.surrogate : List UInt8 :=
  encodeAll (text "\x7b\"schema_version\":\"aar.cutover-plan.v1\",\"x\":\"\\ud800\"\x7d")

/-- The text of a document with a surrogate is loaded, and its validation raises what encoding it
again raises. -/
theorem loading_exact_not :
    ¬ RaisesDeclared
      (validateProviderReadyDocumentBytes Sample.limits Sample.models Sample.surrogate none) := by
  intro declared
  have raised : validateProviderReadyDocumentBytes Sample.limits Sample.models Sample.surrogate
      none = .error .unicodeEncode := by
    decide +kernel
  rcases declared _ raised with ⟨_, same⟩ | ⟨_, same⟩
  · cases same
  · cases same

end Total

end Aar.ProviderReadyContract
