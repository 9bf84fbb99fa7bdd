import Aar.Lib.Cursor
import Aar.Registry.Fence
import Aar.Schema.Transaction
import Mathlib.Data.List.Sort

/-! Bounded pages of an operation's events, and the snapshot that ends them. -/

namespace Aar.Registry

open Guarded Table

/-- The most events one page may hold. -/
def maxEventPageLimit : Int := 500

/-- The most bytes one page may hold. -/
def maxEventPageBytes : Int := 1048576

/-- `_attempt_ref_for_no`: a reference to the attempt with a number, if there is one. -/
def attemptRefForNo (operation : String) (record : OpRecord) (attemptNo : Option Nat) :
    Option OperationAttemptRef := do
  let number ← attemptNo
  let row ← fetchOne record.attempts fun row => row.attemptNo = number
  return ⟨operation, row.attemptNo, row.attemptId⟩

section Envelope

/-- An event as a page returns it; the digest that goes with it is that of its payload. -/
structure OperationEventEnvelope where
  sequence : Nat
  operation : String
  attempt : Option OperationAttemptRef
  eventKind : String
  state : OperationState
  certainty : OutcomeCertainty
  recordRevision : Nat
  atUnixMs : Nat
  payload : Payload
  deriving DecidableEq

/-- The bounds of `OperationEventEnvelopeV1`. -/
def OperationEventEnvelope.Valid (event : OperationEventEnvelope) : Prop :=
  1 ≤ event.sequence ∧ event.eventKind.length ≤ 128 ∧ 1 ≤ event.atUnixMs ∧
    event.attempt.all fun attempt => attempt.operation = event.operation ∧ 1 ≤ attempt.attemptNo

instance (event : OperationEventEnvelope) : Decidable event.Valid :=
  inferInstanceAs (Decidable (_ ∧ _ ∧ _ ∧ _))

/-- `_event_envelope`: the row of an event as it is returned. -/
def eventEnvelope (operation : String) (record : OpRecord) (row : EventRow) :
    Except Err OperationEventEnvelope := do
  let event : OperationEventEnvelope := {
    sequence := row.sequence
    operation
    attempt := attemptRefForNo operation record row.attemptNo
    eventKind := if row.eventKind = "" then "legacy_lifecycle" else row.eventKind
    state := row.state
    certainty := row.certainty
    recordRevision := row.recordRevision
    atUnixMs := row.atUnixMs
    payload := row.payload }
  require event.Valid (.valueError "validation error for OperationEventEnvelopeV1")
  return event

end Envelope

section Snapshot

/-- The state of an operation as it is projected beside its events. -/
structure OperationContinuitySnapshot where
  operation : String
  operationState : OperationState
  certainty : OutcomeCertainty
  recordRevision : Nat
  currentAttempt : Option OperationAttemptRef
  lastAttempt : Option OperationAttemptRef
  control : ControlRow
  dispatcherState : Option DispatchState
  lastEventSequence : Nat
  reconciliationRequired : Bool
  recoveryReason : Option String
  deriving DecidableEq

/-- The control state of an operation that was never asked to stop. -/
def uncontrolled : ControlRow := ⟨0, false, none, none, none⟩

/-- A text of a continuity model. -/
def ContinuityText (text : String) : Prop := 1 ≤ text.length ∧ text.length ≤ 512

instance (text : String) : Decidable (ContinuityText text) :=
  inferInstanceAs (Decidable (_ ∧ _))

/-- The bounds of `OperationControlStateV1`. -/
def ControlValid (control : ControlRow) : Prop :=
  (control.requestedAtUnixMs.all fun requestedAt => 1 ≤ requestedAt) ∧
    (control.reasonCode.all fun reason => ContinuityText reason) ∧
    (control.cancellationRequested = true → control.requestedAtUnixMs ≠ none ∧
      control.requestedByDigest ≠ none ∧ control.reasonCode ≠ none)

instance (control : ControlRow) : Decidable (ControlValid control) :=
  inferInstanceAs (Decidable (_ ∧ _ ∧ _))

/-- The bounds of `OperationContinuitySnapshotV1`. -/
def OperationContinuitySnapshot.Valid (snapshot : OperationContinuitySnapshot) : Prop :=
  ControlValid snapshot.control ∧
    (snapshot.recoveryReason.all fun reason => ContinuityText reason) ∧
    (snapshot.lastAttempt.all fun attempt =>
      attempt.operation = snapshot.operation ∧ 1 ≤ attempt.attemptNo) ∧
    (snapshot.currentAttempt.all fun attempt => attempt.operation = snapshot.operation ∧
      1 ≤ attempt.attemptNo ∧
      snapshot.lastAttempt.all fun last => last.attemptNo ≤ attempt.attemptNo)

instance (snapshot : OperationContinuitySnapshot) : Decidable snapshot.Valid :=
  inferInstanceAs (Decidable (_ ∧ _ ∧ _ ∧ _))

/-- `continuity_snapshot` of an operation that is known. -/
def continuitySnapshot (operation : String) (record : OpRecord) :
    Except Err OperationContinuitySnapshot := do
  let attemptRow := fetchMax record.attempts (fun _ => True) AttemptRow.attemptNo
  let lastAttempt := attemptRefForNo operation record (attemptRow.map AttemptRow.attemptNo)
  let running := record.dispatch.any fun row => row.state = .running
  let snapshot : OperationContinuitySnapshot := {
    operation
    operationState := record.row.state
    certainty := record.row.certainty
    recordRevision := record.row.recordRevision
    currentAttempt := if running then lastAttempt else none
    lastAttempt
    control := record.control.getD uncontrolled
    dispatcherState := record.dispatch.map DispatchRow.state
    lastEventSequence := maxOf record.events EventRow.sequence
    reconciliationRequired := record.row.reconciliationRequired
    recoveryReason := attemptRow.bind AttemptRow.recoveryReason }
  require snapshot.Valid (.valueError "validation error for OperationContinuitySnapshotV1")
  return snapshot

end Snapshot

section Page

/-- A page of events, with the cursor to go on from. -/
structure OperationEventPage where
  operation : String
  afterSequence : Nat
  events : List OperationEventEnvelope
  nextSequence : Nat
  hasMore : Bool
  terminalSnapshot : Option OperationContinuitySnapshot
  deriving DecidableEq

/-- The checks of `OperationEventPageV1`. -/
def OperationEventPage.Valid (page : OperationEventPage) : Prop :=
  (page.events.all fun event => event.operation = page.operation) ∧
    page.events.Pairwise (fun first second => first.sequence < second.sequence) ∧
    (page.events.head?.all fun event => page.afterSequence < event.sequence) ∧
    page.nextSequence =
      Cursor.behind OperationEventEnvelope.sequence page.afterSequence page.events ∧
    page.terminalSnapshot.all fun snapshot => snapshot.operation = page.operation

instance (page : OperationEventPage) : Decidable page.Valid :=
  inferInstanceAs (Decidable (_ ∧ _ ∧ _ ∧ _ ∧ _))

/-- The order in which events are selected. -/
def SequenceBefore (first second : EventRow) : Prop := first.sequence ≤ second.sequence

instance : DecidableRel SequenceBefore :=
  fun first second => inferInstanceAs (Decidable (first.sequence ≤ second.sequence))

/-- The rows a page selects: one more than it may hold, to see whether there are more. -/
def selectEvents (afterSequence limit : Nat) (record : OpRecord) : List EventRow :=
  ((Cursor.after EventRow.sequence afterSequence record.events).insertionSort
    SequenceBefore).take (limit + 1)

/-- Fill a page with rows while their events fit, after the events that are in it. -/
def fillPage (size : OperationEventEnvelope → Nat) (operation : String) (record : OpRecord)
    (maxBytes : Nat) (events : List OperationEventEnvelope) (usedBytes : Nat) :
    List EventRow → Except Err (List OperationEventEnvelope)
  | [] => return events
  | row :: rest => do
    let event ← eventEnvelope operation record row
    if maxBytes < usedBytes + size event then
      -- An event that does not fit ends the page, unless it would be the first.
      require (events ≠ []) (.registryError "single operation event exceeds max_bytes")
      return events
    else
      fillPage size operation record maxBytes (events ++ [event]) (usedBytes + size event) rest

/-- The snapshot that comes with the last page of an operation that has ended. -/
def snapshotWhenDone (operation : String) (record : OpRecord) (hasMore : Bool) :
    Except Err (Option OperationContinuitySnapshot) :=
  if record.row.state.Terminal ∧ hasMore = false then
    some <$> continuitySnapshot operation record
  else pure none

/-- `event_page`, with the size of an event in canonical bytes. -/
def eventPage (size : OperationEventEnvelope → Nat) (operation : String)
    (afterSequence limit maxLimit maxBytes : Int) (db : Db) : Except Err OperationEventPage := do
  require (0 ≤ afterSequence) (.valueError "after_sequence must not be negative")
  require (1 ≤ limit ∧ limit ≤ min maxLimit maxEventPageLimit)
    (.valueError s!"limit must be between 1 and {min maxLimit maxEventPageLimit}")
  require (1024 ≤ maxBytes ∧ maxBytes ≤ maxEventPageBytes)
    (.valueError s!"max_bytes must be between 1024 and {maxEventPageBytes}")
  let record ← orRaise (db.lookup operation) (.keyError operation)
  let rows := selectEvents afterSequence.toNat limit.toNat record
  let events ← fillPage size operation record maxBytes.toNat [] 0 (rows.take limit.toNat)
  let hasMore := decide (events.length < rows.length)
  let terminalSnapshot ← snapshotWhenDone operation record hasMore
  let page : OperationEventPage := {
    operation
    afterSequence := afterSequence.toNat
    events
    nextSequence :=
      Cursor.behind OperationEventEnvelope.sequence afterSequence.toNat events
    hasMore
    terminalSnapshot }
  require page.Valid (.valueError "validation error for OperationEventPageV1")
  return page

end Page

end Aar.Registry
