import Aar.Lib.Run
import Aar.Proofs.Executions
import Aar.Workspace.WorkerLoop

/-! When the loop of an IPython worker answers every command with one line and goes on. -/

namespace Aar.Workspace.Worker

open Guarded Interactions Runs

section Wire

variable {strict : Bool}

theorem pyString_encodable (text : String) : Encodable (pyString text) := by
  intro code member
  obtain ⟨character, -, rfl⟩ := List.mem_map.mp member
  -- A character is a scalar value, on one side or the other of the surrogates.
  have scalar := character.valid
  unfold Char.toNat
  rcases scalar with below | above <;> omega

mutual

/-- What is JSON can be written. -/
theorem writes_lax : (value : WireValue) → value.writes true = true → value.writes false = true
  | .null, _ | .bool _, _ | .int _, _ | .float _, _ => by simp [WireValue.writes]
  | .str _, writes => by simpa [WireValue.writes] using writes
  | .unserializable, writes => by simp [WireValue.writes] at writes
  | .array items, writes => by
    rw [WireValue.writes] at writes ⊢
    exact itemsWrite_lax items writes
  | .object entries, writes => by
    rw [WireValue.writes] at writes ⊢
    exact entriesWrite_lax entries writes

theorem itemsWrite_lax : (items : List WireValue) → WireValue.itemsWrite true items = true →
    WireValue.itemsWrite false items = true
  | [], _ => rfl
  | item :: rest, writes => by
    simp only [WireValue.itemsWrite, Bool.and_eq_true] at writes ⊢
    exact ⟨writes_lax item writes.1, itemsWrite_lax rest writes.2⟩

theorem entriesWrite_lax : (entries : List (PyString × WireValue)) →
    WireValue.entriesWrite true entries = true → WireValue.entriesWrite false entries = true
  | [], _ => rfl
  | (key, item) :: rest, writes => by
    simp only [WireValue.entriesWrite, Bool.and_eq_true] at writes ⊢
    exact ⟨⟨writes.1.1, writes_lax item writes.1.2⟩, entriesWrite_lax rest writes.2⟩

end

mutual

theorem toWire_writes : (value : JsonValue) → (toWire value).writes strict = value.encodable
  | .null | .bool _ | .int _ | .str _ => rfl
  | .array items => itemsToWire_write items
  | .object entries => entriesToWire_write entries

theorem itemsToWire_write : (items : List JsonValue) →
    WireValue.itemsWrite strict (itemsToWire items) = JsonValue.encodableItems items
  | [] => rfl
  | item :: rest => by
    rw [itemsToWire, WireValue.itemsWrite, toWire_writes item, itemsToWire_write rest,
      JsonValue.encodableItems]

theorem entriesToWire_write : (entries : List (PyString × JsonValue)) →
    WireValue.entriesWrite strict (entriesToWire entries) = JsonValue.encodableEntries entries
  | [] => rfl
  | (key, item) :: rest => by
    rw [entriesToWire, WireValue.entriesWrite, toWire_writes item, entriesToWire_write rest,
      JsonValue.encodableEntries]

end

theorem itemsWrite_iff {items : List WireValue} :
    WireValue.itemsWrite strict items = true ↔ ∀ item ∈ items, item.writes strict = true := by
  induction items with
  | nil => simp [WireValue.itemsWrite]
  | cons item rest hypothesis =>
    rw [WireValue.itemsWrite, Bool.and_eq_true, hypothesis, List.forall_mem_cons]

theorem wireObject_writes {entries : List (String × WireValue)} :
    (wireObject entries).writes strict = true ↔
      ∀ entry ∈ entries, entry.2.writes strict = true := by
  rw [wireObject, WireValue.writes]
  induction entries with
  | nil => simp [WireValue.entriesWrite]
  | cons entry rest hypothesis =>
    simp [WireValue.entriesWrite, pyString_encodable, hypothesis]

@[simp] theorem wireText_writes (text : String) : (wireText text).writes strict = true := by
  simp [wireText, WireValue.writes, pyString_encodable]

theorem wireObject_accepted {entries : List (String × WireValue)} :
    Accepted (wireObject entries) ↔ ∀ entry ∈ entries, entry.2.writes true = true := by
  rw [Accepted, wireObject_writes]
  exact and_iff_left ⟨_, rfl⟩

end Wire

section Events

variable {run : WorkerRun}

/-- A run keeps the last place for the event that ends its execution. -/
def WorkerRun.Bounded (run : WorkerRun) : Prop :=
  run.events.length + 1 ≤ run.maxEvents

/-- An event that is listed takes a free place or is dropped. -/
theorem add_events (bounded : run.Bounded) (event : WorkerEvent) :
    (run.add event).events = (run.events ++ [event]).take (run.maxEvents - 1) ∧
      (run.add event).maxEvents = run.maxEvents := by
  unfold WorkerRun.Bounded at bounded
  unfold WorkerRun.add
  split
  · -- All places but the last are taken, so the event is cut off.
    rename_i full
    have places : run.maxEvents - 1 = run.events.length := by omega
    simp [places]
  · rename_i room
    have fits : (run.events ++ [event]).length ≤ run.maxEvents - 1 := by
      simp only [List.length_append, List.length_singleton]
      omega
    exact ⟨(List.take_of_length_le fits).symm, rfl⟩

/-- An event that is forced in takes the place of the last one when no other is left. -/
theorem add_forced (bounded : run.Bounded) (event : WorkerEvent) :
    (run.add event true).events = run.events.take (run.maxEvents - 2) ++ [event] ∧
      (run.add event true).maxEvents = run.maxEvents := by
  unfold WorkerRun.Bounded at bounded
  unfold WorkerRun.add
  split
  · rename_i full
    have places : run.maxEvents - 2 = run.events.length - 1 := by omega
    simp [places, List.dropLast_eq_take]
  · rename_i room
    have fits : run.events.length ≤ run.maxEvents - 2 := by omega
    exact ⟨by rw [List.take_of_length_le fits], rfl⟩

theorem WorkerRun.Bounded.add (bounded : run.Bounded) (event : WorkerEvent) :
    (run.add event).Bounded := by
  obtain ⟨events, maxEvents⟩ := add_events bounded event
  unfold WorkerRun.Bounded at bounded ⊢
  rw [events, maxEvents, List.length_take]
  omega

theorem take_append_cut {α : Type} (first second : List α) (places : Nat) :
    (first.take places ++ second).take places = (first ++ second).take places := by
  have left : places - (first.take places).length = places - first.length := by
    rw [List.length_take]
    omega
  rw [List.take_append, List.take_append, left, List.take_take, Nat.min_self]

/-- A reply leaves as many events as there are places; frames are written beside them. -/
theorem answered_bounded (bounded : run.Bounded) (prepared : Bool) (reply : BrokerReply) :
    (run.answered prepared reply).2.Bounded := by
  induction reply generalizing run prepared with
  | prepare next ih => exact ih (bounded.add _) true
  | response => exact bounded.add _
  | failed => exact bounded
  | resumed acknowledgement =>
    unfold WorkerRun.answered
    split
    · exact bounded
    · split
      · exact bounded
      · exact WorkerRun.Bounded.add (by exact bounded) _

/-- Events that are listed one after another fill the places in their order. -/
theorem foldl_add (added : List WorkerEvent) :
    ∀ {run : WorkerRun}, run.Bounded →
      (added.foldl (fun run event => run.add event) run).events =
          (run.events ++ added).take (run.maxEvents - 1) ∧
        (added.foldl (fun run event => run.add event) run).maxEvents = run.maxEvents ∧
        (added.foldl (fun run event => run.add event) run).Bounded := by
  induction added with
  | nil =>
    intro run bounded
    unfold WorkerRun.Bounded at bounded
    have fits : run.events.length ≤ run.maxEvents - 1 := by omega
    exact ⟨by simp [List.take_of_length_le fits], rfl, bounded⟩
  | cons event rest hypothesis =>
    intro run bounded
    obtain ⟨events, maxEvents⟩ := add_events bounded event
    obtain ⟨listed, same, still⟩ := hypothesis (bounded.add event)
    refine ⟨?_, same.trans maxEvents, still⟩
    rw [List.foldl_cons, listed, events, maxEvents, take_append_cut, List.append_assoc,
      List.singleton_append]

/-- Whatever a program does leaves the run bounded. -/
theorem respond_bounded (request : ExecuteRequest) (question : Ask) (bounded : run.Bounded) :
    (respond request run question).2.Bounded := by
  cases question with
  | compute change => exact bounded
  | write stream text => cases stream <;> exact bounded
  | progress message completed total =>
    cases message with
    | none => exact bounded
    | some message => exact bounded.add _
  | display value mediaType =>
    simp only [respond, WorkerRun.perform, WorkerRun.display]
    split <;> exact bounded.add _
  | publish data =>
    simp only [respond, WorkerRun.perform, WorkerRun.publish]
    split
    · exact bounded
    · split
      · exact bounded.add _
      · exact bounded
  | artifact name mediaType content =>
    simp only [respond, WorkerRun.perform, WorkerRun.artifact]
    split
    · exact bounded
    · dsimp only
      exact WorkerRun.Bounded.add (by exact bounded) _
    · exact bounded
  | broker value reply =>
    simp only [respond, WorkerRun.perform, WorkerRun.broker]
    split
    · exact bounded
    · split
      · exact bounded
      · exact bounded
      · split
        · exact bounded
        · apply answered_bounded
          exact bounded

end Events

section Responses

variable {request : ExecuteRequest} {run : WorkerRun}

/-- What a response shows of a run can be written: its first events and all of its artifacts. -/
def Shown (run : WorkerRun) (places : Nat) : Prop :=
  (∀ event ∈ (run.events ++ outputEvents run).take places, event.toWire.writes true = true) ∧
    ∀ artifact ∈ run.artifacts, Encodable artifact.name ∧ Encodable artifact.mediaType

/--
What the end of a program leaves can be said in one line.

An exception that reaches the loop has a text with an encoding. Otherwise the events that find a
place in the response, the exception among them and the artifacts can be written as JSON.
-/
def Sayable (outcome : Outcome) (run : WorkerRun) : Prop :=
  match outcome with
  | .escaped { message := .ok message, .. } => Encodable (message.take 2048)
  | .escaped { message := .error _, .. } => False
  | .failed { message := .ok message, .. } =>
    Encodable (message.take 2048) ∧ Shown run (run.maxEvents - 2)
  | .failed { message := .error second, .. } =>
    ∃ message, second.message = some message ∧ Encodable (message.take 2048)
  | .finished value => CannotEncode 12 4096 value ∨ Shown run (run.maxEvents - 1)

/-- The loop answers an exception with a line exactly when it has a text with an encoding. -/
theorem loopResponse_error {exception : RaisedException} :
    (∃ line, loopResponse (.error exception) = some line ∧ Accepted line) ↔
      ∃ message, exception.message = some message ∧ Encodable (message.take 2048) := by
  obtain ⟨typeName, message⟩ := exception
  cases message with
  | none => simp [loopResponse]
  | some message => simp [loopResponse, wireObject_accepted, WireValue.writes]

theorem loopResponse_ok {response : WireValue} :
    (∃ line, loopResponse (.ok response) = some line ∧ Accepted line) ↔ Accepted response := by
  simp [loopResponse]

theorem artifact_writes {artifact : WorkerArtifact} :
    artifact.toWire.writes true = true ↔
      Encodable artifact.name ∧ Encodable artifact.mediaType := by
  simp [WorkerArtifact.toWire, wireObject_writes, WireValue.writes]

/-- The event that ends an execution can be written. -/
theorem finish_writes (status : String) (dropped : Bool) (flag : Option Bool) :
    (WorkerEvent.data .progress (finishEntries status dropped) flag).toWire.writes true =
      true := by
  have entries : (wireObject (finishEntries status dropped)).writes true = true := by
    rw [wireObject_writes]
    cases dropped <;> simp [finishEntries, WireValue.writes]
  cases flag <;> simp [WorkerEvent.toWire, wireObject_writes, entries, WireValue.writes]

/-- A response can be written exactly when what it shows can. -/
theorem executeResponse_accepted {status : String}
    {presented : Option JsonValue × Option String} {events : List WorkerEvent}
    (portable : ∀ value ∈ presented.1, value.encodable = true) :
    Accepted (executeResponse run status presented events) ↔
      (∀ event ∈ events, event.toWire.writes true = true) ∧
        ∀ artifact ∈ run.artifacts, Encodable artifact.name ∧ Encodable artifact.mediaType := by
  have result : ((presented.1.map toWire).getD .null).writes true = true := by
    cases found : presented.1 with
    | none => rfl
    | some value => simpa [toWire_writes] using portable value found
  have reason : ((presented.2.map wireText).getD .null).writes true = true := by
    cases presented.2 with
    | none => rfl
    | some text => simp
  simp [executeResponse, wireObject_accepted, result, reason, itemsWrite_iff, artifact_writes,
    WireValue.writes]

/-- What is presented of a value can be written. -/
theorem presentResult_portable {value : PyValue} {presented : Option JsonValue × Option String}
    (present : presentResult value = .ok presented) :
    ∀ portable ∈ presented.1, portable.encodable = true := by
  unfold presentResult at present
  split at present
  · rw [← Except.ok.inj present]
    simp
  · split at present
    · rename_i portable converted
      split at present
      · rw [← Except.ok.inj present]
        obtain ⟨_, _, encodable⟩ := portableValue_ok.mp converted
        simpa using encodable
      · rw [← Except.ok.inj present]
        simp
    · rw [← Except.ok.inj present]
      simp
    · cases present

/-- A value is presented unless its text has no encoding. -/
theorem presentResult_cases (value : PyValue) :
    (CannotEncode 12 4096 value ∧ presentResult value = .error unicodeEncodeError) ∨
      (¬ CannotEncode 12 4096 value ∧ ∃ presented, presentResult value = .ok presented) := by
  unfold presentResult CannotEncode
  split
  · right
    exact ⟨by decide +kernel, _, rfl⟩
  · rcases converted : portableValue 12 4096 value with error | portable
    · cases error with
      | portableValueError reason => simp
      | unicodeEncodeError => simp
      | validationError => exact absurd converted portableValue_unvalidated
    · right
      refine ⟨by simp, ?_⟩
      dsimp only
      split <;> exact ⟨_, rfl⟩

theorem addOutput_fields (bounded : run.Bounded) :
    run.addOutput.events = (run.events ++ outputEvents run).take (run.maxEvents - 1) ∧
      run.addOutput.maxEvents = run.maxEvents ∧ run.addOutput.Bounded := by
  obtain ⟨events, maxEvents, still⟩ := foldl_add (outputEvents run) bounded
  exact ⟨events, maxEvents, still⟩

theorem finishEvents_bounded (status : String) (room : run.events.length < run.maxEvents) :
    finishEvents run status =
      .ok (run.events ++ [.data .progress (finishEntries status run.dropped)
        (some run.dropped)]) := by
  simp [finishEvents, room]

/-- The response to a finished program is written exactly when what it shows can be. -/
theorem concludeExecute_finished (bounded : run.Bounded) (value : PyValue) :
    (∃ line, loopResponse (concludeExecute run (.finished value)) = some line ∧ Accepted line) ↔
      Sayable (.finished value) run := by
  obtain ⟨events, maxEvents, still⟩ := addOutput_fields bounded
  have room : run.addOutput.events.length < run.addOutput.maxEvents := still
  rcases presentResult_cases value with ⟨found, error⟩ | ⟨not_found, presented, present⟩
  · -- The conversion raised, and the loop says so in ASCII.
    have raised : concludeExecute run (.finished value) = .error unicodeEncodeError := by
      simp [concludeExecute, error, Bind.bind, Except.bind]
    rw [raised, loopResponse_error]
    refine iff_of_true ⟨_, rfl, ?_⟩ (.inl found)
    decide +kernel
  · have concluded : concludeExecute run (.finished value) =
        .ok (executeResponse run "succeeded" presented
          (run.addOutput.events ++ [.data .progress
            (finishEntries "succeeded" run.addOutput.dropped) (some run.addOutput.dropped)])) := by
      simp only [concludeExecute, present, finishEvents_bounded "succeeded" room, ok_bind]
      rfl
    rw [concluded, loopResponse_ok, executeResponse_accepted (presentResult_portable present),
      events]
    simp only [List.forall_mem_append, List.forall_mem_singleton, finish_writes, and_true]
    exact (or_iff_right not_found).symm

/-- The event for an exception can be written exactly when its text has an encoding. -/
theorem exception_writes {typeName : String} {message : PyString}
    {more : List (String × WireValue)} {truncated : Option Bool}
    (written : ∀ entry ∈ more, entry.2.writes true = true) :
    (WorkerEvent.data .exception ([("type", wireText typeName), ("message", .str message)] ++ more)
      truncated).toWire.writes true = true ↔ Encodable message := by
  have entries : (wireObject ([("type", wireText typeName), ("message", .str message)] ++
      more)).writes true = true ↔ Encodable message := by
    rw [wireObject_writes, List.forall_mem_append, and_iff_left written]
    simp [WireValue.writes]
  cases truncated with
  | none =>
    rw [WorkerEvent.toWire, wireObject_writes]
    simpa using entries
  | some flag =>
    rw [WorkerEvent.toWire, wireObject_writes]
    simpa [WireValue.writes] using entries

/-- The end of an execution is put after the entries of an exception. -/
theorem updateEntries_exception (typeName : String) (message : PyString) (status : String)
    (dropped : Bool) :
    updateEntries [("type", wireText typeName), ("message", .str message)]
        (finishEntries status dropped) =
      [("type", wireText typeName), ("message", .str message)] ++
        finishEntries status dropped := by
  cases dropped <;> simp [updateEntries, finishEntries]

/-- The response to a failed program is written exactly when what it shows can be. -/
theorem concludeExecute_failed (bounded : run.Bounded) (typeName : String) (message : PyString) :
    (∃ line, loopResponse (concludeExecute run (.failed ⟨typeName, .ok message⟩)) = some line ∧
        Accepted line) ↔
      Sayable (.failed ⟨typeName, .ok message⟩) run := by
  obtain ⟨events, maxEvents, still⟩ := addOutput_fields bounded
  let exception : WorkerEvent :=
    .data .exception [("type", wireText typeName), ("message", .str (message.take 2048))]
  let reported := run.addOutput.add exception true
  obtain ⟨forced, same⟩ := add_forced still exception
  -- What is cut at the last place but one was first cut at the last place.
  have cut : reported.events =
      (run.events ++ outputEvents run).take (run.maxEvents - 2) ++ [exception] := by
    have fewer : min (run.maxEvents - 2) (run.maxEvents - 1) = run.maxEvents - 2 := by omega
    rw [show reported.events = _ from forced, maxEvents, events, List.take_take, fewer]
  have nothing : ∀ value ∈ (none : Option JsonValue), value.encodable = true := by simp
  have exception_said : exception.toWire.writes true = true ↔ Encodable (message.take 2048) :=
    exception_writes (by simp)
  by_cases room : reported.events.length < reported.maxEvents
  · have concluded : concludeExecute run (.failed ⟨typeName, .ok message⟩) =
        .ok (executeResponse run "failed" (none, none) (reported.events ++ [.data .progress
          (finishEntries "failed" reported.dropped) (some reported.dropped)])) := by
      have finished := finishEvents_bounded "failed" room
      simp only [concludeExecute]
      rw [show finishEvents (run.addOutput.add _ true) "failed" = _ from finished]
      rfl
    rw [concluded, loopResponse_ok, executeResponse_accepted nothing, cut]
    simp only [List.forall_mem_append, List.forall_mem_singleton, finish_writes, and_true,
      exception_said]
    rw [and_comm (b := Encodable _), and_assoc]
    exact Iff.rfl
  · -- Only capacity one leaves no place, and then the exception is the only event.
    have capacity : reported.maxEvents = run.maxEvents := same.trans maxEvents
    have one : run.maxEvents = 1 := by
      have length := congrArg List.length cut
      rw [List.length_append, List.length_take, List.length_singleton] at length
      unfold WorkerRun.Bounded at bounded
      omega
    have alone : reported.events = [exception] := by
      rw [cut, one]
      rfl
    have merged : finishEvents reported "failed" = .ok [.data .exception
        ([("type", wireText typeName), ("message", .str (message.take 2048))] ++
          finishEntries "failed" reported.dropped) (some true)] := by
      have full : ¬ 1 < reported.maxEvents := by omega
      simp only [finishEvents, alone, List.length_singleton, full, if_false,
        List.getLast?_singleton, exception, updateEntries_exception]
      rfl
    have concluded : concludeExecute run (.failed ⟨typeName, .ok message⟩) =
        .ok (executeResponse run "failed" (none, none) [.data .exception
          ([("type", wireText typeName), ("message", .str (message.take 2048))] ++
            finishEntries "failed" reported.dropped) (some true)]) := by
      simp only [concludeExecute]
      rw [show finishEvents (run.addOutput.add _ true) "failed" = _ from merged]
      rfl
    have ending : ∀ entry ∈ finishEntries "failed" reported.dropped,
        entry.2.writes true = true := by
      cases reported.dropped <;> simp [finishEntries, WireValue.writes]
    rw [concluded, loopResponse_ok, executeResponse_accepted nothing]
    simp only [List.forall_mem_singleton, exception_writes ending]
    simp [Sayable, Shown, one]

/-- The loop answers the end of a program in one line exactly when it can be said. -/
theorem concludeExecute_sayable (bounded : run.Bounded) (outcome : Outcome) :
    (∃ line, loopResponse (concludeExecute run outcome) = some line ∧ Accepted line) ↔
      Sayable outcome run := by
  cases outcome with
  | finished value => exact concludeExecute_finished bounded value
  | failed exception =>
    obtain ⟨typeName, message⟩ := exception
    cases message with
    | ok message => exact concludeExecute_failed bounded typeName message
    | error second =>
      -- The text of the exception raised another one, which reaches the loop.
      exact loopResponse_error
  | escaped exception =>
    obtain ⟨typeName, message⟩ := exception
    have raised : concludeExecute run (.escaped ⟨typeName, message⟩) =
        .error { typeName := typeName, message := message.toOption } := rfl
    rw [raised, loopResponse_error]
    cases message with
    | ok message => simp [Sayable, Except.toOption]
    | error second => simp [Sayable, Except.toOption]

end Responses

section Commands

variable {interpreter : Interpreter} {space : Variables}

/-- An exception with this text can be said by the loop. -/
def RaisedException.Plain (exception : RaisedException) : Prop :=
  ∃ message, exception.message = some message ∧ Encodable (message.take 2048)

theorem unicodeEncodeError_plain : unicodeEncodeError.Plain :=
  ⟨_, rfl, by decide +kernel⟩

/-- What is said of a variable can be written, and so can what is raised instead. -/
theorem variableSummary_plain (entry : PyString × PyValue) :
    (∀ line, variableSummary entry = .ok line → line.writes true = true) ∧
      ∀ exception, variableSummary entry = .error exception → exception.Plain := by
  unfold variableSummary
  by_cases found : CannotEncode 12 4096 entry.2
  · have raised : (require (¬ CannotEncode 12 4096 entry.2) unicodeEncodeError :
        Except RaisedException Unit) = .error unicodeEncodeError := if_neg (not_not.mpr found)
    rw [raised]
    refine ⟨fun line done => (by cases done), fun exception done => ?_⟩
    cases done
    exact unicodeEncodeError_plain
  · have passed : (require (¬ CannotEncode 12 4096 entry.2) unicodeEncodeError :
        Except RaisedException Unit) = .ok () := if_pos found
    rw [passed, ok_bind]
    by_cases valid : ValidName entry.1 ∧ entry.2.typeName ≠ ""
    · simp only [require, if_pos valid, ok_bind]
      refine ⟨fun line done => ?_, fun exception done => by cases done⟩
      cases done
      simp [wireObject_writes, WireValue.writes, valid.1.encodable]
    · simp only [require, if_neg valid]
      refine ⟨fun line done => (by cases done), fun exception done => ?_⟩
      cases done
      exact ⟨_, rfl, by decide +kernel⟩

/-- What is said of all variables can be written, and so can what is raised instead. -/
theorem mapM_variableSummary (own : Namespace) :
    (∀ lines, own.mapM variableSummary = .ok lines → ∀ line ∈ lines, line.writes true = true) ∧
      ∀ exception, own.mapM variableSummary = .error exception → exception.Plain := by
  induction own with
  | nil =>
    refine ⟨fun lines done line member => ?_, fun exception done => by cases done⟩
    cases done
    cases member
  | cons entry rest hypothesis =>
    obtain ⟨said, refused⟩ := variableSummary_plain entry
    rw [List.mapM_cons]
    rcases first : variableSummary entry with exception | line
    · refine ⟨fun lines done => (by cases done), fun exception done => ?_⟩
      cases done
      exact refused _ first
    · rcases others : rest.mapM variableSummary with exception | lines
      · refine ⟨fun lines done => (by cases done), fun exception done => ?_⟩
        cases done
        exact hypothesis.2 _ others
      · refine ⟨fun lines done line member => ?_, fun exception done => by cases done⟩
        cases done
        rcases List.mem_cons.mp member with rfl | later
        · exact said _ first
        · exact hypothesis.1 _ others _ later

/-- An inspection is answered in one line, whatever the variables are. -/
theorem inspect_accepted :
    ∃ line, loopResponse (Worker.inspect interpreter space) = some line ∧ Accepted line := by
  obtain ⟨said, refused⟩ :=
    mapM_variableSummary (userVariables (interpreter.IsUserName ·) space.entries)
  unfold Worker.inspect
  rcases found : (userVariables (interpreter.IsUserName ·) space.entries).mapM
    variableSummary with exception | lines
  · exact loopResponse_error.mpr (refused _ found)
  · refine ⟨_, rfl, ?_⟩
    rw [wireObject_accepted]
    simpa [WireValue.writes, itemsWrite_iff] using said _ found

/-- A checkpoint is answered in one line unless it names a variable without an encoding. -/
theorem checkpointResponse_accepted (policy : WorkspaceCheckpointPolicy) :
    (∃ line, loopResponse (checkpointResponse interpreter policy space) = some line ∧
        Accepted line) ↔
      (Readable policy (userVariables (interpreter.IsUserName ·) space.entries) {} →
        ∀ entry ∈ userVariables (interpreter.IsUserName ·) space.entries, Encodable entry.1) := by
  rw [← foldlM_scanVariable_ok]
  unfold checkpointResponse checkpoint
  rcases scanned : (userVariables (interpreter.IsUserName ·) space.entries).foldlM
    (scanVariable policy) {} with error | scan
  · -- The scan raised, and the loop says so in ASCII.
    refine iff_of_true (loopResponse_error.mpr unicodeEncodeError_plain) ?_
    intro ⟨done, impossible⟩
    cases impossible
  · have gathered : Gathered policy (userVariables (interpreter.IsUserName ·) space.entries)
        scan := by
      simpa using Gathered.nil.foldlM _ scanned
    have portable : ∀ item ∈ scan.values, item.value.encodable = true := by
      intro item member
      obtain ⟨_, _, encodable⟩ := portableValue_ok.mp (gathered.portable item member)
      exact encodable
    have values : ∀ item ∈ scan.values, (wireObject [("name", .str item.name),
        ("value", toWire item.value)]).writes true = true ↔ Encodable item.name := by
      intro item member
      simp [wireObject_writes, WireValue.writes, toWire_writes, portable item member]
    have names : (∀ entry ∈ userVariables (interpreter.IsUserName ·) space.entries,
        Encodable entry.1) ↔
          (∀ item ∈ scan.values, Encodable item.name) ∧
            ∀ item ∈ scan.exclusions, Encodable item.name := by
      -- The names of both lists are the names that were read.
      have read : ∀ name, name ∈ scan.values.map WorkspaceCheckpointValue.name ++
          scan.exclusions.map WorkspaceCheckpointExclusion.name ↔
            name ∈ (userVariables (interpreter.IsUserName ·) space.entries).map Prod.fst :=
        fun name => gathered.complete.mem_iff
      have named : (∀ name ∈ (userVariables (interpreter.IsUserName ·) space.entries).map Prod.fst,
          Encodable name) ↔ ∀ name ∈ scan.values.map WorkspaceCheckpointValue.name ++
            scan.exclusions.map WorkspaceCheckpointExclusion.name, Encodable name :=
        forall_congr' fun name => by rw [read name]
      simpa only [List.forall_mem_map, List.forall_mem_append] using named
    have exclusions : ∀ item ∈ scan.exclusions, (wireObject [("name", .str item.name),
        ("type_name", wireText item.typeName), ("reason", wireText item.reason)]).writes true =
          true ↔ Encodable item.name := by
      intro item _
      simp [wireObject_writes, WireValue.writes]
    rw [loopResponse_ok, wireObject_accepted, names]
    have lists : (∀ entry ∈ [("ok", WireValue.bool true),
        ("values", .array (scan.values.map fun item =>
          wireObject [("name", .str item.name), ("value", toWire item.value)])),
        ("exclusions", .array (scan.exclusions.map fun item =>
          wireObject [("name", .str item.name), ("type_name", wireText item.typeName),
            ("reason", wireText item.reason)]))], entry.2.writes true = true) ↔
        (∀ item ∈ scan.values, Encodable item.name) ∧
          ∀ item ∈ scan.exclusions, Encodable item.name := by
      simp only [List.forall_mem_cons, List.not_mem_nil, false_implies, implies_true,
        WireValue.writes, itemsWrite_iff, List.forall_mem_map, true_and, and_true]
      exact and_congr (forall₂_congr values) (forall₂_congr exclusions)
    rw [lists]
    exact ⟨fun said _ => said, fun said => said ⟨scan, rfl⟩⟩

end Commands

section Loop

variable {interpreter : Interpreter}

/-- A program ends in a run that keeps the last place for the end of its execution. -/
theorem runCell_bounded (request : ExecuteRequest) (program : Program) (space : Variables) :
    (runCell request program space).2.Bounded := by
  have started : (startedRun request space).Bounded := by
    refine WorkerRun.Bounded.add ?_ _
    exact request.maxEvents_range.1
  exact program.run_invariant WorkerRun.Bounded
    (fun _ question bounded => respond_bounded request question bounded) started

/--
A command leaves nothing that cannot be said in one line of JSON.

For a program it is about its end, and for a checkpoint about the names it lists.
-/
def Command.Sayable (interpreter : Interpreter) (command : Command) (space : Variables) : Prop :=
  match command with
  | .execute request program =>
    Worker.Sayable (runCell request program space).1 (runCell request program space).2
  | .checkpoint policy =>
    Readable policy (userVariables (interpreter.IsUserName ·) space.entries) {} →
      ∀ entry ∈ userVariables (interpreter.IsUserName ·) space.entries, Encodable entry.1
  | .inspect | .restore _ => True

/-- A command is answered with a line that is accepted exactly when it is sayable. -/
theorem dispatch_accepted (command : Command) (space : Variables) :
    (∃ line, loopResponse (dispatch interpreter command space).1 = some line ∧
        Accepted line) ↔ command.Sayable interpreter space := by
  cases command with
  | execute request program =>
    exact concludeExecute_sayable (runCell_bounded request program space) _
  | inspect => exact iff_of_true inspect_accepted trivial
  | checkpoint policy => exact checkpointResponse_accepted policy
  | restore values =>
    refine iff_of_true ⟨_, rfl, ?_⟩ trivial
    simp [wireObject_accepted, WireValue.writes]

/-- A command line that is answered with exactly one response line by a worker that goes on. -/
structure OneResponse (interpreter : Interpreter) (command : Command) (process : Process) :
    Prop where
  ready : process.ended = false
  next : (turn interpreter command process).ended = false
  line : ∃ (frames : List WireValue) (line : WireValue),
    (turn interpreter command process).written =
      process.written ++ frames.map WrittenLine.frame ++ [.response line] ∧ Accepted line

/-- A worker that is ready answers a command with one line exactly when it is sayable. -/
theorem oneResponse_iff {process : Process} (ready : process.ended = false) (command : Command) :
    OneResponse interpreter command process ↔ command.Sayable interpreter process.space := by
  rw [← dispatch_accepted]
  -- One turn of a worker that is ready dispatches the command and writes what comes of it.
  have turned : turn interpreter command process = Process.write
      { process with
        space := (dispatch interpreter command process.space).2.2
        written := process.written ++
          (dispatch interpreter command process.space).2.1.map .frame }
      (loopResponse (dispatch interpreter command process.space).1) := by
    simp [turn, ready]
  constructor
  · intro answered
    obtain ⟨frames, line, written, accepted⟩ := answered.line
    have next := answered.next
    rw [turned] at next written
    cases found : loopResponse (dispatch interpreter command process.space).1 with
    | none => simp [found, Process.write] at next
    | some response =>
      by_cases writes : response.writes false = true
      · refine ⟨response, rfl, ?_⟩
        simp only [found, Process.write, if_pos writes] at written
        have last := (List.append_inj' written rfl).2
        obtain rfl : response = line := by simpa using last
        exact accepted
      · simp [found, Process.write, writes] at next
  · intro ⟨line, found, accepted⟩
    have writes := writes_lax line accepted.1
    refine ⟨ready, ?_, (dispatch interpreter command process.space).2.1, line, ?_, accepted⟩
    · rw [turned, found]
      simp [Process.write, writes, ready]
    · rw [turned, found]
      simp [Process.write, writes]

/-- A program that prints a text without an encoding. -/
def Sample.printing : Program :=
  .ask (.write .stdout [0xd800]) fun _ => .done (.finished .none)

end Loop

end Aar.Workspace.Worker
