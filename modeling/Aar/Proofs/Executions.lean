import Aar.Lib.Run
import Aar.Proofs.Checkpoints
import Aar.Workspace.PlainBackend

/-! When an execution of the plain backend is recorded, and what is left when it is not. -/

namespace Aar.Workspace

open Guarded Interactions

section Dictionary

variable {space : Variables} {name other : PyString} {value : PyValue}

/-- A forgotten name is not found, and every other name is found as before. -/
theorem Variables.find_pop :
    (space.pop name).find other = if other = name then none else space.find other := by
  -- Compare what the two sides list under the name.
  refine Option.ext fun found => ?_
  rw [Variables.find_some]
  by_cases same : other = name
  · simp [same, Variables.pop, Variables.keep]
  · simp [same, Variables.find_some, Variables.pop, Variables.keep]

/-- A bound name is found with its value, and every other name is found as before. -/
theorem Variables.find_set :
    (space.set name value).find other =
      if other = name then some value else space.find other := by
  refine Option.ext fun found => ?_
  rw [Variables.find_some]
  have listed : (other, found) ∈ (space.set name value).entries ↔
      (other, found) ∈ (space.pop name).entries ∨ (other, found) = (name, value) := by
    simp [Variables.set]
  rw [listed, ← Variables.find_some, Variables.find_pop]
  by_cases same : other = name
  · simp [same, eq_comm]
  · simp [same]

/-- Names that are bound again are found as they were bound before, and others as they are. -/
theorem Plain.find_rebind (previous : PyString → Option PyValue) (names : List PyString) :
    ∀ space : Variables, (Plain.rebind previous names space).find other =
      if other ∈ names then previous other else space.find other := by
  induction names with
  | nil =>
    intro space
    simp [Plain.rebind]
  | cons name names hypothesis =>
    intro space
    rw [Plain.rebind, List.foldl_cons, ← Plain.rebind, hypothesis]
    by_cases later : other ∈ names
    · simp [later]
    · by_cases here : other = name
      · subst here
        cases bound : previous other <;> simp [later, Variables.find_pop, Variables.find_set]
      · cases bound : previous name <;>
          simp [later, here, Variables.find_pop, Variables.find_set]

end Dictionary

section Collector

/-- The events of a collector are numbered from one, without a gap. -/
def EventCollector.Numbered (collector : EventCollector) : Prop :=
  collector.events.map WorkspaceEvent.sequence = List.range' 1 collector.events.length

variable {collector : EventCollector}

/-- An event that gives up its place leaves the others numbered. -/
theorem EventCollector.Numbered.makeRoom (numbered : collector.Numbered) :
    collector.makeRoom.Numbered := by
  unfold EventCollector.makeRoom
  split
  · -- The event was the last one, and so was its number.
    unfold EventCollector.Numbered at numbered ⊢
    simp only [List.map_dropLast, numbered, List.length_dropLast]
    rw [List.dropLast_eq_take, List.length_range', List.take_range'_of_length_ge (Nat.sub_le _ _)]
  · exact numbered

/-- One more event takes the next number. -/
theorem EventCollector.Numbered.push (numbered : collector.Numbered)
    (draft : Option WorkspaceEvent) : (collector.push draft).2.Numbered := by
  cases draft with
  | none => exact numbered
  | some event =>
    unfold EventCollector.push
    dsimp only
    split
    · unfold EventCollector.Numbered at numbered ⊢
      simp [numbered, List.range'_concat, Nat.add_comm]
    · exact numbered

theorem EventCollector.Numbered.append (numbered : collector.Numbered)
    (draft : Option WorkspaceEvent) (force : Bool) :
    (collector.append draft force).2.Numbered := by
  unfold EventCollector.append
  split
  · exact numbered
  · exact numbered.makeRoom.push draft

/-- A text that was written leaves the events numbered. -/
theorem EventCollector.Numbered.stream (numbered : collector.Numbered)
    (kind : WorkspaceEventKind) (text : PyString) : (collector.stream kind text).2.Numbered := by
  unfold EventCollector.stream
  split
  · exact numbered
  · dsimp only
    split
    · -- Counting the characters does not touch the events.
      have counted : ({ collector with remainingOutputChars :=
          collector.remainingOutputChars - (collector.shown text).length } :
            EventCollector).Numbered := numbered
      exact counted.append _ _
    · exact numbered

end Collector

section Programs

open Plain

variable {run : Run}

theorem Plain.Run.structured_numbered (numbered : run.collector.Numbered)
    (kind : WorkspaceEventKind) (data : Option JsonValue) :
    (run.structured kind data).2.collector.Numbered :=
  numbered.append _ _

/-- Written lines leave the events numbered. -/
theorem Plain.writeLines_numbered (stream : OutputStream) (text : PyString) :
    ∀ (line : PyString) (collector : EventCollector), collector.Numbered →
      (writeLines stream line text collector).2.2.Numbered := by
  induction text with
  | nil =>
    intro line collector numbered
    exact numbered
  | cons code rest hypothesis =>
    intro line collector numbered
    unfold writeLines
    split
    · -- A finished line goes to the collector, which may refuse it.
      have streamed := numbered.stream stream.kind (line ++ [code])
      split
      · rename_i next accepted
        rw [accepted] at streamed
        exact hypothesis [] next streamed
      · rename_i next refused
        rw [refused] at streamed
        exact streamed
    · exact hypothesis _ collector numbered

/-- A flushed output leaves the events numbered. -/
theorem Plain.Run.flush_numbered (numbered : run.collector.Numbered) (stream : OutputStream) :
    (run.flush stream).2.collector.Numbered := by
  have streamed := numbered.stream stream.kind (run.buffer stream)
  unfold Run.flush
  split
  · rename_i next accepted
    rw [accepted] at streamed
    cases stream <;> exact streamed
  · rename_i next refused
    rw [refused] at streamed
    exact streamed

/-- A handed over artifact leaves the events numbered. -/
theorem Plain.Run.artifact_numbered (hasSink : Bool) (numbered : run.collector.Numbered)
    (name : Option PyString) (content : ArtifactContent) (reference : Option String) :
    (run.artifact hasSink name content reference).2.collector.Numbered := by
  unfold Run.artifact
  dsimp only
  split
  · exact numbered
  · exact numbered
  · rename_i reference _
    have added := numbered.append (some { kind := .artifact, artifact := some reference }) false
    split
    · rename_i refused
      rw [refused] at added
      exact added
    · rename_i accepted
      rw [accepted] at added
      split
      · exact added
      · exact added.append _ _

/-- Whatever a program does leaves the events numbered. -/
theorem Plain.respond_numbered (hasSink : Bool) (question : Ask)
    (numbered : run.collector.Numbered) :
    (respond hasSink run question).2.collector.Numbered := by
  cases question with
  | compute change => exact numbered
  | write stream text =>
    have written := writeLines_numbered stream (run.buffer stream ++ text) [] _ numbered
    cases stream <;> exact written
  | flush stream => exact Run.flush_numbered numbered stream
  | display value mediaType =>
    simp only [respond, Run.perform, Run.display]
    split
    · exact numbered
    · exact numbered
    · exact Run.structured_numbered numbered _ _
  | progress message completed total =>
    cases message with
    | none => exact numbered
    | some message => exact Run.structured_numbered numbered _ _
  | artifact name content reference => exact Run.artifact_numbered hasSink numbered _ _ _

end Programs

section Ending

open Plain

/-- The number of events that the end of a program adds of its own. -/
def Plain.ProgramOutcome.reports : ProgramOutcome → Nat
  | .completed | .value _ => 0
  | .alarmed _ | .raised _ => 1

/-- An exception of a program can be described in an event. -/
def Plain.ProgramOutcome.Describable (outcome : ProgramOutcome) : Prop :=
  ∀ exception, outcome = .raised exception → exception.alarm = none ∧
    ∃ message traceback, exception.message = some message ∧
      exception.traceback = some traceback ∧
        EventData (exceptionData exception.typeName message traceback)

/--
What the end of a program leaves can be recorded.

It is about the exception or the value that ends the program, the texts that its outputs still
buffer as far as they would be shown, and the revision that the result is to have.
-/
structure Plain.Recordable (revision : Nat) (outcome : ProgramOutcome) (run : Run) : Prop where
  exception : outcome.Describable
  value : ∀ value, outcome = .value value → ¬ CannotEncode 12 4096 value
  stdout : run.collector.events.length + outcome.reports + 1 < run.collector.maxEvents →
    Encodable (run.collector.shown run.stdout)
  stderr : run.collector.events.length + outcome.reports +
      (if run.collector.shown run.stdout = [] then 0 else 1) + 1 < run.collector.maxEvents →
    Encodable (run.stderr.take (min (run.collector.remainingOutputChars -
      (run.collector.shown run.stdout).length) 8192))
  revision : revision < maxRevision

/-- A collector that has taken events from a text that was shown and from elsewhere. -/
structure Took (before : EventCollector) (added shown : Nat) (after : EventCollector) : Prop where
  maxEvents : after.maxEvents = before.maxEvents
  remaining : after.remainingOutputChars = before.remainingOutputChars - shown
  places : ∀ more, after.maxEvents ≤ after.events.length + more + 1 ↔
    before.maxEvents ≤ before.events.length + added + more + 1

variable {collector : EventCollector}

/-- An exception event finds its place, whatever was collected before it. -/
theorem append_forced {event : WorkspaceEvent} (valid : event.Valid) :
    (collector.append (some event) true).1 = .ok () ∧
      Took collector 1 0 (collector.append (some event) true).2 := by
  have pushed : collector.append (some event) true = collector.makeRoom.push (some event) := by
    simp [EventCollector.append]
  rw [pushed]
  simp only [EventCollector.push, if_pos valid, true_and]
  unfold EventCollector.makeRoom
  split
  · -- The place of the last event is taken, and the collector stays full.
    rename_i full
    unfold EventCollector.Full at full
    refine ⟨rfl, rfl, fun more => ?_⟩
    simp only [List.length_append, List.length_dropLast, List.length_singleton]
    omega
  · exact ⟨rfl, rfl, fun more => by simp⟩

theorem append_refused {event : WorkspaceEvent} (invalid : ¬ event.Valid) :
    (collector.append (some event) true).1 ≠ .ok () := by
  simp [EventCollector.append, EventCollector.push, invalid]

theorem exception_valid {data : JsonValue} :
    ({ kind := .exception, data := some data } : WorkspaceEvent).Valid ↔ EventData data := by
  simp [WorkspaceEvent.Valid, WorkspaceEvent.Matches]

/-- The event for shown text is valid exactly when the text has an encoding. -/
theorem output_valid (stream : OutputStream) {text : PyString} {truncated : Bool} :
    ({ kind := stream.kind, text := some (collector.shown text), truncated := truncated } :
      WorkspaceEvent).Valid ↔ Encodable (collector.shown text) := by
  have short : (collector.shown text).length ≤ 8192 := by
    simp only [EventCollector.shown, List.length_take]
    omega
  cases stream <;>
    simp [WorkspaceEvent.Valid, WorkspaceEvent.Matches, OutputStream.kind, short]

/-- A text is streamed unless there is a place for it and it has no encoding. -/
theorem stream_ok (stream : OutputStream) (text : PyString) :
    (collector.stream stream.kind text).1 = .ok () ↔
      (¬ collector.Full → Encodable (collector.shown text)) := by
  by_cases empty : text = []
  · -- Nothing is written, and the empty text has an encoding.
    simp [EventCollector.stream, EventCollector.shown, empty, Encodable]
  by_cases hidden : collector.shown text = []
  · simp [EventCollector.stream, empty, hidden, Encodable]
  by_cases full : collector.Full
  · have still : ({ collector with remainingOutputChars :=
        collector.remainingOutputChars - (collector.shown text).length } :
          EventCollector).Full := full
    simp [EventCollector.stream, empty, hidden, EventCollector.append, still, full]
  · have room : ¬ ({ collector with remainingOutputChars :=
        collector.remainingOutputChars - (collector.shown text).length } :
          EventCollector).Full := full
    simp only [EventCollector.stream, empty, hidden, if_false, ne_eq, not_false_eq_true, if_true,
      EventCollector.append, room, false_and, EventCollector.makeRoom, EventCollector.push,
      output_valid, full, true_implies]
    split <;> simp [*]

/-- A text that is streamed takes a place and its characters, as far as there were any left. -/
theorem stream_took (stream : OutputStream) (text : PyString)
    (streamed : (collector.stream stream.kind text).1 = .ok ()) :
    Took collector (if collector.shown text = [] then 0 else 1) (collector.shown text).length
      (collector.stream stream.kind text).2 := by
  have encodable := (stream_ok stream text).mp streamed
  by_cases empty : text = []
  · subst empty
    have nothing : collector.shown [] = [] := by simp [EventCollector.shown]
    simp only [EventCollector.stream, if_true, nothing]
    exact ⟨rfl, rfl, fun _ => Iff.rfl⟩
  by_cases hidden : collector.shown text = []
  · simp only [EventCollector.stream, empty, hidden, if_false, if_true, ne_eq, not_true_eq_false]
    exact ⟨rfl, rfl, fun _ => Iff.rfl⟩
  by_cases full : collector.Full
  · have still : ({ collector with remainingOutputChars :=
        collector.remainingOutputChars - (collector.shown text).length } :
          EventCollector).Full := full
    simp only [EventCollector.stream, empty, hidden, if_false, ne_eq, not_false_eq_true, if_true,
      EventCollector.append, still, true_and]
    refine ⟨rfl, rfl, fun more => ?_⟩
    unfold EventCollector.Full at full
    dsimp only
    omega
  · have room : ¬ ({ collector with remainingOutputChars :=
        collector.remainingOutputChars - (collector.shown text).length } :
          EventCollector).Full := full
    have valid : WorkspaceEvent.Valid {
        kind := stream.kind
        text := some (collector.shown text)
        truncated := decide ((collector.shown text).length < text.length) } :=
      (output_valid stream).mpr (encodable full)
    simp only [EventCollector.stream, empty, hidden, if_false, ne_eq, not_false_eq_true, if_true,
      EventCollector.append, room, false_and, EventCollector.makeRoom, EventCollector.push, valid]
    exact ⟨rfl, rfl, fun more => by simp⟩

variable {run : Run}

theorem alarmData_valid (alarm : Alarm) : EventData (alarmData alarm) := by
  cases alarm <;> decide +kernel

theorem escaping_ok {α : Type} {answered : Except HelperError α} {answer : α} :
    escaping answered = .ok answer ↔ answered = .ok answer := by
  cases answered <;> simp [escaping]

/-- The end of a program is reported exactly when its exception can be described. -/
theorem report_ok (outcome : ProgramOutcome) :
    (outcome.report run).1 = .ok () ↔ outcome.Describable := by
  cases outcome with
  | completed => simp [ProgramOutcome.report, ProgramOutcome.Describable]
  | value last => simp [ProgramOutcome.report, ProgramOutcome.Describable]
  | alarmed alarm =>
    have added : (run.collector.append
        (some ⟨0, .exception, none, some (alarmData alarm), none, false⟩) true).1 = .ok () :=
      (append_forced (exception_valid.mpr (alarmData_valid alarm))).1
    simpa [ProgramOutcome.report, ProgramOutcome.Describable, Run.structured,
      EventCollector.structured, escaping_ok] using added
  | raised exception =>
    obtain ⟨typeName, message, traceback, alarm⟩ := exception
    simp only [ProgramOutcome.Describable, ProgramOutcome.raised.injEq]
    rcases alarm with _ | alarm
    · rcases message with _ | message
      · constructor
        · intro impossible
          simp [ProgramOutcome.report] at impossible
        · intro describable
          obtain ⟨_, _, _, ⟨⟩, _⟩ := describable _ rfl
      rcases traceback with _ | traceback
      · constructor
        · intro impossible
          simp [ProgramOutcome.report] at impossible
        · intro describable
          obtain ⟨_, _, _, _, ⟨⟩, _⟩ := describable _ rfl
      -- Both texts are there, and only the size and the encoding of the event remain.
      have reported : ((ProgramOutcome.raised
          ⟨typeName, some message, some traceback, none⟩).report run).1 = .ok () ↔
            (run.collector.append
              (some ⟨0, .exception, none, some (exceptionData typeName message traceback), none,
                false⟩) true).1 = .ok () := by
        simp [ProgramOutcome.report, Run.structured, EventCollector.structured, escaping_ok]
      rw [reported]
      constructor
      · intro added exception same
        subst same
        refine ⟨rfl, message, traceback, rfl, rfl, ?_⟩
        by_contra refused
        exact append_refused (exception_valid.not.mpr refused) added
      · intro describable
        obtain ⟨_, _, _, ⟨⟩, ⟨⟩, accepted⟩ := describable _ rfl
        exact (append_forced (exception_valid.mpr accepted)).1
    · constructor
      · intro impossible
        simp [ProgramOutcome.report] at impossible
      · intro describable
        exact absurd (describable _ rfl).1 (by simp)

/-- A reported end leaves the outputs and the namespace alone and takes its place. -/
theorem report_took {outcome : ProgramOutcome} (reported : (outcome.report run).1 = .ok ()) :
    Took run.collector outcome.reports 0 (outcome.report run).2.collector ∧
      (outcome.report run).2.stdout = run.stdout ∧
      (outcome.report run).2.stderr = run.stderr ∧
      (outcome.report run).2.space = run.space := by
  have describable := (report_ok outcome).mp reported
  cases outcome with
  | completed => exact ⟨⟨rfl, rfl, fun _ => Iff.rfl⟩, rfl, rfl, rfl⟩
  | value last => exact ⟨⟨rfl, rfl, fun _ => Iff.rfl⟩, rfl, rfl, rfl⟩
  | alarmed alarm =>
    exact ⟨(append_forced (exception_valid.mpr (alarmData_valid alarm))).2, rfl, rfl, rfl⟩
  | raised exception =>
    obtain ⟨typeName, message, traceback, alarm⟩ := exception
    obtain ⟨silent, text, trace, told, traced, accepted⟩ := describable _ rfl
    dsimp only at silent told traced accepted
    subst silent told traced
    exact ⟨(append_forced (exception_valid.mpr accepted)).2, rfl, rfl, rfl⟩

theorem flush_ok (stream : OutputStream) :
    (run.flush stream).1 = .ok () ↔
      (run.collector.stream stream.kind (run.buffer stream)).1 = .ok () := by
  unfold Run.flush
  split <;> simp [*]

theorem flush_fields (stream : OutputStream) :
    (run.flush stream).2.collector =
        (run.collector.stream stream.kind (run.buffer stream)).2 ∧
      (run.flush stream).2.space = run.space := by
  unfold Run.flush
  split
  · rename_i accepted
    rw [accepted]
    cases stream <;> exact ⟨rfl, rfl⟩
  · rename_i refused
    rw [refused]
    exact ⟨rfl, rfl⟩

theorem flush_stderr : (run.flush .stdout).2.stderr = run.stderr := by
  unfold Run.flush
  split <;> rfl

theorem cleanup_ok (previous : PyString → Option PyValue) :
    (run.cleanup previous).1 = .ok () ↔
      (run.flush .stdout).1 = .ok () ∧ ((run.flush .stdout).2.flush .stderr).1 = .ok () := by
  unfold Run.cleanup
  rcases first : run.flush .stdout with ⟨error | ⟨⟩, after⟩
  · simp
  · rcases second : after.flush .stderr with ⟨error | ⟨⟩, last⟩ <;> simp [second]

/-- When the last clause succeeds, the reserved names are bound as they were before. -/
theorem cleanup_space (previous : PyString → Option PyValue)
    (cleaned : (run.cleanup previous).1 = .ok ()) :
    (run.cleanup previous).2.space = rebind previous reservedNames run.space := by
  obtain ⟨flushed, flushed_too⟩ := (cleanup_ok previous).mp cleaned
  have kept : (run.flush .stdout).2.space = run.space := (flush_fields .stdout).2
  have kept_too : ((run.flush .stdout).2.flush .stderr).2.space = (run.flush .stdout).2.space :=
    (flush_fields .stderr).2
  unfold Run.cleanup
  rcases first : run.flush .stdout with ⟨error | ⟨⟩, after⟩
  · simp [first] at flushed
  · rcases second : after.flush .stderr with ⟨error | ⟨⟩, last⟩
    · simp [first, second] at flushed_too
    · simp only [first, second] at kept kept_too ⊢
      rw [kept_too, kept]

/-- The events are handed over with a last one, and all of them are numbered. -/
theorem finish_ok (numbered : collector.Numbered) (status : WorkspaceExecutionStatus) :
    ∃ events, collector.finish status = .ok events ∧
      events.map WorkspaceEvent.sequence = List.range' 1 events.length := by
  have ending : ∀ dropped, EventData (jsonObject (finishData status dropped)) := by
    cases status <;> decide +kernel
  unfold EventCollector.finish
  dsimp only
  split
  · have valid : WorkspaceEvent.Valid {
        sequence := collector.events.length + 1, kind := .progress
        data := some (jsonObject (finishData status collector.droppedEvents))
        truncated := collector.droppedEvents } := by
      simp [WorkspaceEvent.Valid, WorkspaceEvent.Matches, ending]
    refine ⟨collector.events ++ [_], by simp only [require, if_pos valid]; rfl, ?_⟩
    unfold EventCollector.Numbered at numbered
    simp [numbered, List.range'_concat, Nat.add_comm]
  · split
    · -- The only event keeps its number when the end is merged into it.
      unfold EventCollector.Numbered at numbered
      cases listed : collector.events with
      | nil => exact ⟨[], rfl, rfl⟩
      | cons event rest =>
        rw [listed] at numbered
        exact ⟨_, rfl, by simpa using numbered⟩
    · exact ⟨collector.events, rfl, numbered⟩

theorem Took.shown {before after : EventCollector} {added : Nat}
    (took : Took before added 0 after) (text : PyString) :
    after.shown text = before.shown text := by
  simp [EventCollector.shown, took.remaining]

/-- After a reported end, the outputs can be flushed exactly when what they show has encodings. -/
theorem cleaned_iff {outcome : ProgramOutcome} (previous : PyString → Option PyValue)
    (reported : (outcome.report run).1 = .ok ()) :
    ((outcome.report run).2.cleanup previous).1 = .ok () ↔
      (run.collector.events.length + outcome.reports + 1 < run.collector.maxEvents →
        Encodable (run.collector.shown run.stdout)) ∧
      (run.collector.events.length + outcome.reports +
          (if run.collector.shown run.stdout = [] then 0 else 1) + 1 < run.collector.maxEvents →
        Encodable (run.stderr.take (min (run.collector.remainingOutputChars -
          (run.collector.shown run.stdout).length) 8192))) := by
  obtain ⟨took, stdout_kept, stderr_kept, -⟩ := report_took reported
  have shown := took.shown run.stdout
  have room := took.places 0
  -- The first flush is decided by the places that the report left.
  have first : ((outcome.report run).2.flush .stdout).1 = .ok () ↔
      (run.collector.events.length + outcome.reports + 1 < run.collector.maxEvents →
        Encodable (run.collector.shown run.stdout)) := by
    have buffered : (outcome.report run).2.buffer .stdout = run.stdout := stdout_kept
    rw [flush_ok, stream_ok, buffered, shown, EventCollector.Full]
    simp only [Nat.add_zero] at room
    rw [room, Nat.not_le]
  rw [cleanup_ok, first]
  refine and_congr_right fun encodable => ?_
  -- The second flush is decided by what the first one left of them.
  have flushed := first.mpr encodable
  have taken := stream_took .stdout _ ((flush_ok .stdout).mp flushed)
  have buffered : (outcome.report run).2.buffer .stdout = run.stdout := stdout_kept
  rw [← (flush_fields .stdout).1, buffered, shown] at taken
  have stderr_buffered : ((outcome.report run).2.flush .stdout).2.buffer .stderr = run.stderr :=
    flush_stderr.trans stderr_kept
  have left := taken.remaining
  rw [took.remaining, Nat.sub_zero] at left
  rw [flush_ok, stream_ok, stderr_buffered, EventCollector.shown, left, EventCollector.Full]
  have places := (taken.places 0).trans (took.places _)
  simp only [Nat.add_zero] at places
  rw [places, Nat.not_le]

/-- A value is presented as the portable value it has, or as the reason why it has none. -/
theorem present_value {value : PyValue} (some_value : value ≠ .none) :
    (ProgramOutcome.value value).present =
      match portableValue 12 4096 value with
      | .ok portable =>
        if canonicalLength portable ≤ 65536 then .ok (some portable, none)
        else .ok (none, some "portable result exceeds 65536 bytes")
      | .error (.portableValueError reason) => .ok (none, some reason)
      | .error _ => .error .unicodeEncodeError := by
  cases value <;> first | exact absurd rfl some_value | rfl

/-- An outcome can be presented unless its value has a text without an encoding. -/
theorem present_ok (outcome : ProgramOutcome) :
    (∃ presented, outcome.present = .ok presented) ↔
      ∀ value, outcome = .value value → ¬ CannotEncode 12 4096 value := by
  cases outcome with
  | completed => simp [ProgramOutcome.present]
  | alarmed alarm => simp [ProgramOutcome.present]
  | raised exception => simp [ProgramOutcome.present]
  | value last =>
    by_cases nothing : last = .none
    · subst nothing
      have portable : ¬ CannotEncode 12 4096 .none := by decide +kernel
      simpa [ProgramOutcome.present] using portable
    · rw [present_value nothing]
      simp only [ProgramOutcome.value.injEq, forall_eq', CannotEncode]
      rcases converted : portableValue 12 4096 last with error | portable
      · cases error with
        | portableValueError reason => simp
        | unicodeEncodeError => simp
        | validationError => exact absurd converted portableValue_unvalidated
      · by_cases small : canonicalLength portable ≤ 65536 <;> simp [small]

/-- What is presented fits the result model. -/
theorem present_fits {outcome : ProgramOutcome} {presented : Option JsonValue × Option String}
    (present : outcome.present = .ok presented) :
    (∀ value ∈ presented.1, canonicalLength value ≤ 65536) ∧
      (presented.1 = none ∨ presented.2 = none) := by
  have nothing : (∀ value ∈ (none : Option JsonValue), canonicalLength value ≤ 65536) ∧
      ((none : Option JsonValue) = none ∨ (none : Option String) = none) := by simp
  cases outcome with
  | completed => exact (Except.ok.inj present) ▸ nothing
  | alarmed alarm => exact (Except.ok.inj present) ▸ nothing
  | raised exception => exact (Except.ok.inj present) ▸ nothing
  | value last =>
    by_cases none_value : last = .none
    · subst none_value
      exact (Except.ok.inj present) ▸ nothing
    · rw [present_value none_value] at present
      split at present
      · rename_i portable _
        split at present
        · rename_i small
          rw [← Except.ok.inj present]
          simpa using small
        · rw [← Except.ok.inj present]
          simp
      · rw [← Except.ok.inj present]
        simp
      · simp at present

end Ending

section Recording

open Plain

variable {config : PlainConfig} {operation : String} {handle : ProgrammableWorkspaceHandle}
  {spec : WorkspaceProgramSpec} {program : Program} {state : WorkspaceState} {b : PlainBackend}

/-- A program ends with numbered events, whatever it did. -/
theorem executeProgram_numbered :
    (executeProgram config spec program state.space).2.collector.Numbered := by
  have empty : ({ maxEvents := spec.maxEvents, remainingOutputChars := spec.maxOutputChars } :
      EventCollector).Numbered := rfl
  have started : (startedRun spec state.space).collector.Numbered := empty.append _ _
  have ended : (program.run (respond config.hasSink)
      (startedRun spec state.space)).2.collector.Numbered :=
    program.run_invariant (fun run : Run => run.collector.Numbered)
      (fun _ question numbered => respond_numbered config.hasSink question numbered) started
  unfold executeProgram
  split <;> rename_i run found
  · rw [found] at ended
    exact ended
  · rw [found] at ended
    exact ended

/-- The last clause keeps the events numbered. -/
theorem cleanup_numbered {run : Run} (numbered : run.collector.Numbered)
    (previous : PyString → Option PyValue) : (run.cleanup previous).2.collector.Numbered := by
  have first := Run.flush_numbered numbered .stdout
  unfold Run.cleanup
  split
  · rename_i found
    rw [found] at first
    exact first
  · rename_i after found
    rw [found] at first
    have second := Run.flush_numbered first .stderr
    split <;> rename_i last
    · rw [last] at second
      exact second
    · rw [last] at second
      exact second

theorem report_numbered {run : Run} (numbered : run.collector.Numbered) (outcome : ProgramOutcome) :
    (outcome.report run).2.collector.Numbered := by
  unfold ProgramOutcome.report
  split
  · exact numbered
  · exact numbered
  · exact Run.structured_numbered numbered _ _
  · exact Run.structured_numbered numbered _ _
  · exact numbered
  · exact numbered

/-- An execution makes a result exactly when the end of its program can be recorded. -/
theorem executeLocked_ok :
    (∃ result, (executeLocked config operation handle spec program state).1 = .ok result) ↔
      Recordable state.revision (executeProgram config spec program state.space).1
        (executeProgram config spec program state.space).2 := by
  have numbered : (executeProgram config spec program state.space).2.collector.Numbered :=
    executeProgram_numbered
  unfold executeLocked
  generalize executeProgram config spec program state.space = ended at numbered
  obtain ⟨outcome, run⟩ := ended
  dsimp only at numbered ⊢
  obtain ⟨events, finished, sequenced⟩ :=
    finish_ok (cleanup_numbered (report_numbered numbered outcome) state.space.find) outcome.status
  simp only [bind_ok, escaping_ok, finished]
  constructor
  · rintro ⟨_, ⟨⟩, cleaned, ⟨⟩, reported, presented, present, _, _, issued⟩
    have flushed := (cleaned_iff state.space.find reported).mp cleaned
    -- The result model refuses nothing but a revision that it cannot count to.
    have counted : state.revision + 1 ≤ maxRevision := by
      unfold issueResult at issued
      split at issued
      · rename_i valid
        exact valid.1
      · cases issued
    exact
      { exception := (report_ok outcome).mp reported
        value := (present_ok outcome).mp ⟨presented, present⟩
        stdout := flushed.1
        stderr := flushed.2
        revision := counted }
  · intro recordable
    have reported : (outcome.report run).1 = .ok () :=
      (report_ok outcome).mpr recordable.exception
    have cleaned := (cleaned_iff state.space.find reported).mpr
      ⟨recordable.stdout, recordable.stderr⟩
    obtain ⟨presented, present⟩ := (present_ok outcome).mpr recordable.value
    have fits := present_fits present
    have valid : state.revision + 1 ≤ maxRevision ∧
        (∀ value ∈ presented.1, canonicalLength value ≤ 65536) ∧
        (presented.1 = none ∨ presented.2 = none) ∧
        events.map WorkspaceEvent.sequence = List.range' 1 events.length :=
      ⟨recordable.revision, fits.1, fits.2, sequenced⟩
    obtain ⟨result, issued⟩ : ∃ result, issueResult config operation handle state
        outcome.status presented events = .ok result := by
      unfold issueResult
      rw [dif_pos valid]
      exact ⟨_, rfl⟩
    exact ⟨result, (), cleaned, (), reported, presented, present, events, rfl, issued⟩

/-- A result that was made follows the revision of its workspace and reports no loss. -/
theorem executeLocked_result {result : ProgramResult}
    (made : (executeLocked config operation handle spec program state).1 = .ok result) :
    result.revisionBefore = state.revision ∧ result.workspaceLost = false := by
  simp only [executeLocked, bind_ok] at made
  obtain ⟨_, _, _, _, presented, _, events, _, issued⟩ := made
  unfold issueResult at issued
  split at issued
  · rw [← Except.ok.inj issued]
    exact ⟨rfl, rfl⟩
  · cases issued

/-- When a result is made, the reserved names are bound as they were before. -/
theorem executeLocked_reserved {result : ProgramResult} {name : PyString}
    (made : (executeLocked config operation handle spec program state).1 = .ok result)
    (reserved : name ∈ reservedNames) :
    (executeLocked config operation handle spec program state).2.find name =
      state.space.find name := by
  simp only [executeLocked, bind_ok] at made ⊢
  obtain ⟨_, cleaned, _⟩ := made
  rw [cleanup_space _ cleaned, find_rebind, if_pos reserved]

/-- The program of an operation would run: the operation is new and its workspace is ready. -/
def Plain.Ready (config : PlainConfig) (operation : String) (handle : ProgrammableWorkspaceHandle)
    (b : PlainBackend) (state : WorkspaceState) : Prop :=
  b.receipts operation = none ∧ operation ∉ b.running.map Prod.fst ∧
    b.states handle.workspace = some state ∧ executable config state handle = .ok ()

theorem Plain.Ready.execute (ready : Ready config operation handle b state) :
    execute config operation handle spec program b =
      executeOn config operation handle spec program state b := by
  obtain ⟨unanswered, idle, found, checked⟩ := ready
  simp [Plain.execute, unanswered, idle, found, checked]

theorem executeOn_ran :
    (executeOn config operation handle spec program state b).ran = true := by
  unfold executeOn
  split <;> rfl

/-- An execution that did not run its program leaves workspaces and results as they were. -/
theorem execute_idle (idle : ∀ state, ¬ Ready config operation handle b state) :
    (execute config operation handle spec program b).ran = false ∧
      (execute config operation handle spec program b).backend.states = b.states ∧
      (execute config operation handle spec program b).backend.receipts = b.receipts ∧
      ∀ result, (execute config operation handle spec program b).answer = .ok result →
        b.receipts operation = some result := by
  unfold execute
  split
  · rename_i prior found
    split
    · refine ⟨rfl, rfl, rfl, fun result answered => ?_⟩
      rw [found, Except.ok.inj answered]
    · exact ⟨rfl, rfl, rfl, fun result answered => by cases answered⟩
  · rename_i unanswered
    split
    · exact ⟨rfl, rfl, rfl, fun result answered => by cases answered⟩
    · rename_i not_running
      split
      · exact ⟨rfl, rfl, rfl, fun result answered => by cases answered⟩
      · rename_i state found
        split
        · exact ⟨rfl, rfl, rfl, fun result answered => by cases answered⟩
        · rename_i checked
          exact absurd ⟨unanswered, not_running, found, checked⟩ (idle state)

theorem execute_answered {result : ProgramResult} (answered : b.receipts operation = some result) :
    (execute config operation handle spec program b).ran = false :=
  (execute_idle fun _ ready => by simp [ready.1] at answered).1

end Recording

section Retention

open Plain

variable {config : PlainConfig} {operation : String} {result : ProgramResult}

/-- A result that reports no loss is retained by every call. -/
theorem perform_receipts (call : PlainCall) (b : PlainBackend)
    (present : result.workspaceLost = false) (retained : b.receipts operation = some result) :
    (call.perform config b).receipts operation = some result := by
  cases call with
  | create workspace session =>
    simp only [PlainCall.perform, Plain.create]
    repeat' split
    all_goals exact retained
  | execute other handle spec program =>
    by_cases ready : ∃ state, Ready config other handle b state
    · obtain ⟨state, ready⟩ := ready
      -- The program that runs is another operation's, for this one has its result.
      have apart : operation ≠ other := by
        intro same
        have unanswered := ready.1
        rw [← same, retained] at unanswered
        cases unanswered
      simp only [PlainCall.perform, ready.execute, executeOn]
      split
      · simpa [Function.update_of_ne apart] using retained
      · exact retained
    · have unchanged : (execute config other handle spec program b).backend.receipts =
          b.receipts :=
        (execute_idle fun state found => ready ⟨state, found⟩).2.2.1
      exact (congrFun unchanged operation).trans retained
  | restore manifest spec same =>
    simp only [PlainCall.perform, Plain.restoreWorkspace]
    repeat' split
    all_goals exact retained
  | retireLostReceipt other handle =>
    simp only [PlainCall.perform, Plain.retireLostReceipt]
    split
    · exact retained
    · rename_i prior found
      split
      · exact retained
      · split
        · exact retained
        · rename_i lost
          -- Only a result that reports a loss is forgotten, and this one does not.
          have apart : operation ≠ other := by
            intro same
            rw [← same, retained] at found
            exact lost (Option.some.inj found ▸ present)
          simpa [Function.update_of_ne apart] using retained
  | close handle =>
    simp only [PlainCall.perform, Plain.close]
    repeat' split
    all_goals exact retained
  | shutdown => exact retained

/-- A result that reports no loss is retained by any calls. -/
theorem run_receipts (calls : List PlainCall) {b : PlainBackend}
    (present : result.workspaceLost = false) (retained : b.receipts operation = some result) :
    (Runs.run (PlainCall.perform config) calls b).receipts operation = some result :=
  Runs.run_induction
    (fun call b (_ : True) retained => perform_receipts call b present retained) retained
    fun _ _ _ _ => trivial

end Retention

section Law

open Plain

variable (config : PlainConfig)

/-- The program's own variables and the revision of a workspace are as they were before. -/
def Plain.Undone (before after : WorkspaceState) : Prop :=
  after.revision = before.revision ∧
    ∀ name, IsUserName name → after.space.find name = before.space.find name

/--
An execution is all or recorded.

Its result is new and retained, with the revision advanced by one, or was retained before; or it
raises and leaves revisions and variables as they were. The reserved names are bound as before, and
a program that ran is never run again for the operation, whatever is called in between.
-/
structure Plain.AllOrRecorded (b : PlainBackend) (operation : String)
    (handle : ProgrammableWorkspaceHandle) (spec : WorkspaceProgramSpec) (program : Program) :
    Prop where
  returned : ∀ result, (execute config operation handle spec program b).answer = .ok result →
    (execute config operation handle spec program b).backend.receipts operation = some result ∧
      result.revisionAfter = result.revisionBefore + 1 ∧
        ((b.receipts operation = some result ∧
            (execute config operation handle spec program b).backend.states = b.states) ∨
          ∃ state after, b.states handle.workspace = some state ∧
            (execute config operation handle spec program b).backend.states =
              Function.update b.states handle.workspace (some after) ∧
            state.revision = result.revisionBefore ∧ after.revision = result.revisionAfter)
  raised : ∀ failure, (execute config operation handle spec program b).answer = .error failure →
    ∀ workspace state, b.states workspace = some state →
      ∃ after, (execute config operation handle spec program b).backend.states workspace =
        some after ∧ Undone state after
  reserved : ∀ workspace state, b.states workspace = some state →
    ∃ after, (execute config operation handle spec program b).backend.states workspace =
        some after ∧ ∀ name ∈ reservedNames, after.space.find name = state.space.find name
  once : (execute config operation handle spec program b).ran = true →
    ∀ calls handle' spec' program',
      (execute config operation handle' spec' program'
        (Runs.run (PlainCall.perform config) calls
          (execute config operation handle spec program b).backend)).ran = false

variable {config} {b : PlainBackend} {operation : String} {handle : ProgrammableWorkspaceHandle}
  {spec : WorkspaceProgramSpec} {program : Program} {state : WorkspaceState}

/-- An execution that makes a result records it and advances the revision by one. -/
theorem executeOn_made {result : ProgramResult}
    (made : (executeLocked config operation handle spec program state).1 = .ok result) :
    executeOn config operation handle spec program state b = {
      answer := .ok result
      backend := { b.put handle.workspace { state with
          revision := result.revisionAfter
          space := (executeLocked config operation handle spec program state).2 } with
        receipts := Function.update b.receipts operation (some result) }
      ran := true } := by
  unfold executeOn
  rcases locked : executeLocked config operation handle spec program state with
    ⟨error | made_result, space⟩
  · simp [locked] at made
  · simp only [locked, Except.ok.injEq] at made
    subst made
    rfl

/-- An execution that makes no result is ready to run its program again. -/
theorem executeOn_escaped {escape : Escape} (ready : Ready config operation handle b state)
    (escaped : (executeLocked config operation handle spec program state).1 = .error escape) :
    ∃ after, Ready config operation handle
      (executeOn config operation handle spec program state b).backend after := by
  obtain ⟨unanswered, idle, -, checked⟩ := ready
  unfold executeOn
  rcases locked : executeLocked config operation handle spec program state with
    ⟨error | made, space⟩
  · -- Neither the revision nor the retained results show that the program ran.
    exact ⟨{ state with space := space }, unanswered, idle, by simp [PlainBackend.put], checked⟩
  · simp [locked] at escaped

/-- An execution whose program does not run changes nothing that the law is about. -/
theorem allOrRecorded_idle (idle : ∀ state, ¬ Ready config operation handle b state) :
    AllOrRecorded config b operation handle spec program := by
  obtain ⟨quiet, states_kept, receipts_kept, prior⟩ :
      (execute config operation handle spec program b).ran = false ∧ _ := execute_idle idle
  refine ⟨?_, ?_, ?_, ?_⟩
  · intro result answered
    have retained := prior result answered
    exact ⟨(congrFun receipts_kept operation).trans retained, result.advances,
      .inl ⟨retained, states_kept⟩⟩
  · intro failure _ workspace state found
    exact ⟨state, (congrFun states_kept workspace).trans found, rfl, fun _ _ => rfl⟩
  · intro workspace state found
    exact ⟨state, (congrFun states_kept workspace).trans found, fun _ _ => rfl⟩
  · intro ran
    rw [quiet] at ran
    cases ran

/-- An execution that makes a result keeps the law. -/
theorem allOrRecorded_made (ready : Ready config operation handle b state)
    {result : ProgramResult}
    (made : (executeLocked config operation handle spec program state).1 = .ok result) :
    AllOrRecorded config b operation handle spec program := by
  have executed : execute config operation handle spec program b = _ :=
    ready.execute.trans (executeOn_made made)
  obtain ⟨follows, present⟩ := executeLocked_result made
  refine ⟨?_, ?_, ?_, ?_⟩
  · intro other answered
    rw [executed] at answered ⊢
    obtain rfl := Except.ok.inj answered
    exact ⟨by simp, result.advances, .inr ⟨state, _, ready.2.2.1, rfl, follows.symm, rfl⟩⟩
  · intro failure raised
    rw [executed] at raised
    cases raised
  · intro workspace before found
    rw [executed]
    by_cases here : workspace = handle.workspace
    · -- The workspace of the program had its reserved names restored.
      subst here
      obtain rfl := Option.some.inj (ready.2.2.1.symm.trans found)
      refine ⟨{ state with
          revision := result.revisionAfter
          space := (executeLocked config operation handle spec program state).2 }, ?_, ?_⟩
      · simp [PlainBackend.put]
      · intro name member
        exact executeLocked_reserved made member
    · refine ⟨before, ?_, fun _ _ => rfl⟩
      simpa [PlainBackend.put, Function.update_of_ne here] using found
  · intro _ calls handle' spec' program'
    have retained : (execute config operation handle spec program b).backend.receipts operation =
        some result := by
      rw [executed]
      simp
    exact execute_answered (run_receipts calls present retained)

/-- When the law holds of a program that runs, what it leaves can be recorded. -/
theorem Plain.AllOrRecorded.recordable
    (law : AllOrRecorded config b operation handle spec program)
    (ready : Ready config operation handle b state) :
    Recordable state.revision (executeProgram config spec program state.space).1
      (executeProgram config spec program state.space).2 := by
  suffices made : ∃ result,
      (executeLocked config operation handle spec program state).1 = .ok result from
    executeLocked_ok.mp made
  rcases locked : (executeLocked config operation handle spec program state).1 with
    escape | result
  · -- Nothing was retained, so the operation could be repeated and would run its program.
    obtain ⟨after, again⟩ := executeOn_escaped ready locked
    rw [← ready.execute] at again
    have ran : (execute config operation handle spec program b).ran = true := by
      rw [ready.execute]
      exact executeOn_ran
    have quiet := law.once ran [] handle spec program
    rw [Runs.run_nil, again.execute, executeOn_ran] at quiet
    cases quiet
  · exact ⟨result, rfl⟩

/-- A backend without a sink. -/
def Sample.plain : PlainConfig where
  descriptor := "capability"

/-- A handle on a workspace that was just created. -/
def Sample.created : ProgrammableWorkspaceHandle := ⟨"workspace", 1, 0, "capability"⟩

/-- A backend with one workspace. -/
def Sample.plainBackend : PlainBackend :=
  (Plain.create Sample.plain "workspace" "session" .empty).2

/-- A program that binds a variable and ends with a text that has no encoding. -/
def Sample.surrogate : Program :=
  .ask (.compute fun space => space.set (pyString "x") (.int 1)) fun _ =>
    .done (.value (.str [0xd800]))

end Law

end Aar.Workspace
