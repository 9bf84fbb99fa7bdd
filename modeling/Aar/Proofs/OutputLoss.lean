import Aar.Proofs.Executions
import Mathlib.Data.List.Flatten

/-! No output of a program is lost without a mark: the law, and the collector that obeys it. -/

namespace Aar.Workspace

open Guarded Plain

section Law

/-- What the events of an execution are about: its limits, what its program wrote, what of it the
event model accepts, the other events, the exception, and the status. -/
structure Doings where
  maxEvents : Nat
  maxOutputChars : Nat
  written : OutputStream → PyString
  accepted : OutputStream → PyString
  others : List WorkspaceEvent
  raised : Option JsonValue
  status : WorkspaceExecutionStatus

/-- The text of one output that events show. -/
def shownText (stream : OutputStream) (events : List WorkspaceEvent) : PyString :=
  events.flatMap fun event => if event.kind = stream.kind then event.text.getD [] else []

/-- An event shows a part of an output. -/
def WorkspaceEvent.IsOutput (event : WorkspaceEvent) : Prop :=
  event.kind = .stdout ∨ event.kind = .stderr

instance : DecidablePred WorkspaceEvent.IsOutput :=
  fun _ => inferInstanceAs (Decidable (_ ∨ _))

/-- An event without its number. -/
def WorkspaceEvent.unnumbered (event : WorkspaceEvent) : WorkspaceEvent :=
  { event with sequence := 0 }

/-- The data of an event is an object with this entry. -/
def WorkspaceEvent.Has (event : WorkspaceEvent) (key : String) (value : JsonValue) : Prop :=
  ∃ entries, event.data = some (.object entries) ∧ (pyString key, value) ∈ entries

/-- The data of an event has every entry of an object. -/
def WorkspaceEvent.Keeps (event : WorkspaceEvent) (data : JsonValue) : Prop :=
  ∃ kept entries, event.data = some (.object kept) ∧ data = .object entries ∧
    ∀ entry ∈ entries, entry ∈ kept

/-- Some event is marked truncated, or the last one says that events are missing. -/
def Marked (events : List WorkspaceEvent) : Prop :=
  (∃ event ∈ events, event.truncated = true) ∨
    ∃ last ∈ events.getLast?, last.Has "events_truncated" (.bool true)

/-- The events keep to the limits, end with the status and show the exception, and what they do
not show is never lost without a mark. -/
structure NeverSilent (done : Doings) (events : List WorkspaceEvent) : Prop where
  limited : events.length ≤ done.maxEvents
  numbered : events.map WorkspaceEvent.sequence = List.range' 1 events.length
  finished : ∃ last ∈ events.getLast?, last.Has "phase" (jsonText "finished") ∧
    last.Has "status" (jsonText done.status.text)
  exception : ∀ data ∈ done.raised, ∃ event ∈ events, event.kind = .exception ∧ event.Keeps data
  bounded : (shownText .stdout events).length + (shownText .stderr events).length ≤
    done.maxOutputChars
  ordered : ∀ stream, (shownText stream events).Sublist (done.written stream)
  whole : ¬ Marked events → (∀ stream, shownText stream events = done.accepted stream) ∧
    (events.dropLast.filter fun event => ¬ event.IsOutput).map WorkspaceEvent.unnumbered =
      done.others

end Law

section Texts

variable {stream : OutputStream} {event : WorkspaceEvent} {first second : List WorkspaceEvent}

@[simp] theorem shownText_append :
    shownText stream (first ++ second) = shownText stream first ++ shownText stream second :=
  List.flatMap_append

@[simp] theorem shownText_nil : shownText stream [] = [] := rfl

theorem shownText_cons : shownText stream (event :: first) =
    (if event.kind = stream.kind then event.text.getD [] else []) ++ shownText stream first :=
  List.flatMap_cons

theorem shownText_single : shownText stream [event] =
    if event.kind = stream.kind then event.text.getD [] else [] := by
  simp [shownText]

@[simp] theorem shownText_unnumbered :
    shownText stream (first.map WorkspaceEvent.unnumbered) = shownText stream first := by
  simp only [shownText, List.flatMap_map]
  rfl

theorem shownText_sublist (fewer : first.Sublist second) :
    (shownText stream first).Sublist (shownText stream second) :=
  fewer.flatMap _

theorem shownText_other (other : ¬ event.IsOutput) : shownText stream [event] = [] := by
  rw [shownText_single, if_neg]
  intro same
  exact other (by cases stream <;> simp [WorkspaceEvent.IsOutput, same, OutputStream.kind])

end Texts

section Calls

/-- What a program hands to the collector and to the writers of its outputs. -/
inductive CollectorCall where
  | write (stream : OutputStream) (text : PyString)
  | flush (stream : OutputStream)
  | display (data : Option JsonValue)
  | progress (data : Option JsonValue)
  | artifact (reference : String)

/-- What becomes of a run with one call; a call that raises leaves the program running. -/
def Plain.Run.collect (run : Run) : CollectorCall → Except HelperError Unit × Run
  | .write stream text => run.perform false (.write stream text)
  | .flush stream => run.flush stream
  | .display data => run.structured .display data
  | .progress data => run.structured .progress data
  | .artifact reference =>
    let added := run.collector.append (some { kind := .artifact, artifact := some reference })
    (added.1, { run with collector := added.2 })

/-- What a program wrote to one output. -/
def writtenText (stream : OutputStream) (calls : List CollectorCall) : PyString :=
  calls.flatMap fun call =>
    match call with
    | .write written text => if written = stream then text else []
    | _ => []

/-- An event that was handed to the collector, its text uncut, and whether that call raised. -/
structure Handed where
  draft : WorkspaceEvent
  refused : Bool

/-- A piece of text as the event that would show all of it. -/
def piece (stream : OutputStream) (text : PyString) : WorkspaceEvent :=
  { kind := stream.kind, text := some text }

/-- An attempt raised an exception. -/
def raises {α : Type} (attempt : Except HelperError Unit × α) : Bool := attempt.1.toBool = false

/-- The lines that a write hands over, up to the first that is refused. -/
def handedLines (stream : OutputStream) : PyString → PyString → EventCollector → List Handed
  | _, [], _ => []
  | line, code :: rest, collector =>
    if code = 0x0a then
      let attempt := collector.stream stream.kind (line ++ [code])
      ⟨piece stream (line ++ [code]), raises attempt⟩ ::
        if raises attempt then [] else handedLines stream [] rest attempt.2
    else handedLines stream (line ++ [code]) rest collector

/-- The events that one call hands over. -/
def Plain.Run.handed (run : Run) (call : CollectorCall) : List Handed :=
  let refused := raises (run.collect call)
  match call with
  | .write stream text => handedLines stream [] (run.buffer stream ++ text) run.collector
  -- A text that cannot be flushed stays in the buffer.
  | .flush stream =>
    if run.buffer stream = [] ∨ refused then [] else [⟨piece stream (run.buffer stream), false⟩]
  | .display data => [⟨{ kind := .display, data := data }, refused⟩]
  | .progress data => [⟨{ kind := .progress, data := data }, refused⟩]
  | .artifact reference => [⟨{ kind := .artifact, artifact := some reference }, refused⟩]

/-- A run after a list of calls. -/
def Plain.Run.collectAll (run : Run) (calls : List CollectorCall) : Run :=
  calls.foldl (fun run call => (run.collect call).2) run

/-- The events that a list of calls hands over. -/
def Plain.Run.handedAll (run : Run) : List CollectorCall → List Handed
  | [] => []
  | call :: rest => run.handed call ++ (run.collect call).2.handedAll rest

/-- The events that were handed over. -/
def drafts (handed : List Handed) : List WorkspaceEvent := handed.map Handed.draft

/-- The events that were handed over without an exception. -/
def returned (handed : List Handed) : List WorkspaceEvent :=
  drafts (handed.filter fun event => !event.refused)

end Calls

section Steps

variable {collector after : EventCollector} {draft : WorkspaceEvent} {refused : Bool}

/-- An event shows a draft: its kind, and all of it unless it is marked truncated. -/
structure Shows (draft event : WorkspaceEvent) : Prop where
  kind : event.kind = draft.kind
  text : (event.text.getD []).Sublist (draft.text.getD [])
  whole : event.truncated = false → event.unnumbered = draft

/-- What a collector can do with an event that is not forced in. -/
inductive Takes (before : EventCollector) (draft : WorkspaceEvent) :
    Bool → EventCollector → Prop where
  | refused {left : Nat} (fewer : left ≤ before.remainingOutputChars) :
      Takes before draft true { before with remainingOutputChars := left }
  | dropped {left : Nat} (fewer : left ≤ before.remainingOutputChars) :
      Takes before draft false
        { before with remainingOutputChars := left, droppedEvents := true }
  | kept {left : Nat} {event : WorkspaceEvent}
      (room : before.events.length + 1 ≤ max 1 (before.maxEvents - 1)) (shows : Shows draft event)
      (next : event.sequence = before.events.length + 1)
      (counted : left + (event.text.getD []).length ≤ before.remainingOutputChars) :
      Takes before draft false
        { before with remainingOutputChars := left, events := before.events ++ [event] }

theorem room_of_not_full (room : ¬ collector.Full) :
    collector.events.length + 1 ≤ max 1 (collector.maxEvents - 1) := by
  unfold EventCollector.Full at room
  omega

/-- An event that is not output is pushed whole or refused. -/
theorem push_takes (room : collector.events.length + 1 ≤ max 1 (collector.maxEvents - 1))
    (other : draft.text = none) (unnumbered : draft.sequence = 0) :
    Takes collector draft (raises (collector.push (some draft)))
      (collector.push (some draft)).2 := by
  unfold EventCollector.push
  dsimp only
  split
  · refine .kept room ⟨rfl, List.Sublist.refl _, fun _ => ?_⟩ rfl (by simp [other])
    rw [WorkspaceEvent.unnumbered, ← unnumbered]
  · exact .refused (Nat.le_refl _)

/-- An event that is not output is appended whole, dropped, or refused. -/
theorem append_takes (other : draft.text = none) (unnumbered : draft.sequence = 0) :
    Takes collector draft (raises (collector.append (some draft)))
      (collector.append (some draft)).2 := by
  unfold EventCollector.append
  split
  · exact .dropped (Nat.le_refl _)
  · next open_place =>
    have room : ¬ collector.Full := fun full => open_place ⟨full, rfl⟩
    rw [EventCollector.makeRoom, if_neg room]
    exact push_takes (room_of_not_full room) other unnumbered

/-- Data that is no JSON is dropped or refused like an event without data. -/
theorem structured_takes {kind : WorkspaceEventKind} (data : Option JsonValue)
    (needs : kind = .display ∨ kind = .progress) :
    Takes collector { kind := kind, data := data } (raises (collector.structured kind data))
      (collector.structured kind data).2 := by
  have ordinary : decide (kind = .exception) = false := by
    rcases needs with rfl | rfl <;> rfl
  unfold EventCollector.structured
  rw [ordinary]
  cases data with
  | some data => exact append_takes rfl rfl
  | none =>
    unfold EventCollector.append
    split
    · exact .dropped (Nat.le_refl _)
    · next open_place =>
      have room : ¬ collector.Full := fun full => open_place ⟨full, rfl⟩
      simp only [EventCollector.makeRoom, if_neg room, Option.map_none, EventCollector.push]
      exact .refused (Nat.le_refl _)

/-- A text that is not empty is appended as far as the limits allow, dropped, or refused. -/
theorem stream_takes (collector : EventCollector) (stream : OutputStream) {text : PyString}
    (some_text : text ≠ []) :
    Takes collector (piece stream text) (raises (collector.stream stream.kind text))
      (collector.stream stream.kind text).2 := by
  unfold EventCollector.stream
  rw [if_neg some_text]
  dsimp only
  split
  · have fewer : collector.remainingOutputChars - (collector.shown text).length ≤
        collector.remainingOutputChars := Nat.sub_le _ _
    unfold EventCollector.append
    split
    · exact .dropped fewer
    · next open_place =>
      have room : ¬ collector.Full := fun full => open_place ⟨full, rfl⟩
      have still : ¬ ({ collector with remainingOutputChars :=
          collector.remainingOutputChars - (collector.shown text).length } :
            EventCollector).Full := room
      simp only [EventCollector.makeRoom, if_neg still, EventCollector.push]
      split
      · refine .kept (room_of_not_full room) ⟨rfl, List.take_sublist _ _, fun whole => ?_⟩ rfl ?_
        · -- What is not marked truncated was not cut.
          have uncut : ¬ (collector.shown text).length < text.length := of_decide_eq_false whole
          have same : collector.shown text = text := by
            unfold EventCollector.shown at uncut ⊢
            rw [List.length_take] at uncut
            exact List.take_of_length_le (by omega)
          simp only [WorkspaceEvent.unnumbered, piece, same, Nat.lt_irrefl, decide_false]
        · have within : (collector.shown text).length ≤ collector.remainingOutputChars := by
            rw [EventCollector.shown, List.length_take]
            omega
          simp only [Option.getD_some]
          omega
      · exact .refused fewer
  · exact .dropped (Nat.sub_le _ _)

end Steps

section Accounts

variable {limit : Nat} {before after : EventCollector} {draft : WorkspaceEvent} {refused : Bool}
  {handed : List Handed}

/-- The events of a collector account for everything that was handed to it. -/
structure Accounts (limit : Nat) (collector : EventCollector) (handed : List Handed) : Prop where
  places : collector.events.length ≤ max 1 (collector.maxEvents - 1)
  numbered : collector.Numbered
  chars : (shownText .stdout collector.events).length +
    (shownText .stderr collector.events).length + collector.remainingOutputChars ≤ limit
  ordered : ∀ stream, (shownText stream collector.events).Sublist
    (shownText stream (returned handed))
  whole : collector.droppedEvents = false → (∀ event ∈ collector.events, event.truncated = false) →
    collector.events.map WorkspaceEvent.unnumbered = returned handed

@[simp] theorem returned_append {first second : List Handed} :
    returned (first ++ second) = returned first ++ returned second := by
  simp [returned, drafts]

@[simp] theorem drafts_append {first second : List Handed} :
    drafts (first ++ second) = drafts first ++ drafts second := List.map_append

@[simp] theorem returned_refused : returned [⟨draft, true⟩] = [] := rfl

@[simp] theorem returned_accepted : returned [⟨draft, false⟩] = [draft] := rfl

theorem Accounts.more (accounts : Accounts limit before handed) (stream : OutputStream)
    (more : List WorkspaceEvent) :
    (shownText stream before.events).Sublist (shownText stream (returned handed ++ more)) := by
  rw [shownText_append]
  exact (accounts.ordered stream).trans (List.sublist_append_left _ _)

/-- One more event is accounted for, whatever became of it. -/
theorem Accounts.takes (accounts : Accounts limit before handed)
    (taken : Takes before draft refused after) :
    Accounts limit after (handed ++ [⟨draft, refused⟩]) := by
  have chars := accounts.chars
  cases taken with
  | refused fewer =>
    refine ⟨accounts.places, accounts.numbered, ?_, ?_, ?_⟩
    · simp only
      omega
    · simpa using accounts.ordered
    · simpa using accounts.whole
  | dropped fewer =>
    refine ⟨accounts.places, accounts.numbered, ?_, ?_, ?_⟩
    · simp only
      omega
    · intro stream
      simpa using accounts.more stream [draft]
    · intro kept
      cases kept
  | @kept left event room shows next counted =>
    have numbered := accounts.numbered
    unfold EventCollector.Numbered at numbered
    refine ⟨?_, ?_, ?_, ?_, ?_⟩
    · simpa only [List.length_append, List.length_singleton] using room
    · simp [EventCollector.Numbered, numbered, next, List.range'_concat, Nat.add_comm]
    · -- An event is about one output at most.
      simp only [shownText_append, shownText_single, List.length_append]
      have apart : ¬ (event.kind = OutputStream.stdout.kind ∧
          event.kind = OutputStream.stderr.kind) := by
        intro ⟨out, err⟩
        rw [out] at err
        cases err
      split <;> split <;> simp_all <;> omega
    · intro stream
      simp only [shownText_append, shownText_single, returned_append, returned_accepted]
      refine (accounts.ordered stream).append ?_
      rw [shows.kind]
      split
      · exact shows.text
      · exact List.Sublist.refl _
    · intro kept unmarked
      simp only [List.forall_mem_append, List.forall_mem_singleton] at unmarked
      simp only [List.map_append, List.map_cons, List.map_nil, returned_append, returned_accepted]
      rw [accounts.whole kept unmarked.1, shows.whole unmarked.2]

theorem Accounts.refuses (accounts : Accounts limit before handed)
    (taken : Takes before draft true after) : Accounts limit after handed := by
  cases taken with
  | refused fewer =>
    have chars := accounts.chars
    exact ⟨accounts.places, accounts.numbered, by simp only; omega, accounts.ordered,
      accounts.whole⟩

/-- The lines of a write are accounted for up to the first that is refused. -/
theorem Accounts.lines (stream : OutputStream) (text : PyString) :
    ∀ {line : PyString} {collector : EventCollector} {handed : List Handed},
      Accounts limit collector handed →
        Accounts limit (writeLines stream line text collector).2.2
          (handed ++ handedLines stream line text collector) := by
  induction text with
  | nil =>
    intro line collector handed accounts
    simpa [writeLines, handedLines] using accounts
  | cons code rest ih =>
    intro line collector handed accounts
    unfold writeLines handedLines
    split
    · -- A finished line goes to the collector, and the rest follows unless it is refused.
      have some_text : line ++ [code] ≠ [] := by simp
      have taken := accounts.takes (stream_takes collector stream some_text)
      rcases streamed : collector.stream stream.kind (line ++ [code]) with ⟨error | ⟨⟩, next⟩
      · simpa [streamed, raises, Except.toBool] using taken
      · have later := @ih [] _ _ taken
        simpa [streamed, raises, Except.toBool] using later
    · exact ih accounts

/-- Every call is accounted for with the events that it hands over. -/
theorem Accounts.collect {run : Run} (accounts : Accounts limit run.collector handed)
    (call : CollectorCall) :
    Accounts limit (run.collect call).2.collector (handed ++ run.handed call) := by
  cases call with
  | write stream text =>
    have lines := @Accounts.lines _ stream (run.buffer stream ++ text) [] _ _ accounts
    cases stream <;> exact lines
  | flush stream =>
    simp only [Run.collect, Run.handed, (flush_fields stream).1]
    by_cases empty : run.buffer stream = []
    · simpa [empty, EventCollector.stream] using accounts
    · have taken := stream_takes run.collector stream empty
      have same : raises (run.flush stream) =
          raises (run.collector.stream stream.kind (run.buffer stream)) := by
        have ok : (run.flush stream).1 = .ok () ↔
            (run.collector.stream stream.kind (run.buffer stream)).1 = .ok () := flush_ok stream
        unfold raises
        cases flushed : (run.flush stream).1 <;>
          cases streamed : (run.collector.stream stream.kind (run.buffer stream)).1 <;>
            simp_all [Except.toBool]
      cases refused : raises (run.collector.stream stream.kind (run.buffer stream)) with
      | true =>
        rw [refused] at taken
        simpa [empty, same, refused] using accounts.refuses taken
      | false =>
        rw [refused] at taken
        simpa [empty, same, refused] using accounts.takes taken
  | display data => exact accounts.takes (structured_takes data (.inl rfl))
  | progress data => exact accounts.takes (structured_takes data (.inr rfl))
  | artifact reference => exact accounts.takes (append_takes rfl rfl)

/-- Giving up the place of the last event changes no account. -/
theorem Accounts.makeRoom (accounts : Accounts limit before handed) :
    Accounts limit before.makeRoom handed := by
  have numbered := accounts.numbered.makeRoom
  unfold EventCollector.makeRoom at numbered ⊢
  split
  · next full =>
    rw [if_pos full] at numbered
    have places := accounts.places
    have chars := accounts.chars
    have fewer (stream : OutputStream) : (shownText stream before.events.dropLast).Sublist
        (shownText stream before.events) := shownText_sublist (List.dropLast_sublist _)
    refine ⟨?_, numbered, ?_, fun stream => (fewer stream).trans (accounts.ordered stream), ?_⟩
    · simp only [List.length_dropLast]
      omega
    · have out := (fewer .stdout).length_le
      have err := (fewer .stderr).length_le
      simp only
      omega
    · intro kept
      cases kept
  · exact accounts

theorem Accounts.room (accounts : Accounts limit before handed) :
    before.makeRoom.events.length + 1 ≤ max 1 (before.makeRoom.maxEvents - 1) := by
  have places := accounts.places
  unfold EventCollector.makeRoom
  split
  · simp only [List.length_dropLast]
    omega
  · next room => exact room_of_not_full room

/-- The event for an exception is accounted for. -/
theorem Accounts.exception (accounts : Accounts limit before handed) (data : JsonValue) :
    Accounts limit (before.structured .exception (some data)).2
      (handed ++ [⟨{ kind := .exception, data := some data },
        raises (before.structured .exception (some data))⟩]) := by
  have forced : before.structured .exception (some data) =
      before.makeRoom.push (some { kind := .exception, data := some data }) := by
    simp [EventCollector.structured, EventCollector.append]
  rw [forced]
  exact accounts.makeRoom.takes (push_takes accounts.room rfl rfl)

/-- Every list of calls is accounted for. -/
theorem Accounts.collectAll (calls : List CollectorCall) :
    ∀ {run : Run} {handed : List Handed}, Accounts limit run.collector handed →
      Accounts limit (run.collectAll calls).collector (handed ++ run.handedAll calls) := by
  induction calls with
  | nil =>
    intro run handed accounts
    simpa [Run.collectAll, Run.handedAll] using accounts
  | cons call rest ih =>
    intro run handed accounts
    have later := ih (accounts.collect call)
    rw [List.append_assoc] at later
    exact later

end Accounts

section Written

variable {run : Run} {stream other : OutputStream}

theorem kind_inj : stream.kind = other.kind ↔ stream = other := by
  cases stream <;> cases other <;> simp [OutputStream.kind]

@[simp] theorem shownText_piece {text : PyString} :
    shownText other [piece stream text] = if stream = other then text else [] := by
  rw [shownText_single]
  simp only [piece, kind_inj, Option.getD_some]

/-- Lines that are handed over and the rest that is buffered are what there was to write. -/
theorem handedLines_text (stream : OutputStream) (text : PyString) :
    ∀ (line : PyString) (collector : EventCollector),
      shownText stream (drafts (handedLines stream line text collector)) ++
        (writeLines stream line text collector).2.1 = line ++ text := by
  induction text with
  | nil =>
    intro line collector
    simp [handedLines, writeLines, drafts]
  | cons code rest ih =>
    intro line collector
    unfold handedLines writeLines
    split
    · rcases streamed : collector.stream stream.kind (line ++ [code]) with ⟨error | ⟨⟩, next⟩
      · simp [drafts, raises, Except.toBool]
      · -- The line is whole, and the rest is written from an empty buffer.
        have later := ih [] next
        simp only [drafts, raises, Except.toBool, List.map_cons] at later ⊢
        rw [← List.singleton_append, shownText_append, shownText_piece, if_pos rfl]
        simp only [Bool.true_eq_false, decide_false, Bool.false_eq_true, if_false]
        rw [List.append_assoc, later]
        simp
    · rw [ih (line ++ [code]) collector]
      simp

/-- The lines of one output show nothing of the other. -/
theorem handedLines_other (apart : stream ≠ other) (text : PyString) :
    ∀ (line : PyString) (collector : EventCollector),
      shownText other (drafts (handedLines stream line text collector)) = [] := by
  induction text with
  | nil =>
    intro line collector
    rfl
  | cons code rest ih =>
    intro line collector
    unfold handedLines
    split
    · simp only [drafts, List.map_cons]
      rw [← List.singleton_append, shownText_append, shownText_piece, if_neg apart]
      split
      · rfl
      · exact ih [] _
    · exact ih _ collector

theorem buffer_setBuffer (text : PyString) :
    (run.setBuffer text stream).buffer other = if stream = other then text else run.buffer other := by
  cases stream <;> cases other <;> rfl

@[simp] theorem buffer_collector (collector : EventCollector) :
    ({ run with collector := collector } : Run).buffer stream = run.buffer stream := by
  cases stream <;> rfl

/-- What a call hands over and leaves in a buffer is what was there and what it wrote. -/
theorem collect_text (run : Run) (other : OutputStream) (call : CollectorCall) :
    shownText other (drafts (run.handed call)) ++ (run.collect call).2.buffer other =
      run.buffer other ++ writtenText other [call] := by
  cases call with
  | write stream text =>
    have lines := handedLines_text stream (run.buffer stream ++ text) [] run.collector
    simp only [Run.handed, Run.collect, Run.perform, buffer_setBuffer, writtenText,
      List.flatMap_cons, List.flatMap_nil, List.append_nil]
    by_cases same : stream = other
    · subst same
      simpa using lines
    · rw [handedLines_other same, if_neg same, if_neg same]
      cases other <;> simp [Run.buffer]
  | flush stream =>
    simp only [Run.handed, Run.collect, writtenText, List.flatMap_cons, List.flatMap_nil,
      List.append_nil]
    rcases streamed : run.collector.stream stream.kind (run.buffer stream) with ⟨error | ⟨⟩, next⟩
    · -- What cannot be flushed is still buffered.
      have flushed : run.flush stream = (.error error, { run with collector := next }) := by
        simp [Run.flush, streamed]
      simp only [flushed]
      cases other <;> simp [raises, Except.toBool, drafts, Run.buffer]
    · have flushed : run.flush stream =
          (.ok (), { run with collector := next }.setBuffer [] stream) := by
        simp [Run.flush, streamed]
      simp only [flushed, buffer_setBuffer]
      by_cases same : stream = other
      · subst same
        by_cases empty : run.buffer stream = [] <;>
          simp [empty, raises, Except.toBool, drafts]
      · rw [if_neg same, buffer_collector]
        split
        · rfl
        · simp [drafts, same]
  | display data =>
    have silent : shownText other (drafts (run.handed (.display data))) = [] :=
      shownText_other (by simp [WorkspaceEvent.IsOutput])
    rw [silent]
    cases other <;> simp [Run.collect, Run.structured, Run.buffer, writtenText]
  | progress data =>
    have silent : shownText other (drafts (run.handed (.progress data))) = [] :=
      shownText_other (by simp [WorkspaceEvent.IsOutput])
    rw [silent]
    cases other <;> simp [Run.collect, Run.structured, Run.buffer, writtenText]
  | artifact reference =>
    have silent : shownText other (drafts (run.handed (.artifact reference))) = [] :=
      shownText_other (by simp [WorkspaceEvent.IsOutput])
    rw [silent]
    cases other <;> simp [Run.collect, Run.buffer, writtenText]

/-- What was handed over and what is still buffered is all that was written. -/
theorem collectAll_text (other : OutputStream) (calls : List CollectorCall) :
    ∀ run : Run, shownText other (drafts (run.handedAll calls)) ++
      (run.collectAll calls).buffer other = run.buffer other ++ writtenText other calls := by
  induction calls with
  | nil =>
    intro run
    simp [Run.handedAll, Run.collectAll, drafts, writtenText]
  | cons call rest ih =>
    intro run
    have first := collect_text run other call
    have later := ih (run.collect call).2
    simp only [Run.handedAll, drafts_append, shownText_append, List.append_assoc]
    rw [show (run.collectAll (call :: rest)) = (run.collect call).2.collectAll rest from rfl,
      later, ← List.append_assoc, first, List.append_assoc, writtenText, writtenText,
      writtenText, ← List.flatMap_append, List.singleton_append]

end Written

section Ending

variable {limit : Nat} {collector : EventCollector} {handed : List Handed} {data : JsonValue}
  {status : WorkspaceExecutionStatus} {events : List WorkspaceEvent}

/-- The keys of the end of an execution. -/
def finishKeys : List PyString :=
  [pyString "events_truncated", pyString "phase", pyString "status"]

/-- The data is an object without the keys of the end of an execution. -/
def Apart (data : JsonValue) : Prop :=
  ∃ entries, data = .object entries ∧ ∀ entry ∈ entries, entry.1 ∉ finishKeys

/-- What an execution ended with is in the events that were collected. -/
def Present (collector : EventCollector) (data : JsonValue) : Prop :=
  ∃ event ∈ collector.events, event.kind = .exception ∧ event.data = some data

/-- The data that ends an execution. -/
def endData (status : WorkspaceExecutionStatus) (dropped : Bool) : JsonValue :=
  jsonObject (finishData status dropped)

theorem finishData_has (status : WorkspaceExecutionStatus) (dropped : Bool) :
    ("phase", jsonText "finished") ∈ finishData status dropped ∧
      ("status", jsonText status.text) ∈ finishData status dropped := by
  simp [finishData]

/-- The entries that end an execution are kept where they are merged. -/
theorem mergeData_new (prior : Option JsonValue) {data : List (String × JsonValue)}
    {entry : String × JsonValue} (member : entry ∈ data) :
    ∃ entries, mergeData prior data = .object entries ∧ (pyString entry.1, entry.2) ∈ entries := by
  have listed : (pyString entry.1, entry.2) ∈
      data.map fun entry => (pyString entry.1, entry.2) :=
    List.mem_map_of_mem (f := fun entry : String × JsonValue => (pyString entry.1, entry.2)) member
  unfold mergeData
  dsimp only
  split
  · exact ⟨_, rfl, List.mem_mergeSort.mpr (List.mem_append_right _ listed)⟩
  · exact ⟨_, rfl, listed⟩

/-- The entries of an exception are kept where the end of its execution is merged into them. -/
theorem mergeData_kept (apart : Apart data) (status : WorkspaceExecutionStatus)
    (dropped : Bool) :
    ∃ kept entries, mergeData (some data) (finishData status dropped) = .object kept ∧
      data = .object entries ∧ ∀ entry ∈ entries, entry ∈ kept := by
  obtain ⟨entries, rfl, distinct⟩ := apart
  refine ⟨_, entries, rfl, rfl, fun entry member => ?_⟩
  refine List.mem_mergeSort.mpr (List.mem_append_left _ (List.mem_filter.mpr ⟨member, ?_⟩))
  have absent := distinct entry member
  -- The keys of the end are among those that the exception does not have.
  have keys : ∀ key ∈ ((finishData status dropped).map fun entry =>
      (pyString entry.1, entry.2)).map Prod.fst, key ∈ finishKeys := by
    cases dropped <;> simp [finishData, finishKeys]
  simpa using fun listed => absent (keys _ listed)

theorem endData_valid (status : WorkspaceExecutionStatus) (dropped : Bool) :
    EventData (endData status dropped) := by
  cases status <;> cases dropped <;> decide +kernel

/-- The events that are handed over obey the law, given what was handed to the collector. -/
theorem Accounts.never_silent {written : OutputStream → PyString} {raised : Option JsonValue}
    (accounts : Accounts limit collector handed) (positive : 1 ≤ collector.maxEvents)
    (status : WorkspaceExecutionStatus)
    (within : ∀ stream, (shownText stream (returned handed)).Sublist (written stream))
    (present : ∀ data ∈ raised, Apart data ∧ Present collector data) :
    ∃ events, collector.finish status = .ok events ∧ NeverSilent
      { maxEvents := collector.maxEvents
        maxOutputChars := limit
        written := written
        accepted := fun stream => shownText stream (returned handed)
        others := (returned handed).filter fun event => ¬ event.IsOutput
        raised := raised
        status := status } events := by
  obtain ⟨phase, status_entry⟩ :=
    finishData_has status collector.droppedEvents
  have chars := accounts.chars
  by_cases room : collector.events.length < collector.maxEvents
  · -- The event that ends the execution takes the last place.
    let last : WorkspaceEvent :=
      { sequence := collector.events.length + 1, kind := .progress
        data := some (endData status collector.droppedEvents)
        truncated := collector.droppedEvents }
    have valid : last.Valid := by
      simp [last, WorkspaceEvent.Valid, WorkspaceEvent.Matches, endData_valid]
    have silent (stream : OutputStream) : shownText stream [last] = [] :=
      shownText_other (by simp [last, WorkspaceEvent.IsOutput])
    have has {key : String} {value : JsonValue}
        (member : (key, value) ∈ finishData status collector.droppedEvents) :
        last.Has key value :=
      ⟨_, rfl, List.mem_map_of_mem (f := fun entry : String × JsonValue =>
        (pyString entry.1, entry.2)) member⟩
    refine ⟨collector.events ++ [last], ?_, ?_, ?_, ?_, ?_, ?_, ?_, ?_⟩
    · unfold EventCollector.finish
      rw [if_pos room]
      exact bind_ok.mpr ⟨(), require_ok.mpr valid, rfl⟩
    · simp only [List.length_append, List.length_singleton]
      omega
    · have numbered := accounts.numbered
      unfold EventCollector.Numbered at numbered
      simp [numbered, last, List.range'_concat, Nat.add_comm]
    · exact ⟨last, by simp, has phase, has status_entry⟩
    · intro data raises
      obtain ⟨⟨entries, rfl, -⟩, event, member, kind, same⟩ := present data raises
      exact ⟨event, List.mem_append_left _ member, kind, entries, entries, same, rfl,
        fun _ listed => listed⟩
    · simp only [shownText_append, silent, List.append_nil]
      omega
    · intro stream
      rw [shownText_append, silent, List.append_nil]
      exact (accounts.ordered stream).trans (within stream)
    · intro unmarked
      -- Nothing is marked, so nothing was dropped and no text was cut.
      have whole := accounts.whole
        (by
          by_contra dropped
          exact unmarked (.inl ⟨last, by simp, by simpa [last] using dropped⟩))
        (fun event member => by
          by_contra cut
          exact unmarked (.inl ⟨event, List.mem_append_left _ member, by simpa using cut⟩))
      refine ⟨fun stream => ?_, ?_⟩
      · rw [shownText_append, silent, List.append_nil, ← shownText_unnumbered, whole]
      · simp only [List.dropLast_concat]
        rw [← whole, List.filter_map]
        rfl
  · -- The only event is the exception, and the end of the execution is merged into it.
    have places := accounts.places
    have one : collector.maxEvents = 1 := by omega
    obtain ⟨event, only⟩ : ∃ event, collector.events = [event] :=
      List.length_eq_one_iff.mp (by omega)
    let merged : WorkspaceEvent :=
      { event with
        data := some (mergeData event.data (finishData status collector.droppedEvents))
        truncated := true }
    have has {key : String} {value : JsonValue}
        (member : (key, value) ∈ finishData status collector.droppedEvents) :
        merged.Has key value := by
      obtain ⟨entries, same, listed⟩ := mergeData_new event.data member
      exact ⟨entries, congrArg some same, listed⟩
    have shown (stream : OutputStream) : shownText stream [merged] = shownText stream [event] := by
      simp only [shownText_single, merged]
    have ordered := accounts.ordered
    have numbered := accounts.numbered
    unfold EventCollector.Numbered at numbered
    rw [only] at chars ordered numbered
    refine ⟨[merged], ?_, ?_, ?_, ?_, ?_, ?_, ?_, ?_⟩
    · unfold EventCollector.finish
      rw [if_neg room, if_pos one, only]
    · simp [one]
    · simpa [merged] using numbered
    · exact ⟨merged, rfl, has phase, has status_entry⟩
    · intro data raises
      obtain ⟨apart, found, member, kind, same⟩ := present data raises
      rw [only] at member
      obtain rfl := List.mem_singleton.mp member
      obtain ⟨kept, entries, joined, whole, inside⟩ :=
        mergeData_kept apart status collector.droppedEvents
      refine ⟨merged, List.mem_singleton_self _, kind, kept, entries, ?_, whole, inside⟩
      simp only [merged, same, joined]
    · simp only [shown]
      omega
    · intro stream
      rw [shown]
      exact (ordered stream).trans (within stream)
    · intro unmarked
      exact absurd (.inl ⟨merged, List.mem_singleton_self _, rfl⟩) unmarked

end Ending

section Collecting

variable {run : Run} {collector after : EventCollector} {draft : WorkspaceEvent} {refused : Bool}

/-- The data of the event for the end of a program, when it ended with an exception that can be
described. -/
def Plain.ProgramOutcome.data : ProgramOutcome → Option JsonValue
  | .completed | .value _ => none
  | .alarmed alarm => some (alarmData alarm)
  | .raised { typeName, message := some message, traceback := some traceback, alarm := none } =>
    some (exceptionData typeName message traceback)
  | .raised _ => none

/-- The data for the end of a program has keys of its own. -/
theorem outcome_apart {outcome : ProgramOutcome} {data : JsonValue}
    (described : outcome.data = some data) : Apart data := by
  unfold ProgramOutcome.data at described
  split at described
  · cases described
  · cases described
  · next alarm =>
    obtain rfl := Option.some.inj described
    cases alarm <;> exact ⟨_, rfl, by decide +kernel⟩
  · obtain rfl := Option.some.inj described
    refine ⟨_, rfl, ?_⟩
    simp only [List.map_cons, List.map_nil, List.forall_mem_cons]
    decide +kernel
  · cases described

theorem report_data (outcome : ProgramOutcome) :
    (outcome.report run).2 = match outcome.data with
      | none => run
      | some data => (run.structured .exception (some data)).2 := by
  unfold ProgramOutcome.report ProgramOutcome.data
  split <;> simp_all

/-- The events that the end of a program hands over. -/
def Plain.Run.handedEnd (run : Run) (outcome : ProgramOutcome) : List Handed :=
  match outcome.data with
  | none => []
  | some data => [⟨{ kind := .exception, data := some data },
      raises (run.structured .exception (some data))⟩]

/-- What is left to do when a program has ended: flush both outputs. -/
def flushes : List CollectorCall := [.flush .stdout, .flush .stderr]

/-- A run before its program has done anything. -/
def emptyRun (maxEvents maxOutputChars : Nat) : Run where
  space := .empty
  collector := { maxEvents := maxEvents, remainingOutputChars := maxOutputChars }

/-- A run whose program made these calls and ended so, with its outputs flushed. -/
def Plain.Run.concluded (run : Run) (calls : List CollectorCall) (outcome : ProgramOutcome) :
    Run :=
  (outcome.report (run.collectAll calls)).2.collectAll flushes

/-- The events that were handed over when the outputs have been flushed. -/
def Plain.Run.handedBy (run : Run) (calls : List CollectorCall) (outcome : ProgramOutcome) :
    List Handed :=
  run.handedAll calls ++ (run.collectAll calls).handedEnd outcome ++
    (outcome.report (run.collectAll calls)).2.handedAll flushes

/-- What a program did that made these calls and ended so. -/
def collectorDoings (maxEvents maxOutputChars : Nat) (calls : List CollectorCall)
    (outcome : ProgramOutcome) : Doings :=
  let handed := (emptyRun maxEvents maxOutputChars).handedBy calls outcome
  { maxEvents := maxEvents
    maxOutputChars := maxOutputChars
    written := fun stream => writtenText stream calls
    accepted := fun stream => shownText stream (returned handed)
    others := (returned handed).filter fun event => ¬ event.IsOutput
    raised := outcome.data.filter fun data => EventData data
    status := outcome.status }

theorem Takes.keeps (taken : Takes collector draft refused after) :
    after.maxEvents = collector.maxEvents ∧ ∀ event ∈ collector.events, event ∈ after.events := by
  cases taken with
  | refused | dropped => exact ⟨rfl, fun _ member => member⟩
  | kept => exact ⟨rfl, fun _ member => List.mem_append_left _ member⟩

/-- Lines that are written leave the events where they were. -/
theorem writeLines_keeps (stream : OutputStream) (text : PyString) :
    ∀ (line : PyString) (collector : EventCollector),
      (writeLines stream line text collector).2.2.maxEvents = collector.maxEvents ∧
        ∀ event ∈ collector.events, event ∈ (writeLines stream line text collector).2.2.events := by
  induction text with
  | nil => exact fun _ _ => ⟨rfl, fun _ member => member⟩
  | cons code rest ih =>
    intro line collector
    unfold writeLines
    split
    · have some_text : line ++ [code] ≠ [] := by simp
      obtain ⟨same, kept⟩ := (stream_takes collector stream some_text).keeps
      rcases streamed : collector.stream stream.kind (line ++ [code]) with ⟨error | ⟨⟩, next⟩
      · simp only [streamed] at same kept
        exact ⟨same, kept⟩
      · simp only [streamed] at same kept
        obtain ⟨later, still⟩ := ih [] next
        exact ⟨later.trans same, fun event member => still event (kept event member)⟩
    · exact ih _ collector

/-- A call leaves the events where they were. -/
theorem collect_keeps (run : Run) (call : CollectorCall) :
    (run.collect call).2.collector.maxEvents = run.collector.maxEvents ∧
      ∀ event ∈ run.collector.events, event ∈ (run.collect call).2.collector.events := by
  cases call with
  | write stream text =>
    have kept := writeLines_keeps stream (run.buffer stream ++ text) [] run.collector
    cases stream <;> exact kept
  | flush stream =>
    simp only [Run.collect, (flush_fields stream).1]
    by_cases empty : run.buffer stream = []
    · simp [empty, EventCollector.stream]
    · exact (stream_takes _ stream empty).keeps
  | display data => exact (structured_takes data (.inl rfl)).keeps
  | progress data => exact (structured_takes data (.inr rfl)).keeps
  | artifact reference => exact (append_takes rfl rfl).keeps

/-- A list of calls leaves the events where they were. -/
theorem collectAll_keeps (calls : List CollectorCall) :
    ∀ run : Run, (run.collectAll calls).collector.maxEvents = run.collector.maxEvents ∧
      ∀ event ∈ run.collector.events, event ∈ (run.collectAll calls).collector.events := by
  induction calls with
  | nil => exact fun _ => ⟨rfl, fun _ member => member⟩
  | cons call rest ih =>
    intro run
    obtain ⟨same, kept⟩ := collect_keeps run call
    obtain ⟨later, still⟩ := ih (run.collect call).2
    exact ⟨later.trans same, fun event member => still event (kept event member)⟩

theorem structured_exception (data : JsonValue) :
    collector.structured .exception (some data) =
      collector.makeRoom.push (some { kind := .exception, data := some data }) := by
  simp [EventCollector.structured, EventCollector.append]

/-- The end of a program leaves the limit on its events. -/
theorem report_maxEvents (outcome : ProgramOutcome) :
    (outcome.report run).2.collector.maxEvents = run.collector.maxEvents := by
  rw [report_data]
  split
  · rfl
  · simp only [Run.structured, structured_exception, EventCollector.push]
    have same : run.collector.makeRoom.maxEvents = run.collector.maxEvents := by
      unfold EventCollector.makeRoom
      split <;> rfl
    split <;> exact same

/-- What the end of a program hands over is accounted for. -/
theorem Accounts.ends {limit : Nat} {handed : List Handed}
    (accounts : Accounts limit run.collector handed) (outcome : ProgramOutcome) :
    Accounts limit (outcome.report run).2.collector (handed ++ run.handedEnd outcome) := by
  rw [report_data]
  unfold Run.handedEnd
  cases outcome.data with
  | none => simpa using accounts
  | some data => exact accounts.exception data

/-- An exception that the event model accepts is among the events. -/
theorem report_present (run : Run) {outcome : ProgramOutcome} {data : JsonValue}
    (described : outcome.data = some data) (valid : EventData data) :
    Present (outcome.report run).2.collector data := by
  rw [report_data, described]
  simp only [Run.structured, structured_exception, EventCollector.push]
  rw [if_pos (exception_valid.mpr valid)]
  exact ⟨_, List.mem_append_right _ (List.mem_singleton_self _), rfl, rfl⟩

/-- The end of a program hands over no text and leaves the buffers. -/
theorem report_text (run : Run) (outcome : ProgramOutcome) (stream : OutputStream) :
    shownText stream (drafts (run.handedEnd outcome)) ++ (outcome.report run).2.buffer stream =
      run.buffer stream := by
  rw [report_data]
  unfold Run.handedEnd
  cases outcome.data with
  | none => rfl
  | some data =>
    have silent : shownText stream (drafts [⟨{ kind := .exception, data := some data },
        raises (run.structured .exception (some data))⟩]) = [] :=
      shownText_other (by simp [WorkspaceEvent.IsOutput])
    simp only [silent]
    cases stream <;> rfl

theorem Accounts.empty (maxEvents limit : Nat) :
    Accounts limit (emptyRun maxEvents limit).collector [] := by
  refine ⟨Nat.zero_le _, rfl, ?_, fun _ => List.Sublist.refl _, fun _ _ => rfl⟩
  simp [emptyRun]

/-- What was handed over and what could not be flushed is all that was written. -/
theorem concluded_text (maxEvents maxOutputChars : Nat) (calls : List CollectorCall)
    (outcome : ProgramOutcome) (stream : OutputStream) :
    shownText stream (drafts ((emptyRun maxEvents maxOutputChars).handedBy calls outcome)) ++
      ((emptyRun maxEvents maxOutputChars).concluded calls outcome).buffer stream =
        writtenText stream calls := by
  have made := collectAll_text stream calls (emptyRun maxEvents maxOutputChars)
  have ended := report_text ((emptyRun maxEvents maxOutputChars).collectAll calls) outcome stream
  have flushed := collectAll_text stream flushes
    (outcome.report ((emptyRun maxEvents maxOutputChars).collectAll calls)).2
  have nothing : (emptyRun maxEvents maxOutputChars).buffer stream = [] := by cases stream <;> rfl
  have quiet : writtenText stream flushes = [] := rfl
  rw [quiet, List.append_nil] at flushed
  rw [nothing, List.nil_append] at made
  simp only [Run.handedBy, Run.concluded, drafts_append, shownText_append, List.append_assoc]
  rw [flushed, ended, made]

theorem returned_sublist (handed : List Handed) : (returned handed).Sublist (drafts handed) :=
  List.filter_sublist.map _

/-- The collector obeys the law, whatever its program writes, shows and raises. -/
theorem collector_never_silent {maxEvents : Nat} (positive : 1 ≤ maxEvents)
    (maxOutputChars : Nat) (calls : List CollectorCall) (outcome : ProgramOutcome) :
    ∃ events, ((emptyRun maxEvents maxOutputChars).concluded calls outcome).collector.finish
        outcome.status = .ok events ∧
      NeverSilent (collectorDoings maxEvents maxOutputChars calls outcome) events := by
  have accounts := ((Accounts.collectAll calls (Accounts.empty maxEvents maxOutputChars)).ends
    outcome).collectAll flushes
  have limit : ((emptyRun maxEvents maxOutputChars).concluded calls outcome).collector.maxEvents =
      maxEvents := by
    rw [Run.concluded, (collectAll_keeps flushes _).1, report_maxEvents, (collectAll_keeps calls _).1]
    rfl
  have within (stream : OutputStream) : (shownText stream (returned
      ((emptyRun maxEvents maxOutputChars).handedBy calls outcome))).Sublist
        (writtenText stream calls) := by
    rw [← concluded_text maxEvents maxOutputChars calls outcome stream]
    exact (shownText_sublist (returned_sublist _)).trans (List.sublist_append_left _ _)
  have present : ∀ data ∈ (outcome.data.filter fun data => EventData data),
      Apart data ∧ Present
        ((emptyRun maxEvents maxOutputChars).concluded calls outcome).collector data := by
    intro data raised
    obtain ⟨described, valid⟩ := Option.filter_eq_some_iff.mp raised
    obtain ⟨event, member, kind, same⟩ := report_present
      ((emptyRun maxEvents maxOutputChars).collectAll calls) described (of_decide_eq_true valid)
    exact ⟨outcome_apart described, event, (collectAll_keeps flushes _).2 event member, kind, same⟩
  have concluded := accounts.never_silent (by rw [← Run.concluded, limit]; exact positive)
    outcome.status within present
  rw [← Run.concluded, limit] at concluded
  exact concluded

end Collecting

section Acceptance

variable {run : Run}

/-- The event model accepts what a call hands over. -/
def CollectorCall.Acceptable : CollectorCall → Prop
  | .write _ text => Encodable text
  | .display data | .progress data => ∃ document, data = some document ∧ EventData document
  | .flush _ | .artifact _ => True

/-- What a run buffers has an encoding. -/
def Plain.Run.Clean (run : Run) : Prop := ∀ stream, Encodable (run.buffer stream)

theorem encodable_append {first second : PyString} :
    Encodable (first ++ second) ↔ Encodable first ∧ Encodable second := by
  simp [Encodable, or_imp, forall_and]

/-- No line is refused of a text that has an encoding, and its rest has one. -/
theorem handedLines_accepted (stream : OutputStream) (text : PyString) :
    ∀ (line : PyString) (collector : EventCollector), Encodable (line ++ text) →
      (∀ handed ∈ handedLines stream line text collector, handed.refused = false) ∧
        Encodable (writeLines stream line text collector).2.1 := by
  induction text with
  | nil =>
    intro line collector encodable
    rw [List.append_nil] at encodable
    exact ⟨nofun, encodable⟩
  | cons code rest ih =>
    intro line collector encodable
    rw [List.append_cons] at encodable
    have finished := (encodable_append.mp encodable).1
    have later := (encodable_append.mp encodable).2
    unfold handedLines writeLines
    split
    · -- The line is streamed, since what is shown of it has an encoding too.
      have streamed : (collector.stream stream.kind (line ++ [code])).1 = .ok () :=
        (stream_ok stream _).mpr fun _ code member => finished code (List.mem_of_mem_take member)
      rcases attempt : collector.stream stream.kind (line ++ [code]) with ⟨error | ⟨⟩, next⟩
      · simp [attempt] at streamed
      · obtain ⟨accepted, clean⟩ := ih [] next (by simpa using later)
        refine ⟨?_, clean⟩
        simpa [raises, Except.toBool] using accepted
    · exact ih _ collector encodable

theorem append_accepted {collector : EventCollector} {draft : WorkspaceEvent}
    (valid : draft.Valid) : raises (collector.append (some draft)) = false := by
  unfold EventCollector.append EventCollector.push
  split
  · rfl
  · simp [valid, raises, Except.toBool]

/-- Nothing is refused of an acceptable call, and what it leaves in the buffers has an encoding. -/
theorem collect_accepted {call : CollectorCall} (acceptable : call.Acceptable)
    (clean : run.Clean) :
    (∀ handed ∈ run.handed call, handed.refused = false) ∧ (run.collect call).2.Clean := by
  cases call with
  | write stream text =>
    have whole : Encodable ([] ++ (run.buffer stream ++ text)) := by
      rw [List.nil_append]
      exact encodable_append.mpr ⟨clean stream, acceptable⟩
    obtain ⟨accepted, rest⟩ := handedLines_accepted stream _ [] run.collector whole
    refine ⟨accepted, fun other => ?_⟩
    simp only [Run.collect, Run.perform, buffer_setBuffer]
    split
    · exact rest
    · simpa using clean other
  | flush stream =>
    refine ⟨?_, fun other => ?_⟩
    · intro handed member
      simp only [Run.handed] at member
      split at member
      · cases member
      · rw [List.mem_singleton.mp member]
    · simp only [Run.collect, Run.flush]
      split
      · rw [buffer_setBuffer]
        split
        · intro character member
          cases member
        · simpa using clean other
      · simpa using clean other
  | display data =>
    obtain ⟨document, rfl, valid⟩ := acceptable
    refine ⟨?_, fun other => by simpa [Run.collect, Run.structured] using clean other⟩
    have accepted : raises (run.collect (.display (some document))) = false :=
      append_accepted (by simpa [WorkspaceEvent.Valid, WorkspaceEvent.Matches] using valid)
    simp [Run.handed, accepted]
  | progress data =>
    obtain ⟨document, rfl, valid⟩ := acceptable
    refine ⟨?_, fun other => by simpa [Run.collect, Run.structured] using clean other⟩
    have accepted : raises (run.collect (.progress (some document))) = false :=
      append_accepted (by simpa [WorkspaceEvent.Valid, WorkspaceEvent.Matches] using valid)
    simp [Run.handed, accepted]
  | artifact reference =>
    refine ⟨?_, fun other => by simpa [Run.collect] using clean other⟩
    have accepted : raises (run.collect (.artifact reference)) = false :=
      append_accepted (by simp [WorkspaceEvent.Valid, WorkspaceEvent.Matches])
    simp [Run.handed, accepted]

/-- Nothing is refused of acceptable calls. -/
theorem collectAll_accepted (calls : List CollectorCall) :
    ∀ {run : Run}, (∀ call ∈ calls, call.Acceptable) → run.Clean →
      (∀ handed ∈ run.handedAll calls, handed.refused = false) ∧ (run.collectAll calls).Clean := by
  induction calls with
  | nil => exact fun _ clean => ⟨nofun, clean⟩
  | cons call rest ih =>
    intro run acceptable clean
    obtain ⟨first, still⟩ := collect_accepted (acceptable call List.mem_cons_self) clean
    obtain ⟨others, last⟩ :=
      ih (fun later member => acceptable later (List.mem_cons_of_mem _ member)) still
    refine ⟨fun handed member => ?_, last⟩
    rcases List.mem_append.mp member with here | there
    · exact first handed here
    · exact others handed there

/-- An output whose buffer has an encoding is flushed empty. -/
theorem flush_empty (clean : run.Clean) (stream : OutputStream) :
    (run.collect (.flush stream)).2.buffer stream = [] := by
  have flushed : (run.flush stream).1 = .ok () := by
    refine (flush_ok stream).mpr ((stream_ok stream _).mpr fun _ code member => ?_)
    exact clean stream code (List.mem_of_mem_take member)
  show (run.flush stream).2.buffer stream = []
  unfold Run.flush at flushed ⊢
  split
  · rw [buffer_setBuffer, if_pos rfl]
  · next error next streamed =>
    rw [streamed] at flushed
    cases flushed

theorem flush_other {stream other : OutputStream} (apart : stream ≠ other) :
    (run.collect (.flush stream)).2.buffer other = run.buffer other := by
  show (run.flush stream).2.buffer other = run.buffer other
  unfold Run.flush
  split
  · rw [buffer_setBuffer, if_neg apart, buffer_collector]
  · rw [buffer_collector]

/-- When everything a program hands over is acceptable, the law is about all that it wrote. -/
theorem collectorDoings_accepted (maxEvents maxOutputChars : Nat) {calls : List CollectorCall}
    {outcome : ProgramOutcome} (acceptable : ∀ call ∈ calls, call.Acceptable)
    (described : ∀ data ∈ outcome.data, EventData data) :
    (∀ stream, (collectorDoings maxEvents maxOutputChars calls outcome).accepted stream =
        writtenText stream calls) ∧
      (collectorDoings maxEvents maxOutputChars calls outcome).others =
        (drafts ((emptyRun maxEvents maxOutputChars).handedBy calls outcome)).filter
          fun event => ¬ event.IsOutput := by
  let start := emptyRun maxEvents maxOutputChars
  have empty : start.Clean := by
    intro stream character member
    cases stream <;> cases member
  obtain ⟨made, clean⟩ := collectAll_accepted calls acceptable empty
  -- The exception is accepted, and its buffers are those that the calls left.
  have reported : ∀ handed ∈ (start.collectAll calls).handedEnd outcome,
      handed.refused = false := by
    unfold Run.handedEnd
    cases found : outcome.data with
    | none =>
      intro handed member
      cases member
    | some data =>
      have valid := exception_valid.mpr (described data found)
      have accepted : raises ((start.collectAll calls).structured .exception (some data)) =
          false := by
        simp [Run.structured, structured_exception, EventCollector.push, valid, raises,
          Except.toBool]
      simp [accepted]
  have still : (outcome.report (start.collectAll calls)).2.Clean := by
    intro stream
    rw [report_data]
    split
    · exact clean stream
    · simpa [Run.structured] using clean stream
  obtain ⟨flushed, -⟩ := collectAll_accepted flushes
    (by simp [flushes, CollectorCall.Acceptable]) still
  have all : ∀ handed ∈ start.handedBy calls outcome, handed.refused = false := by
    intro handed member
    simp only [Run.handedBy, List.mem_append] at member
    rcases member with (calls | ending) | last
    · exact made handed calls
    · exact reported handed ending
    · exact flushed handed last
  have same : returned (start.handedBy calls outcome) = drafts (start.handedBy calls outcome) := by
    rw [returned, List.filter_eq_self.mpr fun handed member => by simp [all handed member]]
  refine ⟨fun stream => ?_, congrArg _ same⟩
  -- Both outputs are flushed empty at the end.
  have nothing : (start.concluded calls outcome).buffer stream = [] := by
    cases stream with
    | stdout =>
      rw [← flush_empty still .stdout]
      exact flush_other (fun impossible => by cases impossible)
    | stderr =>
      exact flush_empty (@collect_accepted _ (.flush .stdout) trivial still).2 .stderr
  have text := concluded_text maxEvents maxOutputChars calls outcome stream
  rw [nothing, List.append_nil, ← same] at text
  exact text

end Acceptance

end Aar.Workspace
