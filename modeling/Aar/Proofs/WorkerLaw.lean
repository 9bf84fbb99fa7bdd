import Aar.Proofs.WorkerOutput

/-! The condition under which the worker and the backend together lose no output silently. -/

namespace Aar.Workspace.Worker

open Guarded
open Plain (OutputStream)

section Refusing

variable {host : Host} {raw : WorkerEvent} {count : Nat} {error : HostError}

/-- What the host raises for the first listed event that it does not take. -/
def Host.refused (host : Host) (listed : List WorkerEvent) : Option HostError :=
  listed.findSome? fun raw =>
    match readEvent host 0 raw with
    | .ok _ => none
    | .error error => some error

theorem issue_error {event : WorkspaceEvent} (failed : host.issue raw event = .error error) :
    host.refusal raw = error := by
  unfold Host.issue at failed
  split at failed
  · cases failed
  · exact Except.error.inj failed

/-- The host raises what it raises for an artifact, or describes the event that is refused. -/
theorem readEvent_raises (failed : readEvent host count raw = .error error) :
    (∃ index, raw = .artifact index ∧ host.artifact index = .error error) ∨
      ((∀ index, raw = .artifact index → ∃ reference, host.artifact index = .ok reference) ∧
        host.refusal raw = error) := by
  unfold readEvent at failed
  cases raw with
  | artifact index =>
    simp only at failed
    split at failed
    · next reference answered =>
      refine .inr ⟨fun same found => ?_, issue_error failed⟩
      obtain rfl := WorkerEvent.artifact.inj found
      exact ⟨reference, answered⟩
    · next answered =>
      obtain rfl := Except.error.inj failed
      exact .inl ⟨index, rfl, answered⟩
  | text kind text truncated => exact .inr ⟨nofun, issue_error failed⟩
  | data kind entries truncated => exact .inr ⟨nofun, issue_error failed⟩

/-- The place of an event has no part in what the host raises for it. -/
theorem readEvent_error (failed : readEvent host count raw = .error error) (second : Nat) :
    readEvent host second raw = .error error := by
  cases again : readEvent host second raw with
  | ok event =>
    -- An event that is taken in one place is taken in every place.
    obtain ⟨same, read, -⟩ := readEvent_unnumbered again count
    rw [failed] at read
    cases read
  | error other =>
    rcases readEvent_raises failed with ⟨index, rfl, first⟩ | ⟨answers, first⟩ <;>
      rcases readEvent_raises again with ⟨place, found, then_raised⟩ | ⟨later, then_raised⟩
    · obtain rfl := WorkerEvent.artifact.inj found
      rw [Except.error.inj (then_raised.symm.trans first)]
    · obtain ⟨reference, answered⟩ := later index rfl
      rw [first] at answered
      cases answered
    · obtain ⟨reference, answered⟩ := answers place found
      rw [then_raised] at answered
      cases answered
    · rw [← first, then_raised]

/-- The host stops at the first listed event that it does not take. -/
theorem readEvents_refused (raws : List WorkerEvent) :
    ∀ before : List WorkspaceEvent, (readEvents host before raws).2 = host.refused raws := by
  induction raws with
  | nil => exact fun _ => rfl
  | cons raw rest ih =>
    intro before
    unfold readEvents Host.refused
    rw [List.findSome?_cons]
    cases read : readEvent host before.length raw with
    | ok event =>
      obtain ⟨same, first, -⟩ := readEvent_unnumbered read 0
      rw [first]
      exact ih (before ++ [event])
    | error error =>
      rw [readEvent_error read 0]

end Refusing

section Law

variable {host : Host} {request : ExecuteRequest} {calls : List WorkerCall}
  {raised : Option (String × PyString)} {stream : OutputStream} {run : WorkerRun}
  {listed : List WorkerEvent} {events : List WorkspaceEvent}

/-- The events that a program asked for, one output, its exception and its end have a place. -/
def Fits (request : ExecuteRequest) (calls : List WorkerCall)
    (raised : Option (String × PyString)) : Prop :=
  (reported calls).length + 1 + (exceptionEvents raised).length + 1 ≤ request.maxEvents

/-- The exception that a program raised, if it did, is described as that of the host. -/
def SameRaised (raised : Option (String × PyString)) (error : HostError) : Prop :=
  ∀ exception ∈ raised, pyString exception.1 = pyString error.typeName ∧
    exception.2.take 2048 = error.message.take 2048

/--
Nothing is lost without a mark in the result for a response.

Where the host takes every event of the response, no output may be starved while every other event
has a place.
Where it raises an exception, this must be one that an event can hold, and a program that raised
one must have raised the same.
-/
def Told (host : Host) (request : ExecuteRequest) (calls : List WorkerCall)
    (raised : Option (String × PyString)) (listed : List WorkerEvent) : Prop :=
  match host.refused listed with
  | none => ∀ stream, Starved request.maxOutputChars calls stream → ¬ Fits request calls raised
  | some error =>
    EventData (errorData error (request.maxEvents = 1)) ∧ SameRaised raised error

/-- A response has one of two shapes: with a place for its end, or the exception alone. -/
theorem listedEvents_shape (request : ExecuteRequest) (calls : List WorkerCall)
    (raised : Option (String × PyString)) :
    let run := (emptyRun request).collectAll calls
    (∃ dropped, (exceptionEvents raised).length < request.maxEvents ∧
      listedEvents run raised = .ok ((reported calls ++ outputEvents run).take
          (request.maxEvents - 1 - (exceptionEvents raised).length) ++
        exceptionEvents raised ++ [finishEvent (listedStatus raised) dropped]) ∧
      (dropped = true ↔ request.maxEvents - 1 < (reported calls ++ outputEvents run).length +
        (exceptionEvents raised).length ∨ CutShort run)) ∨
    ∃ typeName message dropped, request.maxEvents = 1 ∧ raised = some (typeName, message) ∧
      listedEvents run raised = .ok [.data .exception ([("type", wireText typeName),
        ("message", .str (message.take 2048))] ++ finishEntries "failed" dropped) (some true)] := by
  intro run
  have lists : Lists run (reported calls) := Lists.collectAll calls (Lists.empty request)
  have limit : run.maxEvents = request.maxEvents := collectAll_maxEvents calls
  have positive := request.maxEvents_range.1
  rw [← limit] at positive ⊢
  by_cases room : (exceptionEvents raised).length < run.maxEvents
  · obtain ⟨dropped, made, marks⟩ := listedEvents_roomy lists room
    exact .inl ⟨dropped, room, made, marks⟩
  · -- Only an exception takes a place besides the end, so there is one place in all.
    cases raised with
    | none => exact absurd positive room
    | some exception =>
      have one : run.maxEvents = 1 := by
        simp only [exceptionEvents, List.length_singleton] at room
        omega
      obtain ⟨typeName, message⟩ := exception
      obtain ⟨dropped, made⟩ := listedEvents_full lists one typeName message
      exact .inr ⟨typeName, message, dropped, one, rfl, made⟩

/-- Events that show a part of what was kept of each output are within the limits and in order. -/
theorem shown_within
    (within : ∀ stream, (shownText stream events).Sublist
      (((emptyRun request).collectAll calls).output stream).text) :
    (shownText .stdout events).length + (shownText .stderr events).length ≤
        request.maxOutputChars ∧
      ∀ stream, (shownText stream events).Sublist (writtenText stream calls) := by
  have outputs := Outputs.reached request calls
  have budget := outputs.budget
  have out := (within .stdout).length_le
  have err := (within .stderr).length_le
  simp only [WorkerRun.output] at out err
  exact ⟨by omega, fun stream => (within stream).trans (outputs.ordered stream)⟩

/-- The exception and the end of a response show no text. -/
theorem rawText_ended (raws : List WorkerEvent) (dropped : Bool) :
    rawText stream (raws ++ exceptionEvents raised ++
      [finishEvent (listedStatus raised) dropped]) = rawText stream raws := by
  have ending : rawText stream [finishEvent (listedStatus raised) dropped] = [] :=
    rawText_quiet fun raw member => by
      obtain rfl := List.mem_singleton.mp member
      rfl
  rw [rawText_append, rawText_append, ending,
    rawText_quiet fun raw member => (exceptionEvents_kind member).2.1, List.append_nil,
    List.append_nil]

/-- A response shows a part of what was kept of each output. -/
theorem listedEvents_text
    (made : listedEvents ((emptyRun request).collectAll calls) raised = .ok listed)
    (stream : OutputStream) :
    (rawText stream listed).Sublist (((emptyRun request).collectAll calls).output stream).text := by
  rcases listedEvents_shape request calls raised with
    ⟨dropped, -, shape, -⟩ | ⟨typeName, message, dropped, -, -, shape⟩
  · obtain rfl := Except.ok.inj (made.symm.trans shape)
    rw [rawText_ended, ← rawText_all]
    exact rawText_sublist (List.take_sublist _ _)
  · obtain rfl := Except.ok.inj (made.symm.trans shape)
    have quiet : rawText stream [WorkerEvent.data .exception ([("type", wireText typeName),
        ("message", .str (message.take 2048))] ++ finishEntries "failed" dropped) (some true)] =
          [] := rawText_quiet fun raw member => by
      obtain rfl := List.mem_singleton.mp member
      rfl
    rw [quiet]
    exact List.nil_sublist _

end Law

section Keeping

variable {host : Host} {request : ExecuteRequest} {calls : List WorkerCall}
  {raised : Option (String × PyString)} {stream : OutputStream}

/-- While nothing is kept of either output, nothing is cut of them. -/
theorem uncut_of_empty (positive : 1 ≤ request.maxOutputChars) :
    (∀ stream, (((emptyRun request).collectAll calls).output stream).text = []) →
      ∀ stream, (((emptyRun request).collectAll calls).output stream).truncated = false := by
  induction calls using List.reverseRecOn with
  | nil =>
    intro _ stream
    cases stream <;> rfl
  | append_singleton calls call ih =>
    intro nothing stream
    have budget := (Outputs.reached request calls).budget
    rw [collectAll_snoc] at nothing ⊢
    generalize (emptyRun request).collectAll calls = run at *
    rcases call.cases with ⟨written, text, rfl⟩ | ⟨event, -, added⟩
    · obtain ⟨kept, truncated, apart, -⟩ := write_output run written text
      rw [WorkerRun.collect] at nothing ⊢
      have own := nothing written
      have others := nothing (other written)
      rw [kept, List.append_eq_nil_iff] at own
      rw [apart] at others
      have empty : ∀ stream, (run.output stream).text = [] := by
        intro second
        rcases eq_or_other written second with rfl | rfl
        · exact own.1
        · exact others
      rcases eq_or_other written stream with rfl | rfl
      · -- The whole budget is left, so only an empty text leaves nothing.
        have out := empty .stdout
        have err := empty .stderr
        simp only [WorkerRun.output] at out err
        rw [out, err, List.length_nil] at budget
        have short : ¬ allowance run stream text < text.length := by
          rcases List.take_eq_nil_iff.mp own.2 with none_left | rfl
          · unfold allowance at none_left ⊢
            rw [own.1, List.length_nil] at none_left ⊢
            omega
          · exact Nat.not_lt_zero _
        rw [truncated, ih empty stream, decide_eq_false short]
        rfl
      · rw [apart]
        exact ih empty _
    · rw [added] at nothing ⊢
      rw [(add_output _ event false stream).1]
      refine ih (fun second => ?_) stream
      rw [← (add_output _ event false second).1]
      exact nothing second

theorem Starved.length {limit : Nat} (starved : Starved limit calls stream) :
    (writtenText (other stream) calls).length = limit := by
  obtain ⟨-, before, after, rfl, -, used, quiet, -⟩ := starved
  rw [writtenText_append, quiet, List.append_nil, used]

theorem outputEvents_pos (run : WorkerRun) (stream : OutputStream)
    (kept : (run.output stream).text ≠ []) :
    1 ≤ (outputEvents run).length := by
  rw [Nat.one_le_iff_ne_zero]
  intro none_listed
  apply kept
  rw [← outputEvents_text, List.length_eq_zero_iff.mp none_listed]
  rfl

theorem outputEvents_single {run : WorkerRun} (nothing : (run.output stream).text = []) :
    (outputEvents run).length ≤ 1 := by
  unfold outputEvents
  cases stream <;> simp only [WorkerRun.output] at nothing <;>
    simp only [List.filterMap_cons, List.filterMap_nil, nothing, if_true] <;>
    split <;> simp

/-- Where every event has a place, nothing cut is shown, and no output is starved, all is kept. -/
theorem kept_of_unmarked (positive : 1 ≤ request.maxOutputChars)
    (told : ∀ stream, Starved request.maxOutputChars calls stream → ¬ Fits request calls raised)
    (listed : (reported calls ++ outputEvents ((emptyRun request).collectAll calls)).length +
      (exceptionEvents raised).length ≤ request.maxEvents - 1)
    (uncut : ¬ CutShort ((emptyRun request).collectAll calls)) (stream : OutputStream) :
    (((emptyRun request).collectAll calls).output stream).text = writtenText stream calls := by
  have outputs := Outputs.reached request calls
  have cut_empty (second : OutputStream)
      (cut : (((emptyRun request).collectAll calls).output second).truncated = true) :
      (((emptyRun request).collectAll calls).output second).text = [] := by
    by_contra kept
    exact uncut ⟨second, kept, cut⟩
  by_cases nothing : (((emptyRun request).collectAll calls).output stream).text = []
  · by_contra lost
    have written : writtenText stream calls ≠ [] := fun silent => lost (nothing.trans silent.symm)
    cases cut : (((emptyRun request).collectAll calls).output (other stream)).truncated with
    | true =>
      -- Nothing is kept of either output, so none of them can have been cut.
      have empty : ∀ second,
          (((emptyRun request).collectAll calls).output second).text = [] := by
        intro second
        rcases eq_or_other stream second with rfl | rfl
        · exact nothing
        · exact cut_empty _ cut
      rw [uncut_of_empty positive empty] at cut
      cases cut
    | false =>
      have starved := starved_of_lost nothing written cut
      apply told stream starved
      -- The other output is listed, in one event.
      have used := starved.length
      rw [← outputs.whole (other stream) cut] at used
      have one := outputEvents_pos ((emptyRun request).collectAll calls) (other stream)
        (by rw [← List.length_pos_iff]; omega)
      rw [List.length_append] at listed
      have places := request.maxEvents_range.1
      unfold Fits
      omega
  · apply outputs.whole stream
    cases cut : (((emptyRun request).collectAll calls).output stream).truncated with
    | true => exact absurd (cut_empty stream cut) nothing
    | false => rfl

end Keeping

section Built

variable {host : Host} {request : ExecuteRequest} {calls : List WorkerCall}
  {raised : Option (String × PyString)} {stream : OutputStream} {raws : List WorkerEvent}
  {events : List WorkspaceEvent} {dropped : Bool}

/-- Events are marked as the listed events are that they were read from. -/
theorem marked_read (reads : List.Forall₂ (Read host) raws events) :
    (∃ event ∈ events, event.truncated = true) ↔ ∃ raw ∈ raws, raw.marked = true := by
  obtain ⟨onto, into⟩ := forall₂_mem reads
  constructor
  · intro ⟨event, member, marked⟩
    obtain ⟨raw, listed, count, read⟩ := into event member
    exact ⟨raw, listed, (readEvent_ok read).2.2.2.1 ▸ marked⟩
  · intro ⟨raw, listed, marked⟩
    obtain ⟨event, member, count, read⟩ := onto raw listed
    exact ⟨event, member, (readEvent_ok read).2.2.2.1.trans marked⟩

/-- The end of an execution has its phase and its status. -/
theorem endData_has {status : WorkspaceExecutionStatus} {event : WorkspaceEvent}
    (same : event.data = some (endData status dropped)) :
    event.Has "phase" (jsonText "finished") ∧ event.Has "status" (jsonText status.text) := by
  have has {key : String} {value : JsonValue} (member : (key, value) ∈ finishData status dropped) :
      event.Has key value :=
    ⟨_, same, List.mem_map_of_mem (f := fun entry : String × JsonValue =>
      (pyString entry.1, entry.2)) member⟩
  exact ⟨has (finishData_has status dropped).1, has (finishData_has status dropped).2⟩

theorem endData_unmarked {status : WorkspaceExecutionStatus} {event : WorkspaceEvent}
    (same : event.data = some (endData status false)) :
    ¬ event.Has "events_truncated" (.bool true) := by
  intro ⟨entries, data, member⟩
  obtain rfl := JsonValue.object.inj (Option.some.inj (data.symm.trans same))
  simp [finishData, jsonText] at member

/-- A result that the host takes whole is marked when something was dropped or cut. -/
theorem marked_built {cut : List WorkerEvent} {status : WorkspaceExecutionStatus}
    (reads : List.Forall₂ (Read host) (cut ++ exceptionEvents raised ++
      [finishEvent status dropped]) events) :
    Marked events ↔ dropped = true ∨ ∃ raw ∈ cut, raw.marked = true := by
  obtain ⟨before, ending, rfl, front, count, last⟩ := forall₂_concat reads
  obtain ⟨event, read, data, marked⟩ := finishEvent_read host status dropped count
  obtain rfl := Except.ok.inj (last.symm.trans read)
  have apart : (∃ event ∈ before, event.truncated = true) ↔ ∃ raw ∈ cut, raw.marked = true := by
    rw [marked_read front]
    refine exists_congr fun raw => ?_
    rw [List.mem_append, or_and_right, or_iff_left]
    intro ⟨member, cut⟩
    rw [(exceptionEvents_kind member).2.2] at cut
    cases cut
  cases dropped with
  | true => exact iff_of_true (.inl ⟨ending, by simp, marked⟩) (.inl rfl)
  | false =>
    rw [← apart]
    constructor
    · intro either
      rcases either with ⟨event, member, truncated⟩ | ⟨event, member, has⟩
      · rcases List.mem_append.mp member with inside | alone
        · exact .inr ⟨event, inside, truncated⟩
        · obtain rfl := List.mem_singleton.mp alone
          rw [marked] at truncated
          cases truncated
      · rw [List.getLast?_concat, Option.mem_some_iff] at member
        subst member
        exact absurd has (endData_unmarked data)
    · intro either
      rcases either with nothing | ⟨event, member, truncated⟩
      · cases nothing
      · exact .inl ⟨event, List.mem_append_left _ member, truncated⟩

/-- The exception alone, with the end merged into it, obeys the law. -/
theorem exception_obeys {typeName : String} {message : PyString}
    (one : request.maxEvents = 1)
    (made : listedEvents ((emptyRun request).collectAll calls) (some (typeName, message)) =
      .ok [.data .exception ([("type", wireText typeName), ("message", .str (message.take 2048))] ++
        finishEntries "failed" dropped) (some true)])
    (reads : List.Forall₂ (Read host)
      [.data .exception ([("type", wireText typeName), ("message", .str (message.take 2048))] ++
        finishEntries "failed" dropped) (some true)] events)
    (numbers : events.map WorkspaceEvent.sequence = List.range' 1 events.length) :
    NeverSilent (workerDoings request host calls (some (typeName, message)) .failed) events := by
  have within : ∀ stream, (shownText stream events).Sublist
      (((emptyRun request).collectAll calls).output stream).text := by
    intro stream
    rw [shownText_read reads]
    exact listedEvents_text made stream
  obtain ⟨bounded, ordered⟩ := shown_within within
  obtain ⟨event, rest, read, nothing, rfl⟩ := List.forall₂_cons_left_iff.mp reads
  obtain rfl := List.forall₂_nil_left_iff.mp nothing
  have has {key : String} {value : WireValue} {json : JsonValue}
      (member : (key, value) ∈ finishEntries "failed" dropped)
      (document : value.toJson = some json) : event.Has key json :=
    read_has read (List.mem_append_right _ member) document
  have phase : ("phase", wireText "finished") ∈ finishEntries "failed" dropped := by
    simp [finishEntries]
  have status : ("status", wireText "failed") ∈ finishEntries "failed" dropped := by
    simp [finishEntries]
  obtain ⟨kind, keeps⟩ := exception_read read
  refine ⟨one.ge, numbers, ⟨event, rfl, ?_, ?_⟩, ?_, bounded, ordered, ?_⟩
  · exact has phase rfl
  · exact has status rfl
  · exact fun data described => ⟨event, List.mem_singleton_self _, kind, keeps data described⟩
  · obtain ⟨count, taken⟩ := read
    intro unmarked
    exact absurd (.inl ⟨event, List.mem_singleton_self _, (readEvent_ok taken).2.2.2.1⟩) unmarked

/-- What is listed of a run's output is marked when some of it was kept and some was cut. -/
theorem marked_listed {run : WorkerRun} :
    (∃ raw ∈ reported calls ++ outputEvents run, raw.marked = true) → CutShort run := by
  intro ⟨raw, member, marked⟩
  rcases List.mem_append.mp member with asked | output
  · rw [(reported_kind asked).2.2.2] at marked
    cases marked
  · obtain ⟨-, stream, kept, same⟩ := outputEvents_output output
    exact ⟨stream, kept, same ▸ marked⟩

/-- Besides output, a whole response lists what the program asked for and its exception. -/
theorem others_listed (run : WorkerRun) :
    (reported calls ++ outputEvents run ++ exceptionEvents raised).filter
        (fun raw => ¬ raw.IsOutput) = reported calls ++ exceptionEvents raised := by
  rw [List.filter_append, List.filter_append]
  have asked : (reported calls).filter (fun raw => ¬ raw.IsOutput) = reported calls :=
    List.filter_eq_self.mpr fun raw member => by simpa using (reported_kind member).1
  have ended : (exceptionEvents raised).filter (fun raw => ¬ raw.IsOutput) =
      exceptionEvents raised :=
    List.filter_eq_self.mpr fun raw member => by simpa using (exceptionEvents_kind member).1
  have output : (outputEvents run).filter (fun raw => ¬ raw.IsOutput) = [] :=
    List.filter_eq_nil_iff.mpr fun raw member => by simpa using (outputEvents_output member).1
  rw [asked, ended, output, List.append_nil]

/-- A result that the host takes whole obeys the law unless an output is starved. -/
theorem built_obeys_iff (positive : 1 ≤ request.maxOutputChars)
    (room : (exceptionEvents raised).length < request.maxEvents)
    (marks : dropped = true ↔ request.maxEvents - 1 <
      (reported calls ++ outputEvents ((emptyRun request).collectAll calls)).length +
        (exceptionEvents raised).length ∨ CutShort ((emptyRun request).collectAll calls))
    (reads : List.Forall₂ (Read host)
      ((reported calls ++ outputEvents ((emptyRun request).collectAll calls)).take
          (request.maxEvents - 1 - (exceptionEvents raised).length) ++
        exceptionEvents raised ++ [finishEvent (listedStatus raised) dropped]) events)
    (numbers : events.map WorkspaceEvent.sequence = List.range' 1 events.length) :
    NeverSilent (workerDoings request host calls raised (listedStatus raised)) events ↔
      ∀ stream, Starved request.maxOutputChars calls stream → ¬ Fits request calls raised := by
  have shown (stream : OutputStream) := shownText_read reads stream
  simp only [rawText_ended] at shown
  have marked := marked_built reads
  have length := reads.length_eq
  obtain ⟨before, ending, rfl, front, count, last⟩ := forall₂_concat reads
  obtain ⟨event, read, data, truncated⟩ :=
    finishEvent_read host (listedStatus raised) dropped count
  obtain rfl := Except.ok.inj (last.symm.trans read)
  obtain ⟨phase, status⟩ := endData_has data
  constructor
  · intro obeys stream starved fits
    obtain ⟨nothing, lost, uncut⟩ := lost_of_starved starved
    have single := outputEvents_single nothing
    unfold Fits at fits
    -- Nothing is kept of one output and nothing is cut of the other, so nothing is cut short.
    have not_cut : ¬ CutShort ((emptyRun request).collectAll calls) := by
      intro ⟨second, kept, cut⟩
      rcases eq_or_other stream second with rfl | rfl
      · exact kept nothing
      · rw [uncut] at cut
        cases cut
    have unmarked : ¬ Marked (before ++ [ending]) := by
      rw [marked, marks, List.length_append]
      intro either
      rcases either with (many | cut) | ⟨raw, member, cut⟩
      · omega
      · exact not_cut cut
      · exact not_cut (marked_listed ⟨raw, List.mem_of_mem_take member, cut⟩)
    have all := (obeys.whole unmarked).1 stream
    rw [shown, List.take_of_length_le (by rw [List.length_append]; omega), rawText_all,
      nothing] at all
    exact lost all.symm
  · intro told
    have within : ∀ stream, (shownText stream (before ++ [ending])).Sublist
        (((emptyRun request).collectAll calls).output stream).text := by
      intro stream
      rw [shown, ← rawText_all]
      exact rawText_sublist (List.take_sublist _ _)
    obtain ⟨bounded, ordered⟩ := shown_within within
    refine ⟨?_, numbers, ⟨ending, by simp, phase, status⟩, ?_, bounded, ordered, ?_⟩
    · rw [← length]
      simp only [List.length_append, List.length_take, List.length_singleton]
      show _ ≤ request.maxEvents
      omega
    · intro document described
      cases raised with
      | none => cases described
      | some exception =>
        obtain ⟨typeName, message⟩ := exception
        obtain ⟨event, member, read⟩ := (forall₂_mem front).1 _
          (List.mem_append_right _ (List.mem_singleton_self _))
        obtain ⟨kind, keeps⟩ := @exception_read _ _ _ [] _ _ read
        exact ⟨event, List.mem_append_left _ member, kind, keeps document described⟩
    · intro unmarked
      -- Without a mark, every event has a place and nothing was cut of what is shown.
      have kept : dropped = false := by
        by_contra some_dropped
        exact unmarked (marked.mpr (.inl (by simpa using some_dropped)))
      subst kept
      have fewer : ¬ (_ ∨ _) := fun either => absurd (marks.mpr either) (by decide)
      rw [not_or, Nat.not_lt] at fewer
      rw [List.take_of_length_le (by omega)] at front shown
      refine ⟨fun stream => ?_, ?_⟩
      · rw [shown, rawText_all]
        exact kept_of_unmarked positive told fewer.1 fewer.2 stream
      · rw [List.dropLast_concat, others_read front, others_listed]
        rfl

end Built

section Refused

variable {host : Host} {request : ExecuteRequest} {calls : List WorkerCall}
  {raised : Option (String × PyString)} {listed : List WorkerEvent}
  {built : List WorkspaceEvent} {error : HostError} {count : Nat} {alone : Bool}

theorem errorEvent_valid :
    (errorEvent count error alone).Valid ↔ EventData (errorData error alone) := by
  simp [errorEvent, WorkspaceEvent.Valid, WorkspaceEvent.Matches]

theorem failedEvent_valid : (failedEvent count).Valid := by
  have valid := endData_valid .failed false
  simpa [failedEvent, WorkspaceEvent.Valid, WorkspaceEvent.Matches, endData] using valid

/-- The event for an exception of the host describes that of the program when they are the same. -/
theorem errorEvent_keeps :
    (∀ data ∈ raisedData raised, (errorEvent count error alone).Keeps data) ↔
      SameRaised raised error := by
  have apart : pyString "message" ∉ [pyString "phase", pyString "status", pyString "type"] ∧
      pyString "type" ∉ [pyString "message", pyString "phase", pyString "status"] := by decide
  unfold SameRaised
  cases raised with
  | none => exact iff_of_true (by intros; contradiction) (by intros; contradiction)
  | some exception =>
    obtain ⟨typeName, message⟩ := exception
    simp only [raisedData, Option.map_some, Option.mem_some_iff, forall_eq']
    constructor
    · rintro ⟨kept, entries, data, described, inside⟩
      obtain rfl := JsonValue.object.inj described
      obtain rfl := JsonValue.object.inj (Option.some.inj data)
      simp only [List.map_cons, List.map_nil, List.forall_mem_cons] at inside
      -- The two entries are those with these keys, whether or not the end was added to them.
      cases alone <;> simp_all [jsonText]
    · rintro ⟨same_type, same_message⟩
      refine ⟨_, _, rfl, rfl, fun entry member => ?_⟩
      simp only [List.map_cons, List.map_nil, List.mem_cons, List.not_mem_nil, or_false] at member
      rcases member with rfl | rfl <;>
        simp [same_type, same_message, jsonText]

/-- No event that was read before the host raised is about an exception. -/
theorem built_kinds
    (made : listedEvents ((emptyRun request).collectAll calls) raised = .ok listed)
    (reads : List.Forall₂ (Read host) (listed.take built.length) built)
    (fails : ∃ raw count, listed[built.length]? = some raw ∧
      readEvent host count raw = .error error) :
    ∀ event ∈ built, event.kind ≠ .exception := by
  intro event member
  obtain ⟨raw, listed_raw, count, read⟩ := (forall₂_mem reads).2 event member
  rw [(readEvent_ok read).2.1]
  rcases listedEvents_shape request calls raised with
    ⟨dropped, -, shape, -⟩ | ⟨typeName, message, dropped, -, -, shape⟩
  · obtain rfl := Except.ok.inj (made.symm.trans shape)
    obtain ⟨last, place, found, failed⟩ := fails
    have single : (exceptionEvents raised).length ≤ 1 := by
      unfold exceptionEvents
      split <;> simp
    -- The end can always be read, so the host raised before it, at the exception or earlier.
    have before : ∀ cut : List WorkerEvent, (cut ++ exceptionEvents raised ++
        [finishEvent (listedStatus raised) dropped])[built.length]? = some last →
          built.length ≤ cut.length := by
      intro cut found
      by_contra beyond
      rw [List.getElem?_append_right (by rw [List.length_append]; omega)] at found
      obtain rfl := List.mem_singleton.mp (List.mem_of_getElem? found)
      obtain ⟨ending, taken, -⟩ :=
        finishEvent_read host (listedStatus raised) dropped place
      rw [failed] at taken
      cases taken
    rw [List.append_assoc, List.take_append_of_le_length
      (before _ found)] at listed_raw
    rcases List.mem_append.mp (List.mem_of_mem_take (List.mem_of_mem_take listed_raw)) with
      asked | output
    · exact (reported_kind asked).2.1
    · rcases (outputEvents_output output).1 with out | err
      · rw [out]
        nofun
      · rw [err]
        nofun
  · obtain rfl := Except.ok.inj (made.symm.trans shape)
    -- The only listed event was not read.
    obtain ⟨last, place, found, -⟩ := fails
    have none_read : built.length = 0 := by
      have within := (List.getElem?_eq_some_iff.mp found).1
      simpa using within
    rw [none_read, List.take_zero] at listed_raw
    cases listed_raw

/-- The events that follow those which were read before the host raised. -/
def refusalEvents (request : ExecuteRequest) (error : HostError) (count : Nat) :
    List WorkspaceEvent :=
  errorEvent count error (request.maxEvents = 1) ::
    if request.maxEvents = 1 then [] else [failedEvent (count + 1)]

/-- When its exception can be described, the host's refusal ends the events of the result. -/
theorem resultFromResponse_refused (status : WorkspaceExecutionStatus)
    (stopped : readEvents host [] listed = (built, some error))
    (valid : EventData (errorData error (request.maxEvents = 1))) :
    resultFromResponse host request.maxEvents status listed = .ok
      ⟨.failed, built.take (request.maxEvents - 2) ++
        refusalEvents request error (built.take (request.maxEvents - 2)).length⟩ := by
  unfold resultFromResponse
  rw [stopped]
  refine bind_ok.mpr ⟨(), require_ok.mpr (errorEvent_valid.mpr valid), ?_⟩
  unfold refusalEvents
  split
  · rfl
  · exact bind_ok.mpr ⟨(), require_ok.mpr failedEvent_valid, rfl⟩

/-- The events of a refusal show no text, are numbered on, and say how the execution ended. -/
theorem refusalEvents_spec (request : ExecuteRequest) (error : HostError) (count : Nat) :
    (∀ stream, shownText stream (refusalEvents request error count) = []) ∧
      (refusalEvents request error count).map WorkspaceEvent.sequence =
        List.range' (count + 1) (refusalEvents request error count).length ∧
      ∃ last ∈ (refusalEvents request error count).getLast?,
        last.Has "phase" (jsonText "finished") ∧ last.Has "status" (jsonText "failed") := by
  unfold refusalEvents
  split
  · next one =>
    refine ⟨fun stream => ?_, rfl, _, rfl, ?_, ?_⟩
    · exact shownText_other (by simp [errorEvent, WorkspaceEvent.IsOutput])
    all_goals exact ⟨_, rfl, by simp [one]⟩
  · refine ⟨fun stream => ?_, rfl, _, rfl, ?_⟩
    · rw [shownText_cons, shownText_other (by simp [failedEvent, WorkspaceEvent.IsOutput])]
      cases stream <;> rfl
    · exact @endData_has false .failed _ rfl

/-- A result that ends with a refusal obeys the law when its exception is that of the program. -/
theorem refused_obeys_iff
    (made : listedEvents ((emptyRun request).collectAll calls) raised = .ok listed)
    (stopped : readEvents host [] listed = (built, some error))
    (reads : List.Forall₂ (Read host) (listed.take built.length) built)
    (numbers : built.map WorkspaceEvent.sequence = List.range' 1 built.length)
    (fails : ∃ raw count, listed[built.length]? = some raw ∧
      readEvent host count raw = .error error) :
    (∃ result, resultFromResponse host request.maxEvents (listedStatus raised) listed =
        .ok result ∧
      NeverSilent (workerDoings request host calls raised result.status) result.events) ↔
      EventData (errorData error (request.maxEvents = 1)) ∧ SameRaised raised error := by
  by_cases valid : EventData (errorData error (request.maxEvents = 1))
  · obtain ⟨silent, numbered, last, ends, finished⟩ := refusalEvents_spec request error
      (built.take (request.maxEvents - 2)).length
    rw [resultFromResponse_refused _ stopped valid]
    constructor
    · intro ⟨result, same, obeys⟩
      obtain rfl := Except.ok.inj same
      suffices told : ∀ data ∈ raisedData raised, (errorEvent
          (built.take (request.maxEvents - 2)).length error (request.maxEvents = 1)).Keeps data from
        ⟨valid, errorEvent_keeps.mp told⟩
      intro data described
      obtain ⟨event, member, kind, keeps⟩ := obeys.exception data described
      -- The program's exception was not read, so only that of the host can describe it.
      rcases List.mem_append.mp member with kept | added
      · exact absurd kind (built_kinds made reads fails event (List.mem_of_mem_take kept))
      · rcases List.mem_cons.mp added with rfl | ending
        · exact keeps
        · split at ending
          · cases ending
          · obtain rfl := List.mem_singleton.mp ending
            cases kind
    · intro ⟨_, same⟩
      refine ⟨_, rfl, ?_⟩
      have within : ∀ stream, (shownText stream (built.take (request.maxEvents - 2) ++
          refusalEvents request error (built.take (request.maxEvents - 2)).length)).Sublist
            (((emptyRun request).collectAll calls).output stream).text := by
        intro stream
        rw [shownText_append, silent, List.append_nil]
        refine (shownText_sublist (List.take_sublist _ _)).trans ?_
        rw [shownText_read reads]
        exact (rawText_sublist (List.take_sublist _ _)).trans (listedEvents_text made stream)
      obtain ⟨bounded, ordered⟩ := shown_within within
      refine ⟨?_, ?_, ⟨last, ?_, finished⟩, ?_, bounded, ordered, ?_⟩
      · have places := request.maxEvents_range.1
        show _ ≤ request.maxEvents
        simp only [List.length_append, List.length_take, refusalEvents, List.length_cons]
        split
        · simp only [List.length_nil]
          omega
        · simp only [List.length_singleton]
          omega
      · have kept : (built.take (request.maxEvents - 2)).map WorkspaceEvent.sequence =
            List.range' 1 (built.take (request.maxEvents - 2)).length := by
          rw [List.map_take, numbers, List.length_take]
          rcases Nat.le_total built.length (request.maxEvents - 2) with all | some_cut
          · rw [List.take_range'_of_length_le all, Nat.min_eq_right all]
          · rw [List.take_range'_of_length_ge some_cut, Nat.min_eq_left some_cut]
        rw [List.map_append, numbered, kept, List.length_append, Nat.add_comm _ 1,
          List.range'_append_1]
      · rw [List.getLast?_append, Option.mem_def.mp ends]
        rfl
      · intro data described
        exact ⟨_, List.mem_append_right _ List.mem_cons_self, rfl,
          errorEvent_keeps.mpr same data described⟩
      · intro unmarked
        exact absurd (.inl ⟨_, List.mem_append_right _ List.mem_cons_self, rfl⟩) unmarked
  · refine iff_of_false ?_ fun both => valid both.1
    intro ⟨result, answered, _⟩
    unfold resultFromResponse at answered
    rw [stopped] at answered
    obtain ⟨_, required, _⟩ := bind_ok.mp answered
    exact valid (errorEvent_valid.mp (require_ok.mp required))

end Refused

section Pair

/-- The result for a response obeys the law exactly when its condition holds. -/
theorem resultFromResponse_obeys_iff (host : Host) (request : ExecuteRequest)
    (positive : 1 ≤ request.maxOutputChars) (calls : List WorkerCall)
    (raised : Option (String × PyString)) :
    ∃ listed, listedEvents ((emptyRun request).collectAll calls) raised = .ok listed ∧
      ((∃ result, resultFromResponse host request.maxEvents (listedStatus raised) listed =
          .ok result ∧
        NeverSilent (workerDoings request host calls raised result.status) result.events) ↔
      Told host request calls raised listed) := by
  obtain ⟨listed, made⟩ :
      ∃ listed, listedEvents ((emptyRun request).collectAll calls) raised = .ok listed := by
    rcases listedEvents_shape request calls raised with
      ⟨dropped, -, shape, -⟩ | ⟨typeName, message, dropped, -, -, shape⟩
    · exact ⟨_, shape⟩
    · exact ⟨_, shape⟩
  refine ⟨listed, made, ?_⟩
  obtain ⟨built, same, reads, numbers, ending⟩ := readEvents_built host listed []
  rw [List.nil_append] at same
  rw [List.length_nil, Nat.zero_add] at numbers
  unfold Told
  rw [← readEvents_refused listed []]
  cases stopped : (readEvents host [] listed).2 with
  | some error =>
    simp only [stopped] at ending
    have whole : readEvents host [] listed = (built, some error) := Prod.ext same stopped
    exact refused_obeys_iff made whole reads numbers ending
  | none =>
    simp only [stopped] at ending
    rw [ending, List.take_length] at reads
    have answer : resultFromResponse host request.maxEvents (listedStatus raised) listed =
        .ok ⟨listedStatus raised, built⟩ := by
      have whole : readEvents host [] listed = (built, none) := Prod.ext same stopped
      unfold resultFromResponse
      rw [whole]
    rw [answer]
    simp only [Except.ok.injEq, exists_eq_left']
    rcases listedEvents_shape request calls raised with
      ⟨dropped, room, shape, marks⟩ | ⟨typeName, message, dropped, one, rfl, shape⟩
    · obtain rfl := Except.ok.inj (made.symm.trans shape)
      exact built_obeys_iff positive room marks reads numbers
    · -- The exception has the only place, and is marked.
      obtain rfl := Except.ok.inj (made.symm.trans shape)
      refine iff_of_true ?_ ?_
      · exact exception_obeys one made reads numbers
      · intro stream _ fits
        unfold Fits at fits
        omega

/-- A request that leaves room for five characters. -/
def Sample.fiveChars : ExecuteRequest where
  maxOutputChars := 5

/-- A host that takes no artifacts. -/
def Sample.bareHost : Host where
  artifact := fun _ => .error { typeName := "WorkspaceWorkerProtocolError", message := [] }
  refusal := fun _ => { typeName := "ValidationError", message := [] }

/-- One output uses up the characters, and then something is written to the other one. -/
def Sample.starvingCalls : List WorkerCall :=
  [.write .stdout (pyString "hello"), .write .stderr (pyString "x")]

end Pair

end Aar.Workspace.Worker
