import Aar.Proofs.OutputLoss
import Aar.Proofs.WorkerLines
import Aar.Workspace.ResultBuilding
import Mathlib.Data.List.Induction

/-! When the events of a worker's response, as the backend builds them, obey the same law. -/

namespace Aar.Workspace.Worker

open Guarded
open Plain (OutputStream)

section Calls

/-- What a program hands to the worker: text for an output, or an event. -/
inductive WorkerCall where
  | write (stream : OutputStream) (text : PyString)
  | display (data : List (String × WireValue))
  | progress (data : List (String × WireValue))
  | artifact (index : Nat)

/-- The event that a call asks to list. -/
def WorkerCall.event : WorkerCall → Option WorkerEvent
  | .write _ _ => none
  | .display data => some (.data .display data)
  | .progress data => some (.data .progress data)
  | .artifact index => some (.artifact index)

/-- A run after one call. -/
def WorkerRun.collect (run : WorkerRun) (call : WorkerCall) : WorkerRun :=
  match call with
  | .write stream text => run.write stream text
  | .display data => run.add (.data .display data)
  | .progress data => run.add (.data .progress data)
  | .artifact index => run.add (.artifact index)

/-- A run after a list of calls. -/
def WorkerRun.collectAll (run : WorkerRun) (calls : List WorkerCall) : WorkerRun :=
  calls.foldl WorkerRun.collect run

/-- A run before its program has done anything. -/
def emptyRun (request : ExecuteRequest) : WorkerRun where
  space := .empty
  maxEvents := request.maxEvents
  remaining := request.maxOutputChars

theorem WorkerCall.cases (call : WorkerCall) : (∃ stream text, call = .write stream text) ∨
    ∃ event, call.event = some event ∧ ∀ run : WorkerRun, run.collect call = run.add event := by
  cases call with
  | write stream text => exact .inl ⟨stream, text, rfl⟩
  | display data | progress data | artifact index => exact .inr ⟨_, rfl, fun _ => rfl⟩

/-- What a program wrote to one output. -/
def writtenText (stream : OutputStream) (calls : List WorkerCall) : PyString :=
  calls.flatMap fun call =>
    match call with
    | .write written text => if written = stream then text else []
    | _ => []

/-- The events that a program asked to list. -/
def reported (calls : List WorkerCall) : List WorkerEvent := calls.filterMap WorkerCall.event

/-- What is kept of one output. -/
def WorkerRun.output (run : WorkerRun) : OutputStream → BoundedStream
  | .stdout => run.stdout
  | .stderr => run.stderr

/-- The other output. -/
def other : OutputStream → OutputStream
  | .stdout => .stderr
  | .stderr => .stdout

end Calls

section Listing

variable {run : WorkerRun} {asked : List WorkerEvent} {event : WorkerEvent}

/-- A run lists the first events it was asked to list, and knows whether there were more. -/
structure Lists (run : WorkerRun) (asked : List WorkerEvent) : Prop where
  bounded : run.Bounded
  events : run.events = asked.take (run.maxEvents - 1)
  dropped : run.dropped = true ↔ run.maxEvents - 1 < asked.length

/-- An event that is listed takes a place or is counted as dropped. -/
theorem Lists.add (lists : Lists run asked) (event : WorkerEvent) :
    Lists (run.add event) (asked ++ [event]) := by
  obtain ⟨events, maxEvents⟩ := add_events lists.bounded event
  refine ⟨lists.bounded.add event, ?_, ?_⟩
  · rw [events, maxEvents, lists.events, take_append_cut]
  · have bounded := lists.bounded
    have dropped := lists.dropped
    have listed := congrArg List.length lists.events
    rw [maxEvents]
    unfold WorkerRun.Bounded at bounded
    rw [List.length_take] at listed
    unfold WorkerRun.add
    split
    · simp only [List.length_append, List.length_singleton, Bool.false_eq_true, if_false,
        true_iff]
      omega
    · simp only [List.length_append, List.length_singleton, dropped]
      omega

/-- Events that are listed one after another are the next ones asked for. -/
theorem Lists.addAll (added : List WorkerEvent) :
    ∀ {run : WorkerRun} {asked : List WorkerEvent}, Lists run asked →
      Lists (added.foldl (fun run event => run.add event) run) (asked ++ added) := by
  induction added with
  | nil =>
    intro run asked lists
    rwa [List.append_nil]
  | cons event rest ih =>
    intro run asked lists
    have later := ih (lists.add event)
    rwa [List.append_assoc] at later

/-- A call lists the event that it asks to list, and a write lists nothing. -/
theorem Lists.collect (lists : Lists run asked) (call : WorkerCall) :
    Lists (run.collect call) (asked ++ call.event.toList) := by
  rcases call.cases with ⟨stream, text, rfl⟩ | ⟨event, reports, added⟩
  · have same : Lists (run.write stream text) asked := by
      cases stream <;> exact ⟨lists.bounded, lists.events, lists.dropped⟩
    simpa [WorkerCall.event, WorkerRun.collect] using same
  · rw [added, reports]
    exact lists.add event

theorem reported_cons (call : WorkerCall) (rest : List WorkerCall) :
    reported (call :: rest) = call.event.toList ++ reported rest := by
  cases event : call.event <;> simp [reported, event]

/-- A run lists what its calls report. -/
theorem Lists.collectAll (calls : List WorkerCall) :
    ∀ {run : WorkerRun} {asked : List WorkerEvent}, Lists run asked →
      Lists (run.collectAll calls) (asked ++ reported calls) := by
  induction calls with
  | nil =>
    intro run asked lists
    simpa [reported, WorkerRun.collectAll] using lists
  | cons call rest ih =>
    intro run asked lists
    have later := ih (lists.collect call)
    rw [List.append_assoc, ← reported_cons] at later
    exact later

theorem Lists.empty (request : ExecuteRequest) : Lists (emptyRun request) [] := by
  have positive := request.maxEvents_range.1
  refine ⟨positive, ?_, ?_⟩
  · rw [List.take_nil]
    rfl
  · simp [emptyRun]

end Listing

section Outputs

variable {run : WorkerRun} {limit : Nat} {calls : List WorkerCall} {stream : OutputStream}

/-- What is kept of the outputs is within the limits, in order, and whole unless marked. -/
structure Outputs (limit : Nat) (run : WorkerRun) (calls : List WorkerCall) : Prop where
  budget : run.stdout.text.length + run.stderr.text.length + run.remaining = limit
  short : ∀ stream, (run.output stream).text.length ≤ 8192
  ordered : ∀ stream, (run.output stream).text.Sublist (writtenText stream calls)
  whole : ∀ stream, (run.output stream).truncated = false →
    (run.output stream).text = writtenText stream calls

theorem Outputs.shared (outputs : Outputs limit run calls) (stream : OutputStream) :
    (run.output stream).text.length + (run.output (other stream)).text.length + run.remaining =
      limit := by
  have budget := outputs.budget
  cases stream <;> simp only [WorkerRun.output, other] <;> omega

/-- How many characters of a text one output may keep. -/
def allowance (run : WorkerRun) (stream : OutputStream) (text : PyString) : Nat :=
  min (min text.length run.remaining) (8192 - (run.output stream).text.length)

/-- A write keeps what the limits allow and leaves the other output alone. -/
theorem write_output (run : WorkerRun) (stream : OutputStream) (text : PyString) :
    ((run.write stream text).output stream).text =
        (run.output stream).text ++ text.take (allowance run stream text) ∧
      ((run.write stream text).output stream).truncated =
        ((run.output stream).truncated || decide (allowance run stream text < text.length)) ∧
      (run.write stream text).output (other stream) = run.output (other stream) ∧
      (run.write stream text).remaining = run.remaining - allowance run stream text := by
  cases stream <;> exact ⟨rfl, rfl, rfl, rfl⟩

theorem eq_or_other (first second : OutputStream) : second = first ∨ second = other first := by
  cases first <;> cases second <;> simp [other]

theorem other_ne (stream : OutputStream) : other stream ≠ stream := by
  cases stream <;> nofun

theorem writtenText_append {first second : List WorkerCall} :
    writtenText stream (first ++ second) = writtenText stream first ++ writtenText stream second :=
  List.flatMap_append

@[simp] theorem writtenText_write {written : OutputStream} {text : PyString} :
    writtenText stream [.write written text] = if written = stream then text else [] := by
  simp [writtenText]

theorem writtenText_report {call : WorkerCall} {event : WorkerEvent}
    (reports : call.event = some event) : writtenText stream [call] = [] := by
  cases call <;> simp_all [writtenText, WorkerCall.event]

theorem add_output (run : WorkerRun) (event : WorkerEvent) (force : Bool)
    (stream : OutputStream) :
    (run.add event force).output stream = run.output stream ∧
      (run.add event force).remaining = run.remaining := by
  unfold WorkerRun.add
  split
  · split <;> cases stream <;> exact ⟨rfl, rfl⟩
  · cases stream <;> exact ⟨rfl, rfl⟩

/-- Every call keeps the outputs within the limits. -/
theorem Outputs.collect (outputs : Outputs limit run calls) (call : WorkerCall) :
    Outputs limit (run.collect call) (calls ++ [call]) := by
  rcases call.cases with ⟨stream, text, rfl⟩ | ⟨event, reports, added⟩
  · obtain ⟨kept, truncated, apart, left⟩ := write_output run stream text
    have allowed : allowance run stream text ≤ text.length ∧
        allowance run stream text ≤ run.remaining ∧
          allowance run stream text ≤ 8192 - (run.output stream).text.length := by
      unfold allowance
      omega
    have short := outputs.short stream
    have shared := outputs.shared stream
    refine ⟨?_, ?_, ?_, ?_⟩
    · have own := congrArg List.length kept
      have others := congrArg (fun output : BoundedStream => output.text.length) apart
      rw [List.length_append, List.length_take] at own
      rw [WorkerRun.collect, left]
      cases stream <;> simp only [WorkerRun.output, other] at own others shared short ⊢ <;> omega
    · intro second
      rcases eq_or_other stream second with rfl | rfl
      · rw [WorkerRun.collect, kept, List.length_append, List.length_take]
        omega
      · rw [WorkerRun.collect, apart]
        exact outputs.short _
    · intro second
      rcases eq_or_other stream second with rfl | rfl
      · rw [WorkerRun.collect, kept, writtenText_append, writtenText_write, if_pos rfl]
        exact (outputs.ordered second).append (List.take_sublist _ _)
      · rw [WorkerRun.collect, apart, writtenText_append, writtenText_write,
          if_neg (other_ne stream).symm, List.append_nil]
        exact outputs.ordered _
    · intro second
      rcases eq_or_other stream second with rfl | rfl
      · -- Nothing was cut now, and nothing before.
        rw [WorkerRun.collect, kept, truncated, writtenText_append, writtenText_write, if_pos rfl]
        intro uncut
        simp only [Bool.or_eq_false_iff, decide_eq_false_iff_not] at uncut
        rw [outputs.whole second uncut.1, List.take_of_length_le (by omega)]
      · rw [WorkerRun.collect, apart, writtenText_append, writtenText_write,
          if_neg (other_ne stream).symm, List.append_nil]
        exact outputs.whole _
  · have same (stream : OutputStream) := add_output run event false stream
    have out := (same .stdout).1
    have err := (same .stderr).1
    simp only [WorkerRun.output] at out err
    rw [added]
    refine ⟨?_, ?_, ?_, ?_⟩
    · rw [out, err, (same .stdout).2]
      exact outputs.budget
    · intro stream
      rw [(same stream).1]
      exact outputs.short stream
    · intro stream
      rw [(same stream).1, writtenText_append, writtenText_report reports, List.append_nil]
      exact outputs.ordered stream
    · intro stream
      rw [(same stream).1, writtenText_append, writtenText_report reports, List.append_nil]
      exact outputs.whole stream

/-- Every list of calls keeps the outputs within the limits. -/
theorem Outputs.collectAll (more : List WorkerCall) :
    ∀ {run : WorkerRun} {calls : List WorkerCall}, Outputs limit run calls →
      Outputs limit (run.collectAll more) (calls ++ more) := by
  induction more with
  | nil =>
    intro run calls outputs
    simpa [WorkerRun.collectAll] using outputs
  | cons call rest ih =>
    intro run calls outputs
    have later := ih (outputs.collect call)
    rw [List.append_assoc] at later
    exact later

theorem Outputs.empty (request : ExecuteRequest) :
    Outputs request.maxOutputChars (emptyRun request) [] := by
  refine ⟨by simp [emptyRun], ?_, ?_, ?_⟩ <;>
    intro stream <;> cases stream <;> simp [emptyRun, WorkerRun.output, writtenText]

theorem Outputs.reached (request : ExecuteRequest) (calls : List WorkerCall) :
    Outputs request.maxOutputChars ((emptyRun request).collectAll calls) calls :=
  Outputs.collectAll calls (Outputs.empty request)

end Outputs

section Starving

variable {request : ExecuteRequest} {calls : List WorkerCall} {stream : OutputStream}

/--
One output uses up the characters of both before anything was written to the other.

The first output has written exactly as many characters as the limit, so that none of them is cut,
and writes nothing more; then something is written to the other output.
-/
def Starved (limit : Nat) (calls : List WorkerCall) (stream : OutputStream) : Prop :=
  limit ≤ 8192 ∧ ∃ before after, calls = before ++ after ∧
    writtenText stream before = [] ∧ (writtenText (other stream) before).length = limit ∧
      writtenText (other stream) after = [] ∧ writtenText stream after ≠ []

/-- A starved output stays starved when the other one writes nothing more. -/
theorem Starved.extend {limit : Nat} {call : WorkerCall} (starved : Starved limit calls stream)
    (silent : writtenText (other stream) [call] = []) :
    Starved limit (calls ++ [call]) stream := by
  obtain ⟨short, before, after, rfl, nothing, used, quiet, lost⟩ := starved
  refine ⟨short, before, after ++ [call], by simp, nothing, used, ?_, ?_⟩
  · rw [writtenText_append, quiet, silent]
    rfl
  · rw [writtenText_append]
    exact List.append_ne_nil_of_left_ne_nil lost _

theorem collectAll_append {run : WorkerRun} (first second : List WorkerCall) :
    run.collectAll (first ++ second) = (run.collectAll first).collectAll second :=
  List.foldl_append

@[simp] theorem other_other (stream : OutputStream) : other (other stream) = stream := by
  cases stream <;> rfl

theorem collectAll_snoc {run : WorkerRun} (calls : List WorkerCall) (call : WorkerCall) :
    run.collectAll (calls ++ [call]) = (run.collectAll calls).collect call := by
  rw [collectAll_append]
  rfl

/-- An output of which nothing is kept, beside one of which nothing is cut, is starved. -/
theorem starved_of_lost :
    (((emptyRun request).collectAll calls).output stream).text = [] →
      writtenText stream calls ≠ [] →
        (((emptyRun request).collectAll calls).output (other stream)).truncated = false →
          Starved request.maxOutputChars calls stream := by
  -- The last call either wrote what was lost first, or left the outputs as they were.
  induction calls using List.reverseRecOn with
  | nil =>
    intro _ lost
    exact absurd rfl lost
  | append_singleton calls call ih =>
    intro nothing lost uncut
    have outputs := Outputs.reached request calls
    rw [collectAll_snoc] at nothing uncut
    rw [writtenText_append] at lost
    have shared := outputs.shared stream
    have whole := outputs.whole (other stream)
    have short := outputs.short (other stream)
    generalize (emptyRun request).collectAll calls = run at *
    rcases call.cases with ⟨written, text, rfl⟩ | ⟨event, reports, added⟩
    · obtain ⟨kept, truncated, apart, -⟩ := write_output run written text
      rw [WorkerRun.collect] at nothing uncut
      rcases eq_or_other stream written with rfl | rfl
      · rw [apart] at uncut
        rw [kept, List.append_eq_nil_iff] at nothing
        by_cases first : writtenText written calls = []
        · -- Nothing was left of the budget, so the other output has used all of it.
          rw [first, List.nil_append, writtenText_write, if_pos rfl] at lost
          have used : allowance run written text = 0 := by
            rcases List.take_eq_nil_iff.mp nothing.2 with none_left | empty
            · exact none_left
            · exact absurd empty lost
          have length := List.length_pos_iff.mpr lost
          unfold allowance at used
          rw [nothing.1, List.length_nil] at used shared
          have spent := whole uncut
          refine ⟨by omega, calls, [.write written text], rfl, first, ?_, ?_, ?_⟩
          · rw [← spent]
            omega
          · rw [writtenText_write, if_neg (other_ne written).symm]
          · rwa [writtenText_write, if_pos rfl]
        · refine (ih nothing.1 first uncut).extend ?_
          rw [writtenText_write, if_neg (other_ne written).symm]
      · rw [other_other] at apart
        rw [apart] at nothing
        rw [truncated, Bool.or_eq_false_iff] at uncut
        rw [writtenText_write, if_neg (other_ne stream), List.append_nil] at lost
        have starved := ih nothing lost uncut.1
        -- The budget was used up, so nothing that is not cut can have been written.
        have spent := congrArg List.length (whole uncut.1)
        have used : (writtenText (other stream) calls).length = request.maxOutputChars := by
          obtain ⟨-, first, second, rfl, -, used, quiet, -⟩ := starved
          rw [writtenText_append, quiet, List.append_nil, used]
        have all : ¬ allowance run (other stream) text < text.length :=
          of_decide_eq_false uncut.2
        have empty : text = [] := by
          rw [← List.length_eq_zero_iff]
          unfold allowance at all
          omega
        exact starved.extend (by simp [empty])
    · rw [added] at nothing uncut
      rw [writtenText_report reports, List.append_nil] at lost
      rw [(add_output _ event false stream).1] at nothing
      rw [(add_output _ event false (other stream)).1] at uncut
      exact (ih nothing lost uncut).extend (writtenText_report reports)

/-- Nothing is cut of texts that fit into the limits together. -/
theorem uncut_of_fits (stream : OutputStream) :
    (∀ stream, (writtenText stream calls).length ≤ 8192) →
      (writtenText stream calls).length + (writtenText (other stream) calls).length ≤
        request.maxOutputChars →
          ∀ second, (((emptyRun request).collectAll calls).output second).truncated = false := by
  induction calls using List.reverseRecOn with
  | nil =>
    intro _ _ second
    cases second <;> rfl
  | append_singleton calls call ih =>
    intro short fits second
    simp only [writtenText_append, List.length_append] at short fits
    have earlier := ih (fun stream => by have := short stream; omega) (by omega)
    have outputs := Outputs.reached request calls
    rw [collectAll_snoc]
    generalize (emptyRun request).collectAll calls = run at *
    rcases call.cases with ⟨written, text, rfl⟩ | ⟨event, -, added⟩
    · obtain ⟨-, truncated, apart, -⟩ := write_output run written text
      rcases eq_or_other written second with rfl | rfl
      · -- What was written before was kept, and the rest of the budget holds the text.
        have own := congrArg List.length (outputs.whole second (earlier second))
        have others := congrArg List.length (outputs.whole (other second) (earlier (other second)))
        have shared := outputs.shared second
        have room := short second
        rw [writtenText_write, if_pos rfl] at room
        rw [WorkerRun.collect, truncated, earlier second, Bool.false_or, decide_eq_false_iff_not]
        unfold allowance
        rcases eq_or_other stream second with rfl | rfl
        · rw [writtenText_write, if_pos rfl] at fits
          omega
        · rw [other_other] at others shared
          rw [writtenText_write, writtenText_write, if_pos rfl] at fits
          omega
      · rw [WorkerRun.collect, apart]
        exact earlier _
    · rw [added, (add_output _ event false second).1]
      exact earlier second

/-- Without characters left, calls that write nothing to an output leave both as they were. -/
theorem collectAll_spent (calls : List WorkerCall) :
    ∀ {run : WorkerRun}, run.remaining = 0 → writtenText (other stream) calls = [] →
      ((run.collectAll calls).output stream).text = (run.output stream).text ∧
        (run.collectAll calls).output (other stream) = run.output (other stream) := by
  induction calls with
  | nil => exact fun _ _ => ⟨rfl, rfl⟩
  | cons call rest ih =>
    intro run spent quiet
    rw [← List.singleton_append, writtenText_append, List.append_eq_nil_iff] at quiet
    obtain ⟨silent, later⟩ := quiet
    have first : (run.collect call).remaining = 0 ∧
        ((run.collect call).output stream).text = (run.output stream).text ∧
          (run.collect call).output (other stream) = run.output (other stream) := by
      rcases call.cases with ⟨written, text, rfl⟩ | ⟨event, -, added⟩
      · obtain ⟨kept, truncated, apart, left⟩ := write_output run written text
        have none_left : allowance run written text = 0 := by
          unfold allowance
          omega
        rw [WorkerRun.collect, left, spent]
        refine ⟨Nat.zero_sub _, ?_⟩
        rcases eq_or_other stream written with rfl | rfl
        · rw [kept, apart, none_left]
          simp
        · -- Only an empty text is written to the other output.
          rw [other_other] at apart
          rw [writtenText_write, if_pos rfl] at silent
          subst silent
          refine ⟨by rw [apart], ?_⟩
          cases stream <;> simp [WorkerRun.write, WorkerRun.output, other, BoundedStream.write]
      · have same (stream : OutputStream) := add_output run event false stream
        rw [added, (same stream).1, (same stream).2, (same (other stream)).1]
        exact ⟨spent, rfl, rfl⟩
    obtain ⟨left, text, apart⟩ := first
    obtain ⟨still, alone⟩ := ih left later
    exact ⟨still.trans text, alone.trans apart⟩

/-- Nothing is kept of a starved output, and nothing is cut of the other one. -/
theorem lost_of_starved (starved : Starved request.maxOutputChars calls stream) :
    (((emptyRun request).collectAll calls).output stream).text = [] ∧
      writtenText stream calls ≠ [] ∧
        (((emptyRun request).collectAll calls).output (other stream)).truncated = false := by
  obtain ⟨short, before, after, rfl, nothing, used, quiet, lost⟩ := starved
  have outputs := Outputs.reached request before
  have fits : ∀ second, (((emptyRun request).collectAll before).output second).truncated =
      false := by
    refine uncut_of_fits stream (fun second => ?_) (by rw [nothing, used]; simp)
    rcases eq_or_other stream second with rfl | rfl
    · rw [nothing]
      exact Nat.zero_le _
    · rw [used]
      exact short
  have shared := outputs.shared stream
  rw [outputs.whole stream (fits stream), outputs.whole (other stream) (fits (other stream)),
    nothing, used] at shared
  have spent : ((emptyRun request).collectAll before).remaining = 0 := by
    rw [List.length_nil] at shared
    omega
  obtain ⟨text, apart⟩ := collectAll_spent after spent quiet
  rw [collectAll_append, text, apart, outputs.whole stream (fits stream), writtenText_append]
  exact ⟨nothing, List.append_ne_nil_of_right_ne_nil _ lost, fits (other stream)⟩

end Starving

section Reading

variable {host : Host} {raw : WorkerEvent} {event : WorkspaceEvent} {count : Nat}
  {raws : List WorkerEvent} {events : List WorkspaceEvent} {stream : OutputStream}

/-- The kind of a listed event. -/
def WorkerEvent.kind : WorkerEvent → WorkspaceEventKind
  | .data kind _ _ | .text kind _ _ => kind
  | .artifact _ => .artifact

/-- The text of a listed event. -/
def WorkerEvent.shown : WorkerEvent → Option PyString
  | .text _ written _ => some written
  | .data _ _ _ | .artifact _ => none

/-- A listed event is marked truncated. -/
def WorkerEvent.marked : WorkerEvent → Bool
  | .data _ _ truncated => truncated.getD false
  | .text _ _ truncated => truncated
  | .artifact _ => false

/-- A listed event shows a part of an output. -/
def WorkerEvent.IsOutput (raw : WorkerEvent) : Prop := raw.kind = .stdout ∨ raw.kind = .stderr

instance : DecidablePred WorkerEvent.IsOutput :=
  fun _ => inferInstanceAs (Decidable (_ ∨ _))

/-- The text of one output that listed events show. -/
def rawText (stream : OutputStream) (raws : List WorkerEvent) : PyString :=
  raws.flatMap fun raw => if raw.kind = stream.kind then raw.shown.getD [] else []

/-- An event of the result was read from a listed event. -/
def Read (host : Host) (raw : WorkerEvent) (event : WorkspaceEvent) : Prop :=
  ∃ count, readEvent host count raw = .ok event

theorem issue_ok {issued : WorkspaceEvent} (accepted : host.issue raw event = .ok issued) :
    event.Valid ∧ issued = event := by
  unfold Host.issue at accepted
  split at accepted
  · next valid => exact ⟨valid, (Except.ok.inj accepted).symm⟩
  · cases accepted

/-- What was read has the next number and says what the listed event says. -/
theorem readEvent_ok (read : readEvent host count raw = .ok event) :
    event.sequence = count + 1 ∧ event.kind = raw.kind ∧ event.text = raw.shown ∧
      event.truncated = raw.marked ∧ event.Valid := by
  unfold readEvent at read
  cases raw with
  | artifact index =>
    simp only at read
    split at read
    · obtain ⟨valid, rfl⟩ := issue_ok read
      exact ⟨rfl, rfl, rfl, rfl, valid⟩
    · cases read
  | text kind text truncated =>
    obtain ⟨valid, rfl⟩ := issue_ok read
    exact ⟨rfl, rfl, rfl, rfl, valid⟩
  | data kind entries truncated =>
    obtain ⟨valid, rfl⟩ := issue_ok read
    exact ⟨rfl, rfl, rfl, rfl, valid⟩

/-- A number has no part in what is read. -/
theorem readEvent_unnumbered (read : readEvent host count raw = .ok event) (second : Nat) :
    ∃ same, readEvent host second raw = .ok same ∧ same.unnumbered = event.unnumbered := by
  unfold readEvent at read ⊢
  cases raw with
  | artifact index =>
    simp only at read ⊢
    split at read
    · obtain ⟨valid, rfl⟩ := issue_ok read
      exact ⟨_, if_pos valid, rfl⟩
    · cases read
  | text kind text truncated =>
    obtain ⟨valid, rfl⟩ := issue_ok read
    exact ⟨_, if_pos valid, rfl⟩
  | data kind entries truncated =>
    obtain ⟨valid, rfl⟩ := issue_ok read
    exact ⟨_, if_pos valid, rfl⟩

/-- The events that a host makes of listed ones, without their numbers. -/
def builtEvents (host : Host) (raws : List WorkerEvent) : List WorkspaceEvent :=
  raws.filterMap fun raw => (readEvent host 0 raw).toOption.map WorkspaceEvent.unnumbered

/-- The events that were read before the host raised are the first that were listed, and the host
raised for the next one. -/
theorem readEvents_built (host : Host) (raws : List WorkerEvent) :
    ∀ before : List WorkspaceEvent, ∃ built : List WorkspaceEvent,
      (readEvents host before raws).1 = before ++ built ∧
        List.Forall₂ (Read host) (raws.take built.length) built ∧
          built.map WorkspaceEvent.sequence = List.range' (before.length + 1) built.length ∧
            match (readEvents host before raws).2 with
            | none => built.length = raws.length
            | some error => ∃ raw count, raws[built.length]? = some raw ∧
                readEvent host count raw = .error error := by
  induction raws with
  | nil => exact fun before => ⟨[], by simp [readEvents]⟩
  | cons raw rest ih =>
    intro before
    unfold readEvents
    cases read : readEvent host before.length raw with
    | error error => exact ⟨[], by simp, by simp, rfl, raw, _, rfl, read⟩
    | ok event =>
      obtain ⟨built, made, reads, numbers, ending⟩ := ih (before ++ [event])
      refine ⟨event :: built, by simp [made], ?_, ?_, ?_⟩
      · simpa using ⟨⟨_, read⟩, reads⟩
      · simpa [(readEvent_ok read).1, List.range'_succ] using numbers
      · simp only
        split at ending
        · simpa using ending
        · simpa using ending

theorem shownText_read (reads : List.Forall₂ (Read host) raws events) (stream : OutputStream) :
    shownText stream events = rawText stream raws := by
  induction reads with
  | nil => rfl
  | cons first _ ih =>
    obtain ⟨count, read⟩ := first
    obtain ⟨-, kind, text, -, -⟩ := readEvent_ok read
    rw [shownText_cons, ih, kind, text]
    rfl

/-- What was read besides output is what the host makes of what was listed besides output. -/
theorem others_read (reads : List.Forall₂ (Read host) raws events) :
    (events.filter fun event => ¬ event.IsOutput).map WorkspaceEvent.unnumbered =
      builtEvents host (raws.filter fun raw => ¬ raw.IsOutput) := by
  induction reads with
  | nil => rfl
  | @cons raw event _ _ first _ ih =>
    obtain ⟨count, read⟩ := first
    obtain ⟨-, kind, -, -, -⟩ := readEvent_ok read
    obtain ⟨same, again, unnumbered⟩ := readEvent_unnumbered read 0
    have alike : event.IsOutput ↔ raw.IsOutput := by
      rw [WorkspaceEvent.IsOutput, WorkerEvent.IsOutput, kind]
    by_cases output : raw.IsOutput
    · simpa [alike.mpr output, output] using ih
    · have apart : ¬ event.IsOutput := fun is_output => output (alike.mp is_output)
      simp only [List.filter_cons, apart, output, not_false_eq_true, decide_true, if_true,
        List.map_cons, builtEvents, List.filterMap_cons, again, Except.toOption,
        Option.map_some, unnumbered]
      exact congrArg _ ih

/-- Converted entries keep their keys. -/
theorem entriesToJson_mem {entries : List (PyString × WireValue)} :
    ∀ {converted : List (PyString × JsonValue)}, entriesToJson entries = some converted →
      ∀ {key : PyString} {value : WireValue} {json : JsonValue}, (key, value) ∈ entries →
        value.toJson = some json → (key, json) ∈ converted := by
  induction entries with
  | nil => exact fun _ _ _ _ member => absurd member List.not_mem_nil
  | cons entry rest ih =>
    intro converted made key value json member document
    obtain ⟨first, second⟩ := entry
    simp only [entriesToJson, Option.bind_eq_bind, Option.bind_eq_some_iff, Option.pure_def,
      Option.some.injEq] at made
    obtain ⟨own, same, others, later, rfl⟩ := made
    rcases List.mem_cons.mp member with here | there
    · obtain ⟨rfl, rfl⟩ := Prod.mk.inj here
      rw [document] at same
      rw [Option.some.inj same]
      exact List.mem_cons_self
    · exact List.mem_cons_of_mem _ (ih later there document)

/-- A read event has the entries of the data that was listed. -/
theorem read_has {kind : WorkspaceEventKind} {entries : List (String × WireValue)}
    {truncated : Option Bool} (read : Read host (.data kind entries truncated) event)
    {key : String} {value : WireValue} {json : JsonValue} (member : (key, value) ∈ entries)
    (document : value.toJson = some json) :
    event.Has key json := by
  obtain ⟨count, read⟩ := read
  have valid := (readEvent_ok read).2.2.2.2
  obtain ⟨-, rfl⟩ := issue_ok read
  -- The event is accepted, so its data was converted, in the order of its keys.
  have converted : ∃ kept, entriesToJson (entries.map fun entry =>
      (pyString entry.1, entry.2)) = some kept := by
    cases made : entriesToJson (entries.map fun entry => (pyString entry.1, entry.2)) with
    | some kept => exact ⟨kept, rfl⟩
    | none =>
      have absent : (wireObject entries).toJson = none := by
        simp [wireObject, WireValue.toJson, made]
      obtain ⟨-, matching, -⟩ := valid
      simp only [WorkspaceEvent.Matches, absent] at matching
      split at matching <;> simp_all
  obtain ⟨kept, made⟩ := converted
  refine ⟨kept.insertionSort fun left right => left.1 ≤ right.1, ?_, ?_⟩
  · simp [wireObject, WireValue.toJson, made]
  · have listed : (pyString key, value) ∈ entries.map fun entry => (pyString entry.1, entry.2) :=
      List.mem_map_of_mem (f := fun entry : String × WireValue => (pyString entry.1, entry.2))
        member
    exact (List.mem_insertionSort _).mpr (entriesToJson_mem made listed document)

end Reading

section Response

variable {run : WorkerRun} {asked : List WorkerEvent} {raised : Option (String × PyString)}
  {stream : OutputStream}

/-- The event for the exception that a program ended with. -/
def exceptionEvents (raised : Option (String × PyString)) : List WorkerEvent :=
  match raised with
  | none => []
  | some (typeName, message) =>
    [.data .exception [("type", wireText typeName), ("message", .str (message.take 2048))]]

/-- The event that ends a response. -/
def finishEvent (status : WorkspaceExecutionStatus) (dropped : Bool) : WorkerEvent :=
  .data .progress (finishEntries status.text dropped) (some dropped)

/-- Some of an output was kept and some was cut. -/
def CutShort (run : WorkerRun) : Prop :=
  ∃ stream, (run.output stream).text ≠ [] ∧ (run.output stream).truncated = true

theorem outputEvents_text (run : WorkerRun) (stream : OutputStream) :
    rawText stream (outputEvents run) = (run.output stream).text := by
  unfold outputEvents
  by_cases out : run.stdout.text = [] <;> by_cases err : run.stderr.text = [] <;>
    cases stream <;>
    simp [out, err, rawText, WorkerEvent.kind, WorkerEvent.shown, OutputStream.kind,
      WorkerRun.output]

/-- The output of a run is output. -/
theorem outputEvents_output {raw : WorkerEvent} (member : raw ∈ outputEvents run) :
    raw.IsOutput ∧ ∃ stream, (run.output stream).text ≠ [] ∧
      raw.marked = (run.output stream).truncated := by
  simp only [outputEvents, List.filterMap_cons, List.filterMap_nil] at member
  by_cases out : run.stdout.text = [] <;> by_cases err : run.stderr.text = [] <;>
    simp only [out, err, if_true, if_false, List.mem_cons, List.not_mem_nil, or_false] at member
  · subst member
    exact ⟨.inr rfl, .stderr, err, rfl⟩
  · subst member
    exact ⟨.inl rfl, .stdout, out, rfl⟩
  · rcases member with rfl | rfl
    · exact ⟨.inl rfl, .stdout, out, rfl⟩
    · exact ⟨.inr rfl, .stderr, err, rfl⟩

/-- A run lists its output after what it was asked to list, and notes when some of it was cut. -/
theorem addOutput_lists (lists : Lists run asked) :
    run.addOutput.Bounded ∧ run.addOutput.maxEvents = run.maxEvents ∧
      run.addOutput.events = (asked ++ outputEvents run).take (run.maxEvents - 1) ∧
        (run.addOutput.dropped = true ↔
          run.maxEvents - 1 < (asked ++ outputEvents run).length ∨ CutShort run) := by
  have added := lists.addAll (outputEvents run)
  obtain ⟨-, same, -⟩ := foldl_add (outputEvents run) lists.bounded
  have events := added.events
  have dropped := added.dropped
  rw [same] at events dropped
  refine ⟨added.bounded, same, events, ?_⟩
  unfold WorkerRun.addOutput
  simp only [Bool.or_eq_true, dropped, List.any_cons, List.any_nil, Bool.or_false,
    decide_eq_true_eq]
  refine or_congr Iff.rfl ⟨?_, ?_⟩
  · intro either
    rcases either with out | err
    · exact ⟨.stdout, out⟩
    · exact ⟨.stderr, err⟩
  · intro ⟨stream, cut⟩
    cases stream
    · exact .inl cut
    · exact .inr cut

/-- A response with a place for its end lists the first events, the exception, and the end. -/
theorem listedEvents_roomy (lists : Lists run asked)
    (room : (exceptionEvents raised).length < run.maxEvents) :
    ∃ dropped, listedEvents run raised =
        .ok ((asked ++ outputEvents run).take (run.maxEvents - 1 - (exceptionEvents raised).length)
          ++ exceptionEvents raised ++ [finishEvent (listedStatus raised) dropped]) ∧
      (dropped = true ↔ run.maxEvents - 1 < (asked ++ outputEvents run).length +
        (exceptionEvents raised).length ∨ CutShort run) := by
  obtain ⟨bounded, same, events, dropped⟩ := addOutput_lists lists
  cases raised with
  | none =>
    refine ⟨run.addOutput.dropped, ?_, dropped⟩
    rw [listedEvents, finishEvents_bounded "succeeded" bounded, events]
    simp [exceptionEvents, finishEvent, listedStatus, WorkspaceExecutionStatus.text]
  | some exception =>
    obtain ⟨typeName, message⟩ := exception
    obtain ⟨forced, kept⟩ := add_forced bounded (.data .exception
      [("type", wireText typeName), ("message", .str (message.take 2048))])
    simp only [exceptionEvents, List.length_singleton] at room ⊢
    -- The exception takes the last place but one.
    have cut : run.addOutput.events.take (run.addOutput.maxEvents - 2) =
        (asked ++ outputEvents run).take (run.maxEvents - 1 - 1) := by
      rw [same, events, List.take_take]
      congr 1
      omega
    rw [cut] at forced
    have places : (run.addOutput.add (.data .exception [("type", wireText typeName),
        ("message", .str (message.take 2048))]) true).events.length <
          (run.addOutput.add (.data .exception [("type", wireText typeName),
            ("message", .str (message.take 2048))]) true).maxEvents := by
      rw [forced, kept, same, List.length_append, List.length_take, List.length_singleton]
      omega
    refine ⟨(run.addOutput.add (.data .exception [("type", wireText typeName),
      ("message", .str (message.take 2048))]) true).dropped, ?_, ?_⟩
    · rw [listedEvents, finishEvents_bounded "failed" places, forced]
      rfl
    · have listed := congrArg List.length events
      rw [List.length_take] at listed
      unfold WorkerRun.add
      rw [same]
      split
      · simp only [if_true, true_iff]
        left
        omega
      · rw [dropped]
        refine or_congr ?_ Iff.rfl
        omega

/-- Capacity one keeps the exception and merges the end of the execution into it. -/
theorem listedEvents_full (lists : Lists run asked) (one : run.maxEvents = 1)
    (typeName : String) (message : PyString) :
    ∃ dropped, listedEvents run (some (typeName, message)) = .ok [.data .exception
      ([("type", wireText typeName), ("message", .str (message.take 2048))] ++
        finishEntries "failed" dropped) (some true)] := by
  obtain ⟨bounded, same, events, -⟩ := addOutput_lists lists
  obtain ⟨forced, kept⟩ := add_forced bounded (.data .exception
    [("type", wireText typeName), ("message", .str (message.take 2048))])
  rw [same, one] at forced kept
  simp only [Nat.reduceSub, List.take_zero, List.nil_append] at forced
  refine ⟨(run.addOutput.add (.data .exception [("type", wireText typeName),
    ("message", .str (message.take 2048))]) true).dropped, ?_⟩
  simp only [listedEvents, finishEvents, forced, kept, List.length_singleton, Nat.lt_irrefl,
    if_false, List.getLast?_singleton, updateEntries_exception]
  rfl

end Response

section Pairs

variable {host : Host} {request : ExecuteRequest} {calls : List WorkerCall}
  {raised : Option (String × PyString)} {stream : OutputStream} {run : WorkerRun}
  {raws : List WorkerEvent} {events : List WorkspaceEvent}

/-- The data of the exception that a program ended with. -/
def raisedData (raised : Option (String × PyString)) : Option JsonValue :=
  raised.map fun (typeName, message) =>
    jsonObject [("message", .str (message.take 2048)), ("type", jsonText typeName)]

/-- What a program did that made these calls and ended so. -/
def workerDoings (request : ExecuteRequest) (host : Host) (calls : List WorkerCall)
    (raised : Option (String × PyString)) (status : WorkspaceExecutionStatus) : Doings where
  maxEvents := request.maxEvents
  maxOutputChars := request.maxOutputChars
  written := fun stream => writtenText stream calls
  accepted := fun stream => writtenText stream calls
  others := builtEvents host (reported calls ++ exceptionEvents raised)
  raised := raisedData raised
  status := status

/-- A call leaves the limit on the events. -/
theorem collectAll_maxEvents (calls : List WorkerCall) :
    ∀ {run : WorkerRun}, (run.collectAll calls).maxEvents = run.maxEvents := by
  induction calls with
  | nil => exact rfl
  | cons call rest ih =>
    intro run
    have first : (run.collect call).maxEvents = run.maxEvents := by
      rcases call.cases with ⟨stream, text, rfl⟩ | ⟨event, -, added⟩
      · cases stream <;> rfl
      · rw [added]
        unfold WorkerRun.add
        split <;> rfl
    exact ih.trans first

/-- What a program asks to list is no output and no exception, and is not marked. -/
theorem reported_kind {raw : WorkerEvent} (member : raw ∈ reported calls) :
    ¬ raw.IsOutput ∧ raw.kind ≠ .exception ∧ raw.shown = none ∧ raw.marked = false := by
  obtain ⟨call, -, event⟩ := List.mem_filterMap.mp member
  cases call with
  | write => cases event
  | display | progress | artifact =>
    obtain rfl := Option.some.inj event
    exact ⟨by simp [WorkerEvent.IsOutput, WorkerEvent.kind], nofun, rfl, rfl⟩

theorem exceptionEvents_kind {raw : WorkerEvent} (member : raw ∈ exceptionEvents raised) :
    ¬ raw.IsOutput ∧ raw.shown = none ∧ raw.marked = false := by
  unfold exceptionEvents at member
  split at member
  · cases member
  · obtain rfl := List.mem_singleton.mp member
    exact ⟨by simp [WorkerEvent.IsOutput, WorkerEvent.kind], rfl, rfl⟩

theorem rawText_quiet (quiet : ∀ raw ∈ raws, raw.shown = none) : rawText stream raws = [] := by
  simp only [rawText, List.flatMap_eq_nil_iff]
  intro raw member
  simp [quiet raw member]

theorem rawText_append {first second : List WorkerEvent} :
    rawText stream (first ++ second) = rawText stream first ++ rawText stream second :=
  List.flatMap_append

theorem rawText_sublist {fewer : List WorkerEvent} (sub : fewer.Sublist raws) :
    (rawText stream fewer).Sublist (rawText stream raws) :=
  sub.flatMap _

theorem rawText_all (run : WorkerRun) (calls : List WorkerCall) (stream : OutputStream) :
    rawText stream (reported calls ++ outputEvents run) = (run.output stream).text := by
  rw [rawText_append, rawText_quiet fun raw member => (reported_kind member).2.2.1,
    outputEvents_text, List.nil_append]

/-- The last event was read from the last that was listed. -/
theorem forall₂_concat {α β : Type} {related : α → β → Prop} {front : List α} {last : α}
    {results : List β} (all : List.Forall₂ related (front ++ [last]) results) :
    ∃ before ending, results = before ++ [ending] ∧ List.Forall₂ related front before ∧
      related last ending := by
  have first := List.forall₂_take front.length all
  have rest := List.forall₂_drop front.length all
  rw [List.take_left] at first
  rw [List.drop_left] at rest
  obtain ⟨ending, nothing, holds, empty, dropped⟩ := List.forall₂_cons_left_iff.mp rest
  rw [List.forall₂_nil_left_iff.mp empty] at dropped
  exact ⟨results.take front.length, ending, by rw [← dropped, List.take_append_drop], first, holds⟩

/-- Every event was read from a listed one. -/
theorem forall₂_mem {α β : Type} {related : α → β → Prop} {sources : List α} {results : List β}
    (all : List.Forall₂ related sources results) :
    (∀ source ∈ sources, ∃ result ∈ results, related source result) ∧
      ∀ result ∈ results, ∃ source ∈ sources, related source result := by
  induction all with
  | nil => exact ⟨nofun, nofun⟩
  | cons first _ ih =>
    simp only [List.forall_mem_cons]
    refine ⟨⟨⟨_, List.mem_cons_self, first⟩, fun source member => ?_⟩,
      ⟨_, List.mem_cons_self, first⟩, fun result member => ?_⟩
    · obtain ⟨result, there, holds⟩ := ih.1 source member
      exact ⟨result, List.mem_cons_of_mem _ there, holds⟩
    · obtain ⟨source, there, holds⟩ := ih.2 result member
      exact ⟨source, List.mem_cons_of_mem _ there, holds⟩

theorem finishEvent_data (status : WorkspaceExecutionStatus) (dropped : Bool) :
    (wireObject (finishEntries status.text dropped)).toJson = some (endData status dropped) := by
  cases status <;> cases dropped <;> decide +kernel

/-- The host takes the end of a response. -/
theorem finishEvent_read (host : Host) (status : WorkspaceExecutionStatus) (dropped : Bool)
    (count : Nat) :
    ∃ event, readEvent host count (finishEvent status dropped) = .ok event ∧
      event.data = some (endData status dropped) ∧ event.truncated = dropped := by
  refine ⟨_, if_pos ?_, finishEvent_data status dropped, rfl⟩
  simp [WorkspaceEvent.Valid, WorkspaceEvent.Matches, finishEvent_data, endData_valid]

/-- The event read for an exception has its type and its message. -/
theorem exception_read {typeName : String} {message : PyString}
    {more : List (String × WireValue)} {truncated : Option Bool} {event : WorkspaceEvent}
    (read : Read host (.data .exception ([("type", wireText typeName),
      ("message", .str (message.take 2048))] ++ more) truncated) event) :
    event.kind = .exception ∧ ∀ data ∈ raisedData (some (typeName, message)),
      event.Keeps data := by
  have typed : ("type", wireText typeName) ∈ [("type", wireText typeName),
      ("message", .str (message.take 2048))] ++ more := by simp
  have told : ("message", .str (message.take 2048)) ∈ [("type", wireText typeName),
      ("message", .str (message.take 2048))] ++ more := by simp
  obtain ⟨kept, same, type_in⟩ := read_has read typed rfl
  obtain ⟨again, other_data, message_in⟩ := read_has read told rfl
  rw [same] at other_data
  obtain rfl := JsonValue.object.inj (Option.some.inj other_data)
  obtain ⟨count, made⟩ := read
  refine ⟨(readEvent_ok made).2.1, fun data described => ?_⟩
  obtain rfl := Option.some.inj described
  refine ⟨kept, _, same, rfl, fun entry member => ?_⟩
  simp only [List.map_cons, List.map_nil, List.mem_cons, List.not_mem_nil, or_false] at member
  rcases member with rfl | rfl
  · exact message_in
  · exact type_in

end Pairs

end Aar.Workspace.Worker
