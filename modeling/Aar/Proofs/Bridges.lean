import Aar.Supervisor.Bridge

/-! Which runs of the private bridge pair every response with the frame of its request. -/

namespace Aar.Supervisor

open Runs

variable {session : Session} {bridge : Bridge} {id key : JsonId} {message : Message}

section Statement

/-- A response frame carries what the frame of the request carried. -/
structure Carries (request response : PrivateFrame) : Prop where
  requestId : response.requestId = request.requestId
  traceId : response.traceId = request.traceId
  authorityDigest : response.authorityDigest = request.authorityDigest
  deadlineUnixMs : response.deadlineUnixMs = request.deadlineUnixMs

/-- The requests among the messages, by identifier. -/
def requests (messages : List Message) : List JsonId := messages.filterMap Message.asks

/-- The requests that messages respond to, by identifier. -/
def responses (messages : List Message) : List JsonId := messages.filterMap Message.answers

/-- Every response is paired with its request, and the bridge ends once all are written out. -/
structure Paired (session : Session) (bridge : Bridge) : Prop where
  answered : ∀ pair ∈ bridge.answered, Carries pair.1 pair.2
  pending : ∀ id, id ∈ bridge.pending ↔ id ∈ bridge.unanswered
  drains : bridge.ended = none → ((step session .poll bridge).ended = some .drained ↔
    bridge.stdinEnded = true ∧ bridge.unanswered = [])
  written : bridge.ended = some .drained → bridge.stdinEnded = true ∧
    ∀ id, (requests bridge.stdin).count id = (responses bridge.stdout).count id

/-- No message meets another one in the slot of its identifier.

The host responds under the identifier of a request of its own that is unanswered, or not at all;
a response of the host arrives, and the application asks, under an identifier the application does
not serve; and what has been written out leaves the pending set before its identifier is reused. -/
def Apart : Input → Bridge → Prop
  | .line _ message, bridge => ∀ id ∈ message.answers, id ∈ bridge.unanswered
  | .receive, bridge => ∀ frame ∈ bridge.toSupervisor.head?, ∀ id ∈ frame.payload.answers,
      id ∉ bridge.served
  | .emit _ message, bridge => ∀ id ∈ message.asks, id ∉ bridge.served
  | .discard, bridge => ∀ message ∈ bridge.writing, ∀ id ∈ message.id, id ∉ bridge.asked
  | _, _ => True

instance Apart.decide : ∀ input bridge, Decidable (Apart input bridge)
  | .line _ _, _ | .receive, _ | .emit _ _, _ | .discard, _ => by
    unfold Apart; infer_instance
  | .endOfInput, _ | .write _, _ | .poll, _ | .timeLimit, _ => inferInstanceAs (Decidable True)

end Statement

section Messages

theorem message_id (message : Message) :
    message.id = message.asks.or message.answers := by
  unfold Message.id Message.asks Message.answers
  cases message.content <;> rfl

theorem answers_of_asks (asks : message.asks = some id) : message.answers = none := by
  unfold Message.asks at asks
  unfold Message.answers
  cases content : message.content with
  | request => rfl
  | notification | response => simp [content] at asks

theorem asks_of_answers (answers : message.answers = some id) : message.asks = none := by
  cases asks : message.asks with
  | none => rfl
  | some other => rw [answers_of_asks asks] at answers; cases answers

@[simp] theorem requests_append {messages : List Message} :
    requests (messages ++ [message]) = requests messages ++ message.asks.toList := by
  cases asks : message.asks <;> simp [requests, asks]

@[simp] theorem responses_append {messages : List Message} :
    responses (messages ++ [message]) = responses messages ++ message.answers.toList := by
  cases answers : message.answers <;> simp [responses, answers]

@[simp] theorem requests_cons {messages : List Message} :
    requests (message :: messages) = message.asks.toList ++ requests messages := by
  cases asks : message.asks <;> simp [requests, asks]

@[simp] theorem responses_cons {messages : List Message} :
    responses (message :: messages) = message.answers.toList ++ responses messages := by
  cases answers : message.answers <;> simp [responses, answers]

theorem count_toList {held : Option JsonId} :
    held.toList.count id = if held = some id then 1 else 0 := by
  cases held with
  | none => simp
  | some other => simp [List.count_singleton]

theorem quiet (absent : message.id = none) : message.asks = none ∧ message.answers = none := by
  rw [message_id] at absent
  exact Option.or_eq_none_iff.mp absent

/-- The binding of a message does not change when its deadline becomes the default. -/
theorem mcpBinding_again {authority : String} {deadline : Nat} {bound : String × Nat}
    (derived : mcpBinding message authority deadline = .ok bound) :
    mcpBinding message authority bound.2 = .ok bound := by
  unfold mcpBinding at derived ⊢
  cases binding : message.binding with
  | found | missing =>
    simp only [binding, Except.ok.injEq] at derived
    simp [← derived]
  | refused => simp [binding] at derived

end Messages

section Invariant

/-- What the tables of both sides say of the requests between them. -/
structure Invariant (session : Session) (bridge : Bridge) : Prop where
  flow : ∀ id, (requests (bridge.toSupervisor.map (·.payload))).count id +
    bridge.served.count id + (responses (bridge.toClient.map (·.payload))).count id ≤
      bridge.asked.count id
  single : ∀ id, bridge.asked.count id ≤ 1
  filed : ∀ served ∈ bridge.serving, bridge.bindings.lookup (.id served.1) = some served.2.filed
  bound : ∀ frame ∈ bridge.toSupervisor, frame.kind = .mcpRequest ∧
    mcpBinding frame.payload session.authorityDigest frame.deadlineUnixMs =
      .ok (frame.authorityDigest, frame.deadlineUnixMs)
  accepted : bridge.rejected = false
  answered : ∀ pair ∈ bridge.answered, Carries pair.1 pair.2
  pending : ∀ id, id ∈ bridge.pending ↔ id ∈ bridge.unanswered
  logged : ∀ id, (requests bridge.stdin).count id =
    (responses bridge.stdout).count id + bridge.asked.count id
  drained : bridge.ended = some .drained → bridge.stdinEnded = true ∧ bridge.unanswered = []

theorem Invariant.attached : Invariant session attached := by
  constructor <;> simp [Supervisor.attached, Bridge.served, Bridge.unanswered, requests, responses]

/-- A line of standard input enters both the pending set and the frames to the supervisor. -/
theorem Invariant.line {now : Nat} (invariant : Invariant session bridge)
    (running : bridge.ended = none) (mayRead : bridge.mayRead message = true)
    (apart : ∀ id ∈ message.answers, id ∈ bridge.unanswered) :
    Invariant session (stdinToSupervisor session now message bridge) := by
  unfold stdinToSupervisor
  split
  · -- A refused binding ends the bridge, and the line goes nowhere.
    exact { invariant with drained := fun drained => by cases drained }
  · next authority deadline derived =>
    refine ⟨?_, ?_, ?_, ?_, ?_, ?_, ?_, ?_, ?_⟩
    · intro id
      have flow := invariant.flow id
      simp only [List.map_append, List.map_cons, List.map_nil, requests_append,
        List.count_append, requestFrame, Bridge.served] at flow ⊢
      omega
    · intro id
      have single := invariant.single id
      simp only [List.count_append, count_toList]
      split
      · next asks =>
        -- The host asks under an identifier that is not in flight.
        have fresh : id ∉ bridge.asked := by
          unfold Message.asks at asks
          unfold Bridge.mayRead at mayRead
          cases content : message.content with
          | request other =>
            simp only [content, Option.some.injEq, decide_eq_true_eq] at asks mayRead
            exact asks ▸ mayRead
          | notification | response => simp [content] at asks
        rw [List.count_eq_zero_of_not_mem fresh]
      · exact single
    · exact invariant.filed
    · intro frame member
      rcases List.mem_append.mp member with earlier | last
      · exact invariant.bound frame earlier
      · obtain rfl := List.mem_singleton.mp last
        exact ⟨rfl, mcpBinding_again derived⟩
    · exact invariant.accepted
    · exact invariant.answered
    · intro id
      have pending := invariant.pending id
      simp only [Bridge.unanswered, List.mem_append] at pending apart ⊢
      cases named : clientKey message with
      | none =>
        obtain ⟨silent, -⟩ := quiet named
        simpa [silent] using pending
      | some own =>
        simp only [Option.elim_some, Finset.mem_insert, pending]
        simp only [clientKey, message_id] at named
        cases asks : message.asks with
        | some other =>
          rw [asks, Option.some_or, Option.some.injEq] at named
          simp only [named, Option.toList_some, List.mem_singleton]
          tauto
        | none =>
          -- A response of the host is under the identifier of a request that is pending anyway.
          rw [asks, Option.none_or] at named
          have inside := apart own named
          simp only [Option.toList_none, List.not_mem_nil, or_false]
          refine ⟨fun either => ?_, .inr⟩
          rcases either with rfl | there
          · exact inside
          · exact there
    · intro id
      have logged := invariant.logged id
      simp only [requests_append, List.count_append]
      omega
    · intro drained
      rw [running] at drained
      cases drained

theorem Invariant.served_once (invariant : Invariant session bridge) (id : JsonId) :
    bridge.served.count id ≤ 1 := by
  have flow := invariant.flow id
  have single := invariant.single id
  omega

/-- The reader accepts the frame, files it under its key, and hands its request over. -/
theorem Invariant.receive {frame : PrivateFrame} {rest : List PrivateFrame}
    (invariant : Invariant session bridge) (next : bridge.toSupervisor = frame :: rest)
    (apart : ∀ id ∈ frame.payload.answers, id ∉ bridge.served) :
    Invariant session (socketReader session frame rest bridge) := by
  -- The client bound the frame as the supervisor does, so nothing has drifted.
  obtain ⟨kind, derived⟩ := invariant.bound frame (by simp [next])
  have accepts : ¬ (frame.kind ≠ .mcpRequest ∨ frame.authorityDigest ≠ frame.authorityDigest ∨
      frame.deadlineUnixMs ≠ frame.deadlineUnixMs) := by simp [kind]
  simp only [socketReader, derived, if_neg accepts]
  refine ⟨?_, invariant.single, ?_, ?_, invariant.accepted, invariant.answered,
    invariant.pending, invariant.logged, invariant.drained⟩
  · intro id
    have flow := invariant.flow id
    simp only [next, List.map_cons, requests_cons, List.count_append] at flow
    cases asks : frame.payload.asks <;>
      simp only [asks, Bridge.served, Option.map_none, Option.map_some, Option.toList_none,
        Option.toList_some, List.append_nil, List.map_append, List.map_cons, List.map_nil,
        List.count_append, List.count_nil] at flow ⊢ <;> omega
  · intro served member
    simp only [List.mem_append, Option.mem_toList, Option.map_eq_some_iff] at member
    rcases member with earlier | ⟨id, asks, rfl⟩
    · -- The filed frame has another identifier than a request that is being served.
      have other : Key.id served.1 ≠ supervisorKey session.hashes frame.payload := by
        intro same
        unfold supervisorKey at same
        have inside : served.1 ∈ bridge.served := List.mem_map_of_mem earlier
        cases named : frame.payload.id with
        | none => simp [named] at same
        | some id =>
          simp only [named, Key.id.injEq] at same
          rw [message_id] at named
          cases asks : frame.payload.asks with
          | none =>
            rw [asks, Option.none_or] at named
            exact apart id named (same ▸ inside)
          | some asked =>
            -- The new request would be in flight twice.
            rw [asks, Option.some_or, Option.some.injEq] at named
            have flow := invariant.flow id
            have single := invariant.single id
            have there := List.count_pos_iff.mpr (same ▸ inside)
            simp only [next, List.map_cons, requests_cons, asks, named, Option.toList_some,
              List.count_append, List.count_singleton_self] at flow
            omega
      rw [AList.lookup_insert_ne other]
      exact invariant.filed served earlier
    · have named : supervisorKey session.hashes frame.payload = .id id := by
        unfold supervisorKey
        rw [message_id, asks, Option.some_or]
      rw [named, AList.lookup_insert]
      rfl
  · intro other member
    exact invariant.bound other (by simp [next, member])

/-- The served identifiers without the first request under one of them. -/
theorem serving_erase (own : JsonId) :
    (bridge.serving.eraseP fun served => served.1 = own).map Prod.fst =
      bridge.served.erase own := by
  have same : (fun served : JsonId × PrivateFrame => decide (served.1 = own)) =
      (own == ·) ∘ Prod.fst := by
    funext served
    rw [Bool.eq_iff_iff]
    exact decide_eq_true_iff.trans (eq_comm.trans beq_iff_eq.symm)
  rw [Bridge.served, List.erase_eq_eraseP, List.eraseP_map, same]

/-- The writer sends a response under what the reader filed for its request. -/
theorem Invariant.emit {now : Nat} (invariant : Invariant session bridge)
    (mayEmit : bridge.mayEmit message = true)
    (apart : ∀ id ∈ message.asks, id ∉ bridge.served) :
    Invariant session (socketWriter session now message bridge) := by
  unfold socketWriter
  refine ⟨?_, invariant.single, ?_, invariant.bound, invariant.accepted, ?_,
    invariant.pending, invariant.logged, invariant.drained⟩
  · intro id
    have flow := invariant.flow id
    simp only [List.map_append, List.map_cons, List.map_nil, responses_append,
      List.count_append, responseFrame]
    cases answers : message.answers with
    | none => simpa [Bridge.served] using flow
    | some own =>
      -- The request leaves the served ones as its response enters the frames.
      have inside : own ∈ bridge.served := by
        unfold Message.answers at answers
        unfold Bridge.mayEmit at mayEmit
        cases content : message.content with
        | response other =>
          simp only [content, Option.some.injEq, decide_eq_true_eq] at answers mayEmit
          exact answers ▸ mayEmit
        | notification | request => simp [content] at answers
      simp only [Option.elim_some, Bridge.served, serving_erase, Option.toList_some]
      rw [List.count_erase, List.count_singleton]
      have there := List.count_pos_iff.mpr inside
      split
      · next same =>
        obtain rfl := eq_of_beq same
        simp only [Bridge.served] at there flow ⊢
        omega
      · simp only [Bridge.served] at flow ⊢
        omega
  · intro served member
    -- What is filed for the requests that stay served is under other keys.
    have other : Key.id served.1 ≠ supervisorKey session.hashes message := by
      intro same
      unfold supervisorKey at same
      cases named : message.id with
      | none => simp [named] at same
      | some own =>
        simp only [named, Key.id.injEq] at same
        rw [message_id] at named
        cases answers : message.answers with
        | none =>
          rw [answers, Option.or_none] at named
          simp only [answers, Option.elim_none] at member
          exact apart own named (same ▸ List.mem_map_of_mem member)
        | some answered =>
          rw [asks_of_answers answers, Option.none_or, answers, Option.some.injEq] at named
          simp only [answers, named, Option.elim_some] at member
          have stays := List.mem_map_of_mem (f := Prod.fst) member
          rw [serving_erase, same] at stays
          have there := List.count_pos_iff.mpr stays
          have once := invariant.served_once own
          rw [List.count_erase_self] at there
          omega
    rw [AList.lookup_erase_ne other]
    refine invariant.filed served ?_
    cases answers : message.answers with
    | none => simpa [answers] using member
    | some own =>
      simp only [answers, Option.elim_some] at member
      exact List.mem_of_mem_eraseP member
  · intro pair member
    simp only [List.mem_append, Option.mem_toList, Option.map_eq_some_iff,
      Option.bind_eq_some_iff] at member
    rcases member with earlier | ⟨served, ⟨own, answers, found⟩, rfl⟩
    · exact invariant.answered pair earlier
    · -- The request was filed under the identifier that the response has.
      have inside := List.mem_of_find?_eq_some found
      have named : served.1 = own := by simpa using List.find?_some found
      have key : supervisorKey session.hashes message = .id served.1 := by
        unfold supervisorKey
        rw [message_id, asks_of_answers answers, Option.none_or, answers, named]
      rw [key, invariant.filed served inside]
      exact ⟨rfl, rfl, rfl, rfl⟩

/-- A frame that is written out answers its request, which stays unanswered until the write
returns. -/
theorem Invariant.write {now : Nat} {frame : PrivateFrame} {rest : List PrivateFrame}
    (invariant : Invariant session bridge) (next : bridge.toClient = frame :: rest)
    (running : bridge.ended = none) (idle : bridge.writing = none) :
    Invariant session (supervisorToStdout now frame rest bridge) := by
  -- What the frame answers is in flight, so the host has asked for it.
  have flow : ∀ id, (requests (bridge.toSupervisor.map (·.payload))).count id +
      bridge.served.count id + (frame.payload.answers.toList.count id +
        (responses (rest.map (·.payload))).count id) ≤ bridge.asked.count id := by
    intro id
    simpa only [next, List.map_cons, responses_cons, List.count_append] using invariant.flow id
  unfold supervisorToStdout
  split
  · exact { invariant with
      flow := fun id => by
        have first := flow id
        simp only [Bridge.served] at first ⊢
        omega
      drained := fun drained => by cases drained }
  · have asked : ∀ id, (frame.payload.answers.elim bridge.asked bridge.asked.erase).count id +
        frame.payload.answers.toList.count id = bridge.asked.count id := by
      intro id
      have first := flow id
      cases answers : frame.payload.answers with
      | none => simp
      | some own =>
        simp only [answers, Option.toList_some, Option.elim_some, List.count_erase,
          List.count_singleton] at first ⊢
        by_cases same : (own == id) = true
        · simp only [same, if_true] at first ⊢
          omega
        · simp only [same, if_false, Nat.add_zero, Nat.sub_zero, Bool.false_eq_true]
    refine ⟨?_, ?_, invariant.filed, invariant.bound, invariant.accepted, invariant.answered,
      ?_, ?_, fun drained => by rw [running] at drained; cases drained⟩
    · intro id
      have first := flow id
      have left := asked id
      simp only [Bridge.served] at first ⊢
      omega
    · intro id
      have left := asked id
      have single := invariant.single id
      simp only
      omega
    · intro id
      -- The identifier moves from the requests in flight to the message that is being written.
      have left := asked id
      have before := invariant.pending id
      simp only [Bridge.unanswered, idle, Option.bind_none, Option.toList_none,
        List.append_nil] at before
      simp only [Bridge.unanswered, Option.bind_some, before]
      rw [← List.count_pos_iff, ← List.count_pos_iff, List.count_append, left]
    · intro id
      have logged := invariant.logged id
      have left := asked id
      simp only [responses_append, List.count_append]
      omega

/-- A write that returns leaves the requests that are still in flight pending. -/
theorem Invariant.discard (invariant : Invariant session bridge)
    (writing : bridge.writing = some message) (running : bridge.ended = none)
    (apart : ∀ id ∈ message.id, id ∉ bridge.asked) :
    Invariant session (Supervisor.discard message bridge) := by
  refine ⟨invariant.flow, invariant.single, invariant.filed, invariant.bound,
    invariant.accepted, invariant.answered, ?_, invariant.logged,
    fun drained => by rw [Supervisor.discard, running] at drained; cases drained⟩
  intro id
  have before := invariant.pending id
  simp only [Bridge.unanswered, writing, Option.bind_some, List.mem_append,
    Option.mem_toList] at before
  simp only [Supervisor.discard, Bridge.unanswered, Option.bind_none, Option.toList_none,
    List.append_nil, clientKey]
  cases named : message.id with
  | none =>
    obtain ⟨-, silent⟩ := quiet named
    simpa [silent] using before
  | some own =>
    simp only [Option.elim_some, Finset.mem_erase, before]
    constructor
    · rintro ⟨other, either⟩
      rcases either with asked | answers
      · exact asked
      · -- The message answers no request under another identifier.
        rw [message_id, asks_of_answers answers, Option.none_or, answers,
          Option.some.injEq] at named
        exact absurd named other
    · intro asked
      exact ⟨fun same => apart own named (same ▸ asked), .inl asked⟩

/-- Every step that keeps the messages apart keeps the invariant. -/
theorem Invariant.step (input : Input) (invariant : Invariant session bridge)
    (apart : Apart input bridge) : Invariant session (step session input bridge) := by
  cases input with
  | line now message =>
    simp only [Supervisor.step]
    split
    · next enabled => exact invariant.line enabled.1 enabled.2.2 apart
    · exact invariant
  | endOfInput =>
    simp only [Supervisor.step]
    split
    · next running =>
      exact { invariant with drained := fun drained => by rw [running] at drained; cases drained }
    · exact invariant
  | receive =>
    simp only [Supervisor.step]
    split
    · next frame rest next =>
      rw [if_neg (by simp [invariant.accepted])]
      exact invariant.receive next (apart frame (by simp [next]))
    · exact invariant
  | emit now message =>
    simp only [Supervisor.step]
    split
    · next enabled => exact invariant.emit enabled.2 apart
    · exact invariant
  | write now =>
    simp only [Supervisor.step]
    split
    · next frame rest next =>
      split
      · next enabled => exact invariant.write next enabled.1 enabled.2
      · exact invariant
    · exact invariant
  | discard =>
    simp only [Supervisor.step]
    split
    · next message writing =>
      split
      · next running => exact invariant.discard writing running (apart message writing)
      · exact invariant
    · exact invariant
  | poll =>
    simp only [Supervisor.step]
    split
    · next enabled =>
      -- Nothing is pending, so nothing is unanswered.
      have none_left : bridge.unanswered = [] := by
        rw [List.eq_nil_iff_forall_not_mem]
        intro id member
        have inside := (invariant.pending id).mpr member
        rw [enabled.2.2] at inside
        exact absurd inside (Finset.notMem_empty id)
      exact { invariant with drained := fun _ => ⟨enabled.2.1, none_left⟩ }
    · exact invariant
  | timeLimit =>
    simp only [Supervisor.step]
    split
    · exact { invariant with drained := fun drained => by cases drained }
    · exact invariant

/-- The invariant holds along every run that keeps the messages apart. -/
theorem Invariant.run {inputs : List Input} (apart : Allowed (Supervisor.step session) Apart
    inputs Supervisor.attached) :
    Invariant session (run (Supervisor.step session) inputs Supervisor.attached) := by
  have preserved : ∀ input state, Apart input state → Invariant session state →
      Invariant session (Supervisor.step session input state) :=
    fun input _ apart invariant => invariant.step input apart
  exact Allowed.invariant preserved apart .attached

/-- The invariant pairs every response with its request. -/
theorem Invariant.paired (invariant : Invariant session bridge) : Paired session bridge := by
  refine ⟨invariant.answered, invariant.pending, ?_, ?_⟩
  · intro running
    simp only [Supervisor.step, running, true_and]
    constructor
    · intro drained
      split at drained
      · next enabled =>
        refine ⟨enabled.1, List.eq_nil_iff_forall_not_mem.mpr fun id member => ?_⟩
        have inside := (invariant.pending id).mpr member
        rw [enabled.2] at inside
        exact absurd inside (Finset.notMem_empty id)
      · rw [running] at drained
        cases drained
    · intro ⟨stdinEnded, settled⟩
      have none_left : bridge.pending = ∅ := by
        rw [Finset.eq_empty_iff_forall_notMem]
        intro id inside
        rw [invariant.pending id, settled] at inside
        cases inside
      rw [if_pos ⟨stdinEnded, none_left⟩]
  · intro drained
    obtain ⟨stdinEnded, settled⟩ := invariant.drained drained
    refine ⟨stdinEnded, fun id => ?_⟩
    have logged := invariant.logged id
    have idle : bridge.asked = [] := (List.append_eq_nil_iff.mp settled).1
    rw [idle, List.count_nil, Nat.add_zero] at logged
    exact logged

end Invariant

section Result

/-- In every run that keeps the messages apart, every response frame carries what the frame of its
request carried, the pending set is exactly the set of unanswered requests of the client, and the
bridge ends when its input has and none is left, having written out every response. -/
theorem bridge_pairs_apart {inputs : List Input}
    (apart : Allowed (step session) Apart inputs attached) :
    Paired session (run (step session) inputs attached) :=
  (Invariant.run apart).paired

namespace Sample

/-- A session whose digests are readable. -/
def readable : Session where
  authorityDigest := "authority"
  hashes :=
    { payload := Message.body
      id := fun id => match id with
        | .number value => toString value
        | .text value => value }

/-- A message whose bytes have no binding of their own. -/
def plain (content : Content) (body : String) : Message := ⟨content, body, .missing⟩

/-- Two calls of the host cross a request of the application, and each is answered. -/
def crossing : List Input :=
  [.line 1000 (plain (.request (.number 1)) "list tools"),
   .line 1001 ⟨.request (.text "a"), "call tool", .found "delegate" 90000⟩,
   .line 1002 (plain .notification "initialized"),
   .receive, .receive, .receive,
   .emit 1003 (plain (.request (.number 7)) "sample"),
   .emit 1004 (plain (.response (.text "a")) "called"),
   .endOfInput, .poll, .write 1005, .discard, .write 1006,
   .emit 1007 (plain (.response (.number 1)) "listed"),
   .discard, .poll, .write 1008, .poll, .discard, .poll]

/-- The application asks under the identifier of the call it serves, and the host responds. -/
def meeting : List Input :=
  [.line 1000 ⟨.request (.number 1), "call tool", .found "delegate" 90000⟩, .receive,
   .emit 1001 (plain (.request (.number 1)) "sample"), .write 1002, .discard,
   .line 1003 (plain (.response (.number 1)) "sampled"), .receive,
   .emit 1004 (plain (.response (.number 1)) "called")]

end Sample

/-- The run in which two calls cross a request of the application ends with both answered. -/
theorem bridge_pairs_apart_sample :
    Paired Sample.readable (run (step Sample.readable) Sample.crossing attached) ∧
      (run (step Sample.readable) Sample.crossing attached).ended = some .drained :=
  ⟨bridge_pairs_apart (by decide +kernel), by decide +kernel⟩

/-- A request of the application under the identifier of the call it serves breaks the pairing. -/
theorem bridge_pairs_not :
    ¬ ∀ inputs, Paired Sample.readable (run (step Sample.readable) inputs attached) := by
  intro paired
  have answered := (paired Sample.meeting).answered
  have drifted : ∃ pair ∈ (run (step Sample.readable) Sample.meeting attached).answered,
      pair.2.authorityDigest ≠ pair.1.authorityDigest := by decide +kernel
  obtain ⟨pair, member, differs⟩ := drifted
  exact differs (answered pair member).authorityDigest

end Result

end Aar.Supervisor
