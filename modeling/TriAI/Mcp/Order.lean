import TriAI.Mcp.Calls

/-!
Contract: the order of the sessions with an MCP server, and the tools that they offer (`mcp.rs`).

Owns: that every session writes its messages in turn and ends the server it has started, whatever
the server does; and that what it offers passes the check of the chat.

Does not own: what a session returns (`Mcp.Calls`).
-/

set_option autoImplicit false

namespace TriAI.Mcp

open TriAI.Library TriAI.Library.Interaction
open TriAI.Chat (isAllowedToolName toolName trimEnd trimStart validateRequestedTools)

variable {parse : String → Option Json} {numberText : JsonNumber → String} {timeout rounds : Nat}
  {trace : SessionTrace}

/-! ## The order of a session -/

/-- The message that a call writes. -/
def messageOf (event : Event SessionOp SessionOp.Reply) : Option Json :=
  match event.op with
  | .writePayload request => some request
  | _ => none

/-- The messages that have been written, or were begun, in their order. -/
def messages (trace : SessionTrace) : List Json := trace.filterMap messageOf

/-- A message is only written when the one before it has been answered without an error, by the
line received last. -/
def InTurn (parse : String → Option Json) (numberText : JsonNumber → String)
    (trace : SessionTrace) : Prop :=
  ∀ before request reply after, trace = before ++ ⟨.writePayload request, reply⟩ :: after →
    messages before = [] ∨ ∃ earlier timeout line previous response,
      before = earlier ++ [⟨.recvTimeout timeout, some line⟩] ∧
      (messages before).getLast? = some previous ∧
      Accepts parse numberText (wantedId previous) line response

/-- A server that has been started is killed and waited for at the end. -/
def Closed (trace : SessionTrace) : Prop :=
  (∀ event ∈ trace, ∀ command, event ≠ ⟨.spawn command, .ok ()⟩) ∨
    ∃ command between, trace = ⟨.spawn command, .ok ()⟩ :: (between ++ ended) ∧
      ∀ event ∈ between, ∀ other, event.op ≠ .spawn other

/-- What holds of every session with these requests. -/
structure Orderly (parse : String → Option Json) (numberText : JsonNumber → String)
    (requests : List Json) (trace : SessionTrace) : Prop where
  written : messages trace <+: requests
  inTurn : InTurn parse numberText trace
  closed : Closed trace

@[simp] theorem messages_append (first second : SessionTrace) :
    messages (first ++ second) = messages first ++ messages second := List.filterMap_append

@[simp] theorem messages_payload (request : Json) (reply : Except String Unit)
    (trace : SessionTrace) :
    messages (⟨.writePayload request, reply⟩ :: trace) = request :: messages trace := rfl

@[simp] theorem messages_received (timeout : Nat) (lines : List String) :
    messages (received timeout lines) = [] := by
  unfold messages received
  rw [List.filterMap_map]
  exact List.filterMap_eq_nil_iff.mpr fun line _ => rfl

/-- An exchange begins with its message, writes no other and starts no server. -/
theorem Exchange.begins {request : Json} {result : Except String Json}
    (exchange : Exchange parse numberText timeout request trace result) :
    ∃ reply rest, trace = ⟨.writePayload request, reply⟩ :: rest ∧ messages rest = [] ∧
      ∀ event ∈ trace, ∀ command, event.op ≠ .spawn command := by
  have receives : ∀ lines, ∀ event ∈ received timeout lines, ∀ command,
      event.op ≠ .spawn command := by
    intro lines event member command
    obtain ⟨line, _, rfl⟩ := List.mem_map.mp member
    exact nofun
  cases exchange with
  | payload reason => exact ⟨_, _, rfl, rfl, by simp⟩
  | newline reason => exact ⟨_, _, rfl, rfl, by simp⟩
  | flush reason => exact ⟨_, _, rfl, rfl, by simp⟩
  | @silent ignored passed =>
      refine ⟨.ok (), _, rfl, ?_, ?_⟩
      · show messages (received timeout ignored ++ [⟨.recvTimeout timeout, none⟩]) = []
        rw [messages_append, messages_received]
        rfl
      · intro event member command
        simp only [written, List.mem_append, List.mem_cons, List.not_mem_nil, or_false] at member
        rcases member with (rfl | rfl | rfl) | member | rfl
        · exact nofun
        · exact nofun
        · exact nofun
        · exact receives ignored event member command
        · exact nofun
  | @answered ignored line _ passed handled =>
      refine ⟨.ok (), _, rfl, messages_received timeout (ignored ++ [line]), ?_⟩
      intro event member command
      simp only [written, List.mem_append, List.mem_cons, List.not_mem_nil, or_false] at member
      rcases member with (rfl | rfl | rfl) | member
      · exact nofun
      · exact nofun
      · exact nofun
      · exact receives (ignored ++ [line]) event member command

/-- In what begins with its only message, this is the message written. -/
theorem before_eq_nil {request other : Json} {reply otherReply : Except String Unit}
    {rest before after : SessionTrace} (single : messages rest = [])
    (split : ⟨.writePayload request, reply⟩ :: rest =
      before ++ ⟨.writePayload other, otherReply⟩ :: after) : before = [] := by
  cases before with
  | nil => rfl
  | cons event before =>
      have restEq := (List.cons.inj split).2
      rw [restEq] at single
      simp at single

/-- What is found in a conversation with these requests. -/
structure Ordered (parse : String → Option Json) (numberText : JsonNumber → String)
    (requests : List Json) (trace : SessionTrace) : Prop where
  written : messages trace <+: requests
  inTurn : InTurn parse numberText trace
  startsNone : ∀ event ∈ trace, ∀ command, event.op ≠ .spawn command
  begins : ∀ before request reply after,
    trace = before ++ ⟨.writePayload request, reply⟩ :: after → messages before = [] → before = []

theorem Exchange.ordered {request : Json} {result : Except String Json} (rest : List Json)
    (exchange : Exchange parse numberText timeout request trace result) :
    Ordered parse numberText (request :: rest) trace := by
  obtain ⟨reply, later, rfl, single, startsNone⟩ := exchange.begins
  refine ⟨?_, ?_, startsNone, ?_⟩
  · rw [messages_payload, single]
    exact List.prefix_append [request] rest
  · intro before other otherReply after split
    rw [before_eq_nil single split]
    exact .inl rfl
  · intro before other otherReply after split _
    exact before_eq_nil single split

/-- Behind an exchange with an answer a message begins the exchange or belongs to what
follows. -/
theorem Answered.split {request response other : Json} {otherReply : Except String Unit}
    {later before after : SessionTrace}
    (answered : Answered parse numberText timeout request trace response)
    (split : trace ++ later = before ++ ⟨.writePayload other, otherReply⟩ :: after) :
    before = [] ∨ ∃ rest, before = trace ++ rest ∧
      later = rest ++ ⟨.writePayload other, otherReply⟩ :: after := by
  obtain ⟨reply, _, isTrace, single, _⟩ := (exchange_ok_iff.mpr answered).begins
  rcases List.append_eq_append_iff.mp split with
    ⟨rest, isBefore, isLater⟩ | ⟨rest, isFirst, isAfter⟩
  · exact .inr ⟨rest, isBefore, isLater⟩
  · cases rest with
    | nil =>
        refine .inr ⟨[], ?_, isAfter.symm⟩
        rw [isFirst, List.append_nil, List.append_nil]
    | cons event rest =>
        obtain ⟨rfl, _⟩ := List.cons.inj isAfter
        rw [isTrace] at isFirst
        exact .inl (before_eq_nil single isFirst)

theorem Answered.messages {request response : Json}
    (answered : Answered parse numberText timeout request trace response) :
    messages trace = [request] := by
  obtain ⟨_, _, rfl, single, _⟩ := (exchange_ok_iff.mpr answered).begins
  rw [messages_payload, single]

/-- What follows an exchange with an answer is in turn behind it. -/
theorem Answered.inTurn {request response : Json} {later : SessionTrace} {requests : List Json}
    (answered : Answered parse numberText timeout request trace response)
    (ordered : Ordered parse numberText requests later) :
    InTurn parse numberText (trace ++ later) := by
  intro before other otherReply after split
  rcases answered.split split with rfl | ⟨rest, rfl, isLater⟩
  · exact .inl rfl
  right
  rcases ordered.inTurn rest other otherReply after isLater with
    none | ⟨earlier, within, last, previous, reached, rfl, isLast, takes⟩
  · obtain rfl := ordered.begins rest other otherReply after isLater none
    rw [List.append_nil, answered.messages]
    obtain ⟨ignored, line, _, accepts, rfl⟩ := answered
    refine ⟨written request ++ received timeout ignored, timeout, line, request, response, ?_,
      rfl, accepts⟩
    rw [received, List.map_append, List.append_assoc]
    rfl
  · refine ⟨trace ++ earlier, within, last, previous, reached, ?_, ?_, takes⟩
    · rw [List.append_assoc]
    · rw [messages_append, List.getLast?_append, isLast]
      rfl

/-- A conversation writes its requests in order, each in turn, and starts no server. -/
theorem Conversation.ordered {requests : List Json}
    (conversation : Conversation parse numberText timeout requests trace) :
    Ordered parse numberText requests trace := by
  induction conversation with
  | done => exact ⟨List.prefix_rfl, by simp [InTurn], by simp, by simp⟩
  | @stopped request rest trace reason exchange => exact exchange.ordered rest
  | @answered request response rest first later answered further inductionHypothesis =>
      refine ⟨?_, answered.inTurn inductionHypothesis, ?_, ?_⟩
      · rw [messages_append, answered.messages]
        exact (List.prefix_append_right_inj [request]).mpr inductionHypothesis.written
      · intro event member
        have exchange := exchange_ok_iff.mpr answered
        rcases List.mem_append.mp member with early | late
        · exact (exchange.ordered rest).startsNone event early
        · exact inductionHypothesis.startsNone event late
      · intro before other otherReply after split none
        rcases answered.split split with rfl | ⟨rest, rfl, isLater⟩
        · rfl
        · rw [messages_append, answered.messages] at none
          cases none

/-- An orderly session: a conversation between the start and the end of a server. -/
theorem Conversation.orderly {requests : List Json} {closing : SessionTrace} (command : String)
    (conversation : Conversation parse numberText timeout requests trace)
    (closes : closing = [] ∨ closing = ended) :
    Orderly parse numberText requests
      (⟨.spawn command, .ok ()⟩ :: (trace ++ (closing ++ ended))) := by
  have ordered := conversation.ordered
  have silent : messages (closing ++ ended) = [] := by
    rcases closes with rfl | rfl
    · rfl
    · rfl
  refine ⟨?_, ?_, .inr ⟨command, trace ++ closing, by rw [List.append_assoc], ?_⟩⟩
  · show messages (trace ++ (closing ++ ended)) <+: requests
    rw [messages_append, silent, List.append_nil]
    exact ordered.written
  · intro before request reply after split
    cases before with
    | nil => exact .inl rfl
    | cons event before =>
        obtain ⟨rfl, behind⟩ := List.cons.inj split
        rcases List.append_eq_append_iff.mp behind with
          ⟨rest, _, isClosing⟩ | ⟨rest, isTrace, isAfter⟩
        · rw [isClosing] at silent
          simp at silent
        · cases rest with
          | nil =>
              rw [List.nil_append] at isAfter
              rw [← isAfter] at silent
              simp at silent
          | cons event rest =>
              obtain ⟨rfl, _⟩ := List.cons.inj isAfter
              rcases ordered.inTurn before request reply rest isTrace with
                none | ⟨earlier, within, line, previous, response, rfl, isLast, accepts⟩
              · exact .inl none
              · exact .inr ⟨⟨.spawn command, .ok ()⟩ :: earlier, within, line, previous, response,
                  rfl, isLast, accepts⟩
  · intro event member other
    rcases List.mem_append.mp member with early | late
    · exact ordered.startsNone event early other
    · rcases closes with rfl | rfl
      · cases late
      · simp only [ended, List.mem_cons, List.not_mem_nil, or_false] at late
        rcases late with rfl | rfl
        · exact nofun
        · exact nofun

/-- Every session of the frame is orderly. -/
theorem inSession_orderly {α : Type} {config : McpConfig} {toRequest : String → Json}
    {read : Json → Except String α} {result : Except String α}
    (returns : Prog.Returns (inSession parse numberText rounds config fun session =>
        McpSession.ask parse numberText rounds session toRequest read).run trace result) :
    Orderly parse numberText (requestsOf toRequest) trace := by
  rcases inSession_returns_iff.mp returns with
    ⟨reason, fails, _⟩ | ⟨command, talked, _, ⟨_, _, talks, rfl⟩ | ⟨_, _, talks, rfl⟩⟩
  · rcases spawn_returns_iff.mp fails with ⟨_, rfl, _⟩ | ⟨command, _, ⟨_, rfl, _⟩ | ⟨_, starts⟩⟩
    · exact ⟨List.nil_prefix, by simp [InTurn], .inl (by simp)⟩
    · refine ⟨List.nil_prefix, ?_, .inl (by simp)⟩
      intro before request reply after split
      cases before with
      | nil => exact .inl rfl
      | cons event before => simp at split
    · cases starts
  · exact (talk_run talks).1.orderly command (.inl rfl)
  · exact (talk_run talks).1.orderly command (.inr rfl)

theorem inSession_unset {α : Type} {config : McpConfig} {toRequest : String → Json}
    {read : Json → Except String α} {result : Except String α}
    (returns : Prog.Returns (inSession parse numberText rounds config fun session =>
        McpSession.ask parse numberText rounds session toRequest read).run trace result)
    (unset : config.command = none) : trace = [] := by
  rcases inSession_returns_iff.mp returns with ⟨_, fails, _⟩ | ⟨command, _, isSet, _⟩
  · rcases spawn_returns_iff.mp fails with ⟨_, none, _⟩ | ⟨command, isSet, _⟩
    · exact none
    · rw [unset] at isSet
      cases isSet
  · rw [unset] at isSet
    cases isSet

/-- What a caller may do with a server. -/
inductive McpOperation where
  | listTools
  | callTool (name : String) (arguments : Fields)

namespace McpOperation

/-- The messages of the session. -/
def requests : McpOperation → List Json
  | listTools => requestsOf toolsListRequest
  | callTool name arguments => requestsOf (toolsCallRequest name arguments)

/-- No session is wanted, or none is allowed. -/
def Refused (config : McpConfig) : McpOperation → Prop
  | listTools => config.command = none
  | callTool name _ => config.command = none ∨ isAllowedToolName name = false

/-- The operation has ended with these calls. -/
def Ends (parse : String → Option Json) (numberText : JsonNumber → String) (rounds : Nat)
    (config : McpConfig) (trace : SessionTrace) : McpOperation → Prop
  | listTools => ∃ result,
      Prog.Returns (Mcp.listTools parse numberText rounds config).run trace result
  | callTool name arguments => ∃ result,
      Prog.Returns (Mcp.callTool parse numberText rounds config name arguments).run trace result

end McpOperation

/-- The tools of a server and the text that each gives, and its two answers. -/
def stubTools : Json :=
  .object [("id", .string "2"), ("result", .object [("tools", .array [
    .object [("name", .string "read_file")], .object [("name", .string "format_disk")]]),
    ("content", .array [])])]

def stubAnswer (line : String) : Option Json :=
  if line = "1" then some (.object [("id", .string "1")]) else some stubTools

def stubConfig : McpConfig := { command := some "server", timeout := 30 }

private theorem stub_answers (request : Json) (line : String) {response : Json}
    (trimmed : trimStart (trimEnd line) = line) (visible : line ≠ "")
    (parsed : stubAnswer line = some response)
    (matches_ : isMatch (fun _ => "") (wantedId request) response = true)
    (noError : response.get "error" = none) :
    Answered stubAnswer (fun _ => "") stubConfig.timeout request
      (written request ++ received 30 [line]) response :=
  ⟨[], line, List.forall_mem_nil _, ⟨by rwa [trimmed], by rwa [trimmed], matches_, noError⟩, rfl⟩

theorem toolName_definition (tool : McpTool) : toolName tool.definition = some tool.name := by
  simp [toolName, McpTool.definition, Json.pointer, Json.child, Json.asStr, List.lookup_cons]

theorem filterMap_toolName_definition (tools : List McpTool) :
    (tools.map McpTool.definition).filterMap toolName = tools.map McpTool.name := by
  rw [List.filterMap_map]
  have each : toolName ∘ McpTool.definition = some ∘ McpTool.name := funext toolName_definition
  rw [each, List.filterMap_eq_map]

/-- The check of a request lets pass what is offered of any tools. -/
theorem validate_definitions (fields : Fields) {tools : List McpTool}
    (allowed : ∀ tool ∈ tools, isAllowedToolName tool.name = true) :
    validateRequestedTools
      (.object (fields.insert "tools" (.array (tools.map McpTool.definition)))) = .ok () := by
  unfold validateRequestedTools
  rw [Json.get_object, Fields.lookup_insert_self]
  show (tools.map McpTool.definition).forM _ = Except.ok ()
  induction tools with
  | nil => rfl
  | cons tool rest inductionHypothesis =>
      obtain ⟨first, others⟩ := List.forall_mem_cons.mp allowed
      rw [List.map_cons, List.forM_eq_forM, List.forM_cons, toolName_definition]
      simp only [first, if_true]
      exact inductionHypothesis others

/-- A server offers, in its order, the tools of its answer that are allowed, or nothing; and every
request with what is offered passes the check of its tools. -/
theorem mcpToolDefinitions_accepted (parse : String → Option Json)
    (numberText : JsonNumber → String) (rounds : Nat) (config : McpConfig) (trace : SessionTrace)
    (definitions : List Json)
    (ends : Prog.Returns (mcpToolDefinitions parse numberText rounds config) trace definitions)
    (fields : Fields) :
    validateRequestedTools (.object (fields.insert "tools" (.array definitions))) = .ok () ∧
      (definitions = [] ∨ ∃ first second tail response tools,
        Answered parse numberText config.timeout (toolsListRequest "2") second response ∧
        toolsOf response = .ok tools ∧ trace = first ++ (second ++ tail) ∧
        definitions.filterMap toolName =
          (tools.map McpTool.name).filter fun name => isAllowedToolName name) := by
  obtain ⟨listed, last, reached, rfl, lists, returns⟩ := ends.split
  cases reached with
  | error reason =>
      obtain ⟨_, rfl⟩ := Fallible.returns_ret.mp returns
      exact ⟨validate_definitions fields
        (List.forall_mem_nil fun tool : McpTool => isAllowedToolName tool.name = true), .inl rfl⟩
  | ok tools =>
      obtain ⟨rfl, rfl⟩ := Fallible.returns_ret.mp returns
      obtain ⟨command, first, second, welcome, response, _, _, replied, listsTools, rfl⟩ :=
        inSession_ok_iff.mp ⟨rounds, lists⟩
      refine ⟨validate_definitions fields ?_, .inr ⟨⟨.spawn command, .ok ()⟩ :: first, second,
        ended ++ ended, response, tools, replied, listsTools, ?_, ?_⟩⟩
      · intro tool member
        exact (List.mem_filter.mp member).2
      · rw [List.append_nil, List.append_assoc]
        rfl
      · rw [filterMap_toolName_definition, List.filter_map]
        rfl

theorem mcpToolDefinitions_accepted_stub :
    validateRequestedTools (.object (Fields.insert "tools"
      (.array [McpTool.definition { name := "read_file", description := "", required := [] }])
      [])) = .ok () := by
  have trimmed : trimStart (trimEnd "1") = "1" ∧ trimStart (trimEnd "2") = "2" := by decide
  have greeted : Answered stubAnswer (fun _ => "") stubConfig.timeout (initializeRequest "1") _ _ :=
    ⟨[], "1", List.forall_mem_nil _, ⟨by rw [trimmed.1]; decide, by rw [trimmed.1]; rfl, rfl, rfl⟩,
      rfl⟩
  have replied : Answered stubAnswer (fun _ => "") stubConfig.timeout (toolsListRequest "2") _
      stubTools :=
    ⟨[], "2", List.forall_mem_nil _, ⟨by rw [trimmed.2]; decide, by rw [trimmed.2]; rfl, rfl, rfl⟩,
      rfl⟩
  have listed : ∃ rounds, Prog.Returns (listTools stubAnswer (fun _ => "") rounds stubConfig).run
      _ (.ok [_, _]) :=
    inSession_ok_iff.mpr ⟨"server", _, _, _, _, rfl, greeted, replied, rfl, rfl⟩
  obtain ⟨rounds, lists⟩ := listed
  exact (mcpToolDefinitions_accepted stubAnswer (fun _ => "") rounds stubConfig _ _
    (lists.bind (.ret _)) []).1

end TriAI.Mcp
