import TriAI.Chat.Tools
import TriAI.Library.Fallible
import TriAI.Mcp.Session

/-!
Contract: the sessions with an MCP server (`mcp.rs`).

Owns: `list_tools`, `call_tool` and `mcp_tool_definitions` with the session they run: its start,
its requests, and its end on every way out; and exactly when a call of a tool has a result.

Does not own: the time that a request waits (`Mcp.Session`), of which a receive here keeps
whether a line came in time. A wait that does not end is observed for `rounds` lines; every
session so far is the beginning of one that ends, by a receive that brings no line.
-/

set_option autoImplicit false

namespace TriAI.Mcp

open TriAI.Library TriAI.Library.Interaction
open TriAI.Chat (isAllowedToolName trimEnd trimStart)

/-! ## The calls of a session -/

/-- What a session asks of the system. -/
inductive SessionOp where
  | spawn (command : String)
  /-- `write_all` of the text of a message. -/
  | writePayload (message : Json)
  | writeNewline
  | flush
  /-- `recv_timeout`: a line, or none in time. -/
  | recvTimeout (timeout : Nat)
  | kill
  | wait
  /-- Where the observation of the wait for an answer ends. -/
  | blocked

@[reducible] def SessionOp.Reply : SessionOp → Type
  | .spawn _ | .writePayload _ | .writeNewline | .flush => Except String Unit
  | .recvTimeout _ => Option String
  | .kill | .wait => Unit
  | .blocked => Empty

/-- A program over these calls. -/
abbrev SessionProg (α : Type) : Type := Fallible String SessionOp SessionOp.Reply α

abbrev SessionTrace : Type := List (Event SessionOp SessionOp.Reply)

structure McpConfig where
  command : Option String
  timeout : Nat

/-- The default has no server; its timeout is in seconds. -/
def McpConfig.default : McpConfig := { command := none, timeout := 30 }

def enabled (config : McpConfig) : Bool := config.command.isSome

structure McpTool where
  name : String
  description : String
  required : List String

structure McpSession where
  nextId : Nat
  timeout : Nat

/-! ## Messages -/

/-- `json!({"jsonrpc": "2.0", "id": id, "method": method, "params": params})`. -/
def message (id method : String) (params : Json) : Json :=
  .object [("jsonrpc", .string "2.0"), ("id", .string id), ("method", .string method),
    ("params", params)]

def initializeRequest (id : String) : Json :=
  message id "initialize" (.object [("protocolVersion", .string "2024-11-05"),
    ("capabilities", .object []),
    ("clientInfo", .object [("name", .string "tri-ai-runner"), ("version", .string "0.1")])])

def toolsListRequest (id : String) : Json := message id "tools/list" (.object [])

def toolsCallRequest (name : String) (arguments : Fields) (id : String) : Json :=
  message id "tools/call" (.object [("name", .string name), ("arguments", .object arguments)])

/-- One tool of an answer to `tools/list`, if it has a name. -/
def readTool (tool : Json) : Option McpTool :=
  let name := ((tool.pointer ["name"]).bind Json.asStr).getD ""
  if name = "" then none
  else
    some {
      name
      description := ((tool.pointer ["description"]).bind Json.asStr).getD ""
      required := (((tool.pointer ["inputSchema", "required"]).bind Json.asArray).getD
        []).filterMap Json.asStr }

/-- What `McpSession::list_tools` takes from the answer. -/
def toolsOf (response : Json) : Except String (List McpTool) := do
  let array ← okOr ((response.pointer ["result", "tools"]).bind Json.asArray)
    "MCP tools/list lieferte kein result.tools-Array"
  pure (array.filterMap readTool)

/-- The texts of a result, one below the other. -/
def contentText (content : List Json) : String :=
  content.foldl (fun text part =>
    match (part.get "text").bind Json.asStr with
    | some more => (if text = "" then text else text.push '\n') ++ more
    | none => text) ""

/-- What `McpSession::call_tool` takes from the answer. -/
def toolResult (response : Json) : Except String Json := do
  let content ← okOr ((response.pointer ["result", "content"]).bind Json.asArray)
    "MCP tools/call lieferte kein result.content-Array"
  let text := contentText content
  if (response.pointer ["result", "isError"]).bind Json.asBool = some true ∧ text = "" then
    throw "MCP-Tool meldete einen Fehler (leer)"
  pure (.object [("content", .string text)])

/-! ## Sessions -/

namespace McpSession

def spawn (config : McpConfig) : SessionProg McpSession :=
  match config.command with
  | none => throw "MCP ist nicht konfiguriert"
  | some command => do
      Fallible.attempt (fun e => s!"MCP-Server nicht startbar: {e}")
        (Prog.perform (SessionOp.spawn command))
      pure { nextId := 1, timeout := config.timeout }

/-- `next_id`, with the session after it. -/
def takeId (session : McpSession) : String × McpSession :=
  (toString session.nextId, { session with nextId := session.nextId + 1 })

/-- The end of the server: what `list_tools` and `call_tool` do after a success, and `drop` on
every way out. -/
def drop : SessionProg Unit := do
  ExceptT.lift (Prog.perform SessionOp.kill)
  ExceptT.lift (Prog.perform SessionOp.wait)

section Requests

variable (parse : String → Option Json) (numberText : JsonNumber → String)

/-- The loop of `request`, for so many lines. -/
def awaitAnswer (timeout : Nat) (wanted : String) :
    Nat → Prog SessionOp SessionOp.Reply (Except String Json)
  | 0 => .call .blocked Empty.elim
  | rounds + 1 => .call (.recvTimeout timeout) fun
      | none => .ret (.error "MCP-Antwort-Timeout oder stdout geschlossen")
      | some line =>
          match handleLine parse numberText wanted line with
          | none => awaitAnswer timeout wanted rounds
          | some result => .ret result

def request (rounds : Nat) (session : McpSession) (request : Json) : SessionProg Json := do
  Fallible.attempt (fun e => s!"MCP-request nicht schreibbar: {e}")
    (Prog.perform (SessionOp.writePayload request))
  Fallible.attempt (fun e => s!"MCP-request (newline) nicht schreibbar: {e}")
    (Prog.perform SessionOp.writeNewline)
  Fallible.attempt (fun e => s!"MCP-request (flush) fehlgeschlagen: {e}")
    (Prog.perform SessionOp.flush)
  ExceptT.mk (awaitAnswer parse numberText session.timeout (wantedId request) rounds)

/-- `McpSession::initialize`. -/
def initializeSession (rounds : Nat) (session : McpSession) : SessionProg McpSession := do
  let _response ← request parse numberText rounds session.takeId.2
    (initializeRequest session.takeId.1)
  pure session.takeId.2

/-- A request that the session numbers, and what `read` takes from its answer. -/
def ask {α : Type} (rounds : Nat) (session : McpSession) (toRequest : String → Json)
    (read : Json → Except String α) : SessionProg α := do
  let response ← request parse numberText rounds session.takeId.2 (toRequest session.takeId.1)
  ExceptT.mk (.ret (read response))

def listTools (rounds : Nat) (session : McpSession) : SessionProg (List McpTool) :=
  ask parse numberText rounds session toolsListRequest toolsOf

def callTool (rounds : Nat) (session : McpSession) (name : String) (arguments : Fields) :
    SessionProg Json :=
  ask parse numberText rounds session (toolsCallRequest name arguments) toolResult

end Requests

end McpSession

section Operations

variable (parse : String → Option Json) (numberText : JsonNumber → String) (rounds : Nat)
  (config : McpConfig)

/-- The frame of `list_tools` and `call_tool`: a session is ended once where a step of it fails,
and twice, at first by hand, where all succeed. -/
def inSession {α : Type} (body : McpSession → SessionProg α) : SessionProg α := do
  let session ← McpSession.spawn config
  let value ← Fallible.onError
    (do body (← McpSession.initializeSession parse numberText rounds session)) McpSession.drop
  McpSession.drop
  McpSession.drop
  pure value

def listTools : SessionProg (List McpTool) :=
  inSession parse numberText rounds config (McpSession.listTools parse numberText rounds)

def callTool (name : String) (arguments : Fields) : SessionProg Json :=
  if isAllowedToolName name then
    inSession parse numberText rounds config fun session =>
      McpSession.callTool parse numberText rounds session name arguments
  else throw s!"Tool '{name}' ist nicht freigegeben"

/-- The form in which a tool is offered. -/
def McpTool.definition (tool : McpTool) : Json :=
  .object [
    ("type", .string "function"),
    ("function", .object [
      ("name", .string tool.name),
      ("description", .string tool.description),
      ("parameters", .object [
        ("type", .string "object"),
        ("properties", .object []),
        ("required", .array (tool.required.map .string))])])]

def mcpToolDefinitions : Prog SessionOp SessionOp.Reply (List Json) :=
  (listTools parse numberText rounds config).run >>= fun
    | .error _ => .ret []
    | .ok tools =>
        .ret ((tools.filter fun tool => isAllowedToolName tool.name).map McpTool.definition)

end Operations

variable {parse : String → Option Json} {numberText : JsonNumber → String} {timeout rounds : Nat}
  {wanted : String} {trace : SessionTrace}

/-! ## Exchanges -/

/-- The calls that write a request whole. -/
def written (request : Json) : SessionTrace :=
  [⟨.writePayload request, .ok ()⟩, ⟨.writeNewline, .ok ()⟩, ⟨.flush, .ok ()⟩]

/-- The receives that bring these lines. -/
def received (timeout : Nat) (lines : List String) : SessionTrace :=
  lines.map fun line => ⟨.recvTimeout timeout, some line⟩

/-- The end of the server. -/
def ended : SessionTrace := [⟨.kill, ()⟩, ⟨.wait, ()⟩]

/-- What a request does, with what it returns, whatever the system replies. -/
inductive Exchange (parse : String → Option Json) (numberText : JsonNumber → String)
    (timeout : Nat) (request : Json) : SessionTrace → Except String Json → Prop where
  | payload (reason : String) :
      Exchange parse numberText timeout request [⟨.writePayload request, .error reason⟩]
        (.error s!"MCP-request nicht schreibbar: {reason}")
  | newline (reason : String) :
      Exchange parse numberText timeout request
        [⟨.writePayload request, .ok ()⟩, ⟨.writeNewline, .error reason⟩]
        (.error s!"MCP-request (newline) nicht schreibbar: {reason}")
  | flush (reason : String) :
      Exchange parse numberText timeout request
        [⟨.writePayload request, .ok ()⟩, ⟨.writeNewline, .ok ()⟩, ⟨.flush, .error reason⟩]
        (.error s!"MCP-request (flush) fehlgeschlagen: {reason}")
  | silent {ignored : List String}
      (passed : ∀ line ∈ ignored, ¬ Answers parse numberText (wantedId request) line) :
      Exchange parse numberText timeout request
        (written request ++ (received timeout ignored ++ [⟨.recvTimeout timeout, none⟩]))
        (.error "MCP-Antwort-Timeout oder stdout geschlossen")
  | answered {ignored : List String} {line : String} {result : Except String Json}
      (passed : ∀ line ∈ ignored, ¬ Answers parse numberText (wantedId request) line)
      (handled : handleLine parse numberText (wantedId request) line = some result) :
      Exchange parse numberText timeout request
        (written request ++ received timeout (ignored ++ [line])) result

/-- The line is an answer to the request of this ID that reports no error. -/
structure Accepts (parse : String → Option Json) (numberText : JsonNumber → String)
    (wanted line : String) (response : Json) : Prop where
  visible : trimStart (trimEnd line) ≠ ""
  parsed : parse (trimStart (trimEnd line)) = some response
  isMatch : isMatch numberText wanted response = true
  noError : response.get "error" = none

/-- What a request does that returns an answer: it is the first line with the ID of the request
that is received since this was written. -/
def Answered (parse : String → Option Json) (numberText : JsonNumber → String) (timeout : Nat)
    (request : Json) (trace : SessionTrace) (response : Json) : Prop :=
  ∃ ignored line, (∀ other ∈ ignored, ¬ Answers parse numberText (wantedId request) other) ∧
    Accepts parse numberText (wantedId request) line response ∧
    trace = written request ++ received timeout (ignored ++ [line])

theorem handleLine_eq_ok {raw : String} {response : Json} :
    handleLine parse numberText wanted raw = some (.ok response) ↔
      Accepts parse numberText wanted raw response := by
  unfold handleLine
  dsimp only
  constructor
  · intro handled
    by_cases empty : trimStart (trimEnd raw) = ""
    · rw [if_pos empty] at handled
      cases handled
    · rw [if_neg empty] at handled
      cases parsed : parse (trimStart (trimEnd raw)) with
      | none => simp [parsed] at handled
      | some msg =>
          rw [parsed] at handled
          by_cases same : isMatch numberText wanted msg = true
          · simp only [same, if_true, Option.some.injEq] at handled
            unfold answer at handled
            cases failed : msg.get "error" with
            | some err => simp [failed] at handled
            | none =>
                have isResponse : msg = response := by simpa [failed] using handled
                rw [isResponse] at parsed same failed
                exact ⟨empty, parsed, same, failed⟩
          · simp [same] at handled
  · intro accepts
    rw [if_neg accepts.visible, accepts.parsed]
    simp [accepts.isMatch, answer, accepts.noError]

/-- The loop passes over the lines that are not the answer, and ends with the one that is or
where no line comes. -/
theorem awaitAnswer_returns_iff {result : Except String Json} :
    Prog.Returns (McpSession.awaitAnswer parse numberText timeout wanted rounds) trace result ↔
      ∃ ignored, ignored.length < rounds ∧
        (∀ other ∈ ignored, ¬ Answers parse numberText wanted other) ∧
        ((trace = received timeout ignored ++ [⟨.recvTimeout timeout, none⟩] ∧
            result = .error "MCP-Antwort-Timeout oder stdout geschlossen") ∨
          ∃ line, handleLine parse numberText wanted line = some result ∧
            trace = received timeout (ignored ++ [line])) := by
  induction rounds generalizing trace with
  | zero =>
      constructor
      · intro returns
        obtain ⟨reply, _⟩ := Fallible.returns_call.mp returns
        exact reply.elim
      · intro some
        obtain ⟨_, short, _⟩ := some
        exact absurd short (Nat.not_lt_zero _)
  | succ rounds inductionHypothesis =>
      rw [McpSession.awaitAnswer, Fallible.returns_call]
      constructor
      · intro returns
        obtain ⟨reply, later, rfl, returns⟩ := returns
        cases reply with
        | none =>
            obtain ⟨rfl, rfl⟩ := Fallible.returns_ret.mp returns
            exact ⟨[], Nat.succ_pos _, by simp, .inl ⟨rfl, rfl⟩⟩
        | some line =>
            cases handled : handleLine parse numberText wanted line with
            | some reached =>
                simp only [handled] at returns
                obtain ⟨rfl, rfl⟩ := Fallible.returns_ret.mp returns
                exact ⟨[], Nat.succ_pos _, by simp, .inr ⟨line, handled, rfl⟩⟩
            | none =>
                simp only [handled] at returns
                obtain ⟨ignored, short, passed, ends⟩ := inductionHypothesis.mp returns
                have first := (handleLine_eq_none_iff parse numberText wanted line).mp handled
                refine ⟨line :: ignored, Nat.succ_lt_succ short,
                  List.forall_mem_cons.mpr ⟨first, passed⟩, ?_⟩
                rcases ends with ⟨rfl, rfl⟩ | ⟨last, answers, rfl⟩
                · exact .inl ⟨rfl, rfl⟩
                · exact .inr ⟨last, answers, rfl⟩
      · intro ends
        obtain ⟨ignored, short, passed, ends⟩ := ends
        cases ignored with
        | nil =>
            rcases ends with ⟨rfl, rfl⟩ | ⟨line, handled, rfl⟩
            · exact ⟨none, [], rfl, .ret _⟩
            · refine ⟨some line, [], rfl, ?_⟩
              simp only [handled]
              exact .ret _
        | cons line ignored =>
            obtain ⟨first, passed⟩ := List.forall_mem_cons.mp passed
            have handled := (handleLine_eq_none_iff parse numberText wanted line).mpr first
            have shorter := Nat.lt_of_succ_lt_succ short
            rcases ends with ⟨rfl, rfl⟩ | ⟨last, answers, rfl⟩
            · refine
                ⟨some line, received timeout ignored ++ [⟨.recvTimeout timeout, none⟩], rfl, ?_⟩
              simp only [handled]
              exact inductionHypothesis.mpr ⟨ignored, shorter, passed, .inl ⟨rfl, rfl⟩⟩
            · refine ⟨some line, received timeout (ignored ++ [last]), rfl, ?_⟩
              simp only [handled]
              exact inductionHypothesis.mpr ⟨ignored, shorter, passed, .inr ⟨last, answers, rfl⟩⟩

/-- The receive of a round, if each one before it has brought a line. -/
def receipt (timeout : Nat) (arrivals : Nat → Arrival) (work : Nat → Nat) (start round : Nat) :
    Event SessionOp SessionOp.Reply :=
  ⟨.recvTimeout timeout,
    (Mcp.recvTimeout timeout (roundStart arrivals work start round) (arrivals round)).line⟩

/-- The request over time receives what the loop does, and returns the same. -/
theorem requestAfter_awaitAnswer {arrivals : Nat → Arrival} {work : Nat → Nat} {start now : Nat}
    {result : Except String Json}
    (waits : requestAfter parse numberText timeout wanted arrivals work start (.ok ()) rounds =
      .waiting now)
    (returned : requestAfter parse numberText timeout wanted arrivals work start (.ok ())
      (rounds + 1) = .returned result) :
    Prog.Returns (McpSession.awaitAnswer parse numberText timeout wanted (rounds + 1))
      ((List.range (rounds + 1)).map (receipt timeout arrivals work start)) result := by
  obtain ⟨distracted, rfl⟩ := requestAfter_eq_waiting.mp waits
  have texts : ∀ rounds', rounds' ≤ rounds → ∃ ignored : List String, ignored.length = rounds' ∧
      (∀ other ∈ ignored, ¬ Answers parse numberText wanted other) ∧
      (List.range rounds').map (receipt timeout arrivals work start) =
        received timeout ignored := by
    intro rounds' early
    induction rounds' with
    | zero => exact ⟨[], rfl, List.forall_mem_nil _, rfl⟩
    | succ rounds' inductionHypothesis =>
        obtain ⟨ignored, short, passed, receipts⟩ := inductionHypothesis (Nat.le_of_succ_le early)
        obtain ⟨time, text, isLine, inTime, ignoredText⟩ := distracted rounds' early
        refine ⟨ignored ++ [text], by simp [short], ?_, ?_⟩
        · intro other member
          rcases List.mem_append.mp member with earlier | last
          · exact passed other earlier
          · rw [List.mem_singleton.mp last]
            exact ignoredText
        · rw [List.range_succ, List.map_append, receipts]
          simp [received, receipt, isLine, Mcp.recvTimeout, inTime]
  obtain ⟨ignored, short, passed, receipts⟩ := texts rounds (Nat.le_refl rounds)
  rw [List.range_succ, List.map_append, receipts]
  unfold requestAfter at returned
  rw [waits] at returned
  dsimp only [waitRound] at returned
  refine awaitAnswer_returns_iff.mpr ⟨ignored, by omega, passed, ?_⟩
  cases line : (Mcp.recvTimeout timeout (roundStart arrivals work start rounds)
      (arrivals rounds)).line with
  | none =>
      simp only [line, RequestState.returned.injEq] at returned
      exact .inl ⟨by simp [receipt, line], returned.symm⟩
  | some text =>
      simp only [line] at returned
      cases handled : handleLine parse numberText wanted text with
      | none => simp [handled] at returned
      | some reached =>
          simp only [handled, RequestState.returned.injEq] at returned
          refine .inr ⟨text, by rw [handled, returned], ?_⟩
          simp [received, receipt, line]

/-- What a request does is an exchange. -/
theorem request_exchange {session : McpSession} {request : Json} {result : Except String Json}
    (returns : Prog.Returns (session.request parse numberText rounds request).run trace result) :
    Exchange parse numberText session.timeout request trace result := by
  unfold McpSession.request at returns
  rcases (Fallible.returns_attempt_bind Fallible.returns_perform).mp returns with
    ⟨reason, rfl, rfl⟩ | ⟨_, afterPayload, rfl, toNewline⟩
  · exact .payload reason
  rcases (Fallible.returns_attempt_bind Fallible.returns_perform).mp toNewline with
    ⟨reason, rfl, rfl⟩ | ⟨_, afterNewline, rfl, toFlush⟩
  · exact .newline reason
  rcases (Fallible.returns_attempt_bind Fallible.returns_perform).mp toFlush with
    ⟨reason, rfl, rfl⟩ | ⟨_, afterFlush, rfl, toLoop⟩
  · exact .flush reason
  obtain ⟨ignored, _, passed, ends⟩ := awaitAnswer_returns_iff.mp toLoop
  rcases ends with ⟨rfl, rfl⟩ | ⟨line, handled, rfl⟩
  · exact .silent passed
  · exact .answered passed handled

/-- An exchange returns an answer exactly if the request is answered. -/
theorem exchange_ok_iff {request response : Json} :
    Exchange parse numberText timeout request trace (.ok response) ↔
      Answered parse numberText timeout request trace response := by
  constructor
  · intro exchange
    generalize isOk : (Except.ok response : Except String Json) = result at exchange
    cases exchange with
    | payload reason => cases isOk
    | newline reason => cases isOk
    | flush reason => cases isOk
    | silent passed => cases isOk
    | @answered ignored line result passed handled =>
        rw [← isOk] at handled
        exact ⟨ignored, line, passed, handleLine_eq_ok.mp handled, rfl⟩
  · intro answered
    obtain ⟨ignored, line, passed, accepts, rfl⟩ := answered
    exact .answered passed (handleLine_eq_ok.mpr accepts)

/-- A request that is answered returns the answer, if it waits for enough lines. -/
theorem Answered.request (session : McpSession) {request response : Json}
    (answered : Answered parse numberText session.timeout request trace response) :
    ∃ least, ∀ rounds, least ≤ rounds →
      Prog.Returns (session.request parse numberText rounds request).run trace (.ok response) := by
  obtain ⟨ignored, line, passed, accepts, rfl⟩ := answered
  refine ⟨ignored.length + 1, fun rounds enough => ?_⟩
  unfold McpSession.request
  apply (Fallible.returns_attempt_bind Fallible.returns_perform).mpr
  refine .inr ⟨(), _, rfl, ?_⟩
  apply (Fallible.returns_attempt_bind Fallible.returns_perform).mpr
  refine .inr ⟨(), _, rfl, ?_⟩
  apply (Fallible.returns_attempt_bind Fallible.returns_perform).mpr
  refine .inr ⟨(), _, rfl, ?_⟩
  apply awaitAnswer_returns_iff.mpr
  exact ⟨ignored, enough, passed, .inr ⟨line, handleLine_eq_ok.mpr accepts, rfl⟩⟩

/-! ## The frame of a session -/

/-- A session that has just started, and after the number of its first and second request. -/
def McpSession.started (config : McpConfig) : McpSession :=
  { nextId := 1, timeout := config.timeout }

def McpSession.greeted (config : McpConfig) : McpSession :=
  { nextId := 2, timeout := config.timeout }

def McpSession.asked (config : McpConfig) : McpSession :=
  { nextId := 3, timeout := config.timeout }

theorem takeId_started (config : McpConfig) :
    (McpSession.started config).takeId = ("1", McpSession.greeted config) :=
  Prod.ext (show toString 1 = "1" by decide) rfl

theorem takeId_greeted (config : McpConfig) :
    (McpSession.greeted config).takeId = ("2", McpSession.asked config) :=
  Prod.ext (show toString 2 = "2" by decide) rfl

theorem spawn_returns_iff {config : McpConfig} {result : Except String McpSession} :
    Prog.Returns (McpSession.spawn config).run trace result ↔
      (config.command = none ∧ trace = [] ∧ result = .error "MCP ist nicht konfiguriert") ∨
      ∃ command, config.command = some command ∧
        ((∃ reason, trace = [⟨.spawn command, .error reason⟩] ∧
            result = .error s!"MCP-Server nicht startbar: {reason}") ∨
          trace = [⟨.spawn command, .ok ()⟩] ∧ result = .ok (McpSession.started config)) := by
  unfold McpSession.spawn
  cases isSet : config.command with
  | none =>
      constructor
      · intro returns
        exact .inl ⟨rfl, Fallible.returns_ret.mp returns⟩
      · rintro (⟨_, ends⟩ | ⟨command, isSome, _⟩)
        · exact Fallible.returns_ret.mpr ends
        · cases isSome
  | some command =>
      simp only [Option.some.injEq, exists_eq_left', reduceCtorEq, false_and, false_or]
      rw [Fallible.returns_attempt_bind Fallible.returns_perform]
      refine or_congr_right ⟨?_, ?_⟩
      · rintro ⟨_, later, rfl, returns⟩
        obtain ⟨rfl, rfl⟩ := Fallible.returns_ret.mp returns
        exact ⟨rfl, rfl⟩
      · rintro ⟨rfl, rfl⟩
        exact ⟨(), [], rfl, .ret _⟩

theorem drop_returns_iff {result : Except String Unit} :
    Prog.Returns McpSession.drop.run trace result ↔ trace = ended ∧ result = .ok () := by
  constructor
  · intro returns
    obtain ⟨_, later, rfl, returnsWait⟩ := Fallible.returns_call.mp returns
    obtain ⟨_, last, rfl, returnsEnd⟩ := Fallible.returns_call.mp returnsWait
    obtain ⟨rfl, rfl⟩ := Fallible.returns_ret.mp returnsEnd
    exact ⟨rfl, rfl⟩
  · rintro ⟨rfl, rfl⟩
    refine Fallible.returns_call.mpr ⟨(), [⟨.wait, ()⟩], rfl, ?_⟩
    exact Fallible.returns_call.mpr ⟨(), [], rfl, .ret _⟩

theorem drop_bind_returns_iff {α : Type} {rest : SessionProg α} {result : Except String α} :
    Prog.Returns (McpSession.drop >>= fun _ => rest).run trace result ↔
      ∃ later, trace = ended ++ later ∧ Prog.Returns rest.run later result := by
  rw [Fallible.returns_bind]
  constructor
  · rintro (⟨_, drops, _⟩ | ⟨_, later, _, rfl, drops, returns⟩)
    · cases (drop_returns_iff.mp drops).2
    · rw [(drop_returns_iff.mp drops).1]
      exact ⟨later, rfl, returns⟩
  · rintro ⟨later, rfl, returns⟩
    exact .inr ⟨ended, later, (), rfl, drop_returns_iff.mpr ⟨rfl, rfl⟩, returns⟩

/-- The requests of a session one after the other: the next one is written when the one before it
has been answered. -/
inductive Conversation (parse : String → Option Json) (numberText : JsonNumber → String)
    (timeout : Nat) : List Json → SessionTrace → Prop where
  | done : Conversation parse numberText timeout [] []
  | stopped {request : Json} {rest : List Json} {trace : SessionTrace} {reason : String}
      (exchange : Exchange parse numberText timeout request trace (.error reason)) :
      Conversation parse numberText timeout (request :: rest) trace
  | answered {request response : Json} {rest : List Json} {first later : SessionTrace}
      (answered : Answered parse numberText timeout request first response)
      (further : Conversation parse numberText timeout rest later) :
      Conversation parse numberText timeout (request :: rest) (first ++ later)

section Frame

variable {α : Type} {config : McpConfig} {toRequest : String → Json}
  {read : Json → Except String α}

/-- The two requests of a session. -/
def requestsOf (toRequest : String → Json) : List Json := [initializeRequest "1", toRequest "2"]

/-- What happens between the start and the end of the server. -/
def talk (parse : String → Option Json) (numberText : JsonNumber → String) (rounds : Nat)
    (config : McpConfig) (toRequest : String → Json) (read : Json → Except String α) :
    SessionProg α := do
  McpSession.ask parse numberText rounds
    (← McpSession.initializeSession parse numberText rounds (McpSession.started config))
    toRequest read

theorem ask_returns_iff {session : McpSession} {result : Except String α} :
    Prog.Returns (session.ask parse numberText rounds toRequest read).run trace result ↔
      ∃ reached, Prog.Returns (session.takeId.2.request parse numberText rounds
          (toRequest session.takeId.1)).run trace reached ∧ result = reached >>= read := by
  unfold McpSession.ask
  rw [Fallible.returns_bind]
  constructor
  · rintro (⟨error, returns, rfl⟩ | ⟨first, second, response, rfl, returns, ends⟩)
    · exact ⟨.error error, returns, rfl⟩
    · obtain ⟨rfl, rfl⟩ := Fallible.returns_ret.mp ends
      rw [List.append_nil]
      exact ⟨.ok response, returns, rfl⟩
  · rintro ⟨error | response, returns, rfl⟩
    · exact .inl ⟨error, returns, rfl⟩
    · exact .inr ⟨trace, [], response, (List.append_nil trace).symm, returns, .ret _⟩

theorem initializeSession_returns_iff {result : Except String McpSession} :
    Prog.Returns (McpSession.initializeSession parse numberText rounds
        (McpSession.started config)).run trace result ↔
      ∃ reached, Prog.Returns ((McpSession.greeted config).request parse numberText rounds
          (initializeRequest "1")).run trace reached ∧
        result = reached.map fun _ => McpSession.greeted config := by
  unfold McpSession.initializeSession
  rw [takeId_started]
  exact Fallible.returns_map

/-- The talk of a session with what it returns: an answer that `read` accepts, or an error. -/
theorem talk_run {result : Except String α}
    (returns : Prog.Returns (talk parse numberText rounds config toRequest read).run trace result) :
    Conversation parse numberText config.timeout (requestsOf toRequest) trace ∧
      ∀ value, result = .ok value → ∃ first second welcome response,
        Answered parse numberText config.timeout (initializeRequest "1") first welcome ∧
        Answered parse numberText config.timeout (toRequest "2") second response ∧
        read response = .ok value ∧ trace = first ++ second := by
  unfold talk at returns
  rcases Fallible.returns_bind.mp returns with
    ⟨error, starts, rfl⟩ | ⟨first, second, session, rfl, starts, asks⟩
  · obtain ⟨reached, exchanged, failed⟩ := initializeSession_returns_iff.mp starts
    cases reached with
    | ok response => cases failed
    | error reason =>
        refine ⟨.stopped (request_exchange exchanged), ?_⟩
        intro value succeeded
        cases succeeded
  · obtain ⟨reached, exchanged, succeeded⟩ := initializeSession_returns_iff.mp starts
    cases reached with
    | error reason => cases succeeded
    | ok welcome =>
        obtain rfl := Except.ok.inj succeeded
        have greeted := exchange_ok_iff.mp (request_exchange exchanged)
        obtain ⟨reached, asked, rfl⟩ := ask_returns_iff.mp asks
        rw [takeId_greeted] at asked
        have exchange := request_exchange asked
        cases reached with
        | error reason =>
            refine ⟨.answered greeted (.stopped exchange), ?_⟩
            intro value succeeded
            cases succeeded
        | ok response =>
            have replied := exchange_ok_iff.mp exchange
            have whole := Conversation.answered greeted (.answered replied .done)
            rw [List.append_nil] at whole
            refine ⟨whole, ?_⟩
            intro value succeeded
            exact ⟨first, second, welcome, response, greeted, replied, succeeded, rfl⟩

/-- A talk whose requests are both answered returns what `read` takes from the second answer. -/
theorem talk_returns {first second : SessionTrace} {welcome response : Json} {value : α}
    (greeted : Answered parse numberText config.timeout (initializeRequest "1") first welcome)
    (replied : Answered parse numberText config.timeout (toRequest "2") second response)
    (accepted : read response = .ok value) :
    ∃ rounds, Prog.Returns (talk parse numberText rounds config toRequest read).run
      (first ++ second) (.ok value) := by
  obtain ⟨least, starts⟩ := Answered.request (McpSession.greeted config) greeted
  obtain ⟨fewest, asks⟩ := Answered.request (McpSession.asked config) replied
  refine ⟨max least fewest, ?_⟩
  have initialized := initializeSession_returns_iff.mpr
    ⟨_, starts _ (Nat.le_max_left least fewest), rfl⟩
  refine Fallible.returns_bind.mpr (.inr ⟨first, second, _, rfl, initialized, ?_⟩)
  refine ask_returns_iff.mpr ⟨.ok response, ?_, accepted.symm⟩
  rw [takeId_greeted]
  exact asks _ (Nat.le_max_right least fewest)

/-- A session fails to start, or talks and is then ended: once after a failure, twice after a
success. -/
theorem inSession_returns_iff {result : Except String α} :
    Prog.Returns (inSession parse numberText rounds config fun session =>
        McpSession.ask parse numberText rounds session toRequest read).run trace result ↔
      (∃ reason, Prog.Returns (McpSession.spawn config).run trace (.error reason) ∧
        result = .error reason) ∨
      ∃ command talked, config.command = some command ∧
        ((∃ reason, result = .error reason ∧
            Prog.Returns (talk parse numberText rounds config toRequest read).run talked
              (.error reason) ∧
            trace = ⟨.spawn command, .ok ()⟩ :: (talked ++ ended)) ∨
          ∃ value, result = .ok value ∧
            Prog.Returns (talk parse numberText rounds config toRequest read).run talked
              (.ok value) ∧
            trace = ⟨.spawn command, .ok ()⟩ :: (talked ++ (ended ++ ended))) := by
  unfold inSession
  rw [Fallible.returns_bind]
  constructor
  · rintro (⟨reason, fails, rfl⟩ | ⟨first, second, session, rfl, starts, returns⟩)
    · exact .inl ⟨reason, fails, rfl⟩
    · rcases spawn_returns_iff.mp starts with ⟨_, _, failed⟩ | ⟨command, isSet, ends⟩
      · cases failed
      · rcases ends with ⟨_, _, failed⟩ | ⟨rfl, succeeded⟩
        · cases failed
        obtain rfl := Except.ok.inj succeeded
        refine .inr ⟨command, ?_⟩
        rcases Fallible.returns_bind.mp returns with
          ⟨reason, fails, rfl⟩ | ⟨talked, closing, value, rfl, talks, closes⟩
        · rcases Fallible.returns_onError.mp fails with
            ⟨_, _, succeeded⟩ | ⟨talked, closing, _, _, rfl, talks, drops, failed⟩
          · cases succeeded
          · cases failed
            obtain ⟨rfl, _⟩ := drop_returns_iff.mp drops
            exact ⟨talked, isSet, .inl ⟨reason, rfl, talks, rfl⟩⟩
        · rcases Fallible.returns_onError.mp talks with
            ⟨_, talks, succeeded⟩ | ⟨_, _, _, _, _, _, _, failed⟩
          · cases succeeded
            refine ⟨talked, isSet, .inr ⟨value, ?_⟩⟩
            obtain ⟨further, rfl, closesAgain⟩ := drop_bind_returns_iff.mp closes
            obtain ⟨last, rfl, ends⟩ := drop_bind_returns_iff.mp closesAgain
            obtain ⟨rfl, rfl⟩ := Fallible.returns_ret.mp ends
            exact ⟨rfl, talks, by simp⟩
          · cases failed
  · rintro (⟨reason, fails, rfl⟩ | ⟨command, talked, isSet, ends⟩)
    · exact .inl ⟨reason, fails, rfl⟩
    · have starts : Prog.Returns (McpSession.spawn config).run [⟨.spawn command, .ok ()⟩]
          (.ok (McpSession.started config)) :=
        spawn_returns_iff.mpr (.inr ⟨command, isSet, .inr ⟨rfl, rfl⟩⟩)
      have drops : Prog.Returns McpSession.drop.run ended (.ok ()) :=
        drop_returns_iff.mpr ⟨rfl, rfl⟩
      rcases ends with ⟨reason, rfl, talks, rfl⟩ | ⟨value, rfl, talks, rfl⟩
      · refine .inr ⟨_, _, _, rfl, starts, ?_⟩
        refine Fallible.returns_bind.mpr (.inl ⟨reason, ?_, rfl⟩)
        exact Fallible.returns_onError.mpr (.inr ⟨_, _, reason, _, rfl, talks, drops, rfl⟩)
      · refine .inr ⟨_, _, _, rfl, starts, ?_⟩
        refine Fallible.returns_bind.mpr (.inr ⟨talked, ended ++ ended, value, rfl, ?_, ?_⟩)
        · exact Fallible.returns_onError.mpr (.inl ⟨value, talks, rfl⟩)
        · refine drop_bind_returns_iff.mpr ⟨ended, rfl, ?_⟩
          exact drop_bind_returns_iff.mpr ⟨[], rfl, .ret _⟩

end Frame

/-! ## Results -/

section Results

variable {α : Type} {config : McpConfig} {toRequest : String → Json}
  {read : Json → Except String α}

/-- A session succeeds exactly if its server starts and answers both requests, the second in a
form that is read. -/
theorem inSession_ok_iff {value : α} :
    (∃ rounds, Prog.Returns (inSession parse numberText rounds config fun session =>
        McpSession.ask parse numberText rounds session toRequest read).run trace (.ok value)) ↔
      ∃ command first second welcome response, config.command = some command ∧
        Answered parse numberText config.timeout (initializeRequest "1") first welcome ∧
        Answered parse numberText config.timeout (toRequest "2") second response ∧
        read response = .ok value ∧
        trace = ⟨.spawn command, .ok ()⟩ :: (first ++ second ++ (ended ++ ended)) := by
  constructor
  · intro returns
    obtain ⟨rounds, returns⟩ := returns
    rcases inSession_returns_iff.mp returns with
      ⟨_, _, failed⟩ | ⟨command, talked, isSet, ⟨_, failed, _⟩ | ⟨_, succeeded, talks, rfl⟩⟩
    · cases failed
    · cases failed
    · obtain rfl := Except.ok.inj succeeded
      obtain ⟨first, second, welcome, response, greeted, replied, accepted, rfl⟩ :=
        (talk_run talks).2 value rfl
      exact ⟨command, first, second, welcome, response, isSet, greeted, replied, accepted, rfl⟩
  · intro answered
    obtain ⟨command, first, second, welcome, response, isSet, greeted, replied, accepted, rfl⟩ :=
      answered
    obtain ⟨rounds, talks⟩ := talk_returns greeted replied accepted
    exact ⟨rounds, inSession_returns_iff.mpr
      (.inr ⟨command, first ++ second, isSet, .inr ⟨value, rfl, talks, rfl⟩⟩)⟩

end Results

end TriAI.Mcp
