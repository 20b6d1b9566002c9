import TriAI.Chat.ToolLimit

/-!
Contract: the messages that a round of tools adds (`append_tool_results`).

Owns: the messages that answer the calls of a response, and exactly when the body that is sent
after a round has grown by them.

Does not own: which tools a batch runs, and the number of rounds.

`append_tool_results` writes one name into every message. It was written for the one tool of the
attachments, before `execute_tool_calls` had others.
-/

set_option autoImplicit false

namespace TriAI.Chat

open TriAI.Library
open TriAI.Library.Interaction

/-! ## Messages for calls -/

/-- The content with which a tool has answered. -/
def toolContent : Event ChatOp ChatOp.Reply → Option String
  | ⟨.readAttachment .., .ok content⟩ | ⟨.execute .., .ok content⟩ => some content
  | _ => none

@[simp] theorem toolContent_event (tool : PlannedTool) (content : String) :
    toolContent (PlannedTool.event tool (.ok content)) = some content := by
  cases tool <;> rfl

/-- The message that answers a call. -/
def callMessage (call : ToolCall) (content : String) : Json :=
  .object [
    ("role", .string "tool"),
    ("tool_call_id", .string call.callId),
    ("name", .string call.name),
    ("content", .string content)]

/-- One message for each call, in their order, with the identifier and the name of the call and
with what its tool has answered. -/
inductive AnswersCalls (parse : String → Except String Json) :
    List Json → List (Event ChatOp ChatOp.Reply) → List Json → Prop where
  | nil : AnswersCalls parse [] [] []
  | cons {value : Json} {rest : List Json} {call : ToolCall} {event : Event ChatOp ChatOp.Reply}
      {tools : List (Event ChatOp ChatOp.Reply)} {content : String} {messages : List Json}
      (reads : readToolCall parse value = .ok call) (answered : toolContent event = some content)
      (others : AnswersCalls parse rest tools messages) :
      AnswersCalls parse (value :: rest) (event :: tools) (callMessage call content :: messages)

/-- The messages of a body have grown by the message of a response and the answers to its
calls. -/
def GrowsByRound (parse : String → Except String Json) (body worker : Json)
    (tools : List (Event ChatOp ChatOp.Reply)) (next : Json) : Prop :=
  ∃ message answers, assistantMessage worker = some message ∧
    messagesOf next = messagesOf body ++ message :: answers ∧
    AnswersCalls parse (toolCallsOf worker) tools answers

/-- Every call of a list that is read is one of `read_attachment`. -/
def OnlyAttachments (parse : String → Except String Json) (calls : List Json) : Prop :=
  ∀ value ∈ calls, ∀ call, readToolCall parse value = .ok call → call.name = "read_attachment"

variable {parse : String → Except String Json} {model : String}
  {attachmentIndex : Option AttachmentIndex} {trace tools : List (Event ChatOp ChatOp.Reply)}

theorem toolMessage_eq_iff (call : ToolCall) (content : String) :
    toolMessage { callId := call.callId, content } = callMessage call content ↔
      call.name = "read_attachment" := by
  unfold toolMessage callMessage
  simp [eq_comm]

theorem planCall_eq_ok {value : Json} {callId : String} {tool : PlannedTool}
    (plan : planCall parse attachmentIndex value = .ok (callId, tool)) :
    ∃ call, readToolCall parse value = .ok call ∧ call.callId = callId := by
  unfold planCall at plan
  split at plan
  · cases plan
  · rename_i call reads
    cases planned : planTool attachmentIndex call with
    | error message =>
        rw [planned] at plan
        cases plan
    | ok other =>
        rw [planned] at plan
        exact ⟨call, reads, congrArg Prod.fst (Except.ok.inj plan)⟩

/-- The messages of a batch are those for its calls exactly if all call the one tool. -/
theorem BatchRun.answersCalls_iff {calls : List Json} {results : List ToolResult}
    (run : BatchRun parse attachmentIndex calls trace (.ok results)) :
    AnswersCalls parse calls trace (results.map toolMessage) ↔ OnlyAttachments parse calls := by
  generalize succeeds : (Except.ok results : Except String (List ToolResult)) = result at run
  induction run generalizing results with
  | done =>
      cases succeeds
      exact ⟨fun _ => List.forall_mem_nil _, fun _ => .nil⟩
  | refused => cases succeeds
  | failed => cases succeeds
  | @ran value rest callId content tool trace result plan others inductionHypothesis =>
      cases result with
      | error message => cases succeeds
      | ok later =>
          obtain rfl := Except.ok.inj succeeds
          obtain ⟨call, reads, rfl⟩ := planCall_eq_ok plan
          have laterIff := inductionHypothesis rfl
          unfold OnlyAttachments at laterIff ⊢
          rw [List.forall_mem_cons, ← laterIff, List.map_cons]
          constructor
          · intro answers
            generalize same : toolMessage { callId := call.callId, content } = message at answers
            cases answers with
            | cons readsAgain answered otherAnswers =>
                obtain rfl := Except.ok.inj (reads.symm.trans readsAgain)
                obtain rfl := Option.some.inj ((toolContent_event tool content).symm.trans answered)
                refine ⟨?_, otherAnswers⟩
                intro other readsOther
                obtain rfl := Except.ok.inj (reads.symm.trans readsOther)
                exact (toolMessage_eq_iff call content).mp same
          · intro named
            rw [(toolMessage_eq_iff call content).mpr (named.1 call reads)]
            exact .cons reads (toolContent_event tool content) named.2

theorem messagesOf_appendToolResults {body message appended : Json} {results : List ToolResult}
    (appends : appendToolResults body message results = .ok appended) :
    messagesOf appended = messagesOf body ++ message :: results.map toolMessage := by
  unfold appendToolResults at appends
  split at appends
  · cases appends
  · rename_i object isObject
    split at appends
    · cases appends
    · rename_i messages isMessages
      have before : messagesOf body = messages := by
        simp [messagesOf, Json.get, isObject, isMessages]
      rw [← Except.ok.inj appends, before]
      simp [messagesOf, Json.asArray]

/-- The step: one round grows the messages as it should exactly if only attachments are read. -/
theorem HandsOn.grows_iff {body worker nextBody : Json}
    (hands : HandsOn parse model attachmentIndex body (.ok worker) tools nextBody) :
    GrowsByRound parse body worker tools nextBody ↔
      OnlyAttachments parse (toolCallsOf worker) := by
  obtain ⟨_, normalized, message, results, same, normalizes, run, _, found, appends⟩ := hands
  obtain rfl := Except.ok.inj same
  have sameCalls : toolCallsOf normalized = toolCallsOf worker := by
    unfold toolCallsOf
    rw [pointer_normalizeChatResponse normalizes]
  have sameMessage : assistantMessage worker = some message := by
    rw [← found]
    unfold assistantMessage
    rw [pointer_normalizeChatResponse normalizes]
  have grown := messagesOf_appendToolResults appends
  rw [sameCalls] at run
  rw [← run.answersCalls_iff]
  constructor
  · rintro ⟨other, answers, foundOther, grownOther, answersCalls⟩
    rw [grown] at grownOther
    have tails := (List.cons.inj (List.append_cancel_left grownOther)).2
    rwa [← tails] at answersCalls
  · intro answersCalls
    exact ⟨message, _, sameMessage, grown, answersCalls⟩

/-! ## Runs -/

/-- What follows a batch begins where its tools end. -/
private theorem tools_append_eq {later before rest : List (Event ChatOp ChatOp.Reply)}
    {event : Event ChatOp ChatOp.Reply} (areTools : ∀ event ∈ tools, event.op.tool.isSome)
    (noTool : event.op.tool.isSome = false) (same : tools ++ later = before ++ event :: rest) :
    ∃ front, before = tools ++ front ∧ later = front ++ event :: rest := by
  rcases List.append_eq_append_iff.mp same with ⟨front, isBefore, isLater⟩ | ⟨front, isTools, isRest⟩
  · exact ⟨front, isBefore, isLater⟩
  · cases front with
    | nil => exact ⟨[], by simpa using isTools.symm, by simpa using isRest.symm⟩
    | cons first front =>
        have isFirst : event = first := (List.cons.inj isRest).1
        have isTool := areTools first (by simp [isTools])
        rw [← isFirst, noTool] at isTool
        cases isTool

/-- The run: between an answer and the next request to the worker lies one round. -/
theorem chatRounds_handsOn {further : Nat} {body sent nextBody : Json} {usage : Option Usage}
    {result answer nextAnswer : Except ApiError Json}
    {before after : List (Event ChatOp ChatOp.Reply)}
    (returns : Prog.Returns
      (chatRounds parse model attachmentIndex further body usage).run trace result)
    (isSplit : trace = before ++ ⟨.proxyActiveWorkerJson sent, answer⟩ ::
      (tools ++ ⟨.proxyActiveWorkerJson nextBody, nextAnswer⟩ :: after))
    (areTools : ∀ event ∈ tools, event.op.tool.isSome) :
    HandsOn parse model attachmentIndex sent answer tools nextBody := by
  induction further using Nat.strong_induction_on generalizing trace body usage result before with
  | _ further inductionHypothesis =>
      obtain ⟨first, roundTools, later, rfl, roundAreTools, _, ends⟩ := chatRounds_split returns
      cases before with
      | nil =>
          obtain ⟨sameEvent, sameRest⟩ := List.cons.inj isSplit
          cases sameEvent
          obtain ⟨front, rfl, rfl⟩ := tools_append_eq roundAreTools rfl sameRest
          rcases ends with ended | ⟨fewer, handedBody, _, _, _, hands, returnsNext⟩
          · simp at ended
          · obtain ⟨_, _, _, isNext, _⟩ := chatRounds_split returnsNext
            cases front with
            | nil =>
                cases (List.cons.inj isNext).1
                rwa [List.append_nil]
            | cons event front =>
                have isTool := areTools event (by simp)
                rw [(List.cons.inj isNext).1] at isTool
                cases isTool
      | cons event before =>
          obtain ⟨_, sameRest⟩ := List.cons.inj isSplit
          obtain ⟨front, rfl, rfl⟩ := tools_append_eq roundAreTools rfl sameRest
          rcases ends with ended | ⟨fewer, _, _, _, isSucc, _, returnsNext⟩
          · simp at ended
          · exact inductionHypothesis fewer (by omega) returnsNext rfl

/-- In every run of a chat, the messages of a body that is sent after a round have grown by the
message of the response and one answer for each of its calls, in order and under the name of the
tool, exactly if the response calls no tool but `read_attachment`. -/
theorem runChatCompletionWithTools_grows_iff (parse : String → Except String Json) (model : String)
    (workerBody : Json) (attachmentIndex : Option AttachmentIndex)
    {trace before tools after : List (Event ChatOp ChatOp.Reply)} {result : Except ApiError Json}
    {sent worker nextBody : Json} {nextAnswer : Except ApiError Json}
    (returns : Prog.Returns
      (runChatCompletionWithTools parse model workerBody attachmentIndex).run trace result)
    (isSplit : trace = before ++ ⟨.proxyActiveWorkerJson sent, .ok worker⟩ ::
      (tools ++ ⟨.proxyActiveWorkerJson nextBody, nextAnswer⟩ :: after))
    (areTools : ∀ event ∈ tools, event.op.tool.isSome) :
    GrowsByRound parse sent worker tools nextBody ↔
      OnlyAttachments parse (toolCallsOf worker) :=
  (chatRounds_handsOn returns isSplit areTools).grows_iff

/-! ## Two responses -/

/-- The run of a chat whose worker answers first with one call. -/
def oneCallTrace (index : AttachmentIndex) (call : Json) : List (Event ChatOp ChatOp.Reply) :=
  (runChatCompletionWithTools (fun _ => .error "kein JSON") "m" (sampleBody [])
    (some index)).run.traceWith (chatHandler (batchResponse [call])) false

/-- An index with one attachment, whose text is a single chunk. -/
def notesIndex : AttachmentIndex where
  attachments := [{ id := "notes", name := "notes.md", mediaType := none, text := "alpha" }]
  chunks := [{ attachmentId := "notes", chunkIndex := 0, text := "alpha" }]

/-- A call that reads an attachment is answered under its name. -/
theorem readCall_grows_iff :
    ∃ nextBody nextAnswer,
      oneCallTrace notesIndex (callOf "read_attachment" [("id", .string "notes")]) =
        [⟨.proxyActiveWorkerJson (sampleBody []),
            .ok (batchResponse [callOf "read_attachment" [("id", .string "notes")]])⟩,
          ⟨.readAttachment notesIndex "notes" none, .ok "alpha"⟩,
          ⟨.proxyActiveWorkerJson nextBody, nextAnswer⟩] ∧
      (GrowsByRound (fun _ => .error "kein JSON") (sampleBody [])
          (batchResponse [callOf "read_attachment" [("id", .string "notes")]])
          [⟨.readAttachment notesIndex "notes" none, .ok "alpha"⟩] nextBody ↔
        OnlyAttachments (fun _ => .error "kein JSON")
          (toolCallsOf (batchResponse [callOf "read_attachment" [("id", .string "notes")]]))) := by
  have returns := Prog.Returns.of_traceWith
    (chatHandler (batchResponse [callOf "read_attachment" [("id", .string "notes")]]))
    (runChatCompletionWithTools (fun _ => .error "kein JSON") "m" (sampleBody [])
      (some notesIndex)).run false
  have runs : ∃ nextBody nextAnswer,
      oneCallTrace notesIndex (callOf "read_attachment" [("id", .string "notes")]) =
        [] ++ ⟨.proxyActiveWorkerJson (sampleBody []),
            .ok (batchResponse [callOf "read_attachment" [("id", .string "notes")]])⟩ ::
          ([⟨.readAttachment notesIndex "notes" none, .ok "alpha"⟩] ++
            ⟨.proxyActiveWorkerJson nextBody, nextAnswer⟩ :: []) := ⟨_, _, rfl⟩
  obtain ⟨nextBody, nextAnswer, isSplit⟩ := runs
  refine ⟨nextBody, nextAnswer, isSplit, ?_⟩
  exact runChatCompletionWithTools_grows_iff _ _ _ _ returns isSplit (by simp [ChatOp.tool])

/-- A call of another tool is answered under the name of `read_attachment`. -/
theorem gitStatusCall_misnamed :
    ∃ nextBody nextAnswer,
      oneCallTrace notesIndex (callOf "git_status" []) =
        [⟨.proxyActiveWorkerJson (sampleBody []), .ok (batchResponse [callOf "git_status" []])⟩,
          ⟨.execute "git_status" [], .ok "{}"⟩,
          ⟨.proxyActiveWorkerJson nextBody, nextAnswer⟩] ∧
      (messagesOf nextBody).getLast? = some (.object [
        ("role", .string "tool"), ("tool_call_id", .string "call_1"),
        ("name", .string "read_attachment"), ("content", .string "{}")]) ∧
      ¬ GrowsByRound (fun _ => .error "kein JSON") (sampleBody [])
          (batchResponse [callOf "git_status" []]) [⟨.execute "git_status" [], .ok "{}"⟩]
          nextBody := by
  have returns := Prog.Returns.of_traceWith (chatHandler (batchResponse [callOf "git_status" []]))
    (runChatCompletionWithTools (fun _ => .error "kein JSON") "m" (sampleBody [])
      (some notesIndex)).run false
  have runs : ∃ nextBody nextAnswer,
      oneCallTrace notesIndex (callOf "git_status" []) =
        [] ++ ⟨.proxyActiveWorkerJson (sampleBody []),
            .ok (batchResponse [callOf "git_status" []])⟩ ::
          ([⟨.execute "git_status" [], .ok "{}"⟩] ++
            ⟨.proxyActiveWorkerJson nextBody, nextAnswer⟩ :: []) ∧
      (messagesOf nextBody).getLast? = some (.object [
        ("role", .string "tool"), ("tool_call_id", .string "call_1"),
        ("name", .string "read_attachment"), ("content", .string "{}")]) := ⟨_, _, rfl, rfl⟩
  obtain ⟨nextBody, nextAnswer, isSplit, misnamed⟩ := runs
  refine ⟨nextBody, nextAnswer, isSplit, misnamed, ?_⟩
  have hands := chatRounds_handsOn returns isSplit (by simp [ChatOp.tool])
  rw [hands.grows_iff]
  intro only
  have named := only (callOf "git_status" []) (List.mem_singleton.mpr rfl) _ rfl
  revert named
  decide

end TriAI.Chat
