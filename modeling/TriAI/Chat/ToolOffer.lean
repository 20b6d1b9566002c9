import TriAI.Chat.OutputLimit

/-!
Contract: which tools a chat request runs.

Owns: the tool a call runs; the answers that call offered tools only; and, for runs with
such answers, that every tool that is run was offered.

Does not own: the effect of a tool.
-/

set_option autoImplicit false

namespace TriAI.Chat

open TriAI.Library
open TriAI.Library.Interaction

/-- The tool a call runs. -/
def ChatOp.tool : ChatOp → Option String
  | .readAttachment .. => some "read_attachment"
  | .execute name _ => some name
  | .proxyActiveWorkerJson _ | .streamActiveWorkerResponse _ => none

/-- A tool call that is not refused by its name. -/
def Runnable (attachmentIndex : Option AttachmentIndex) (call : ToolCall) : Prop :=
  (call.name = "read_attachment" ∧ attachmentIndex.isSome) ∨
    (call.name ≠ "read_attachment" ∧ isAllowedToolName call.name)

/-- An answer whose every tool call that can be run is of an offered tool. -/
def CallsOffered (parse : String → Except String Json) (request : ChatRequest) (response : Json) :
    Prop :=
  ∀ value ∈ toolCallsOf response, ∀ call, readToolCall parse value = .ok call →
    Runnable request.attachmentIndex call → call.name ∈ offeredTools request.workerBody

/-- The worker answers with offered tools. -/
def AnswersOffered (parse : String → Except String Json) (request : ChatRequest) :
    (op : ChatOp) → op.Reply → Prop
  | .proxyActiveWorkerJson _, reply =>
      ∀ response, reply = .ok response → CallsOffered parse request response
  | .streamActiveWorkerResponse _, _ | .readAttachment .., _ | .execute .., _ => True

/-! ## The offer -/

/-- A request with attachments has at least one. -/
theorem readAttachments_length {before attachments : List Attachment} {values : List Json}
    (reads : readAttachments before values = .ok attachments) :
    attachments.length = before.length + values.length := by
  induction values generalizing before with
  | nil =>
      rw [← Except.ok.inj reads]
      rfl
  | cons value rest inductionHypothesis =>
      obtain ⟨attachment, _, reads⟩ := bind_eq_ok.mp reads
      have later := inductionHypothesis reads
      simp only [List.length_append, List.length_cons, List.length_nil] at later ⊢
      omega

theorem isEmpty_fromOpenaiRequest {raw : Json} {index : AttachmentIndex}
    (indexed : AttachmentIndex.fromOpenaiRequest raw = .ok (some index)) :
    index.isEmpty = false := by
  unfold AttachmentIndex.fromOpenaiRequest at indexed
  split at indexed
  · simp at indexed
  · split at indexed
    · simp at indexed
    · simp at indexed
    · rename_i values notEmpty _
      split at indexed
      · simp at indexed
      · obtain ⟨attachments, reads, same⟩ := bind_eq_ok.mp indexed
        have length := readAttachments_length reads
        obtain rfl := Option.some.inj (Except.ok.inj same)
        have nonempty : values ≠ [] := by
          rintro rfl
          exact notEmpty rfl
        have positive := List.length_pos_iff.mpr nonempty
        cases attachments with
        | nil =>
            simp only [List.length_nil] at length
            omega
        | cons first rest => rfl

/-- Attachments offer `read_attachment` alone. -/
theorem offeredTools_attach {body attached : Json} {index : AttachmentIndex}
    (nonempty : index.isEmpty = false)
    (attaches : attachToWorkerChatBody body index = .ok attached) :
    offeredTools attached = ["read_attachment"] := by
  unfold attachToWorkerChatBody at attaches
  rw [nonempty] at attaches
  simp only [Bool.false_eq_true, if_false] at attaches
  split at attaches
  · simp at attaches
  · split at attaches
    · simp at attaches
    · rw [← Except.ok.inj attaches, offeredTools, Json.get_object,
        Fields.lookup_orInsert_of_ne (by decide), Fields.lookup_insert_self]
      simp [Json.asArray, readAttachmentToolDefinition]

/-- What a request that is read offers. -/
theorem offeredTools_of_readChat {raw : Json} {request : ChatRequest}
    (reads : readChat raw = .ok request) :
    (request.attachmentIndex.isSome → offeredTools request.workerBody = ["read_attachment"]) ∧
      (request.attachmentIndex = none → toolsRequested raw = false →
        offeredTools request.workerBody = []) := by
  obtain ⟨model, stream, body, accepts, indexed, offers⟩ := offerTools_of_readChat reads
  constructor
  · intro isSome
    obtain ⟨index, isIndex⟩ := Option.isSome_iff_exists.mp isSome
    rw [isIndex] at indexed offers
    exact offeredTools_attach (isEmpty_fromOpenaiRequest indexed) offers
  · intro isNone notRequested
    rw [isNone] at offers
    simp only [offerTools, notRequested, Bool.false_eq_true, if_false] at offers
    obtain ⟨object, messages, prepared, accepted⟩ := accepted_of_chatWorkerBody accepts
    have same : body.get "tools" = raw.get "tools" := accepted.get_body (by decide) (by decide)
    rw [← Except.ok.inj offers, offeredTools, same]
    unfold toolsRequested at notRequested
    cases tools : (raw.get "tools").bind Json.asArray with
    | none => rfl
    | some items =>
        cases items with
        | nil => rfl
        | cons first rest => simp [tools] at notRequested

/-! ## Runs -/

/-- The contract of offered tools: a worker answers with offered tools, and every body
has the tools of the first. -/
def offeredCalls (parse : String → Except String Json) (request : ChatRequest) :
    Contract ChatOp ChatOp.Reply Unit where
  Admits := fun _ op =>
    (∀ name, op.tool = some name → name ∈ offeredTools request.workerBody) ∧
      ∀ sent, op.sentBody = some sent → sent.get "tools" = request.workerBody.get "tools"
  Answers := fun _ op reply _ => AnswersOffered parse request op reply

private theorem offeredCalls_chatRule (parse : String → Except String Json)
    (request : ChatRequest) :
    ChatRule parse (offeredCalls parse request)
      (fun sent => sent.get "tools" = request.workerBody.get "tools") request.attachmentIndex where
  sends := by
    intro body same
    refine ⟨?_, ?_⟩
    · intro name isTool
      cases isTool
    · intro sent isSent
      rw [← Option.some.inj isSent]
      exact same
  appends := fun body message results appended same appends =>
    (get_appendToolResults appends (by decide)).trans same
  calls := by
    intro body response value call _ answered member reads
    have offered := answered response rfl value member call reads
    apply wlp_executeToolCall
    intro op runs
    cases runs with
    | read indexed named attachmentId chunkIndex =>
        refine ⟨?_, fun _ isSent => nomatch isSent⟩
        intro name isTool
        rw [← Option.some.inj isTool, ← named]
        exact offered (.inl ⟨named, by rw [indexed]; rfl⟩)
    | execute named allowed =>
        refine ⟨?_, fun _ isSent => nomatch isSent⟩
        intro name isTool
        rw [← Option.some.inj isTool]
        exact offered (.inr ⟨named, allowed⟩)

/-- Run lemma: where the worker calls offered tools only, only offered tools are run. -/
theorem handleV1Chat_runsOffered (parse : String → Except String Json) {raw : Json}
    {request : ChatRequest} (reads : readChat raw = .ok request)
    {trace : List (Event ChatOp ChatOp.Reply)} {outcome : ChatOutcome}
    (returns : Prog.Returns (handleV1Chat parse raw) trace outcome)
    (answers : ∀ event ∈ trace, AnswersOffered parse request event.op event.reply) :
    (∀ event ∈ trace, ∀ name, event.op.tool = some name →
      name ∈ offeredTools request.workerBody) ∧
    (∀ event ∈ trace, ∀ sent, event.op.sentBody = some sent →
      offeredTools sent = offeredTools request.workerBody) ∧
    (request.attachmentIndex = none → toolsRequested raw = false →
      ∀ event ∈ trace, event.op.tool = none) ∧
    (request.attachmentIndex.isSome → ∀ event ∈ trace, ∀ name, event.op.tool = some name →
      name = "read_attachment") := by
  have rule : ∀ again, readChat raw = .ok again →
      ChatRule parse (offeredCalls parse request)
        (fun sent => sent.get "tools" = request.workerBody.get "tools") again.attachmentIndex ∧
      again.workerBody.get "tools" = request.workerBody.get "tools" ∧
      (offeredCalls parse request).Admits () (.streamActiveWorkerResponse again.workerBody) := by
    intro again readsAgain
    obtain rfl := Except.ok.inj (reads.symm.trans readsAgain)
    refine ⟨offeredCalls_chatRule parse request, rfl, ?_, ?_⟩
    · intro name isTool
      cases isTool
    · intro sent isSent
      rw [← Option.some.inj isSent]
  have admitted := returns.admits answers (wlp_handleV1Chat rule)
  obtain ⟨withAttachments, withNeither⟩ := offeredTools_of_readChat reads
  have offered : ∀ event ∈ trace, ∀ name, event.op.tool = some name →
      name ∈ offeredTools request.workerBody :=
    fun event member => (admitted event member).1
  refine ⟨offered, ?_, ?_, ?_⟩
  · intro event member sent isSent
    rw [offeredTools, (admitted event member).2 sent isSent, offeredTools]
  · intro noIndex notRequested event member
    cases isTool : event.op.tool with
    | none => rfl
    | some name =>
        have some := offered event member name isTool
        rw [withNeither noIndex notRequested] at some
        simp at some
  · intro isSome event member name isTool
    have some := offered event member name isTool
    rw [withAttachments isSome] at some
    simpa using some

/-! ## Two requests -/

/-- An answer with one tool call. -/
def callResponse (name : String) (args : Fields) : Json :=
  .object [("choices", .array [.object [("message", .object [
    ("role", .string "assistant"),
    ("tool_calls", .array [.object [
      ("id", .string "call_1"),
      ("function", .object [("name", .string name), ("arguments", .object args)])]])])]])]

/-- An answer without tool calls. -/
def finalResponse : Json :=
  .object [("choices", .array [.object [("message", .object [
    ("role", .string "assistant"), ("content", .string "ok")])]])]

/-- A chat with a worker that answers the first body with a tool call. -/
def chatHandler (response : Json) : (op : ChatOp) → Bool → op.Reply × Bool
  | .proxyActiveWorkerJson _, answered => (.ok (if answered then finalResponse else response), true)
  | .streamActiveWorkerResponse _, answered => (.ok (), answered)
  | .readAttachment index attachmentId chunkIndex, answered =>
      (index.read attachmentId chunkIndex, answered)
  | .execute _ _, answered => (.ok "{}", answered)

/-- The trace of a chat whose first answer is given. -/
def chatTrace (raw response : Json) : List (Event ChatOp ChatOp.Reply) :=
  (handleV1Chat (fun _ => .error "kein JSON") raw).traceWith (chatHandler response) false

/-- A request with an attachment. -/
def attachedRequest : Json :=
  sampleRequest [("attachments", .array [.object
    [("name", .string "a.txt"), ("content", .string "alpha")]])]

/-- An answer that reads the attachment. -/
def readResponse : Json :=
  callResponse "read_attachment" [("attachment_id", .string "attachment_0")]

/-- Its worker calls nothing but `read_attachment`. -/
private theorem readResponse_offered {request : ChatRequest}
    (offers : offeredTools request.workerBody = ["read_attachment"]) (op : ChatOp)
    (answered : Bool) :
    AnswersOffered (fun _ => .error "kein JSON") request op
      (chatHandler readResponse op answered).1 := by
  have reading : CallsOffered (fun _ => .error "kein JSON") request readResponse := by
    intro value member call reads _
    obtain rfl := List.mem_singleton.mp member
    have named : call.name = "read_attachment" := by
      rw [← Except.ok.inj reads]
    rw [named, offers]
    exact List.mem_singleton.mpr rfl
  have final : CallsOffered (fun _ => .error "kein JSON") request finalResponse := by
    intro value member
    cases member
  cases op with
  | proxyActiveWorkerJson body =>
      intro response answers
      rw [← Except.ok.inj answers]
      cases answered with
      | false => exact reading
      | true => exact final
  | streamActiveWorkerResponse body => trivial
  | readAttachment index attachmentId chunkIndex => trivial
  | execute name args => trivial

/-- A request whose attachment is read. -/
theorem handleV1Chat_runsOffered_attachment :
    ∃ request, readChat attachedRequest = .ok request ∧
      some "read_attachment" ∈
        (chatTrace attachedRequest readResponse).map (fun event => event.op.tool) ∧
      ∀ event ∈ chatTrace attachedRequest readResponse, ∀ name, event.op.tool = some name →
        name ∈ offeredTools request.workerBody := by
  refine ⟨_, rfl, ?_, ?_⟩
  · decide +kernel
  · exact (handleV1Chat_runsOffered (fun _ => .error "kein JSON") rfl
      (Prog.Returns.of_traceWith (chatHandler readResponse) _ false)
      (forall_mem_traceWith (readResponse_offered rfl) _ false)).1

/-- A request without tools whose answer runs a command. -/
theorem handleV1Chat_runs_unoffered :
    ∃ request, readChat (sampleRequest []) = .ok request ∧
      ∃ trace outcome, Prog.Returns
          (handleV1Chat (fun _ => .error "kein JSON") (sampleRequest [])) trace outcome ∧
        ∃ event ∈ trace, event.op.tool = some "run_code" ∧
          "run_code" ∉ offeredTools request.workerBody := by
  refine ⟨_, rfl, _, _, Prog.Returns.of_traceWith
    (chatHandler (callResponse "run_code" [("command", .string "true")])) _ false, ?_⟩
  have runs : some "run_code" ∈ (chatTrace (sampleRequest [])
      (callResponse "run_code" [("command", .string "true")])).map fun event => event.op.tool := by
    decide +kernel
  obtain ⟨event, member, isTool⟩ := List.mem_map.mp runs
  exact ⟨event, member, isTool, by decide +kernel⟩

end TriAI.Chat
