import TriAI.Chat.Attachments

/-!
Contract: the edge between chat requests and the worker (`openai.rs`).

Owns: `chatWorkerBody`, which checks a request and builds the body for the worker; and
the normalization of a worker's answer.

Does not own: the embeddings, and the token usage, which the answer only carries.
-/

set_option autoImplicit false

namespace TriAI.Chat

open TriAI.Library

def chatPassthroughFields : List String :=
  ["temperature", "top_p", "max_tokens", "stop", "tools", "tool_choice", "presence_penalty",
    "frequency_penalty", "seed", "response_format", "n", "logit_bias", "logprobs", "top_logprobs",
    "stream_options"]

def maxCompletionTokens : UInt64 := 1200

/-- `validate_chat_message`. -/
def validateChatMessage (message : Json) : Except String Unit :=
  match message.asObject with
  | none => .error "jede Message muss ein JSON-Objekt sein"
  | some object =>
      match requiredString object "role" with
      | .error error => .error error
      | .ok _ =>
          if (object.lookup "content").isSome ∨ (object.lookup "tool_calls").isSome then .ok ()
          else .error "jede Message braucht content oder tool_calls"

/-- One round of `prepare_text_messages`. -/
def prepareTextMessage (message : Json) : Except String Json :=
  match message with
  | .object object =>
      match (object.lookup "content").bind Json.asStr with
      | none => .ok message
      | some text =>
          match prepare text {} with
          | .error error => .error s!"Prompt vor Inferenz abgewiesen: {error.debug}"
          | .ok prepared => .ok (.object (Fields.insert "content" (.string prepared.text) object))
  | _ => .ok message

/-- `prepare_text_messages`. -/
def prepareTextMessages (messages : List Json) : Except String (List Json) :=
  messages.mapM prepareTextMessage

/-- The messages of a request or of a body. -/
def messagesOf (body : Json) : List Json := ((body.get "messages").bind Json.asArray).getD []

/-- The number of tokens a request asks for, as it is read for the check of the limit. -/
def requestedTokens (raw : Json) : Option UInt64 := (raw.get "max_tokens").bind Json.asU64

/-- The check of the limit. -/
def checkTokens (raw : Json) : Except String Unit :=
  match requestedTokens raw with
  | some value =>
      if value > maxCompletionTokens then
        .error s!"max_tokens darf {maxCompletionTokens} nicht überschreiten"
      else .ok ()
  | none => .ok ()

/-- The messages of a request, checked as far as `chat_worker_body` first does. -/
def requiredMessages (object : Fields) : Except String (List Json) :=
  match (object.lookup "messages").bind Json.asArray with
  | none | some [] => .error "messages muss ein nicht leeres Array sein"
  | some messages => .ok messages

/-- The body for the worker. -/
def workerBody (object : Fields) (model : String) (messages : List Json) (stream : Bool) : Json :=
  .object (Fields.copyPresent object chatPassthroughFields
    [("model", .string model), ("messages", .array messages), ("stream", .bool stream)])

/-- `chat_worker_body`. -/
def chatWorkerBody (raw : Json) : Except String (String × Bool × Json) := do
  let object ← okOr raw.asObject "Chat-Request muss ein JSON-Objekt sein"
  let model ← requiredString object "model"
  let messages ← requiredMessages object
  checkTokens raw
  messages.forM validateChatMessage
  validateRequestedTools raw
  let stream := ((object.lookup "stream").bind Json.asBool).getD false
  let preparedMessages ← prepareTextMessages messages
  return (model, stream, workerBody object model preparedMessages stream)

/-- `normalize_chat_response`. -/
def normalizeChatResponse (worker : Json) (requestedModel : String) : Except String Json :=
  match worker.asObject with
  | none => .error "Worker lieferte kein JSON-Objekt"
  | some object =>
      match (object.lookup "choices").bind Json.asArray with
      | none => .error "Worker-Antwort enthaelt kein choices-Array"
      | some _ =>
          let object := Fields.orInsert object "object" (.string "chat.completion")
          .ok (.object (Fields.orInsert object "model" (.string requestedModel)))

/-- The first choice, message and calls of an answer are those of the worker. -/
theorem pointer_normalizeChatResponse {worker normalized : Json} {requestedModel : String}
    (normalizes : normalizeChatResponse worker requestedModel = .ok normalized)
    (rest : List String) :
    normalized.pointer ("choices" :: rest) = worker.pointer ("choices" :: rest) := by
  unfold normalizeChatResponse at normalizes
  split at normalizes
  · simp at normalizes
  · rename_i object isObject
    split at normalizes
    · simp at normalizes
    · have isWorker : worker = .object object := by
        cases worker with
        | object fields => simpa [Json.asObject] using isObject
        | _ => simp [Json.asObject] at isObject
      rw [← Except.ok.inj normalizes, isWorker]
      simp only [Json.pointer, List.foldlM_cons, Json.child]
      rw [Fields.lookup_orInsert_of_ne (by decide), Fields.lookup_orInsert_of_ne (by decide)]

/-! ## What an accepted request is -/

/-- The parts of a request that is accepted. -/
structure Accepted (raw : Json) (body : Json) (object : Fields) (messages prepared : List Json) :
    Prop where
  isObject : raw = .object object
  required : requiredMessages object = .ok messages
  tokens : checkTokens raw = .ok ()
  prepares : prepareTextMessages messages = .ok prepared
  isBody : ∃ model stream, body = workerBody object model prepared stream

theorem accepted_of_chatWorkerBody {raw body : Json} {model : String} {stream : Bool}
    (accepts : chatWorkerBody raw = .ok (model, stream, body)) :
    ∃ object messages prepared, Accepted raw body object messages prepared := by
  unfold chatWorkerBody at accepts
  obtain ⟨object, isObject, accepts⟩ := bind_eq_ok.mp accepts
  obtain ⟨_, _, accepts⟩ := bind_eq_ok.mp accepts
  obtain ⟨messages, required, accepts⟩ := bind_eq_ok.mp accepts
  obtain ⟨_, tokens, accepts⟩ := bind_eq_ok.mp accepts
  obtain ⟨_, _, accepts⟩ := bind_eq_ok.mp accepts
  obtain ⟨_, _, accepts⟩ := bind_eq_ok.mp accepts
  obtain ⟨prepared, prepares, accepts⟩ := bind_eq_ok.mp accepts
  refine ⟨object, messages, prepared, ?_, required, tokens, prepares, ?_⟩
  · exact Json.asObject_eq_some.mp (okOr_eq_ok.mp isObject)
  · have same := Except.ok.inj accepts
    simp only [Prod.mk.injEq] at same
    exact ⟨_, _, same.2.2.symm⟩

namespace Accepted

variable {raw body : Json} {object : Fields} {messages prepared : List Json}

/-- The messages of the request. -/
theorem messagesOf_raw (accepted : Accepted raw body object messages prepared) :
    messagesOf raw = messages := by
  have required := accepted.required
  unfold requiredMessages at required
  rw [accepted.isObject, messagesOf, Json.get_object]
  split at required
  · simp at required
  · simp at required
  · rename_i found
    rw [found, Except.ok.inj required]
    rfl

/-- The messages of the body. -/
theorem messagesOf_body (accepted : Accepted raw body object messages prepared) :
    messagesOf body = prepared := by
  obtain ⟨model, stream, rfl⟩ := accepted.isBody
  rw [messagesOf, workerBody, Json.get_object, Fields.lookup_copyPresent]
  rfl

/-- The fields of the request that are handed on. -/
theorem get_body (accepted : Accepted raw body object messages prepared) {key : String}
    (passed : key ∈ chatPassthroughFields) (own : key ∉ ["model", "messages", "stream"]) :
    body.get key = raw.get key := by
  obtain ⟨model, stream, rfl⟩ := accepted.isBody
  have absent : List.lookup key [("model", Json.string model), ("messages", .array prepared),
      ("stream", .bool stream)] = none := by
    simp only [List.mem_cons, List.not_mem_nil, or_false, not_or] at own
    simp [List.lookup_cons, beq_eq_false_iff_ne.mpr own.1, beq_eq_false_iff_ne.mpr own.2.1,
      beq_eq_false_iff_ne.mpr own.2.2]
  rw [workerBody, Json.get_object, Fields.lookup_copyPresent, if_pos passed, absent, Option.or_none,
    accepted.isObject, Json.get_object]

end Accepted

end TriAI.Chat
