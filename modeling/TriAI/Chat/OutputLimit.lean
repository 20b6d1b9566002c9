import TriAI.Chat.Conversation

/-!
Contract: the limit on the output of a chat request.

Owns: `Limited`, what a body that carries the limit is, and the exact condition under
which every body of a request is limited.

Does not own: what a worker does with the limit.
-/

set_option autoImplicit false

namespace TriAI.Chat

open TriAI.Library
open TriAI.Library.Interaction

/-- A body with an integer `max_tokens` within the limit. -/
def Limited (body : Json) : Prop :=
  ∃ count, requestedTokens body = some count ∧ count ≤ maxCompletionTokens

/-- Whether a body is limited depends on its field alone. -/
theorem limited_of_get {body other : Json} (limited : Limited body)
    (same : other.get "max_tokens" = body.get "max_tokens") : Limited other := by
  obtain ⟨count, requested, within⟩ := limited
  exact ⟨count, by rw [requestedTokens, same, ← requested, requestedTokens], within⟩

/-- The offer of tools leaves the limit alone. -/
theorem limited_offerTools {parsed body offered : Json} {index : Option AttachmentIndex}
    (offers : offerTools parsed body index = .ok offered) (limited : Limited body) :
    Limited offered := by
  unfold offerTools at offers
  split at offers
  · exact limited_of_get limited (get_attachToWorkerChatBody offers (by decide))
  · split at offers
    · exact limited_of_get limited (get_attachAllowedTools offers (by decide))
    · rw [← Except.ok.inj offers]
      exact limited

/-- The contract of limited bodies: a worker may answer anything. -/
def limitedBodies : Contract ChatOp ChatOp.Reply Unit where
  Admits := fun _ op => ∀ sent, op.sentBody = some sent → Limited sent
  Answers := fun _ _ _ _ => True

/-- Limited bodies stay limited as the rounds extend them. -/
private theorem limited_chatRule (parse : String → Except String Json)
    (attachmentIndex : Option AttachmentIndex) :
    ChatRule parse limitedBodies Limited attachmentIndex where
  sends := by
    intro body limited sent isSent
    rw [← Option.some.inj isSent]
    exact limited
  appends := fun body message results appended limited appends =>
    limited_of_get limited (get_appendToolResults appends (by decide))
  calls := by
    intro _ _ _ call _ _ _ _
    apply wlp_executeToolCall
    intro op runs sent isSent
    cases runs with
    | read => cases isSent
    | execute => cases isSent

/-- The exact condition: the request has a `max_tokens` that is read as an integer. -/
theorem chatWorkerBody_limited_iff (parse : String → Except String Json) {raw body : Json}
    {model : String} {stream : Bool} (accepts : chatWorkerBody raw = .ok (model, stream, body)) :
    (Limited body ∧ ∀ trace outcome, Prog.Returns (handleV1Chat parse raw) trace outcome →
      ∀ event ∈ trace, ∀ sent, event.op.sentBody = some sent → Limited sent) ↔
      (requestedTokens raw).isSome := by
  obtain ⟨object, messages, prepared, accepted⟩ := accepted_of_chatWorkerBody accepts
  have same : body.get "max_tokens" = raw.get "max_tokens" :=
    accepted.get_body (by decide) (by decide)
  constructor
  · rintro ⟨⟨count, requested, _⟩, _⟩
    rw [requestedTokens, ← same, ← requestedTokens, requested]
    rfl
  · intro isSome
    obtain ⟨count, requested⟩ := Option.isSome_iff_exists.mp isSome
    have limitedRaw : Limited raw := by
      refine ⟨count, requested, ?_⟩
      have tokens := accepted.tokens
      simp only [checkTokens, requested] at tokens
      split at tokens
      · simp at tokens
      · rename_i within
        exact UInt64.not_lt.mp within
    have limited : Limited body := limited_of_get limitedRaw same
    refine ⟨limited, ?_⟩
    intro trace outcome returns event member
    have rule : ∀ request, readChat raw = .ok request →
        ChatRule parse limitedBodies Limited request.attachmentIndex ∧ Limited request.workerBody ∧
        limitedBodies.Admits () (.streamActiveWorkerResponse request.workerBody) := by
      intro request reads
      obtain ⟨_, _, readBody, acceptsAgain, _, offers⟩ := offerTools_of_readChat reads
      have sameBody := Except.ok.inj (accepts.symm.trans acceptsAgain)
      simp only [Prod.mk.injEq] at sameBody
      have offered : Limited request.workerBody := by
        apply limited_offerTools offers
        rw [← sameBody.2.2]
        exact limited
      refine ⟨limited_chatRule parse request.attachmentIndex, offered, ?_⟩
      intro sent isSent
      rw [← Option.some.inj isSent]
      exact offered
    exact returns.admits (fun _ _ => trivial) (wlp_handleV1Chat rule) event member

/-! ## Two requests -/

/-- A request with one message and the other fields given. -/
def sampleRequest (more : Fields) : Json :=
  .object ([("model", .string "m"), ("messages", .array [.object
    [("role", .string "user"), ("content", .string "hi")]])] ++ more)

/-- The body of `sampleRequest` before the other fields. -/
def sampleBody (more : Fields) : Json :=
  .object ([("model", .string "m"), ("messages", .array [.object
    [("role", .string "user"), ("content", .string "hi")]]), ("stream", .bool false)] ++ more)

theorem sampleRequest_limited_iff :
    (Limited (sampleBody [("max_tokens", .number (.posInt 64))]) ∧ ∀ trace outcome,
      Prog.Returns (handleV1Chat (fun _ => .error "kein JSON")
        (sampleRequest [("max_tokens", .number (.posInt 64))])) trace outcome →
      ∀ event ∈ trace, ∀ sent, event.op.sentBody = some sent → Limited sent) ↔
      (requestedTokens (sampleRequest [("max_tokens", .number (.posInt 64))])).isSome :=
  chatWorkerBody_limited_iff (fun _ => .error "kein JSON") rfl

/-- A negative number passes the check and is handed on. -/
theorem chatWorkerBody_not_limited_negative :
    chatWorkerBody (sampleRequest [("max_tokens", .number (.negInt (-1)))]) =
        .ok ("m", false, sampleBody [("max_tokens", .number (.negInt (-1)))]) ∧
      ¬ Limited (sampleBody [("max_tokens", .number (.negInt (-1)))]) := by
  refine ⟨rfl, ?_⟩
  rintro ⟨count, requested, _⟩
  cases requested

end TriAI.Chat
