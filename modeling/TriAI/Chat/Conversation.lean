import TriAI.Chat.Rounds
import TriAI.Library.Subprogram

/-!
Contract: what holds of every call of a chat request.

Owns: the bodies that are sent; `ChatRule`, the obligations under which every round of a chat keeps
to a contract; and the rule for the handler.

Does not own: any particular contract.
-/

set_option autoImplicit false

namespace TriAI.Chat

open TriAI.Library
open TriAI.Library.Interaction

variable {parse : String → Except String Json}

/-- The body a call sends to the worker. -/
def ChatOp.sentBody : ChatOp → Option Json
  | .proxyActiveWorkerJson body | .streamActiveWorkerResponse body => some body
  | .readAttachment .. | .execute .. => none

/-- The body of a request that is read is the accepted one with an offer of tools. -/
theorem offerTools_of_readChat {parsed : Json} {request : ChatRequest}
    (reads : readChat parsed = .ok request) :
    ∃ model stream body, chatWorkerBody parsed = .ok (model, stream, body) ∧
      AttachmentIndex.fromOpenaiRequest parsed = .ok request.attachmentIndex ∧
      offerTools parsed body request.attachmentIndex = .ok request.workerBody := by
  unfold readChat at reads
  obtain ⟨attachmentIndex, indexed, reads⟩ := bind_eq_ok.mp reads
  obtain ⟨⟨model, stream, body⟩, accepted, reads⟩ := bind_eq_ok.mp reads
  obtain ⟨workerBody, offers, reads⟩ := bind_eq_ok.mp reads
  obtain rfl := Except.ok.inj reads
  exact ⟨model, stream, body, accepted, indexed, offers⟩

/-- What a contract must allow: the bodies that are sent, which the results of tools
extend, and the run of each tool call the worker answers with. -/
structure ChatRule (parse : String → Except String Json) (contract : Contract ChatOp ChatOp.Reply Unit)
    (Sent : Json → Prop) (attachmentIndex : Option AttachmentIndex) : Prop where
  sends : ∀ body, Sent body → contract.Admits () (.proxyActiveWorkerJson body)
  appends : ∀ body message results appended, Sent body →
    appendToolResults body message results = .ok appended → Sent appended
  calls : ∀ body response value call, Sent body →
    contract.Answers () (.proxyActiveWorkerJson body) (.ok response) () →
    value ∈ toolCallsOf response → readToolCall parse value = .ok call →
    wlp contract (executeToolCall attachmentIndex call).run (fun _ _ => True) ()

/-- The call that runs the tool of a tool call. -/
inductive RunsTool (attachmentIndex : Option AttachmentIndex) (call : ToolCall) : ChatOp → Prop
  | read {index : AttachmentIndex} (indexed : attachmentIndex = some index)
      (named : call.name = "read_attachment") (attachmentId : String) (chunkIndex : Option Nat) :
      RunsTool attachmentIndex call (.readAttachment index attachmentId chunkIndex)
  | execute (named : call.name ≠ "read_attachment") (allowed : isAllowedToolName call.name) :
      RunsTool attachmentIndex call (.execute call.name call.args)

variable {contract : Contract ChatOp ChatOp.Reply Unit} {Sent : Json → Prop}
  {attachmentIndex : Option AttachmentIndex}

/-- The run of a tool call makes one call at most. -/
theorem wlp_executeToolCall {call : ToolCall}
    (admits : ∀ op, RunsTool attachmentIndex call op → contract.Admits () op) :
    wlp contract (executeToolCall attachmentIndex call).run (fun _ _ => True) () := by
  unfold executeToolCall
  split
  · rename_i named
    split
    · trivial
    · rename_i index
      cases requestedAttachment call.args with
      | error message => trivial
      | ok attachmentId =>
          refine ⟨admits _ (.read rfl named attachmentId _), ?_⟩
          rintro (_ | content) _ _ <;> trivial
  · rename_i named
    split
    · rename_i allowed
      refine ⟨admits _ (.execute named allowed), ?_⟩
      rintro (_ | content) _ _ <;> trivial
    · trivial

/-- Sequence of parts of which only the first one's value matters. -/
private theorem wlp_step {ε α β : Type} {first : ChatProg ε α} {rest : α → ChatProg ε β}
    {Middle : α → Prop}
    (firstKeeps : wlp contract first.run (fun result _ => ∀ value, result = .ok value →
      Middle value) ())
    (restKeeps : ∀ value, Middle value → wlp contract (rest value).run (fun _ _ => True) ()) :
    wlp contract (first >>= rest).run (fun _ _ => True) () := by
  rw [Fallible.wlp_run_bind]
  apply wlp_mono firstKeeps
  rintro (_ | value) _ middle
  · trivial
  · exact restKeeps value (middle value rfl)

/-- Sequence of parts of which the first one's value does not matter. -/
private theorem wlp_skip {ε α β : Type} {first : ChatProg ε α} {rest : α → ChatProg ε β}
    (firstKeeps : wlp contract first.run (fun _ _ => True) ())
    (restKeeps : ∀ value, wlp contract (rest value).run (fun _ _ => True) ()) :
    wlp contract (first >>= rest).run (fun _ _ => True) () := by
  rw [Fallible.wlp_run_bind]
  apply wlp_mono firstKeeps
  rintro (_ | value) _ _
  · trivial
  · exact restKeeps value

private theorem wlp_checked {ε α : Type} (result : Except ε α) :
    wlp contract (checked result).run (fun reached _ => ∀ value, reached = .ok value →
      result = .ok value) () :=
  fun _ same => same

private theorem wlp_asApiError {α : Type} {code : ApiErrorCode} {body : ChatProg String α}
    {Middle : α → Prop}
    (keeps : wlp contract body.run (fun result _ => ∀ value, result = .ok value →
      Middle value) ()) :
    wlp contract (asApiError code body).run (fun result _ => ∀ value, result = .ok value →
      Middle value) () := by
  unfold asApiError Fallible.attempt
  rw [ExceptT.run_mk, wlp_bind]
  apply wlp_mono keeps
  rintro (_ | value) _ middle
  · intro value same
    cases same
  · intro other same
    exact middle other (congrArg Except.ok (Except.ok.inj same))

private theorem wlp_asApiError_skip {α : Type} {code : ApiErrorCode} {body : ChatProg String α}
    (keeps : wlp contract body.run (fun _ _ => True) ()) :
    wlp contract (asApiError code body).run (fun _ _ => True) () := by
  unfold asApiError Fallible.attempt
  rw [ExceptT.run_mk, wlp_bind]
  exact wlp_mono keeps fun _ _ _ => trivial

/-- The tool calls of an answer, one after the other. -/
private theorem wlp_executeCalls {values : List Json}
    (calls : ∀ value ∈ values, ∀ call, readToolCall parse value = .ok call →
      wlp contract (executeToolCall attachmentIndex call).run (fun _ _ => True) ()) :
    wlp contract (executeCalls parse attachmentIndex values).run (fun _ _ => True) () := by
  induction values with
  | nil => trivial
  | cons value rest inductionHypothesis =>
      have later := inductionHypothesis fun value member =>
        calls value (List.mem_cons_of_mem _ member)
      unfold executeCalls
      apply wlp_step (wlp_checked _)
      intro call reads
      apply wlp_skip (calls value (List.mem_cons_self ..) call reads)
      intro result
      apply wlp_skip later
      intro results
      trivial

private theorem wlp_chatRound (rule : ChatRule parse contract Sent attachmentIndex) {body : Json}
    (sent : Sent body) (model : String) (usage : Option Usage) :
    wlp contract (chatRound parse model attachmentIndex body usage).run (fun _ _ => True) () := by
  unfold chatRound
  rw [Fallible.wlp_run_bind]
  refine ⟨rule.sends body sent, ?_⟩
  rintro (_ | worker) _ answered
  · trivial
  · apply wlp_step (wlp_asApiError (wlp_checked _))
    intro normalized normalizes
    have same : toolCallsOf normalized = toolCallsOf worker := by
      unfold toolCallsOf
      rw [pointer_normalizeChatResponse normalizes]
    apply wlp_skip
    · apply wlp_asApiError_skip
      unfold executeToolCalls
      rw [same]
      exact wlp_executeCalls fun value member call reads =>
        rule.calls body worker value call sent answered member reads
    · intro results
      trivial

/-- Every round keeps to the contract. -/
theorem wlp_chatRounds (rule : ChatRule parse contract Sent attachmentIndex)
    (model : String) (further : Nat) {body : Json} (sent : Sent body) (usage : Option Usage) :
    wlp contract (chatRounds parse model attachmentIndex further body usage).run
      (fun _ _ => True) () := by
  induction further generalizing body usage with
  | zero =>
      unfold chatRounds
      apply wlp_skip (wlp_chatRound rule sent model usage)
      rintro ⟨normalized, total, results⟩
      dsimp only
      split
      · trivial
      · trivial
  | succ further inductionHypothesis =>
      unfold chatRounds
      apply wlp_skip (wlp_chatRound rule sent model usage)
      rintro ⟨normalized, total, results⟩
      dsimp only
      split
      · trivial
      · apply wlp_step (wlp_asApiError (wlp_checked _))
        intro message _
        apply wlp_step (wlp_asApiError (wlp_checked _))
        intro appended appends
        exact inductionHypothesis (rule.appends body message _ appended sent appends) _

/-- The rule of the handler. -/
theorem wlp_handleV1Chat {parsed : Json}
    (rule : ∀ request, readChat parsed = .ok request →
      ChatRule parse contract Sent request.attachmentIndex ∧ Sent request.workerBody ∧
      contract.Admits () (.streamActiveWorkerResponse request.workerBody)) :
    wlp contract (handleV1Chat parse parsed) (fun _ _ => True) () := by
  unfold handleV1Chat
  split
  · trivial
  · rename_i request reads
    obtain ⟨chatRule, sent, streams⟩ := rule request reads
    unfold serveChat
    split
    · split
      · trivial
      · exact ⟨streams, fun _ _ _ => trivial⟩
    · rw [wlp_bind]
      exact wlp_mono (wlp_chatRounds chatRule request.model maxToolRounds sent none)
        fun _ _ _ => trivial

end TriAI.Chat
