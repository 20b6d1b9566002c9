import TriAI.Chat.OpenAi

/-!
Contract: which texts of a chat request have passed the preparation.

Owns: the texts of a message that reach the worker; `Gated`, what the preparation promises
of a text; and the exact condition under which every text of an accepted request is gated.

Does not own: the system message of the attachments and the messages of later rounds.
-/

set_option autoImplicit false

namespace TriAI.Chat

open TriAI.Library

/-- A text without a secret that fits the token cap. -/
def Gated (text : String) : Prop := containsSecret text = false ∧ estimateTokens text ≤ taskCap

/-- The texts of the content, whatever its shape. -/
def contentTexts (message : Json) : List String := ((message.get "content").map Json.texts).getD []

/-- The texts of the arguments of a tool call. -/
def callTexts (call : Json) : List String :=
  (((call.get "function").bind fun function => function.get "arguments").map Json.texts).getD []

/-- The texts of the arguments of the tool calls. -/
def argumentTexts (message : Json) : List String :=
  (((message.get "tool_calls").bind Json.asArray).getD []).flatMap callTexts

/-- The texts of a message. -/
def messageTexts (message : Json) : List String := contentTexts message ++ argumentTexts message

/-- A message of a request that is gated once a string content has been prepared: its
compressed form holds no secret, and every other text is gated as it stands. -/
def PreparesGated (message : Json) : Prop :=
  (match (message.get "content").bind Json.asStr with
    | some text => containsSecret (compress text) = false
    | none => ∀ text ∈ contentTexts message, Gated text) ∧
  ∀ text ∈ argumentTexts message, Gated text

/-- One message: the preparation replaces a string content and nothing else. -/
theorem prepareTextMessage_gated_iff {message prepared : Json}
    (prepares : prepareTextMessage message = .ok prepared) :
    (∀ text ∈ messageTexts prepared, Gated text) ↔ PreparesGated message := by
  have unchanged : (message.get "content").bind Json.asStr = none → prepared = message →
      ((∀ text ∈ messageTexts prepared, Gated text) ↔ PreparesGated message) := by
    intro notText same
    rw [same, messageTexts, PreparesGated, notText, List.forall_mem_append]
  unfold prepareTextMessage at prepares
  split at prepares
  · rename_i object
    split at prepares
    · rename_i notText
      exact unchanged notText (Except.ok.inj prepares).symm
    · rename_i text isText
      split at prepares
      · simp at prepares
      · rename_i result made
        obtain ⟨-, compressed, capped⟩ := prepare_eq_ok made
        have content : contentTexts prepared = [result.text] := by
          rw [← Except.ok.inj prepares, contentTexts, Json.get_object, Fields.lookup_insert_self]
          rfl
        have arguments : argumentTexts prepared = argumentTexts (.object object) := by
          rw [← Except.ok.inj prepares, argumentTexts, Json.get_object,
            Fields.lookup_insert_of_ne (by decide)]
          rfl
        have isText' : ((Json.object object).get "content").bind Json.asStr = some text := isText
        rw [messageTexts, content, arguments, PreparesGated, isText', List.forall_mem_append,
          List.forall_mem_singleton, Gated, compressed]
        rw [compressed] at capped
        simp [capped]
  · rename_i notObject
    have noContent : message.get "content" = none := by
      cases message with
      | object fields => exact absurd rfl (notObject fields)
      | _ => rfl
    apply unchanged _ (Except.ok.inj prepares).symm
    rw [noContent]
    rfl

/-- The list of messages, one by one. -/
theorem prepareTextMessages_gated_iff {messages prepared : List Json}
    (prepares : prepareTextMessages messages = .ok prepared) :
    (∀ message ∈ prepared, ∀ text ∈ messageTexts message, Gated text) ↔
      ∀ message ∈ messages, PreparesGated message := by
  unfold prepareTextMessages at prepares
  induction messages generalizing prepared with
  | nil =>
      obtain rfl : prepared = [] := by simpa [pure, Except.pure] using prepares.symm
      simp
  | cons message rest inductionHypothesis =>
      rw [List.mapM_cons] at prepares
      obtain ⟨first, preparesFirst, prepares⟩ := bind_eq_ok.mp prepares
      obtain ⟨others, preparesOthers, prepares⟩ := bind_eq_ok.mp prepares
      obtain rfl := Except.ok.inj prepares
      rw [List.forall_mem_cons, List.forall_mem_cons, inductionHypothesis preparesOthers,
        prepareTextMessage_gated_iff preparesFirst]

/-- A request with one message of the given content. -/
def contentRequest (content : Json) : Json :=
  .object [("model", .string "m"), ("messages", .array [.object
    [("role", .string "user"), ("content", content)]])]

/-- The body for `contentRequest`. -/
def contentBody (content : Json) : Json :=
  .object [("model", .string "m"), ("messages", .array [.object
    [("role", .string "user"), ("content", content)]]), ("stream", .bool false)]

end TriAI.Chat
