import TriAI.Chat.OpenAi
import TriAI.Library.Fallible

/-!
Contract: a chat request with its rounds of tools (`http.rs`, `coding_tools.rs`).

Owns: the calls a chat issues; the execution of an answer's tool calls; the loop
of the rounds; and `handleV1Chat`, the handler of a parsed request.

Does not own: the tools themselves and the connection to the worker, whose answers are
replies; and the parsing of JSON, which is the parameter `parse`.
-/

set_option autoImplicit false

namespace TriAI.Chat

open TriAI.Library
open TriAI.Library.Interaction

/-- The codes of `ApiErrorCode`. -/
inductive ApiErrorCode where
  | modelBusy
  | stalePlan
  | invalidRequest
  | notReady
  | resourceDenied
  | workerTimeout
  | workerCrashed
  | cancelled
  | outOfMemory
  | portConflict
  | corruptModel
  | notFound
  | internal
deriving DecidableEq

structure ApiError where
  code : ApiErrorCode
  message : String
deriving DecidableEq

/-- What a chat asks of the worker and of the tools: an answer, an answer handed on
as a stream, the text of an attachment, and the run of a coding tool. -/
inductive ChatOp where
  | proxyActiveWorkerJson (body : Json)
  | streamActiveWorkerResponse (body : Json)
  | readAttachment (index : AttachmentIndex) (attachmentId : String) (chunkIndex : Option Nat)
  | execute (name : String) (args : Fields)

@[reducible] def ChatOp.Reply : ChatOp → Type
  | .proxyActiveWorkerJson _ => Except ApiError Json
  | .streamActiveWorkerResponse _ => Except ApiError Unit
  | .readAttachment .. => Except String String
  | .execute .. => Except String String

/-- A part of a chat that may fail. -/
abbrev ChatProg (ε α : Type) : Type := Fallible ε ChatOp ChatOp.Reply α

/-- The result of a check as a part of a program. -/
def checked {ε α : Type} (result : Except ε α) : ChatProg ε α := ExceptT.mk (.ret result)

/-! ## Token usage -/

structure Usage where
  promptTokens : UInt64
  completionTokens : UInt64
  totalTokens : UInt64

/-- `Usage::add`. -/
def Usage.add (total other : Usage) : Usage where
  promptTokens := total.promptTokens + other.promptTokens
  completionTokens := total.completionTokens + other.completionTokens
  totalTokens := total.totalTokens + other.totalTokens

/-- `usage_from`. -/
def usageFrom (worker : Json) : Option Usage := do
  let usage ← worker.get "usage"
  let promptTokens ← (usage.get "prompt_tokens").bind Json.asU64
  let completionTokens ← (usage.get "completion_tokens").bind Json.asU64
  let totalTokens :=
    ((usage.get "total_tokens").bind Json.asU64).getD (promptTokens + completionTokens)
  return { promptTokens, completionTokens, totalTokens }

/-- `accumulate_usage`. -/
def accumulateUsage (total : Option Usage) (worker : Json) : Option Usage :=
  match usageFrom worker, total with
  | some round, some total => some (total.add round)
  | some round, none => some round
  | none, total => total

/-- `apply_usage`. -/
def applyUsage (response : Json) (total : Option Usage) : Json :=
  match total, response with
  | some total, .object fields =>
      .object (Fields.insert "usage" (.object [
        ("prompt_tokens", .number (.posInt total.promptTokens)),
        ("completion_tokens", .number (.posInt total.completionTokens)),
        ("total_tokens", .number (.posInt total.totalTokens))]) fields)
  | _, response => response

/-! ## Tool calls -/

section Parsed

variable (parse : String → Except String Json)

/-- `parse_tool_arguments`. -/
def parseToolArguments : Option Json → Except String Fields
  | some (.string text) =>
      match parse text with
      | .error err => .error s!"Tool-Argumente sind kein JSON: {err}"
      | .ok value => okOr value.asObject "Tool-Argumente muessen ein JSON-Objekt sein"
  | some (.object object) => .ok object
  | _ => .error "Tool-Argumente fehlen"

/-- A tool call of an answer. -/
structure ToolCall where
  callId : String
  name : String
  args : Fields

/-- The tool call a value of `tool_calls` stands for. -/
def readToolCall (call : Json) : Except String ToolCall := do
  let object ← okOr call.asObject "tool_call muss ein JSON-Objekt sein"
  let callId ← requiredString object "id"
  let function ← okOr ((object.lookup "function").bind Json.asObject) "tool_call.function fehlt"
  let name ← requiredString function "name"
  let args ← parseToolArguments parse (function.lookup "arguments")
  return { callId, name, args }

/-- The attachment a call asks for. -/
def requestedAttachment (args : Fields) : Except String String :=
  match requiredString args "attachment_id" with
  | .ok attachmentId => .ok attachmentId
  | .error _ => requiredString args "id"

/-- The part of a round of `execute_tool_calls` behind the reading of the call. -/
def executeToolCall (attachmentIndex : Option AttachmentIndex) (call : ToolCall) :
    ChatProg String ToolResult :=
  if call.name = "read_attachment" then
    match attachmentIndex with
    | none => throw "read_attachment ohne Attachment-Index aufgerufen"
    | some index => do
        let attachmentId ← checked (requestedAttachment call.args)
        let chunkIndex := ((call.args.lookup "chunk_index").bind Json.asU64).map UInt64.toNat
        let content ← ExceptT.mk (Prog.perform (ChatOp.readAttachment index attachmentId chunkIndex))
        return { callId := call.callId, content }
  else if isAllowedToolName call.name then do
    let content ← ExceptT.mk (Prog.perform (ChatOp.execute call.name call.args))
    return { callId := call.callId, content }
  else throw s!"Tool '{call.name}' ist nicht freigegeben"

/-- The loop of `execute_tool_calls`. -/
def executeCalls (attachmentIndex : Option AttachmentIndex) :
    List Json → ChatProg String (List ToolResult)
  | [] => pure []
  | value :: rest => do
      let call ← checked (readToolCall parse value)
      let result ← executeToolCall attachmentIndex call
      let results ← executeCalls attachmentIndex rest
      return result :: results

/-- The tool calls of an answer. -/
def toolCallsOf (response : Json) : List Json :=
  ((response.pointer ["choices", "0", "message", "tool_calls"]).bind Json.asArray).getD []

/-- `execute_tool_calls`. -/
def executeToolCalls (response : Json) (attachmentIndex : Option AttachmentIndex) :
    ChatProg String (List ToolResult) :=
  executeCalls parse attachmentIndex (toolCallsOf response)

/-! ## Rounds -/

/-- A failure as an error of the interface. -/
def asApiError {α : Type} (code : ApiErrorCode) (body : ChatProg String α) : ChatProg ApiError α :=
  Fallible.attempt (fun message => { code, message }) body.run

/-- The part of a round up to the results of the tools. -/
def chatRound (model : String) (attachmentIndex : Option AttachmentIndex) (workerBody : Json)
    (totalUsage : Option Usage) : ChatProg ApiError (Json × Option Usage × List ToolResult) := do
  let worker ← ExceptT.mk (Prog.perform (ChatOp.proxyActiveWorkerJson workerBody))
  let totalUsage := accumulateUsage totalUsage worker
  let normalized ← asApiError .workerCrashed (checked (normalizeChatResponse worker model))
  let results ← asApiError .invalidRequest (executeToolCalls parse normalized attachmentIndex)
  return (normalized, totalUsage, results)

/-- The loop of `run_chat_completion_with_tools`, with the number of further rounds. -/
def chatRounds (model : String) (attachmentIndex : Option AttachmentIndex) :
    Nat → Json → Option Usage → ChatProg ApiError Json
  | 0, workerBody, totalUsage => do
      let (normalized, totalUsage, results) ←
        chatRound parse model attachmentIndex workerBody totalUsage
      if results.isEmpty then return applyUsage normalized totalUsage
      else throw { code := .invalidRequest, message := "Tool-Limit von vier Runden erreicht" }
  | further + 1, workerBody, totalUsage => do
      let (normalized, totalUsage, results) ←
        chatRound parse model attachmentIndex workerBody totalUsage
      if results.isEmpty then return applyUsage normalized totalUsage
      else do
        let message ← asApiError .workerCrashed (checked (okOr (assistantMessage normalized)
          "Worker-Antwort enthaelt keine Assistant-Message"))
        let workerBody ← asApiError .internal (checked (appendToolResults workerBody message results))
        chatRounds model attachmentIndex further workerBody totalUsage

/-- `run_chat_completion_with_tools`. -/
def runChatCompletionWithTools (model : String) (workerBody : Json)
    (attachmentIndex : Option AttachmentIndex) : ChatProg ApiError Json :=
  chatRounds parse model attachmentIndex maxToolRounds workerBody none

/-! ## The handler -/

/-- `tools_requested`. -/
def toolsRequested (parsed : Json) : Bool :=
  (((parsed.get "tools").bind Json.asArray).map fun tools => !tools.isEmpty).getD false

/-- The body with the tools that are offered. -/
def offerTools (parsed body : Json) : Option AttachmentIndex → Except String Json
  | some index => attachToWorkerChatBody body index
  | none => if toolsRequested parsed then attachAllowedToolsToWorkerChatBody body else .ok body

/-- A chat request that is checked. -/
structure ChatRequest where
  model : String
  streamRequested : Bool
  workerBody : Json
  attachmentIndex : Option AttachmentIndex

/-- The checks of `handle_v1_chat` up to the offer of tools. -/
def readChat (parsed : Json) : Except String ChatRequest := do
  let attachmentIndex ← AttachmentIndex.fromOpenaiRequest parsed
  let accepted ← chatWorkerBody parsed
  let workerBody ← offerTools parsed accepted.2.2 attachmentIndex
  return { model := accepted.1, streamRequested := accepted.2.1, workerBody, attachmentIndex }

/-- How a chat request ends. -/
inductive ChatOutcome where
  | answered (response : Json)
  | streamed
  | failed (error : ApiError)

/-- The response to the result of a chat. -/
def ChatOutcome.of {α : Type} (respond : α → ChatOutcome) : Except ApiError α → ChatOutcome
  | .ok value => respond value
  | .error error => .failed error

/-- The part of `handle_v1_chat` behind its checks. -/
def serveChat (request : ChatRequest) : Prog ChatOp ChatOp.Reply ChatOutcome :=
  if request.streamRequested then
    if request.attachmentIndex.isSome then
      .ret (.failed {
        code := .invalidRequest
        message := "stream=true ist mit Runner-Tools in diesem Release nicht erlaubt" })
    else
      Prog.perform (ChatOp.streamActiveWorkerResponse request.workerBody) >>= fun reply =>
        .ret (.of (fun _ => .streamed) reply)
  else
    (runChatCompletionWithTools parse request.model request.workerBody
      request.attachmentIndex).run >>= fun result => .ret (.of .answered result)

/-- `handle_v1_chat`. -/
def handleV1Chat (parsed : Json) : Prog ChatOp ChatOp.Reply ChatOutcome :=
  match readChat parsed with
  | .error message => .ret (.failed { code := .invalidRequest, message })
  | .ok request => serveChat parse request

end Parsed

end TriAI.Chat
