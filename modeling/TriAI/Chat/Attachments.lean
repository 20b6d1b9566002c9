import TriAI.Chat.Prompt
import TriAI.Chat.Tools

/-!
Contract: the attachments of a chat request (`attachments.rs`).

Owns: `AttachmentIndex` with its construction from a request, its reading and its system
message; and what the attachments and the tool results add to the body for the worker.

Does not own: the embedding inputs, which the chat does not use.
-/

set_option autoImplicit false

namespace TriAI.Chat

open TriAI.Library

def maxAttachments : Nat := 16
def maxAttachmentBytes : Nat := 256 * 1024
def maxTotalAttachmentBytes : Nat := 1024 * 1024
def maxToolRounds : Nat := 4
def chunkBytes : Nat := 4096

def allowedExtensions : List String :=
  ["txt", "md", "markdown", "json", "csv", "rs", "py", "js", "jsx", "ts", "tsx", "toml", "yaml",
    "yml", "html", "css", "sh", "c", "cc", "cpp", "h", "hpp", "go", "java", "kt", "swift"]

def allowedMediaTypes : List String :=
  ["text/plain", "text/markdown", "text/csv", "application/json", "application/x-ndjson",
    "application/toml", "application/yaml", "text/x-rust", "text/x-python", "text/javascript",
    "text/typescript", "text/html", "text/css", "text/x-shellscript"]

structure Attachment where
  id : String
  name : String
  mediaType : Option String
  text : String

structure AttachmentChunk where
  attachmentId : String
  chunkIndex : Nat
  text : String

structure AttachmentIndex where
  attachments : List Attachment
  chunks : List AttachmentChunk

structure ToolResult where
  callId : String
  content : String

/-! ## Checks -/

/-- `required_string` and `required_str`. -/
def requiredString (object : Fields) (key : String) : Except String String :=
  match (object.lookup key).bind Json.asStr with
  | some value =>
      if value = "" then .error s!"{key} muss ein nicht leerer String sein" else .ok value
  | none => .error s!"{key} muss ein nicht leerer String sein"

/-- `validate_name`. -/
def validateName (name : String) : Except String Unit :=
  if name = "" ∨ '/' ∈ name.toList ∨ '\\' ∈ name.toList ∨ contains name ".." ∨
      '\x00' ∈ name.toList then
    .error "Attachment-Name muss ein einfacher Dateiname sein"
  else .ok ()

/-- `validate_id`. -/
def validateId (id : String) : Except String Unit :=
  if id = "" ∨ id.utf8ByteSize > 80 ∨
      !id.toList.all fun c => c.isAlphanum || c == '_' || c == '-' || c == '.' then
    .error "Attachment-ID enthaelt ungueltige Zeichen"
  else .ok ()

/-- The part of a name behind its last dot, if it has one. -/
def extension (name : String) : Option String :=
  if '.' ∈ name.toList then
    some (String.ofList (name.toList.reverse.takeWhile (· ≠ '.')).reverse)
  else none

/-- `validate_type`. -/
def validateType (name : String) (mediaType : Option String) : Except String Unit :=
  let extOk := ((extension name).map fun ext =>
    allowedExtensions.contains (toAsciiLowercase ext)).getD false
  let mediaOk := (mediaType.map fun media => allowedMediaTypes.contains media).getD false
  if extOk || mediaOk then .ok ()
  else .error "nur Text-, Code-, Markdown-, JSON- und CSV-Anhaenge sind erlaubt"

/-- `validate_text`. -/
def validateText (text : String) : Except String Unit :=
  if text = "" then .error "Attachment-Text darf nicht leer sein"
  else if '\x00' ∈ text.toList ∨ '\ufffd' ∈ text.toList then
    .error "Binaere Attachments sind nicht erlaubt"
  else .ok ()

/-! ## The index -/

/-- The longest front of the characters that has at most `limit` bytes, and the rest. -/
def splitBytes : Nat → List Char → List Char × List Char
  | _, [] => ([], [])
  | limit, c :: rest =>
      if c.utf8Size ≤ limit then
        let (front, back) := splitBytes (limit - c.utf8Size) rest
        (c :: front, back)
      else ([], c :: rest)

/-- The texts of the chunks; every round takes a character. -/
def chunkTexts : Nat → List Char → List String
  | 0, _ => []
  | _ + 1, [] => []
  | rounds + 1, chars =>
      let (front, back) := splitBytes chunkBytes chars
      String.ofList front :: chunkTexts rounds back

/-- `chunk_attachment`. -/
def chunkAttachment (attachment : Attachment) : List AttachmentChunk :=
  (chunkTexts attachment.text.length attachment.text.toList).mapIdx fun chunkIndex text =>
    { attachmentId := attachment.id, chunkIndex, text }

/-- One round of the loop of `from_openai_request`: the attachment of a value. The
attachments before it give the IDs seen and the bytes used. -/
def readAttachment (before : List Attachment) (index : Nat) (value : Json) :
    Except String Attachment := do
  let object ← okOr value.asObject "jedes Attachment muss ein JSON-Objekt sein"
  let name ← requiredString object "name"
  validateName name
  let id := (((object.lookup "id").bind Json.asStr).filter (· ≠ "")).getD s!"attachment_{index}"
  validateId id
  if id ∈ before.map Attachment.id then throw s!"Attachment-ID '{id}' ist doppelt"
  let mediaType := ((object.lookup "media_type").bind Json.asStr).filter (· ≠ "")
  validateType name mediaType
  let text ← okOr (((object.lookup "content").or (object.lookup "text")).bind Json.asStr)
    "Attachment braucht ein Textfeld 'content' oder 'text'"
  validateText text
  if text.utf8ByteSize > maxAttachmentBytes then
    throw s!"Attachment '{name}' ueberschreitet das Groessenlimit"
  if (before.map fun attachment => attachment.text.utf8ByteSize).sum + text.utf8ByteSize >
      maxTotalAttachmentBytes then
    throw "Attachments ueberschreiten das Gesamtlimit"
  return { id, name, mediaType, text }

/-- The loop of `from_openai_request`. -/
def readAttachments (before : List Attachment) : List Json → Except String (List Attachment)
  | [] => .ok before
  | value :: rest => do
      let attachment ← readAttachment before before.length value
      readAttachments (before ++ [attachment]) rest

namespace AttachmentIndex

/-- `from_openai_request`. -/
def fromOpenaiRequest (raw : Json) : Except String (Option AttachmentIndex) :=
  match raw.get "attachments" with
  | none => .ok none
  | some value =>
      match value.asArray with
      | none => .error "attachments muss ein Array sein"
      | some [] => .ok none
      | some values =>
          if values.length > maxAttachments then
            .error s!"hoechstens {maxAttachments} Attachments erlaubt"
          else do
            let attachments ← readAttachments [] values
            return some { attachments, chunks := attachments.flatMap chunkAttachment }

variable (index : AttachmentIndex)

def isEmpty : Bool := index.attachments.isEmpty

def chunkCount (attachmentId : String) : Nat :=
  (index.chunks.filter fun chunk => chunk.attachmentId = attachmentId).length

/-- The line of an attachment in the system message. -/
def systemLine (attachment : Attachment) : String :=
  let media := attachment.mediaType.getD "text/plain"
  let bytes := attachment.text.utf8ByteSize
  let chunks := index.chunkCount attachment.id
  s!"- id={attachment.id} name={attachment.name} type={media} bytes={bytes} chunks={chunks}\n"

/-- `system_message`. -/
def systemMessage : String :=
  index.attachments.foldl (fun message attachment => message ++ index.systemLine attachment)
    "Angehaengte Dateien sind nur ueber das Tool read_attachment lesbar. Verweise auf Attachment-IDs, nicht auf Dateipfade.\n"

/-- `read`. -/
def read (attachmentId : String) (chunkIndex : Option Nat) : Except String String := do
  validateId attachmentId
  match chunkIndex with
  | some chunkIndex =>
      match index.chunks.find? fun chunk =>
          chunk.attachmentId = attachmentId ∧ chunk.chunkIndex = chunkIndex with
      | some chunk => return chunk.text
      | none => throw "Attachment-Chunk nicht gefunden"
  | none =>
      match index.attachments.find? fun attachment => attachment.id = attachmentId with
      | some attachment => return attachment.text
      | none => throw "Attachment nicht gefunden"

end AttachmentIndex

/-! ## The body for the worker -/

/-- `attach_to_worker_chat_body`. -/
def attachToWorkerChatBody (body : Json) (index : AttachmentIndex) : Except String Json :=
  if index.isEmpty then .ok body
  else
    match body.asObject with
    | none => .error "Worker-Chat-Body ist kein JSON-Objekt"
    | some object =>
        match (object.lookup "messages").bind Json.asArray with
        | none => .error "Worker-Chat-Body enthaelt kein messages-Array"
        | some messages =>
            let system := Json.object
              [("role", .string "system"), ("content", .string index.systemMessage)]
            let object := Fields.insert "messages" (.array (system :: messages)) object
            let object := Fields.insert "tools" (.array [readAttachmentToolDefinition]) object
            .ok (.object (Fields.orInsert object "tool_choice" (.string "auto")))

/-- `attach_allowed_tools_to_worker_chat_body`. -/
def attachAllowedToolsToWorkerChatBody (body : Json) : Except String Json :=
  match body.asObject with
  | none => .error "Worker-Chat-Body ist kein JSON-Objekt"
  | some object =>
      let definitions := readAttachmentToolDefinition :: toolDefinitions
      let object := Fields.insert "tools" (.array definitions) object
      .ok (.object (Fields.orInsert object "tool_choice" (.string "auto")))

/-- The message of a tool result. -/
def toolMessage (result : ToolResult) : Json :=
  .object [
    ("role", .string "tool"),
    ("tool_call_id", .string result.callId),
    ("name", .string "read_attachment"),
    ("content", .string result.content)]

/-- `append_tool_results`. -/
def appendToolResults (body assistantMessage : Json) (results : List ToolResult) :
    Except String Json :=
  match body.asObject with
  | none => .error "Worker-Chat-Body enthaelt kein messages-Array"
  | some object =>
      match (object.lookup "messages").bind Json.asArray with
      | none => .error "Worker-Chat-Body enthaelt kein messages-Array"
      | some messages =>
          .ok (.object (Fields.insert "messages"
            (.array (messages ++ assistantMessage :: results.map toolMessage)) object))

/-- `assistant_message`. -/
def assistantMessage (response : Json) : Option Json :=
  response.pointer ["choices", "0", "message"]

/-! ## What the additions keep -/

theorem get_attachToWorkerChatBody {body attached : Json} {index : AttachmentIndex}
    (attaches : attachToWorkerChatBody body index = .ok attached) {key : String}
    (other : key ∉ ["messages", "tools", "tool_choice"]) : attached.get key = body.get key := by
  unfold attachToWorkerChatBody at attaches
  split at attaches
  · rw [← Except.ok.inj attaches]
  · split at attaches
    · simp at attaches
    · rename_i object isObject
      split at attaches
      · simp at attaches
      · simp only [List.mem_cons, List.not_mem_nil, or_false, not_or] at other
        rw [← Except.ok.inj attaches, Json.get_object, Fields.lookup_orInsert_of_ne other.2.2,
          Fields.lookup_insert_of_ne other.2.1, Fields.lookup_insert_of_ne other.1, Json.get,
          isObject]
        rfl

theorem get_attachAllowedTools {body attached : Json}
    (attaches : attachAllowedToolsToWorkerChatBody body = .ok attached) {key : String}
    (other : key ∉ ["tools", "tool_choice"]) : attached.get key = body.get key := by
  unfold attachAllowedToolsToWorkerChatBody at attaches
  split at attaches
  · simp at attaches
  · rename_i object isObject
    simp only [List.mem_cons, List.not_mem_nil, or_false, not_or] at other
    rw [← Except.ok.inj attaches, Json.get_object, Fields.lookup_orInsert_of_ne other.2,
      Fields.lookup_insert_of_ne other.1, Json.get, isObject]
    rfl

theorem get_appendToolResults {body message appended : Json} {results : List ToolResult}
    (appends : appendToolResults body message results = .ok appended) {key : String}
    (other : key ≠ "messages") : appended.get key = body.get key := by
  unfold appendToolResults at appends
  split at appends
  · simp at appends
  · rename_i object isObject
    split at appends
    · simp at appends
    · rw [← Except.ok.inj appends, Json.get_object, Fields.lookup_insert_of_ne other, Json.get,
        isObject]
      rfl

end TriAI.Chat
