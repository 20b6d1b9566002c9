import TriAI.Library.Json

/-!
Contract: the tools of the chat (`attachments.rs`, `coding_tools.rs`): their definitions
for the model, and the names a request may use.

Owns: the definition of every tool; `isAllowedToolName`; the check of the tools of a
request; and the names a list of definitions offers.

Does not own: the execution of a tool.
-/

set_option autoImplicit false

namespace TriAI.Chat

open TriAI.Library

/-! ## Definitions -/

/-- The form of every definition. -/
def toolDefinition (name description : String) (properties : Fields) (required : List String) :
    Json :=
  .object [
    ("type", .string "function"),
    ("function", .object [
      ("name", .string name),
      ("description", .string description),
      ("parameters", .object [
        ("type", .string "object"),
        ("properties", .object properties),
        ("required", .array (required.map .string)),
        ("additionalProperties", .bool false)])])]

/-- A parameter of a tool without and with a description. -/
def stringParameter : Json := .object [("type", .string "string")]

def describedParameter (description : String) : Json :=
  .object [("type", .string "string"), ("description", .string description)]

/-- An integer of a schema. -/
def schemaNumber (value : UInt64) : Json := .number (.posInt value)

def readAttachmentToolDefinition : Json :=
  toolDefinition "read_attachment"
    "Liest ein explizit vom Nutzer angehaengtes Text-Attachment aus dem temporaeren Request-Index."
    [("attachment_id", stringParameter),
      ("chunk_index", .object [("type", .string "integer"), ("minimum", schemaNumber 0)])]
    ["attachment_id"]

def runCodeTool : Json :=
  toolDefinition "run_code"
    "Führt einen Shell-/Code-Befehl in einer Sandbox-Umgebung im Projektverzeichnis aus. Liefert stdout und stderr zurück. Kein freier API-/Netzwerkzugriff, Timeout nach 30 s."
    [("command", describedParameter
        "Beliebige Shell-Befehlszeile, z.B. 'ls -la' oder 'python3 script.py'"),
      ("timeout_secs", .object [("type", .string "integer"), ("minimum", schemaNumber 1),
        ("maximum", schemaNumber 60)])]
    ["command"]

def readFileTool : Json :=
  toolDefinition "read_file"
    "Liest eine Text- oder Code-Datei relativ zur Projektwurzel und gibt ihren Inhalt zurück."
    [("path", stringParameter)] ["path"]

def writeFileTool : Json :=
  toolDefinition "write_file"
    "Schreibt oder überschreibt eine Textdatei relativ zur Projektwurzel (atomar). Erstellt fehlende Verzeichnisse."
    [("path", stringParameter), ("content", stringParameter)] ["path", "content"]

def listFilesTool : Json :=
  toolDefinition "list_files"
    "Zeigt die Projektstruktur unterhalb der Projektwurzel: Dateien und Unterverzeichnisse als Pfadliste (Max. 200 Einträge)."
    [("dir", describedParameter "Relativer Unterordner, Standard '.'")] []

def searchFilesTool : Json :=
  toolDefinition "search_files"
    "Durchsucht Textdateien unterhalb der Projektwurzel nach einer Zeichenkette (grep-artig). Liefert Treffer mit Datei und Zeile."
    [("query", stringParameter),
      ("dir", describedParameter "Relativer Startordner, Standard '.'"),
      ("extension", describedParameter "Optional Dateiendung ohne Punkt, z.B. 'rs'")]
    ["query"]

def patchFileTool : Json :=
  toolDefinition "patch_file"
    "Ersetzt einen exakten Textabschnitt in einer Datei relativ zur Projektwurzel. Sicherer als komplettes Überschreiben: sucht das alte Vorkommen, ersetzt es und gibt die neue Datei zurück."
    [("path", stringParameter), ("old", stringParameter), ("new", stringParameter)]
    ["path", "old", "new"]

def gitStatusTool : Json :=
  toolDefinition "git_status"
    "Zeigt den Git-Status und das Diff-Statistic des Projektbaums (Branch, geänderte Dateien, Diff-Stat). Kein Datenverlust, nur Lesen."
    [("format", .object [("type", .string "string"),
      ("enum", .array [.string "status", .string "diffstat", .string "diff"]),
      ("description", .string
        "status = kurzer Status, diffstat = Änderungszahlen, diff = voller Patch")])]
    []

/-- `tool_definitions`. -/
def toolDefinitions : List Json :=
  [runCodeTool, readFileTool, writeFileTool, listFilesTool, searchFilesTool, patchFileTool,
    gitStatusTool]

/-! ## Names -/

def codingTools : List String :=
  ["run_code", "read_file", "write_file", "list_files", "search_files", "patch_file", "git_status"]

/-- `is_allowed_tool_name`. -/
def isAllowedToolName (name : String) : Bool :=
  name == "read_attachment" || codingTools.contains name

/-- The name of a definition. -/
def toolName (tool : Json) : Option String :=
  (tool.pointer ["function", "name"]).bind Json.asStr

/-- The names a worker body offers to the model. -/
def offeredTools (body : Json) : List String :=
  (((body.get "tools").bind Json.asArray).getD []).filterMap toolName

/-- `validate_requested_tools`. -/
def validateRequestedTools (raw : Json) : Except String Unit :=
  match raw.get "tools" with
  | none => .ok ()
  | some tools =>
      match tools.asArray with
      | none => .error "tools muss ein Array sein"
      | some tools => tools.forM fun tool =>
          match toolName tool with
          | none => .error "jedes Tool braucht function.name"
          | some name =>
              if isAllowedToolName name then .ok ()
              else .error s!"Tool '{name}' ist nicht freigegeben"

@[simp] theorem toolName_toolDefinition (name description : String) (properties : Fields)
    (required : List String) :
    toolName (toolDefinition name description properties required) = some name := by
  simp [toolName, toolDefinition, Json.pointer, Json.child, Json.asStr, List.lookup_cons]

/-- The definitions offer the names that are allowed. -/
theorem filterMap_toolName_definitions :
    (readAttachmentToolDefinition :: toolDefinitions).filterMap toolName =
      "read_attachment" :: codingTools := by
  simp [readAttachmentToolDefinition, toolDefinitions, runCodeTool, readFileTool, writeFileTool,
    listFilesTool, searchFilesTool, patchFileTool, gitStatusTool, codingTools]

end TriAI.Chat
