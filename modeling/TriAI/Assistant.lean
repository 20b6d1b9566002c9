import Mathlib.Data.List.AList
import TriAI.Library.Json
import TriAI.Library.ListOrder
import TriAI.Persistence.SessionLog
import TriAI.Staging.Names

/-!
Contract: the assistants of a project (`assistant.rs`).

Owns: `list`, `load` and `get` over the files of the directory, with when the listing depends on
the order of the directory and when `get` finds what `load` does; and `apply`, with what remains
of the assistants that were applied before.

Does not own: the text form of an assistant, which is the parameter `parse`, and that of its
temperature in a request, the parameter `number`; and the check of a temperature. Files whose
name is not UTF-8 are passed over; the directory is taken as it stands at the call. Names are
compared by their characters, which is the order of their bytes.
-/

set_option autoImplicit false

namespace TriAI.Assistants

open TriAI.Library
open TriAI.Persistence (isAsciiAlphanumeric)
open TriAI.Library.FileTree (extension extension_append)
open TriAI.Library.TextLines (utf8Bytes)

/-! ## Files -/

/-- The temperature is held as the bits of a 32-bit float. -/
structure Assistant where
  name : String
  systemPrompt : String
  model : Option String
  temperature : UInt32
  tools : List String

/-- The files of the directory, each with what `read_to_string` returns for it. -/
abbrev AssistantDir : Type := AList fun _ : String => Except String String

/-- Why the directory cannot be read. -/
inductive ReadDirError where
  | notFound
  | other (reason : String)

/-- `Path::file_stem` of a name. -/
def fileStem (name : String) : String :=
  match (name.toList.reverse.dropWhile (· ≠ '.')).drop 1 with
  | [] => name
  | reversed => String.ofList reversed.reverse

def isValidAssistantName (name : String) : Bool :=
  name ≠ "" ∧ (utf8Bytes name).length ≤ 64 ∧
    (utf8Bytes name).all fun b => isAsciiAlphanumeric b || b == 45 || b == 95

section Files

variable (parse : String → Except String Assistant)

/-- `fs::read_to_string` in the directory. -/
def readToString (dir : AssistantDir) (fileName : String) : Except String String :=
  match dir.lookup fileName with
  | some content => content
  | none => .error "No such file or directory (os error 2)"

def load (dir : AssistantDir) (name : String) : Except String Assistant := do
  if !isValidAssistantName name then
    throw s!"Ungültiger Assistenten-Name '{name}'"
  let text ← (readToString dir (name ++ "." ++ "json")).mapError fun e =>
    s!"Assistent '{name}' nicht lesbar: {e}"
  let assistant ← (parse text).mapError fun e => s!"Assistent '{name}' ungültig: {e}"
  pure (if assistant.name = "" then { assistant with name } else assistant)

/-- What `list` reads of one entry. -/
def listEntry (dir : AssistantDir) (fileName : String) : Option Assistant :=
  if extension fileName = some "json" then (load parse dir (fileStem fileName)).toOption else none

/-- The assistants of a directory that can be read. -/
def listDir (dir : AssistantDir) : List Assistant :=
  sortBy Assistant.name (dir.keys.filterMap (listEntry parse dir))

def list (root : Except ReadDirError AssistantDir) : Except String (List Assistant) :=
  match root with
  | .ok dir => .ok (listDir parse dir)
  | .error .notFound => .ok []
  | .error (.other reason) => .error s!"Assistenten-Verzeichnis nicht lesbar: {reason}"

def get (assistants : List Assistant) (name : String) : Option Assistant :=
  assistants.find? fun assistant => assistant.name = name

end Files

/-! ## Requests -/

section Requests

variable (number : UInt32 → Json)

def isSystem (message : Json) : Bool := (message.get "role").bind Json.asStr = some "system"

def systemMessage (assistant : Assistant) : Json :=
  .object [("role", .string "system"), ("content", .string assistant.systemPrompt)]

/-- The messages of a request under an assistant. -/
def applyMessages (assistant : Assistant) (messages : List Json) : List Json :=
  systemMessage assistant :: messages.filter fun message => !isSystem message

/-- The prompt of an assistant, in a request whose messages are an array. -/
def withPrompt (assistant : Assistant) (fields : Fields) : Fields :=
  if assistant.systemPrompt = "" then fields
  else
    match fields.lookup "messages" with
    | some (.array messages) =>
        fields.insert "messages" (.array (applyMessages assistant messages))
    | _ => fields

/-- `apply` on the fields of a request. -/
def applyFields (assistant : Assistant) (fields : Fields) : Fields :=
  let fields := (withPrompt assistant fields).insert "temperature" (number assistant.temperature)
  match assistant.model with
  | some model => fields.insert "model" (.string model)
  | none => fields

def apply (assistant : Assistant) (body : Json) : Json :=
  match body with
  | .object fields => .object (applyFields number assistant fields)
  | other => other

end Requests

variable {parse : String → Except String Assistant} {number : UInt32 → Json}

/-! ## Names of files -/

/-- A name with an extension is its stem and the extension. -/
theorem eq_of_extension {name last : String} (found : extension name = some last) :
    name = fileStem name ++ "." ++ last := by
  unfold extension at found
  by_cases parent : name = ".."
  · rw [if_pos parent] at found
    cases found
  rw [if_neg parent] at found
  have whole : name.toList.reverse.takeWhile (· ≠ '.') ++ name.toList.reverse.dropWhile (· ≠ '.') =
      name.toList.reverse := List.takeWhile_append_dropWhile
  cases behind : name.toList.reverse.dropWhile (· ≠ '.') with
  | nil =>
      rw [behind] at found
      cases found
  | cons dot rest =>
      rw [behind] at found whole
      cases rest with
      | nil => cases found
      | cons c rest =>
          have isDot : dot = '.' := by
            have stops := List.head?_dropWhile_not (fun c => decide (c ≠ '.')) name.toList.reverse
            rw [behind] at stops
            simpa using stops
          obtain rfl := Option.some.inj found
          have stem : fileStem name = String.ofList (c :: rest).reverse := by
            unfold fileStem
            rw [behind]
            rfl
          have backwards := congrArg List.reverse whole
          rw [List.reverse_reverse, isDot] at backwards
          exact String.toList_inj.mp (backwards.symm.trans (by rw [stem]; simp))

theorem fileStem_append {name last : String} (nonempty : name ≠ "") (noDot : '.' ∉ last.toList)
    (visible : last ≠ "") : fileStem (name ++ "." ++ last) = name := by
  have whole := eq_of_extension (extension_append nonempty noDot visible)
  have characters := congrArg String.toList whole
  simp only [String.toList_append, List.append_assoc] at characters
  exact (String.toList_inj.mp (List.append_cancel_right characters)).symm

/-! ## Listing and loading -/

theorem nonempty_of_load {dir : AssistantDir} {name : String} {assistant : Assistant}
    (loaded : load parse dir name = .ok assistant) : name ≠ "" := by
  rintro rfl
  unfold load at loaded
  have invalid : isValidAssistantName "" = false := rfl
  rw [invalid] at loaded
  cases loaded

/-- What is loaded is a file of the directory. -/
theorem mem_keys_of_load {dir : AssistantDir} {name : String} {assistant : Assistant}
    (loaded : load parse dir name = .ok assistant) : name ++ "." ++ "json" ∈ dir.keys := by
  unfold load at loaded
  by_contra absent
  have missing : dir.lookup (name ++ "." ++ "json") = none := AList.lookup_eq_none.mpr absent
  simp only [readToString, missing] at loaded
  by_cases valid : isValidAssistantName name = true
  · simp [valid, bind, Except.bind, Except.mapError] at loaded
  · simp [valid, bind, Except.bind] at loaded

/-- The list holds what can be loaded. -/
theorem mem_listDir {dir : AssistantDir} {assistant : Assistant} :
    assistant ∈ listDir parse dir ↔ ∃ name, load parse dir name = .ok assistant := by
  unfold listDir
  rw [(sortBy_perm _).mem_iff, List.mem_filterMap]
  constructor
  · intro listed
    obtain ⟨fileName, _, reads⟩ := listed
    unfold listEntry at reads
    by_cases isJson : extension fileName = some "json"
    · rw [if_pos isJson] at reads
      refine ⟨fileStem fileName, ?_⟩
      cases loaded : load parse dir (fileStem fileName) with
      | error reason =>
          rw [loaded] at reads
          cases reads
      | ok found =>
          rw [loaded] at reads
          exact congrArg Except.ok (Option.some.inj reads)
    · rw [if_neg isJson] at reads
      cases reads
  · intro loads
    obtain ⟨name, loaded⟩ := loads
    have nonempty := nonempty_of_load loaded
    refine ⟨name ++ "." ++ "json", mem_keys_of_load loaded, ?_⟩
    unfold listEntry
    rw [extension_append nonempty (by decide) (by decide), if_pos rfl,
      fileStem_append nonempty (by decide) (by decide), loaded]
    rfl

theorem listEntry_perm {other dir : AssistantDir} (perm : other.entries.Perm dir.entries) :
    listEntry parse other = listEntry parse dir := by
  have reads : readToString other = readToString dir := by
    funext fileName
    unfold readToString
    rw [AList.perm_lookup perm]
  funext fileName
  unfold listEntry load
  rw [reads]

/-- The list does not depend on the order of the directory exactly if no two different assistants
that can be loaded have one name. -/
theorem list_orderFree_iff (parse : String → Except String Assistant) (dir : AssistantDir) :
    (∀ other : AssistantDir, other.entries.Perm dir.entries →
        list parse (.ok other) = list parse (.ok dir)) ↔
      ∀ firstFile secondFile first second, load parse dir firstFile = .ok first →
        load parse dir secondFile = .ok second → first.name = second.name → first = second := by
  have entries : ∀ other : AssistantDir, other.entries.Perm dir.entries →
      list parse (.ok other) =
        .ok (sortBy Assistant.name
          (other.entries.filterMap fun entry => listEntry parse dir entry.1)) := by
    intro other perm
    show Except.ok (listDir parse other) = _
    unfold listDir
    rw [listEntry_perm perm, AList.keys, List.keys, List.filterMap_map]
    rfl
  have ownEntries := entries dir (List.Perm.refl _)
  have sorted := sortBy_filterMap_iff Assistant.name
    (fun entry : Sigma fun _ : String => Except String String => listEntry parse dir entry.1)
    dir.entries
  have members : ∀ assistant,
      assistant ∈ dir.entries.filterMap (fun entry => listEntry parse dir entry.1) ↔
        ∃ name, load parse dir name = .ok assistant := by
    intro assistant
    have isList : listDir parse dir = _ := Except.ok.inj ownEntries
    rw [← mem_listDir, isList, (sortBy_perm _).mem_iff]
  constructor
  · intro orderFree firstFile secondFile first second loadsFirst loadsSecond
    refine sorted.mp ?_ first ((members first).mpr ⟨firstFile, loadsFirst⟩) second
      ((members second).mpr ⟨secondFile, loadsSecond⟩)
    intro others perm
    have same := orderFree ⟨others, (List.perm_nodupKeys perm).mpr dir.nodupKeys⟩ perm
    rw [entries _ perm, ownEntries] at same
    exact Except.ok.inj same
  · intro distinct other perm
    rw [entries other perm, ownEntries]
    refine congrArg Except.ok (sorted.mpr ?_ other.entries perm)
    intro first inFirst second inSecond
    obtain ⟨firstFile, loadsFirst⟩ := (members first).mp inFirst
    obtain ⟨secondFile, loadsSecond⟩ := (members second).mp inSecond
    exact distinct firstFile secondFile first second loadsFirst loadsSecond

/-- Looking an assistant up in the list gives what loading it by its name does, for every name,
exactly if every assistant that can be loaded bears the name of its file. -/
theorem get_listDir_iff (parse : String → Except String Assistant) (dir : AssistantDir) :
    (∀ name, get (listDir parse dir) name = (load parse dir name).toOption) ↔
      ∀ name assistant, load parse dir name = .ok assistant → assistant.name = name := by
  constructor
  · intro agrees name assistant loaded
    have found := agrees name
    rw [loaded] at found
    simpa using List.find?_some found
  · intro named name
    cases loaded : load parse dir name with
    | error reason =>
        refine List.find?_eq_none.mpr fun other listed => ?_
        obtain ⟨file, loadsOther⟩ := mem_listDir.mp listed
        intro same
        have isFile := named file other loadsOther
        have sameName : other.name = name := by simpa using same
        rw [← isFile, sameName, loaded] at loadsOther
        cases loadsOther
    | ok assistant =>
        have listed : assistant ∈ listDir parse dir := mem_listDir.mpr ⟨name, loaded⟩
        have isNamed := named name assistant loaded
        cases found : get (listDir parse dir) name with
        | none =>
            have unlike := List.find?_eq_none.mp found assistant listed
            simp [isNamed] at unlike
        | some other =>
            obtain ⟨file, loadsOther⟩ := mem_listDir.mp (List.mem_of_find?_eq_some found)
            have sameName : other.name = name := by simpa using List.find?_some found
            rw [← named file other loadsOther, sameName, loaded] at loadsOther
            rw [Except.ok.inj loadsOther]
            rfl

/-! ## Assistants one after the other -/

/-- The messages of a request that are not from the system. -/
def talkOf (fields : Fields) : Option (List Json) :=
  ((fields.lookup "messages").bind Json.asArray).map fun messages =>
    messages.filter fun message => !isSystem message

theorem isSystem_systemMessage (assistant : Assistant) :
    isSystem (systemMessage assistant) = true := by
  simp [isSystem, systemMessage, Json.asStr]

theorem lookup_withPrompt_of_ne {assistant : Assistant} {fields : Fields} {key : String}
    (other : key ≠ "messages") : (withPrompt assistant fields).lookup key = fields.lookup key := by
  unfold withPrompt
  by_cases empty : assistant.systemPrompt = ""
  · rw [if_pos empty]
  · rw [if_neg empty]
    split
    · exact Fields.lookup_insert_of_ne other
    · rfl

/-- The messages of a request under the prompt of an assistant. -/
def promptedMessages (assistant : Assistant) (fields : Fields) : Option Json :=
  (talkOf fields).elim (fields.lookup "messages") fun talk =>
    some (.array (systemMessage assistant :: talk))

theorem lookup_withPrompt {assistant : Assistant} (fields : Fields)
    (prompted : assistant.systemPrompt ≠ "") :
    (withPrompt assistant fields).lookup "messages" = promptedMessages assistant fields := by
  unfold withPrompt promptedMessages talkOf
  rw [if_neg prompted]
  cases found : fields.lookup "messages" with
  | none => simp [found]
  | some messages =>
      cases messages with
      | array messages => simp [Json.asArray, applyMessages]
      | null | bool value | number value | string value | object value =>
          simp [found, Json.asArray]

theorem lookup_applyFields {assistant : Assistant} {fields : Fields} {key : String}
    (temperature : key ≠ "temperature") (model : key ≠ "model") :
    (applyFields number assistant fields).lookup key =
      (withPrompt assistant fields).lookup key := by
  unfold applyFields
  cases assistant.model with
  | none => exact Fields.lookup_insert_of_ne temperature
  | some name =>
      dsimp only
      rw [Fields.lookup_insert_of_ne model, Fields.lookup_insert_of_ne temperature]

theorem lookup_temperature (assistant : Assistant) (fields : Fields) :
    (applyFields number assistant fields).lookup "temperature" =
      some (number assistant.temperature) := by
  unfold applyFields
  cases assistant.model with
  | none => exact Fields.lookup_insert_self
  | some name =>
      dsimp only
      rw [Fields.lookup_insert_of_ne (by decide), Fields.lookup_insert_self]

theorem lookup_model {assistant : Assistant} {model : String} (fields : Fields)
    (chosen : assistant.model = some model) :
    (applyFields number assistant fields).lookup "model" = some (.string model) := by
  unfold applyFields
  rw [chosen]
  exact Fields.lookup_insert_self

/-- An assistant leaves what is not from the system. -/
theorem talkOf_applyFields (assistant : Assistant) (fields : Fields) :
    talkOf (applyFields number assistant fields) = talkOf fields := by
  have messages : (applyFields number assistant fields).lookup "messages" =
      (withPrompt assistant fields).lookup "messages" :=
    lookup_applyFields (by decide) (by decide)
  by_cases empty : assistant.systemPrompt = ""
  · unfold talkOf
    rw [messages, withPrompt, if_pos empty]
  · rw [lookup_withPrompt fields empty, promptedMessages] at messages
    cases talks : talkOf fields with
    | none =>
        rw [talks] at messages
        rw [← talks]
        unfold talkOf
        rw [messages]
        rfl
    | some talk =>
        rw [talks] at messages
        unfold talkOf at talks ⊢
        rw [messages]
        obtain ⟨all, _, rfl⟩ := Option.map_eq_some_iff.mp talks
        simp [Json.asArray, isSystem_systemMessage]

/-- An assistant changes nothing of the messages under a later one. -/
theorem promptedMessages_applyFields (last assistant : Assistant) (fields : Fields) :
    promptedMessages last (applyFields number assistant fields) = promptedMessages last fields := by
  unfold promptedMessages
  rw [talkOf_applyFields]
  cases noTalk : talkOf fields with
  | some talk => rfl
  | none =>
      show (applyFields number assistant fields).lookup "messages" = fields.lookup "messages"
      rw [lookup_applyFields (by decide) (by decide)]
      by_cases empty : assistant.systemPrompt = ""
      · rw [withPrompt, if_pos empty]
      · rw [lookup_withPrompt fields empty, promptedMessages, noTalk]
        rfl

section Chain

variable (number) (earlier : List Assistant) (fields : Fields)

/-- The fields of a request after several assistants. -/
def applyAll : Fields :=
  earlier.foldl (fun fields assistant => applyFields number assistant fields) fields

theorem foldl_apply :
    earlier.foldl (fun body assistant => apply number assistant body) (.object fields) =
      .object (applyAll number earlier fields) := by
  unfold applyAll
  induction earlier generalizing fields with
  | nil => rfl
  | cons assistant earlier inductionHypothesis => exact inductionHypothesis _

/-- What one assistant leaves, several leave. -/
theorem applyAll_keeps {Content : Type} (read : Fields → Content)
    (keeps : ∀ assistant fields, read (applyFields number assistant fields) = read fields) :
    read (applyAll number earlier fields) = read fields := by
  unfold applyAll
  induction earlier generalizing fields with
  | nil => rfl
  | cons assistant earlier inductionHypothesis =>
      rw [List.foldl_cons, inductionHypothesis, keeps]

end Chain

/-- Of the assistants applied to a request one after the other the last one holds: in a request
whose messages are an array its prompt is the only message from the system and stands before the
others; its temperature and its model are set, and every other field is as it was. -/
theorem apply_last (number : UInt32 → Json) (earlier : List Assistant) (last : Assistant)
    (fields : Fields) :
    let applied := apply number last
      (earlier.foldl (fun body assistant => apply number assistant body) (.object fields))
    (last.systemPrompt ≠ "" → applied.get "messages" =
        (talkOf fields).elim (fields.lookup "messages") fun talk =>
          some (.array (systemMessage last :: talk))) ∧
      applied.get "temperature" = some (number last.temperature) ∧
      (∀ model, last.model = some model → applied.get "model" = some (.string model)) ∧
      ∀ key, key ≠ "messages" → key ≠ "temperature" → key ≠ "model" →
        applied.get key = fields.lookup key := by
  intro applied
  have isApplied :
      applied = .object (applyFields number last (applyAll number earlier fields)) := by
    show apply number last (earlier.foldl _ _) = _
    rw [foldl_apply]
    rfl
  rw [isApplied]
  refine ⟨?_, lookup_temperature last _, fun model chosen => lookup_model _ chosen, ?_⟩
  · intro prompted
    rw [Json.get_object, lookup_applyFields (by decide) (by decide), lookup_withPrompt _ prompted]
    exact applyAll_keeps number earlier fields (promptedMessages last)
      (promptedMessages_applyFields last)
  · intro key messages temperature model
    have keeps : ∀ (assistant : Assistant) (fields : Fields),
        (applyFields number assistant fields).lookup key = fields.lookup key := by
      intro assistant fields
      rw [lookup_applyFields temperature model, lookup_withPrompt_of_ne messages]
    rw [Json.get_object, keeps]
    exact applyAll_keeps number earlier fields (fun fields => fields.lookup key) keeps

end TriAI.Assistants
