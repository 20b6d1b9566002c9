import TriAI.Chat.Prompt
import TriAI.Coding.ProjectPaths
import TriAI.Coding.ToolOutput
import TriAI.Library.Fallible

/-!
Contract: what the reading tools of a project read (`coding_tools.rs`).

Owns: `read_file`, `list_files` and `search_files` with `walk`, `search` and `scan_file`, call
by call.

Does not own: `safe_relative_path` (`Coding.ProjectPaths`), the cut of `read_file`
(`Coding.ToolOutput`), and where the calls lead (`Coding.ReadConfinement`).
-/

set_option autoImplicit false

namespace TriAI.Coding

open TriAI.Chat (contains trimEnd trimStart)
open TriAI.Library
open TriAI.Library.Interaction
open TriAI.Library.LinkTree
open TriAI.Library.LinkTree.Tree
open TriAI.Library.TextLines

/-! ## Calls -/

inductive ReadOp where
  /-- `Path::is_dir`. -/
  | isDir (path : TreePath)
  /-- `fs::read_dir` with the names of its entries. -/
  | readDir (path : TreePath)
  /-- `fs::read_to_string`. -/
  | readToString (path : TreePath)

@[reducible] def ReadOp.Reply : ReadOp → Type
  | .isDir _ => Bool
  | .readDir _ => Except String (List FileName)
  | .readToString _ => Except String String

abbrev Reads (α : Type) : Type := Fallible ToolFailure ReadOp ReadOp.Reply α

namespace Reads

def isDir (path : TreePath) : Reads Bool := ExceptT.lift (Prog.perform (ReadOp.isDir path))

def readDir (context : String) (path : TreePath) : Reads (List FileName) :=
  Fallible.attempt (fun error => .message (context ++ error)) (Prog.perform (ReadOp.readDir path))

/-- A read whose error is seen as it is. -/
def readToString (path : TreePath) : Reads (Except String String) :=
  ExceptT.lift (Prog.perform (ReadOp.readToString path))

/-- A pure step that may fail. -/
def ofExcept {α : Type} (result : Except ToolFailure α) : Reads α := ExceptT.mk (.ret result)

end Reads

/-! ## The tools -/

/-- `required_str`. -/
def requiredStr (key : String) (value : Option String) : Except ToolFailure String :=
  match value.filter (· ≠ "") with
  | none => .error (.message s!"{key} muss ein nicht leerer String sein")
  | some text => .ok text

/-- The argument `dir`, which is the project if it is missing or empty. -/
def dirArgument (dir : Option String) : String := (dir.filter (· ≠ "")).getD "."

def safePath (tree : LinkedTree) (projectRoot : TreePath) (raw : String) :
    Except ToolFailure TreePath :=
  (safeRelativePath tree projectRoot raw).mapError .message

def maxListEntries : Nat := 200

/-- How deep the directories below the first one are listed. -/
def maxDepth : Nat := 8

/-- The entries that are passed over. -/
def isSkipped (name : FileName) : Bool :=
  name == utf8Bytes ".git" || name == utf8Bytes "target" || name == utf8Bytes "node_modules"

/-- `read_file`. -/
def readFile (tree : LinkedTree) (projectRoot : TreePath) (path : Option String) : Reads Json := do
  let rel ← Reads.ofExcept (requiredStr "path" path)
  let path ← Reads.ofExcept (safePath tree projectRoot rel)
  let data ← Reads.readToString path
  Reads.ofExcept (readFileResult rel data)

/-- What `walk` does with an entry; `enter` walks a directory. -/
def walkEntry (enter : TreePath → List TreePath → Reads (List TreePath)) (base : TreePath)
    (out : List TreePath) (name : FileName) : Reads (List TreePath) :=
  if isSkipped name then pure out
  else do
    let path := base ++ [.name name]
    let isDir ← Reads.isDir path
    if isDir then enter path (out ++ [path]) else pure (out ++ [path])

/-- `walk`, where so many levels are left. -/
def walk : Nat → TreePath → List TreePath → Reads (List TreePath)
  | 0, _, out => pure out
  | levels + 1, base, out => do
      let names ← Reads.readDir "list_files: nicht lesbar: " base
      names.foldlM (walkEntry (walk levels) base) out

theorem walk_succ (levels : Nat) (base : TreePath) (out : List TreePath) :
    walk (levels + 1) base out =
      Reads.readDir "list_files: nicht lesbar: " base >>= fun names =>
        names.foldlM (walkEntry (walk levels) base) out := rfl

def segmentBytes : Segment FileName → FileName
  | .name name => name
  | .parent => parentDir

/-- A path below `base`, as a text. -/
def relativeText (base path : TreePath) : String :=
  fromUtf8Lossy (List.intercalate [slash] ((path.drop base.length).map segmentBytes))

/-- `list_files`. -/
def listFiles (tree : LinkedTree) (projectRoot : TreePath) (dir : Option String) : Reads Json := do
  let base ← Reads.ofExcept (safePath tree projectRoot (dirArgument dir))
  let entries ← walk (maxDepth + 1) base []
  let files := (entries.take maxListEntries).map (relativeText base)
  return .object [("dir", .string (dirArgument dir)),
    ("count", .number (.posInt (UInt64.ofNat files.length))),
    ("files", .array (files.map .string))]

/-- A line that was found. -/
structure Hit where
  file : String
  line : Nat
  text : String

/-- The lines with the query, from line `number` on. -/
def scanLines (file query : String) : Nat → List String → List Hit → List Hit
  | _, [], out => out
  | number, line :: rest, out =>
      if contains line query then
        let text := String.ofList ((trimStart (trimEnd line)).toList.take 240)
        let hits := out ++ [{ file, line := number, text }]
        if maxListEntries ≤ hits.length then hits else scanLines file query (number + 1) rest hits
      else scanLines file query (number + 1) rest out

/-- `scan_file`. A file that is no text is passed over. -/
def scanFile (path : TreePath) (name : FileName) (query : String) (out : List Hit) :
    Reads (List Hit) := do
  let data ← Reads.readToString path
  match data with
  | .error _ => pure out
  | .ok data => pure (scanLines (fromUtf8Lossy name) query 1 (lines data) out)

/-- `Path::extension` of a name: what follows its last dot, unless that is its first byte. -/
def extensionOf (name : FileName) : Option FileName :=
  match (name.reverse.dropWhile (· ≠ 46)).tail with
  | [] => none
  | _ => some (name.reverse.takeWhile (· ≠ 46)).reverse

/-- A file that is searched: with an extension given, only files that have it. -/
def Wanted (extension : Option String) (name : FileName) : Prop :=
  ∀ ext, extension = some ext → extensionOf name = some (utf8Bytes ext)

instance (extension : Option String) (name : FileName) : Decidable (Wanted extension name) :=
  match extension with
  | none => isTrue fun _ same => by cases same
  | some ext => decidable_of_iff (extensionOf name = some (utf8Bytes ext))
      ⟨fun has _ same => Option.some.inj same ▸ has, fun wanted => wanted ext rfl⟩

/-- What `search` does with an entry; `enter` searches a directory. -/
def searchEntry (query : String) (extension : Option String)
    (enter : TreePath → List Hit → Reads (List Hit)) (base : TreePath) (out : List Hit)
    (name : FileName) : Reads (List Hit) :=
  if isSkipped name then pure out
  else do
    let path := base ++ [.name name]
    let isDir ← Reads.isDir path
    if isDir then enter path out
    else if Wanted extension name then scanFile path name query out
    else pure out

/-- `search`, where so many levels are left. -/
def search (query : String) (extension : Option String) :
    Nat → TreePath → List Hit → Reads (List Hit)
  | 0, _, out => pure out
  | levels + 1, base, out =>
      if maxListEntries ≤ out.length then pure out
      else do
        let names ← Reads.readDir "search_files: nicht lesbar: " base
        names.foldlM (searchEntry query extension (search query extension levels) base) out

theorem search_succ {query : String} {extension : Option String} {levels : Nat} {base : TreePath}
    {out : List Hit} (below : out.length < maxListEntries) :
    search query extension (levels + 1) base out =
      Reads.readDir "search_files: nicht lesbar: " base >>= fun names =>
        names.foldlM (searchEntry query extension (search query extension levels) base) out :=
  if_neg (Nat.not_le.mpr below)

theorem search_full {query : String} {extension : Option String} {levels : Nat} {base : TreePath}
    {out : List Hit} (full : maxListEntries ≤ out.length) :
    search query extension (levels + 1) base out = pure out := if_pos full

def Hit.json (hit : Hit) : Json :=
  .object [("file", .string hit.file), ("line", .number (.posInt (UInt64.ofNat hit.line))),
    ("text", .string hit.text)]

/-- `search_files`. -/
def searchFiles (tree : LinkedTree) (projectRoot : TreePath) (query dir extension : Option String) :
    Reads Json := do
  let query ← Reads.ofExcept (requiredStr "query" query)
  let base ← Reads.ofExcept (safePath tree projectRoot (dirArgument dir))
  let hits ← search query (extension.filter (· ≠ "")) (maxDepth + 1) base []
  let results := hits.take maxListEntries
  return .object [("query", .string query),
    ("count", .number (.posInt (UInt64.ofNat results.length))),
    ("results", .array (results.map Hit.json))]

/-- A call of a reading tool with its arguments. -/
inductive ReadCall where
  | readFile (path : Option String)
  | listFiles (dir : Option String)
  | searchFiles (query dir extension : Option String)

def ReadCall.run (tree : LinkedTree) (projectRoot : TreePath) : ReadCall → Reads Json
  | .readFile path => Coding.readFile tree projectRoot path
  | .listFiles dir => Coding.listFiles tree projectRoot dir
  | .searchFiles query dir extension => Coding.searchFiles tree projectRoot query dir extension

end TriAI.Coding
