import TriAI.Coding.Edits
import TriAI.Coding.ProjectReads

/-!
Contract: what the writing tools of a project write (`coding_tools.rs`).

Owns: `write_file` and `patch_file`, call by call, with the paths that they use.

Does not own: `safe_relative_path` (`Coding.ProjectPaths`), the text of a patch, and where the
calls write (`Coding.WriteConfinement`). `Coding.Edits` has the same calls over the places that
the paths arrive at.
-/

set_option autoImplicit false

namespace TriAI.Coding

open TriAI.Library
open TriAI.Library.Interaction
open TriAI.Library.LinkTree
open TriAI.Library.LinkTree.Tree
open TriAI.Library.TextLines

/-! ## Calls -/

inductive WriteOp where
  | createDirAll (path : TreePath)
  | readToString (path : TreePath)
  /-- `File::create`; an open file is the place that it has in the tree. -/
  | create (path : TreePath)
  /-- `write_all` through an open file, from its start. -/
  | writeAll (file : TreePlace) (bytes : List UInt8)
  | rename (source target : TreePath)

@[reducible] def WriteOp.Reply : WriteOp → Type
  | .readToString _ => Except String String
  | .create _ => Except String TreePlace
  | .createDirAll _ | .writeAll _ _ | .rename _ _ => Except String Unit

abbrev Writes (α : Type) : Type := Fallible ToolFailure WriteOp WriteOp.Reply α

namespace Writes

def createDirAll (context : String) (path : TreePath) : Writes Unit :=
  Fallible.attempt (fun error => .message (context ++ error))
    (Prog.perform (WriteOp.createDirAll path))

def readToString (context : String) (path : TreePath) : Writes String :=
  Fallible.attempt (fun error => .message (context ++ error))
    (Prog.perform (WriteOp.readToString path))

def create (context : String) (path : TreePath) : Writes TreePlace :=
  Fallible.attempt (fun error => .message (context ++ error)) (Prog.perform (WriteOp.create path))

def writeAll (context : String) (file : TreePlace) (bytes : List UInt8) : Writes Unit :=
  Fallible.attempt (fun error => .message (context ++ error))
    (Prog.perform (WriteOp.writeAll file bytes))

def rename (context : String) (source target : TreePath) : Writes Unit :=
  Fallible.attempt (fun error => .message (context ++ error))
    (Prog.perform (WriteOp.rename source target))

/-- A pure step that may fail. -/
def ofExcept {α : Type} (result : Except ToolFailure α) : Writes α := ExceptT.mk (.ret result)

end Writes

/-! ## The tools -/

/-- `Path::file_stem` of a name: what precedes its last dot, unless that is its first byte. -/
def stemOf (name : FileName) : FileName :=
  match (name.reverse.dropWhile (· ≠ 46)).tail.reverse with
  | [] => name
  | front => front

/-- The name of the temporary, with the number of the process. -/
def temporaryName (process : UInt32) (name : FileName) : FileName :=
  stemOf name ++ utf8Bytes (".tmp" ++ toString process.toNat)

/-- `with_extension`. The root of the tree has no name and stays what it is. -/
def temporaryPath (process : UInt32) (path : TreePath) : TreePath :=
  match path.getLast? with
  | some (.name name) => path.dropLast ++ [.name (temporaryName process name)]
  | _ => path

namespace Writes

/-- The part that both tools end with: the temporary is written and becomes the target. `flush`
of a file does nothing. -/
def replaceTarget (tool : String) (process : UInt32) (path : TreePath) (content : List UInt8) :
    Writes Unit := do
  let file ← create s!"{tool}: Datei nicht anlegbar: " (temporaryPath process path)
  writeAll s!"{tool}: Schreiben fehlgeschlagen: " file content
  rename s!"{tool}: Umbenennen fehlgeschlagen: " (temporaryPath process path) path

/-- The directory of the target; the root of the tree has none. -/
def makeParent (path : TreePath) : Writes Unit :=
  if path = [] then pure ()
  else createDirAll "write_file: Verzeichnis nicht anlegbar: " path.dropLast

/-- `write_file`. -/
def writeFile (process : UInt32) (tree : LinkedTree) (projectRoot : TreePath)
    (path content : Option String) : Writes Json := do
  let rel ← ofExcept (requiredStr "path" path)
  let content ← ofExcept (requiredStr "content" content)
  let path ← ofExcept (safePath tree projectRoot rel)
  makeParent path
  replaceTarget "write_file" process path (utf8Bytes content)
  return .object [("path", .string rel),
    ("bytes_written", .number (.posInt (UInt64.ofNat content.utf8ByteSize)))]

/-- `patch_file`. -/
def patchFile (process : UInt32) (tree : LinkedTree) (projectRoot : TreePath)
    (path old new : Option String) : Writes Json := do
  let rel ← ofExcept (requiredStr "path" path)
  let old ← ofExcept (requiredStr "old" old)
  let new ← ofExcept (requiredStr "new" new)
  let path ← ofExcept (safePath tree projectRoot rel)
  let data ← readToString "patch_file: Datei nicht lesbar: " path
  let patched ← ofExcept ((patch data old new).mapError .message)
  replaceTarget "patch_file" process path (utf8Bytes patched)
  return .object [("path", .string rel), ("replaced", .number (.posInt 1))]

end Writes

/-- A call of a writing tool with its arguments. -/
inductive WriteCall where
  | writeFile (path content : Option String)
  | patchFile (path old new : Option String)

def WriteCall.run (process : UInt32) (tree : LinkedTree) (projectRoot : TreePath) :
    WriteCall → Writes Json
  | .writeFile path content => Writes.writeFile process tree projectRoot path content
  | .patchFile path old new => Writes.patchFile process tree projectRoot path old new

end TriAI.Coding
