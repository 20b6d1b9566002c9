import TriAI.Library.Interaction
import TriAI.Library.OpenFiles
import TriAI.Library.TextLines

/-!
Contract: the tools that change files of a project (`coding_tools.rs`).

Owns: `write_file` and `patch_file`, call by call, with the temporary beside the target; and
the interleavings of any number of them.

Does not own: `safe_relative_path`, of which only the outcome is seen, the directory and the
name that it arrives at; and directories, which may be made but do not change the files.
-/

set_option autoImplicit false

namespace TriAI.Coding

open TriAI.Library
open TriAI.Library.Interaction
open TriAI.Library.TextLines

/-- A name in a directory. -/
structure Place (Dir : Type) where
  directory : Dir
  name : String
deriving DecidableEq

/-- `Path::with_extension` on the last part of a path: what follows its last dot is
replaced, unless that dot is its first character. -/
def withExtension (name extension : String) : String :=
  let stem := match (name.toList.reverse.dropWhile (· ≠ '.')).tail.reverse with
    | [] => name
    | front => String.ofList front
  stem ++ "." ++ extension

/-- The temporary of a target, with the number of the process. -/
def Place.temporary {Dir : Type} (target : Place Dir) (process : UInt32) : Place Dir :=
  { target with name := withExtension target.name ("tmp" ++ toString process.toNat) }

/-- What a tool does with its target. -/
inductive EditKind where
  | writeFile (content : String)
  | patchFile (old new : String)

/-- A call of a tool and the target that its path leads to. -/
structure Edit (Dir : Type) where
  target : Place Dir
  kind : EditKind

inductive EditOp (Dir : Type) where
  /-- `safe_relative_path`. -/
  | resolve (target : Place Dir)
  | createDirAll (directory : Dir)
  | readToString (place : Place Dir)
  /-- `File::create`. -/
  | create (place : Place Dir)
  /-- `write_all` through an open file, from its start. -/
  | writeAll (file : Nat) (bytes : List UInt8)
  | rename (source target : Place Dir)

@[reducible] def EditOp.Reply {Dir : Type} : EditOp Dir → Type
  | .readToString _ => Except String String
  | .create _ => Except String Nat
  | .resolve _ | .createDirAll _ | .writeAll _ _ | .rename _ _ => Except String Unit

/-- The calls of an edit with their replies. -/
abbrev EditTrace (Dir : Type) : Type := List (Event (EditOp Dir) EditOp.Reply)

section Programs

variable {Dir : Type}

abbrev EditProg (Dir α : Type) : Type := Prog (EditOp Dir) EditOp.Reply α

/-- The result of an edit: the bytes that it put into its target. -/
abbrev EditResult : Type := Except String (List UInt8)

/-- The part that both tools end with: the temporary is written and becomes the target.
`flush` of a file does nothing. -/
def replaceTarget (tool : String) (process : UInt32) (target : Place Dir) (content : List UInt8) :
    EditProg Dir EditResult := do
  let created : Except String Nat ← Prog.perform (EditOp.create (target.temporary process))
  match created with
  | .error error => pure (.error s!"{tool}: Datei nicht anlegbar: {error}")
  | .ok file => do
      let written : Except String Unit ← Prog.perform (EditOp.writeAll file content)
      match written with
      | .error error => pure (.error s!"{tool}: Schreiben fehlgeschlagen: {error}")
      | .ok () => do
          let renamed : Except String Unit ←
            Prog.perform (EditOp.rename (target.temporary process) target)
          match renamed with
          | .error error => pure (.error s!"{tool}: Umbenennen fehlgeschlagen: {error}")
          | .ok () => pure (.ok content)

/-- `write_file`. -/
def writeFile (process : UInt32) (target : Place Dir) (content : String) :
    EditProg Dir EditResult := do
  let resolved : Except String Unit ← Prog.perform (EditOp.resolve target)
  match resolved with
  | .error error => pure (.error error)
  | .ok () => do
      let made : Except String Unit ← Prog.perform (EditOp.createDirAll target.directory)
      match made with
      | .error error => pure (.error s!"write_file: Verzeichnis nicht anlegbar: {error}")
      | .ok () => replaceTarget "write_file" process target (utf8Bytes content)

/-- How often a text occurs in another, from left to right without overlap. -/
def occurrences (data old : String) : Nat := (data.splitOn old).length - 1

/-- The text of a file with the one occurrence replaced. -/
def patch (data old new : String) : Except String String :=
  if occurrences data old = 0 then .error "patch_file: alte Zeichenkette nicht gefunden"
  else if 1 < occurrences data old then
    .error s!"patch_file: Zeichenkette kommt {occurrences data old}× vor — genauer angeben"
  else .ok (new.intercalate (data.splitOn old))

/-- `patch_file`. -/
def patchFile (process : UInt32) (target : Place Dir) (old new : String) :
    EditProg Dir EditResult := do
  let resolved : Except String Unit ← Prog.perform (EditOp.resolve target)
  match resolved with
  | .error error => pure (.error error)
  | .ok () => do
      let read : Except String String ← Prog.perform (EditOp.readToString target)
      match read with
      | .error error => pure (.error s!"patch_file: Datei nicht lesbar: {error}")
      | .ok data =>
          match patch data old new with
          | .error error => pure (.error error)
          | .ok patched => replaceTarget "patch_file" process target (utf8Bytes patched)

def Edit.run (edit : Edit Dir) (process : UInt32) : EditProg Dir EditResult :=
  match edit.kind with
  | .writeFile content => writeFile process edit.target content
  | .patchFile old new => patchFile process edit.target old new

end Programs

/-! ## Concurrent edits -/

section System

variable {Dir : Type} [DecidableEq Dir]

/-- What a call does to the files. A write starts at the first byte; one that fails may have
written any front of its bytes. -/
def EditAnswers (files : OpenFiles (Place Dir)) :
    (op : EditOp Dir) → op.Reply → OpenFiles (Place Dir) → Prop
  | .readToString place, .ok text, after => after = files ∧ files.Reads place (utf8Bytes text)
  | .create place, .ok file, after => files.Opens place true file after
  | .writeAll file bytes, .ok (), after =>
      after = files.setContent file (bytes ++ (files.contents file).drop bytes.length)
  | .writeAll file bytes, .error _, after =>
      ∃ front, front <+: bytes ∧
        after = files.setContent file (front ++ (files.contents file).drop front.length)
  | .rename source target, .ok (), after => files.Renames source target after
  | .resolve _, _, after | .createDirAll _, _, after | .readToString _, .error _, after
  | .create _, .error _, after | .rename _ _, .error _, after => after = files

/-- What a thread has to do and what has come of it. -/
inductive EditState (Dir : Type) where
  | notBegun (edit : Edit Dir)
  | ended (result : EditResult)

variable {Id : Type}

/-- Threads that each make one edit. -/
def editSystem (process : UInt32) :
    System Id (EditOp Dir) EditOp.Reply (EditState Dir) (OpenFiles (Place Dir)) where
  Offers := fun _ state program => ∃ edit, state = .notBegun edit ∧
    program = edit.run process >>= fun result => .ret (.ended result)
  Step := fun _ => EditAnswers
  Environment := fun _ _ => False

abbrev EditPool (Id Dir : Type) : Type :=
  Pool Id (EditOp Dir) EditOp.Reply (EditState Dir) (OpenFiles (Place Dir))

/-- No edit has begun. -/
def startOfEdits (edits : Id → Edit Dir) (files : OpenFiles (Place Dir)) : EditPool Id Dir where
  world := files
  activity := fun id => .resting (.notBegun (edits id))

/-- The bytes an edit is to put into its target: for a patch the text that it read, with its
one occurrence replaced. -/
def EditKind.Yields : EditKind → List UInt8 → Prop
  | .writeFile content, bytes => bytes = utf8Bytes content
  | .patchFile old new, bytes =>
      ∃ data patched, patch data old new = .ok patched ∧ bytes = utf8Bytes patched

/-- Every edit that has ended with success has its own content in its own target. -/
def OwnContents (edits : Id → Edit Dir) (pool : EditPool Id Dir) : Prop :=
  ∀ id bytes, pool.activity id = .resting (.ended (.ok bytes)) →
    (edits id).kind.Yields bytes ∧ pool.world.Reads (edits id).target bytes

end System

end TriAI.Coding
