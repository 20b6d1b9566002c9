import TriAI.FileSystem
import TriAI.Library.Interruption

/-!
Contract: the file calls of the staging store, the download and the session log.

Owns: `StoreOp`, one constructor for each such call, `StoreOp.apply`, what the call
does where only the state of the disk makes it fail, and the lookup laws of each
change to a disk.

Does not own: links, permissions and the clock. Only files are renamed.
-/

set_option autoImplicit false

namespace TriAI.Storage

open TriAI.Library.FileTree
open TriAI.Library.Interaction

/-- An `io::Error`: its kind, and its text where the source supplies one. -/
structure IoFailure where
  kind : IoError
  message : Option String := none
deriving DecidableEq, Repr

/-- The command `sha256sum`: the digits it prints for a content, and the characters
of a file name for which it marks its line by a leading backslash. -/
structure Sha256sum where
  hex : List UInt8 → String
  escapes : Char → Bool

/-- The first word `sha256sum path` prints. -/
def Sha256sum.digest (tool : Sha256sum) (path : Path) (content : List UInt8) : String :=
  if path.any fun component => component.toList.any tool.escapes then "\\" ++ tool.hex content
  else tool.hex content

/-- What is documented of the command. -/
structure Sha256sum.Lawful (tool : Sha256sum) : Prop where
  length : ∀ content, (tool.hex content).length = 64
  digits : ∀ content c, c ∈ (tool.hex content).toList → c.isDigit ∨ c ∈ "abcdef".toList
  escapes : ∀ c, tool.escapes c = true → c ∈ ['\\', '\n', '\r']

inductive StoreOp where
  | createDirAll (path : Path)
  /-- `create_new(true).write(true)`. -/
  | createNew (path : Path)
  /-- `create(true).append(true)`. -/
  | openAppend (path : Path)
  /-- `File::open`. -/
  | openRead (path : Path)
  /-- `append(true)` or `write(true)` alone. -/
  | openWrite (path : Path)
  /-- `File::create`. -/
  | create (path : Path)
  /-- `write_all` at the end of an open file. -/
  | writeAll (path : Path) (bytes : List UInt8)
  | flush (path : Path)
  | syncAll (path : Path)
  /-- `File::open(dir)?.sync_all()`. -/
  | syncDir (path : Path)
  /-- `metadata(path).len()`. -/
  | length (path : Path)
  | isFile (path : Path)
  /-- Reading a file to its end. -/
  | read (path : Path)
  /-- The names `fs::read_dir` yields. -/
  | readDir (path : Path)
  | removeFile (path : Path)
  | rename (source target : Path)
  | copy (source target : Path)
  | sha256sum (path : Path)
deriving DecidableEq

@[reducible] def StoreOp.Reply : StoreOp → Type
  | .length _ => Except IoError UInt64
  | .isFile _ => Bool
  | .read _ => Except IoError ByteVec
  | .readDir _ => Except IoError (List String)
  | .sha256sum _ => Except IoError String
  | _ => Except IoError Unit

end TriAI.Storage

namespace TriAI.Disk

open TriAI.Library.FileTree

/-- Create the missing directories on the way from `done` down. -/
def createDirAllBelow (disk : Disk) (done : Path) : Path → Except IoError Unit × Disk
  | [] => (.ok (), disk)
  | name :: rest =>
      match disk.lookup (done ++ [name]) with
      | some .directory => disk.createDirAllBelow (done ++ [name]) rest
      | some (.file _) => (.error (if rest = [] then .alreadyExists else .notADirectory), disk)
      | none =>
          match disk.createDir (done ++ [name]) with
          | (.ok (), created) => created.createDirAllBelow (done ++ [name]) rest
          | (.error error, unchanged) => (.error error, unchanged)

def createDirAll (disk : Disk) (path : Path) : Except IoError Unit × Disk :=
  disk.createDirAllBelow [] path

def createNew (disk : Disk) (path : Path) : Except IoError Unit × Disk :=
  match disk.lookup path with
  | some _ => (.error .alreadyExists, disk)
  | none => disk.putFile path ⟨[], ByteVec.nil_fits⟩

def openAppend (disk : Disk) (path : Path) : Except IoError Unit × Disk :=
  match disk.lookup path with
  | some (.file _) => (.ok (), disk)
  | some .directory => (.error .isADirectory, disk)
  | none => disk.putFile path ⟨[], ByteVec.nil_fits⟩

def openRead (disk : Disk) (path : Path) : Except IoError Unit :=
  match disk.lookup path with
  | some _ => .ok ()
  | none => .error .notFound

/-- A directory has a length too; 4096 is the usual one. -/
def length (disk : Disk) (path : Path) : Except IoError UInt64 :=
  match disk.lookup path with
  | some (.file content) => .ok (UInt64.ofNat content.bytes.length)
  | some .directory => .ok 4096
  | none => .error .notFound

def isFile (disk : Disk) (path : Path) : Bool :=
  match disk.lookup path with
  | some (.file _) => true
  | _ => false

def readDir (disk : Disk) (path : Path) : Except IoError (List String) :=
  match disk.lookup path with
  | some .directory =>
      .ok (disk.entries.keys.filterMap fun key =>
        if key.dropLast = path then key.getLast? else none)
  | some (.file _) => .error .notADirectory
  | none => .error .notFound

def syncDir (disk : Disk) (path : Path) : Except IoError Unit :=
  disk.openRead path

def removeFile (disk : Disk) (path : Path) : Except IoError Unit × Disk :=
  match disk.lookup path with
  | some (.file _) => (.ok (), disk.removeSubtree path)
  | some .directory => (.error .isADirectory, disk)
  | none => (.error .notFound, disk)

/-- Renaming a file onto itself does nothing. -/
def rename (disk : Disk) (source target : Path) : Except IoError Unit × Disk :=
  match disk.read source with
  | .error error => (.error error, disk)
  | .ok content =>
      if source = target then (.ok (), disk)
      else
        match disk.putFile target content with
        | (.error error, unchanged) => (.error error, unchanged)
        | (.ok (), copied) => copied.removeFile source

def copy (disk : Disk) (source target : Path) : Except IoError Unit × Disk :=
  match disk.read source with
  | .error error => (.error error, disk)
  | .ok content => disk.putFile target content

end TriAI.Disk

namespace TriAI.Storage

open TriAI.Library.FileTree
open TriAI.Library.Interaction

/-- The words of `sha256sum` for a file that can be read. -/
def sha256sumOf (tool : Sha256sum) (disk : Disk) (path : Path) : Except IoError String :=
  match disk.read path with
  | .ok content => .ok (tool.digest path content.bytes)
  | .error _ => .error (.other "sha256sum failed")

/-- One call on a disk. -/
def StoreOp.apply (tool : Sha256sum) : (op : StoreOp) → Disk → op.Reply × Disk
  | .createDirAll path, disk => disk.createDirAll path
  | .createNew path, disk => disk.createNew path
  | .openAppend path, disk => disk.openAppend path
  | .openRead path, disk => (disk.openRead path, disk)
  | .openWrite path, disk => ((disk.read path).map fun _ => (), disk)
  | .create path, disk => disk.putFile path ⟨[], ByteVec.nil_fits⟩
  | .writeAll path bytes, disk => disk.writeAll path bytes
  | .flush _, disk => (.ok (), disk)
  | .syncAll _, disk => (.ok (), disk)
  | .syncDir path, disk => (disk.syncDir path, disk)
  | .length path, disk => (disk.length path, disk)
  | .isFile path, disk => (disk.isFile path, disk)
  | .read path, disk => (disk.read path, disk)
  | .readDir path, disk => (disk.readDir path, disk)
  | .removeFile path, disk => disk.removeFile path
  | .rename source target, disk => disk.rename source target
  | .copy source target, disk => disk.copy source target
  | .sha256sum path, disk => (sha256sumOf tool disk path, disk)

/-- A program over these calls that may fail. -/
abbrev Store (ε α : Type) : Type := Fallible ε StoreOp StoreOp.Reply α

namespace Store

section Calls

variable {ε : Type} (wrap : IoError → ε)

def createDirAll (path : Path) : Store ε Unit :=
  Fallible.attempt wrap (Prog.perform (StoreOp.createDirAll path))

def createNew (path : Path) : Store ε Unit :=
  Fallible.attempt wrap (Prog.perform (StoreOp.createNew path))

def openAppend (path : Path) : Store ε Unit :=
  Fallible.attempt wrap (Prog.perform (StoreOp.openAppend path))

def openRead (path : Path) : Store ε Unit :=
  Fallible.attempt wrap (Prog.perform (StoreOp.openRead path))

def openWrite (path : Path) : Store ε Unit :=
  Fallible.attempt wrap (Prog.perform (StoreOp.openWrite path))

def create (path : Path) : Store ε Unit :=
  Fallible.attempt wrap (Prog.perform (StoreOp.create path))

def writeAll (path : Path) (bytes : List UInt8) : Store ε Unit :=
  Fallible.attempt wrap (Prog.perform (StoreOp.writeAll path bytes))

def flush (path : Path) : Store ε Unit :=
  Fallible.attempt wrap (Prog.perform (StoreOp.flush path))

def syncAll (path : Path) : Store ε Unit :=
  Fallible.attempt wrap (Prog.perform (StoreOp.syncAll path))

/-- `fsync_dir`. -/
def syncDir (path : Path) : Store ε Unit :=
  Fallible.attempt wrap (Prog.perform (StoreOp.syncDir path))

def length (path : Path) : Store ε UInt64 :=
  Fallible.attempt wrap (Prog.perform (StoreOp.length path))

def isFile (path : Path) : Store ε Bool :=
  ExceptT.lift (Prog.perform (StoreOp.isFile path))

def read (path : Path) : Store ε ByteVec :=
  Fallible.attempt wrap (Prog.perform (StoreOp.read path))

def readDir (path : Path) : Store ε (List String) :=
  Fallible.attempt wrap (Prog.perform (StoreOp.readDir path))

def removeFile (path : Path) : Store ε Unit :=
  Fallible.attempt wrap (Prog.perform (StoreOp.removeFile path))

def rename (source target : Path) : Store ε Unit :=
  Fallible.attempt wrap (Prog.perform (StoreOp.rename source target))

def copy (source target : Path) : Store ε Unit :=
  Fallible.attempt wrap (Prog.perform (StoreOp.copy source target))

def sha256sum (path : Path) : Store ε String :=
  Fallible.attempt wrap (Prog.perform (StoreOp.sha256sum path))

/-- A pure step that may fail. -/
def ofExcept {α : Type} (result : Except ε α) : Store ε α := ExceptT.mk (.ret result)

end Calls

/-! ### What the calls do -/

section Outcomes

variable {ε : Type} (tool : Sha256sum) (wrap : IoError → ε) (path : Path) (disk : Disk)

@[simp] theorem outcome_ofExcept {α : Type} (result : Except ε α) :
    Fallible.outcome (StoreOp.apply tool) (ofExcept result) disk = (result, disk) := rfl

@[simp] theorem outcome_isFile :
    Fallible.outcome (StoreOp.apply tool) (isFile path : Store ε Bool) disk =
      (.ok (disk.isFile path), disk) := rfl

@[simp] theorem outcome_writeAll (bytes : List UInt8) :
    Fallible.outcome (StoreOp.apply tool) (writeAll wrap path bytes) disk =
      ((disk.writeAll path bytes).1.mapError wrap, (disk.writeAll path bytes).2) := rfl

@[simp] theorem outcome_rename (target : Path) :
    Fallible.outcome (StoreOp.apply tool) (rename wrap path target) disk =
      ((disk.rename path target).1.mapError wrap, (disk.rename path target).2) := rfl

@[simp] theorem outcome_copy (target : Path) :
    Fallible.outcome (StoreOp.apply tool) (copy wrap path target) disk =
      ((disk.copy path target).1.mapError wrap, (disk.copy path target).2) := rfl

@[simp] theorem outcome_createDirAll :
    Fallible.outcome (StoreOp.apply tool) (createDirAll wrap path) disk =
      ((disk.createDirAll path).1.mapError wrap, (disk.createDirAll path).2) := rfl

@[simp] theorem outcome_createNew :
    Fallible.outcome (StoreOp.apply tool) (createNew wrap path) disk =
      ((disk.createNew path).1.mapError wrap, (disk.createNew path).2) := rfl

@[simp] theorem outcome_openAppend :
    Fallible.outcome (StoreOp.apply tool) (openAppend wrap path) disk =
      ((disk.openAppend path).1.mapError wrap, (disk.openAppend path).2) := rfl

@[simp] theorem outcome_openRead :
    Fallible.outcome (StoreOp.apply tool) (openRead wrap path) disk =
      ((disk.openRead path).mapError wrap, disk) := rfl

@[simp] theorem outcome_openWrite :
    Fallible.outcome (StoreOp.apply tool) (openWrite wrap path) disk =
      (((disk.read path).map fun _ => ()).mapError wrap, disk) := rfl

@[simp] theorem outcome_create :
    Fallible.outcome (StoreOp.apply tool) (create wrap path) disk =
      ((disk.putFile path ⟨[], ByteVec.nil_fits⟩).1.mapError wrap,
        (disk.putFile path ⟨[], ByteVec.nil_fits⟩).2) := rfl

@[simp] theorem outcome_flush :
    Fallible.outcome (StoreOp.apply tool) (flush wrap path) disk =
      (.ok (), disk) := rfl

@[simp] theorem outcome_syncAll :
    Fallible.outcome (StoreOp.apply tool) (syncAll wrap path) disk =
      (.ok (), disk) := rfl

@[simp] theorem outcome_syncDir :
    Fallible.outcome (StoreOp.apply tool) (syncDir wrap path) disk =
      ((disk.syncDir path).mapError wrap, disk) := rfl

@[simp] theorem outcome_length :
    Fallible.outcome (StoreOp.apply tool) (length wrap path) disk =
      ((disk.length path).mapError wrap, disk) := rfl

@[simp] theorem outcome_read :
    Fallible.outcome (StoreOp.apply tool) (read wrap path) disk =
      ((disk.read path).mapError wrap, disk) := rfl

@[simp] theorem outcome_readDir :
    Fallible.outcome (StoreOp.apply tool) (readDir wrap path) disk =
      ((disk.readDir path).mapError wrap, disk) := rfl

@[simp] theorem outcome_removeFile :
    Fallible.outcome (StoreOp.apply tool) (removeFile wrap path) disk =
      ((disk.removeFile path).1.mapError wrap, (disk.removeFile path).2) := rfl

@[simp] theorem outcome_sha256sum :
    Fallible.outcome (StoreOp.apply tool) (sha256sum wrap path) disk =
      ((sha256sumOf tool disk path).mapError wrap, disk) := rfl

end Outcomes

/-- A pure step that succeeds hands its value on. -/
theorem outcome_bind_ofExcept {ε α β : Type} {tool : Sha256sum} {result : Except ε α} {value : α}
    {rest : α → Store ε β} {disk : Disk} (succeeds : result = .ok value) :
    Fallible.outcome (StoreOp.apply tool) (ofExcept result >>= rest) disk =
      Fallible.outcome (StoreOp.apply tool) (rest value) disk := by
  rw [succeeds]
  rfl

end Store

end TriAI.Storage
