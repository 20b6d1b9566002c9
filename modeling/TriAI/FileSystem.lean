import TriAI.Error
import TriAI.Library.Fallible
import TriAI.Library.FileTree

/-!
Contract: the file operations the modelled code performs.

Owns: `FsOp`, one constructor for each `std::fs` call in the source, the type of
its reply, and `FsOp.apply`, what the call does on a disk on which nothing but
the state of the disk makes it fail.

Does not own: permissions, links, relative paths and text encodings of names. A
path is the list of its components from the root.
-/

set_option autoImplicit false

namespace TriAI

open TriAI.Library.FileTree
open TriAI.Library.Interaction

abbrev Path := List String

abbrev Disk := DirTree String

/-- The file calls, with `fs::write` as its two steps `create` and `writeAll`. -/
inductive FsOp where
  /-- `Path::exists`. -/
  | pathExists (path : Path)
  /-- `fs::read`, or opening a file and reading it to its end. -/
  | read (path : Path)
  /-- `fs::metadata(path).len()`. -/
  | length (path : Path)
  | openFile (path : Path)
  /-- `seek(SeekFrom::Start(offset))`, then `read_exact` into `size` bytes. -/
  | readAt (path : Path) (offset size : UInt64)
  | createDir (path : Path)
  | removeDir (path : Path)
  | removeDirAll (path : Path)
  /-- `File::create`. -/
  | create (path : Path)
  /-- `write_all` at the end of a file created before. -/
  | writeAll (path : Path) (bytes : List UInt8)
  | syncAll (path : Path)

@[reducible] def FsOp.Reply : FsOp → Type
  | .pathExists _ => Bool
  | .read _ => Except IoError ByteVec
  | .length _ => Except IoError UInt64
  | .openFile _ => Except IoError Unit
  | .readAt _ _ _ => Except IoError (List UInt8)
  | .createDir _ => Except IoError Unit
  | .removeDir _ => Except IoError Unit
  | .removeDirAll _ => Except IoError Unit
  | .create _ => Except IoError Unit
  | .writeAll _ _ => Except IoError Unit
  | .syncAll _ => Except IoError Unit

namespace Disk

/-- The content of the file at a path. -/
def read (disk : Disk) (path : Path) : Except IoError ByteVec :=
  match disk.lookup path with
  | some (.file content) => .ok content
  | some .directory => .error .isADirectory
  | none => .error .notFound

/-- The `size` bytes from `offset` on. Offsets are signed in the system call. -/
def readAt (disk : Disk) (path : Path) (offset size : UInt64) : Except IoError (List UInt8) :=
  match disk.read path with
  | .error error => .error error
  | .ok content =>
      if 2 ^ 63 ≤ offset.toNat then .error .invalidInput
      else if content.bytes.length - offset.toNat < size.toNat then .error .unexpectedEof
      else .ok ((content.bytes.drop offset.toNat).take size.toNat)

def createDir (disk : Disk) (path : Path) : Except IoError Unit × Disk :=
  match disk.lookup path with
  | some _ => (.error .alreadyExists, disk)
  | none =>
      if parent : disk.ParentIsDirectory path then
        (.ok (), disk.put path .directory (parent.accepts fun _ => rfl))
      else (.error .notFound, disk)

def removeDir (disk : Disk) (path : Path) : Except IoError Unit × Disk :=
  match disk.lookup path with
  | some .directory =>
      if disk.entries.keys.any fun other => path <+: other ∧ path ≠ other then
        (.error .directoryNotEmpty, disk)
      else (.ok (), disk.removeSubtree path)
  | some (.file _) => (.error .notADirectory, disk)
  | none => (.error .notFound, disk)

def removeDirAll (disk : Disk) (path : Path) : Except IoError Unit × Disk :=
  match disk.lookup path with
  | some .directory => (.ok (), disk.removeSubtree path)
  | some (.file _) => (.error .notADirectory, disk)
  | none => (.error .notFound, disk)

/-- Put a file where there is none or a file, below an existing directory. -/
def putFile (disk : Disk) (path : Path) (content : ByteVec) : Except IoError Unit × Disk :=
  if isDirectory : disk.lookup path = some .directory then (.error .isADirectory, disk)
  else if parent : disk.ParentIsDirectory path then
    (.ok (), disk.put path (.file content) (parent.accepts (absurd · isDirectory)))
  else (.error .notFound, disk)

/-- Append to a file, as far as file sizes go. -/
def writeAll (disk : Disk) (path : Path) (bytes : List UInt8) : Except IoError Unit × Disk :=
  match disk.read path with
  | .error error => (.error error, disk)
  | .ok content =>
      if fits : (content.bytes ++ bytes).length < 2 ^ 63 then
        disk.putFile path ⟨content.bytes ++ bytes, fits⟩
      else (.error (.other "file too large"), disk)

end Disk

/-- One call on a disk. -/
def FsOp.apply : (op : FsOp) → Disk → op.Reply × Disk
  | .pathExists path, disk => ((disk.lookup path).isSome, disk)
  | .read path, disk => (Disk.read disk path, disk)
  | .length path, disk =>
      ((Disk.read disk path).map fun content => UInt64.ofNat content.bytes.length, disk)
  | .openFile path, disk => ((Disk.read disk path).map fun _ => (), disk)
  | .readAt path offset size, disk => (Disk.readAt disk path offset size, disk)
  | .createDir path, disk => Disk.createDir disk path
  | .removeDir path, disk => Disk.removeDir disk path
  | .removeDirAll path, disk => Disk.removeDirAll disk path
  | .create path, disk => Disk.putFile disk path ⟨[], ByteVec.nil_fits⟩
  | .writeAll path bytes, disk => Disk.writeAll disk path bytes
  | .syncAll _, disk => (.ok (), disk)

/-- A program over the file calls that may fail with an engine error. -/
abbrev Fs (α : Type) : Type := Fallible TriAIError FsOp FsOp.Reply α

namespace Fs

/-- Issue a call and turn its failure into `TriAIError::Io`. -/
def io {α : Type} (call : Prog FsOp FsOp.Reply (Except IoError α)) : Fs α :=
  Fallible.attempt TriAIError.io call

def pathExists (path : Path) : Fs Bool := ExceptT.lift (Prog.perform (FsOp.pathExists path))

def read (path : Path) : Fs ByteVec := io (Prog.perform (FsOp.read path))

def length (path : Path) : Fs UInt64 := io (Prog.perform (FsOp.length path))

def openFile (path : Path) : Fs Unit := io (Prog.perform (FsOp.openFile path))

def readAt (path : Path) (offset size : UInt64) : Fs (List UInt8) :=
  io (Prog.perform (FsOp.readAt path offset size))

def createDir (path : Path) : Fs Unit := io (Prog.perform (FsOp.createDir path))

def removeDir (path : Path) : Fs Unit := io (Prog.perform (FsOp.removeDir path))

def removeDirAll (path : Path) : Fs Unit := io (Prog.perform (FsOp.removeDirAll path))

def create (path : Path) : Fs Unit := io (Prog.perform (FsOp.create path))

def writeAll (path : Path) (bytes : List UInt8) : Fs Unit :=
  io (Prog.perform (FsOp.writeAll path bytes))

def syncAll (path : Path) : Fs Unit := io (Prog.perform (FsOp.syncAll path))

/-- `fs::write`, which is `File::create` followed by `write_all`. -/
def write (path : Path) (bytes : List UInt8) : Fs Unit := do
  create path
  writeAll path bytes

/-- A pure step that may fail. -/
def ofExcept {α : Type} (result : Except TriAIError α) : Fs α := ExceptT.mk (.ret result)

/-! ## What the calls do -/

@[simp] theorem outcome_pathExists (path : Path) (disk : Disk) :
    Fallible.outcome FsOp.apply (pathExists path) disk = (.ok (disk.lookup path).isSome, disk) := rfl

@[simp] theorem outcome_read (path : Path) (disk : Disk) :
    Fallible.outcome FsOp.apply (read path) disk = ((Disk.read disk path).mapError .io, disk) := rfl

@[simp] theorem outcome_readAt (path : Path) (offset size : UInt64) (disk : Disk) :
    Fallible.outcome FsOp.apply (readAt path offset size) disk =
      ((Disk.readAt disk path offset size).mapError .io, disk) := rfl

@[simp] theorem outcome_syncAll (path : Path) (disk : Disk) :
    Fallible.outcome FsOp.apply (syncAll path) disk = (.ok (), disk) := rfl

@[simp] theorem outcome_ofExcept {α : Type} (result : Except TriAIError α) (disk : Disk) :
    Fallible.outcome FsOp.apply (ofExcept result) disk = (result, disk) := rfl

theorem outcome_createDir (path : Path) (disk : Disk) :
    Fallible.outcome FsOp.apply (createDir path) disk =
      ((Disk.createDir disk path).1.mapError .io, (Disk.createDir disk path).2) := rfl

theorem outcome_create (path : Path) (disk : Disk) :
    Fallible.outcome FsOp.apply (create path) disk =
      ((Disk.putFile disk path ⟨[], ByteVec.nil_fits⟩).1.mapError .io,
        (Disk.putFile disk path ⟨[], ByteVec.nil_fits⟩).2) := rfl

theorem outcome_writeAll (path : Path) (bytes : List UInt8) (disk : Disk) :
    Fallible.outcome FsOp.apply (writeAll path bytes) disk =
      ((Disk.writeAll disk path bytes).1.mapError .io, (Disk.writeAll disk path bytes).2) := rfl

end Fs

/-- `after` differs from `before` by one entry. -/
structure Disk.Puts (before : Disk) (path : Path) (entry : Entry) (after : Disk) : Prop where
  put : after.lookup path = some entry
  frame : ∀ other, other ≠ path → after.lookup other = before.lookup other

namespace Disk

/-- The content of a file is what a lookup finds. -/
theorem read_eq_ok {disk : Disk} {path : Path} {content : ByteVec} :
    Disk.read disk path = .ok content ↔ disk.lookup path = some (.file content) := by
  unfold Disk.read
  split
  · rename_i found isFile
    rw [isFile]
    simp
  · rename_i isDirectory
    rw [isDirectory]
    simp
  · rename_i absent
    rw [absent]
    simp

/-- A removed path cannot be read. -/
theorem read_removed (disk : Disk) (path : Path) :
    Disk.read (disk.removeSubtree path) path = .error .notFound := by
  unfold Disk.read
  rw [disk.lookup_removeSubtree_below (List.prefix_refl path)]

theorem Puts.trans {first second third : Disk} {path : Path} {old new : Entry}
    (left : first.Puts path old second) (right : second.Puts path new third) :
    first.Puts path new third where
  put := right.put
  frame := fun other different =>
    (right.frame other different).trans (left.frame other different)

/-- What lies directly below a directory still does after a change elsewhere. -/
theorem Puts.parentIsDirectory {before after : Disk} {path other : Path} {entry : Entry}
    (puts : before.Puts path entry after) (apart : other.dropLast ≠ path)
    (parent : before.ParentIsDirectory other) : after.ParentIsDirectory other :=
  ⟨parent.1, (puts.frame _ apart).trans parent.2⟩

/-- A directory is created where nothing is, below an existing one, and nowhere
else. -/
theorem decides_createDir (disk : Disk) (path : Path) :
    Fallible.Decides FsOp.apply (Fs.createDir path) disk
      (disk.lookup path = none ∧ disk.ParentIsDirectory path)
      fun _ after => disk.Puts path .directory after := by
  unfold Fallible.Decides
  rw [Fs.outcome_createDir]
  unfold Disk.createDir
  split
  · rename_i entry found
    exact .inr ⟨by simp [found], _, _, rfl⟩
  · rename_i absent
    split
    · rename_i parent
      have accepts : disk.Accepts path .directory := parent.accepts fun _ => rfl
      refine .inl ⟨⟨absent, parent⟩, (), _, rfl, disk.lookup_put_same path .directory accepts, ?_⟩
      exact fun other different => disk.lookup_put_other .directory accepts different
    · rename_i orphan
      exact .inr ⟨fun both => orphan both.2, _, _, rfl⟩

/-- Putting a file below a directory, where there is none. -/
theorem putFile_ok {disk : Disk} {path : Path} (content : ByteVec)
    (parent : disk.ParentIsDirectory path) (notDirectory : disk.lookup path ≠ some .directory) :
    ∃ after, Disk.putFile disk path content = (.ok (), after) ∧
      disk.Puts path (.file content) after := by
  unfold Disk.putFile
  rw [dif_neg notDirectory, dif_pos parent]
  have accepts : disk.Accepts path (.file content) := parent.accepts (absurd · notDirectory)
  refine ⟨_, rfl, disk.lookup_put_same path (.file content) accepts, ?_⟩
  exact fun other different => disk.lookup_put_other (.file content) accepts different

/-- Writing a file anew succeeds exactly if the bytes fit one. -/
theorem decides_write {disk : Disk} {path : Path} (bytes : List UInt8)
    (parent : disk.ParentIsDirectory path)
    (notDirectory : disk.lookup path ≠ some .directory) :
    Fallible.Decides FsOp.apply (Fs.write path bytes) disk (bytes.length < 2 ^ 63)
      fun _ after => ∃ fits, disk.Puts path (.file ⟨bytes, fits⟩) after := by
  obtain ⟨created, ran, puts⟩ := putFile_ok ⟨[], ByteVec.nil_fits⟩ parent notDirectory
  have createdRan : Fallible.outcome FsOp.apply (Fs.create path) disk = (.ok (), created) := by
    rw [Fs.outcome_create, ran]
    rfl
  refine Fallible.Decides.after_ok createdRan ?_
  have content : Disk.read created path = .ok ⟨[], ByteVec.nil_fits⟩ := read_eq_ok.mpr puts.put
  have stillBelow : created.ParentIsDirectory path := by
    refine puts.parentIsDirectory (fun same => ?_) parent
    have shorter := congrArg List.length same
    rw [List.length_dropLast] at shorter
    have nonempty := List.length_pos_iff.mpr parent.1
    omega
  have stillFile : created.lookup path ≠ some .directory := by rw [puts.put]; simp
  by_cases fits : bytes.length < 2 ^ 63
  · obtain ⟨written, ranWrite, putsWrite⟩ := putFile_ok ⟨bytes, fits⟩ stillBelow stillFile
    have writtenRan :
        Fallible.outcome FsOp.apply (Fs.writeAll path bytes) created = (.ok (), written) := by
      rw [Fs.outcome_writeAll]
      unfold Disk.writeAll
      rw [content]
      simp only [List.nil_append]
      rw [dif_pos fits, ranWrite]
      rfl
    exact .inl ⟨fits, (), written, writtenRan, fits, puts.trans putsWrite⟩
  · have failed : Fallible.outcome FsOp.apply (Fs.writeAll path bytes) created =
        (.error (.io (.other "file too large")), created) := by
      rw [Fs.outcome_writeAll]
      unfold Disk.writeAll
      rw [content]
      simp only [List.nil_append]
      rw [dif_neg fits]
      rfl
    exact .inr ⟨fits, _, created, failed⟩

end Disk

end TriAI
