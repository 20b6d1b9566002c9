import TriAI.Storage.Changes
import TriAI.Library.Subprogram

/-!
Contract: a disk as the files on it.

Owns: `Disk.file`, the content of the file at a path; `FileStep`, what each call of the
storage does to the files; that the disk takes these steps; and the contract of programs
that keep a property of the files.

Does not own: directories, and why a call fails.
-/

set_option autoImplicit false

namespace TriAI.Disk

open TriAI.Library.FileTree

/-- The content of the file at a path. -/
def file (disk : Disk) (path : Path) : Option ByteVec :=
  match disk.lookup path with
  | some (.file content) => some content
  | _ => none

variable {before after : Disk} {path : Path}

theorem file_of_lookup {content : ByteVec} (isFile : before.lookup path = some (.file content)) :
    before.file path = some content := by
  simp [file, isFile]

theorem file_of_none (absent : before.lookup path = none) : before.file path = none := by
  simp [file, absent]

theorem file_congr (same : after.lookup path = before.lookup path) :
    after.file path = before.file path := by
  simp [file, same]

theorem file_of_puts {content : ByteVec} (puts : before.Puts path (.file content) after) :
    after.file = Function.update before.file path (some content) := by
  funext other
  by_cases isPath : other = path
  · rw [isPath, Function.update_self]
    exact file_of_lookup puts.put
  · rw [Function.update_of_ne isPath]
    exact file_congr (puts.frame other isPath)

theorem file_of_removes (removes : before.Removes path after) :
    after.file = Function.update before.file path none := by
  funext other
  by_cases isPath : other = path
  · rw [isPath, Function.update_self]
    exact file_of_none removes.gone
  · rw [Function.update_of_ne isPath]
    exact file_congr (removes.frame other isPath)

theorem lookup_of_file {content : ByteVec} (isFile : before.file path = some content) :
    before.lookup path = some (.file content) := by
  unfold file at isFile
  split at isFile
  · rename_i found lookup
    cases isFile
    exact lookup
  · cases isFile

theorem file_of_moves {source target : Path} {content : ByteVec}
    (isFile : before.lookup source = some (.file content))
    (moves : before.Moves source target content after) :
    after.file = if source = target then before.file
      else Function.update (Function.update before.file target (some content)) source none := by
  funext other
  by_cases same : source = target
  · subst same
    rw [if_pos rfl]
    by_cases isSource : other = source
    · subst isSource
      exact file_congr (moves.put.trans isFile.symm)
    · exact file_congr (moves.frame other isSource isSource)
  · rw [if_neg same]
    by_cases isSource : other = source
    · subst isSource
      rw [Function.update_self]
      exact file_of_none (moves.gone same)
    · rw [Function.update_of_ne isSource]
      by_cases isTarget : other = target
      · subst isTarget
        rw [Function.update_self]
        exact file_of_lookup moves.put
      · rw [Function.update_of_ne isTarget]
        exact file_congr (moves.frame other isSource isTarget)

/-- A new directory is no file. -/
theorem file_createDir (disk : Disk) (path : Path) :
    (disk.createDir path).2.file = disk.file := by
  funext other
  by_cases isPath : other = path
  · subst isPath
    unfold createDir
    split
    · rfl
    · rename_i absent
      rw [file_of_none absent]
      split
      · simp [file]
      · exact file_of_none absent
  · exact file_congr (createDir_frame isPath)

/-- Making directories makes no files. -/
theorem file_createDirAllBelow (disk : Disk) (done path : Path) :
    (disk.createDirAllBelow done path).2.file = disk.file := by
  induction path generalizing disk done with
  | nil => rfl
  | cons name rest inductionHypothesis =>
      have created := file_createDir disk (done ++ [name])
      unfold createDirAllBelow
      split
      · exact inductionHypothesis disk _
      · rfl
      · split
        · rename_i made ran
          rw [ran] at created
          rw [inductionHypothesis]
          exact created
        · rename_i error unchanged ran
          rw [ran] at created
          exact created

end TriAI.Disk

namespace TriAI.Storage

open TriAI.Library.FileTree
open TriAI.Library.Interaction

/-- The files at all paths. -/
abbrev Files : Type := Path → Option ByteVec

/-- A file without bytes. -/
def emptyFile : ByteVec := ⟨[], ByteVec.nil_fits⟩

/-- What a call does to the files. A call that fails changes none. -/
def FileStep (files : Files) : (op : StoreOp) → op.Reply → Files → Prop
  | .createNew path, .ok (), after => after = Function.update files path (some emptyFile)
  | .create path, .ok (), after => after = Function.update files path (some emptyFile)
  | .openAppend path, .ok (), after =>
      after = Function.update files path (some ((files path).getD emptyFile))
  | .writeAll path bytes, .ok (), after =>
      ∃ content next, files path = some content ∧ next.bytes = content.bytes ++ bytes ∧
        after = Function.update files path (some next)
  | .removeFile path, .ok (), after => after = Function.update files path none
  | .removeFile path, .error error, after =>
      after = files ∧ (error = .notFound → files path = none)
  | .rename source target, .ok (), after =>
      ∃ content, files source = some content ∧
        after = if source = target then files
          else Function.update (Function.update files target (some content)) source none
  | .copy source target, .ok (), after =>
      ∃ content, files source = some content ∧
        after = Function.update files target (some content)
  | .length path, .ok bytes, after =>
      after = files ∧ ∀ content, files path = some content →
        bytes = UInt64.ofNat content.bytes.length
  | _, _, after => after = files

/-- A call that writes one file. -/
private theorem update_of_putFile {disk after : Disk} {path : Path} {content : ByteVec}
    {reply : Except IoError Unit} (ran : disk.putFile path content = (reply, after)) :
    after.file = match reply with
      | .ok () => Function.update disk.file path (some content)
      | .error _ => disk.file := by
  rcases Disk.putFile_cases disk path content with ⟨error, failed⟩ | ⟨put, succeeded, puts⟩
  · rw [failed] at ran
    cases ran
    rfl
  · rw [succeeded] at ran
    cases ran
    exact Disk.file_of_puts puts

/-- The disk takes these steps. -/
theorem fileStep_apply (tool : Sha256sum) {op : StoreOp} {disk after : Disk} {reply : op.Reply}
    (answered : op.apply tool disk = (reply, after)) : FileStep disk.file op reply after.file := by
  cases op with
  | createDirAll path =>
      have same := Disk.file_createDirAllBelow disk [] path
      obtain ⟨_, rfl⟩ := Prod.mk.inj answered
      exact same
  | createNew path =>
      replace answered : disk.createNew path = (reply, after) := answered
      unfold Disk.createNew at answered
      split at answered
      · cases answered
        rfl
      · have written := update_of_putFile answered
        cases reply with
        | ok _ => exact written
        | error _ => exact written
  | openAppend path =>
      replace answered : disk.openAppend path = (reply, after) := answered
      unfold Disk.openAppend at answered
      split at answered
      · rename_i content isFile
        cases answered
        show disk.file = _
        rw [Disk.file_of_lookup isFile, Option.getD_some, ← Disk.file_of_lookup isFile,
          Function.update_eq_self]
      · cases answered
        rfl
      · rename_i absent
        have written := update_of_putFile answered
        cases reply with
        | ok _ =>
            show after.file = _
            rw [Disk.file_of_none absent]
            exact written
        | error _ => exact written
  | create path =>
      have written := update_of_putFile answered
      cases reply with
      | ok _ => exact written
      | error _ => exact written
  | writeAll path bytes =>
      replace answered : disk.writeAll path bytes = (reply, after) := answered
      unfold Disk.writeAll at answered
      split at answered
      · cases answered
        rfl
      · rename_i content isFile
        split at answered
        · rename_i fits
          have written := update_of_putFile answered
          cases reply with
          | ok _ =>
              exact ⟨content, ⟨content.bytes ++ bytes, fits⟩,
                Disk.file_of_lookup (Disk.read_eq_ok.mp isFile), rfl, written⟩
          | error _ => exact written
        · cases answered
          rfl
  | removeFile path =>
      replace answered : disk.removeFile path = (reply, after) := answered
      rcases Disk.removeFile_cases disk path with ⟨error, failed⟩ | ⟨removed, succeeded, removes⟩
      · have same := failed.symm.trans answered
        cases same
        refine ⟨rfl, ?_⟩
        rintro rfl
        unfold Disk.removeFile at failed
        split at failed
        · cases failed
        · cases failed
        · rename_i absent
          exact Disk.file_of_none absent
      · have same := succeeded.symm.trans answered
        cases same
        exact Disk.file_of_removes removes
  | rename source target =>
      replace answered : disk.rename source target = (reply, after) := answered
      rcases Disk.rename_cases disk source target with
        ⟨error, failed⟩ | ⟨moved, content, succeeded, isFile, moves⟩
      · have same := failed.symm.trans answered
        cases same
        rfl
      · have same := succeeded.symm.trans answered
        cases same
        exact ⟨content, Disk.file_of_lookup isFile, Disk.file_of_moves isFile moves⟩
  | copy source target =>
      replace answered : disk.copy source target = (reply, after) := answered
      unfold Disk.copy at answered
      split at answered
      · cases answered
        rfl
      · rename_i content isFile
        have written := update_of_putFile answered
        cases reply with
        | ok _ => exact ⟨content, Disk.file_of_lookup (Disk.read_eq_ok.mp isFile), written⟩
        | error _ => exact written
  | length path =>
      obtain ⟨replied, rfl⟩ := Prod.mk.inj answered
      cases reply with
      | error _ => rfl
      | ok bytes =>
          refine ⟨rfl, ?_⟩
          intro content isFile
          have found := Disk.lookup_of_file isFile
          have measured : disk.length path = .ok bytes := replied
          unfold Disk.length at measured
          rw [found] at measured
          exact (Except.ok.inj measured).symm
  | openRead path => exact congrArg Disk.file (Prod.mk.inj answered).2.symm
  | openWrite path => exact congrArg Disk.file (Prod.mk.inj answered).2.symm
  | flush path => exact congrArg Disk.file (Prod.mk.inj answered).2.symm
  | syncAll path => exact congrArg Disk.file (Prod.mk.inj answered).2.symm
  | syncDir path => exact congrArg Disk.file (Prod.mk.inj answered).2.symm
  | isFile path => exact congrArg Disk.file (Prod.mk.inj answered).2.symm
  | read path => exact congrArg Disk.file (Prod.mk.inj answered).2.symm
  | readDir path => exact congrArg Disk.file (Prod.mk.inj answered).2.symm
  | sha256sum path => exact congrArg Disk.file (Prod.mk.inj answered).2.symm

end TriAI.Storage
