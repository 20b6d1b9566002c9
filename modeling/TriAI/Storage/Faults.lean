import TriAI.Storage.Files

/-!
Contract: file calls that fail for any reason.

Owns: what a call may do when it fails, besides what the disk makes it do; and what each call
leaves and guarantees that way.

Does not own: crashes, after which a program does not go on.
-/

set_option autoImplicit false

namespace TriAI.Storage

open TriAI.Library.FileTree
open TriAI.Library.Interaction

/-- The call reports that it failed; a file that cannot be looked at is none. -/
def StoreOp.Fails : (op : StoreOp) → op.Reply → Prop
  | .isFile _, answer => answer = false
  | .createDirAll _, reply | .createNew _, reply | .openAppend _, reply | .openRead _, reply
  | .openWrite _, reply | .create _, reply | .writeAll _ _, reply | .flush _, reply
  | .syncAll _, reply | .syncDir _, reply | .length _, reply | .read _, reply
  | .readDir _, reply | .removeFile _, reply | .rename _ _, reply | .copy _ _, reply
  | .sha256sum _, reply => reply.isOk = false

/-- What a call that fails may have done already. -/
def LeftBehind (disk : Disk) : StoreOp → Disk → Prop
  | .createDirAll path, after => ∃ front, front <+: path ∧ after = (disk.createDirAll front).2
  | .writeAll path bytes, after => ∃ content front, disk.lookup path = some (.file content) ∧
      front <+: bytes ∧ disk.WritesFile path (content.bytes ++ front) after
  | .copy source target, after => ∃ content front,
      disk.lookup source = some (.file content) ∧ front <+: content.bytes ∧
        disk.WritesFile target front after
  | _, _ => False

/-- A call works as the state of the disk has it, or fails for another reason. -/
def Attempts (tool : Sha256sum) (disk : Disk) (op : StoreOp) (reply : op.Reply)
    (after : Disk) : Prop :=
  op.apply tool disk = (reply, after) ∨ op.Fails reply ∧ (after = disk ∨ LeftBehind disk op after)

section Faults

variable {tool : Sha256sum} {disk after : Disk} {path : Path}

/-- Frame of a call that fails. -/
theorem LeftBehind.changesWithin {region : Path → Prop} {op : StoreOp}
    (within : op.WritesWithin region) (left : LeftBehind disk op after) :
    disk.ChangesWithin region after := by
  cases op with
  | createDirAll path => exact absurd rfl (within.1 path)
  | writeAll path bytes =>
      obtain ⟨_, _, _, _, writes⟩ := left
      exact .of_writesFile writes (within.2 path (by simp [StoreOp.writes]))
  | copy source target =>
      obtain ⟨_, _, _, _, writes⟩ := left
      exact .of_writesFile writes (within.2 target (by simp [StoreOp.writes]))
  | _ => exact left.elim

/-- Frame of one call. -/
theorem Attempts.changesWithin {region : Path → Prop} {op : StoreOp}
    (within : op.WritesWithin region) {reply : op.Reply}
    (attempts : Attempts tool disk op reply after) : disk.ChangesWithin region after := by
  rcases attempts with applied | ⟨_, rfl | left⟩
  · have changes := within.apply tool disk
    rwa [applied] at changes
  · exact .refl after
  · exact left.changesWithin within

/-- Making directories changes nothing that is not on the way to them. -/
theorem Attempts.createDirAll_frame {reply : (StoreOp.createDirAll path).Reply} {other : Path}
    (apart : ¬ other <+: path) (attempts : Attempts tool disk (.createDirAll path) reply after) :
    after.lookup other = disk.lookup other := by
  rcases attempts with applied | ⟨_, rfl | ⟨front, isFront, rfl⟩⟩
  · have frame : (disk.createDirAll path).2.lookup other = disk.lookup other :=
      Disk.createDirAll_frame apart
    have ran : disk.createDirAll path = (reply, after) := applied
    rwa [ran] at frame
  · rfl
  · exact Disk.createDirAll_frame fun below => apart (below.trans isFront)

/-- Making directories makes no files. -/
theorem Attempts.createDirAll_file {reply : (StoreOp.createDirAll path).Reply}
    (attempts : Attempts tool disk (.createDirAll path) reply after) : after.file = disk.file := by
  rcases attempts with applied | ⟨_, rfl | ⟨front, _, rfl⟩⟩
  · have same := Disk.file_createDirAllBelow disk [] path
    have ran : disk.createDirAllBelow [] path = (reply, after) := applied
    rwa [ran] at same
  · rfl
  · exact Disk.file_createDirAllBelow disk [] front

/-- A file that was read. -/
theorem Attempts.read_ok {content : ByteVec}
    (attempts : Attempts tool disk (.read path) (.ok content) after) :
    after = disk ∧ disk.lookup path = some (.file content) := by
  rcases attempts with applied | ⟨failed, _⟩
  · obtain ⟨isFile, rfl⟩ := Prod.mk.inj applied
    exact ⟨rfl, Disk.read_eq_ok.mp isFile⟩
  · cases failed

/-- A digest that was computed. -/
theorem Attempts.sha256sum_ok {digest : String}
    (attempts : Attempts tool disk (.sha256sum path) (.ok digest) after) :
    after = disk ∧ ∃ content, disk.lookup path = some (.file content) ∧
      digest = tool.digest path content.bytes := by
  rcases attempts with applied | ⟨failed, _⟩
  · obtain ⟨computed, rfl⟩ := Prod.mk.inj applied
    refine ⟨rfl, ?_⟩
    unfold sha256sumOf at computed
    split at computed
    · rename_i content isFile
      cases computed
      exact ⟨content, Disk.read_eq_ok.mp isFile, rfl⟩
    · cases computed
  · cases failed

/-- A path that was seen to be a file. -/
theorem Attempts.isFile_true (attempts : Attempts tool disk (.isFile path) true after) :
    ∃ content, disk.lookup path = some (.file content) := by
  rcases attempts with applied | ⟨failed, _⟩
  · have seen : disk.isFile path = true := (Prod.mk.inj applied).1
    unfold Disk.isFile at seen
    split at seen
    · rename_i content isFile
      exact ⟨content, isFile⟩
    · cases seen
  · cases failed

/-- The length of a file that was measured. -/
theorem Attempts.length_ok {content : ByteVec} {bytes : UInt64}
    (isFile : disk.lookup path = some (.file content))
    (attempts : Attempts tool disk (.length path) (.ok bytes) after) :
    bytes = UInt64.ofNat content.bytes.length := by
  rcases attempts with applied | ⟨failed, _⟩
  · have measured : disk.length path = .ok bytes := (Prod.mk.inj applied).1
    rw [Disk.length, isFile] at measured
    exact (Except.ok.inj measured).symm
  · cases failed

/-- A file that was renamed. -/
theorem Attempts.rename_ok {target : Path}
    (attempts : Attempts tool disk (.rename path target) (.ok ()) after) :
    ∃ content, disk.lookup path = some (.file content) ∧ disk.Moves path target content after := by
  rcases attempts with applied | ⟨failed, _⟩
  · rcases Disk.rename_cases disk path target with
      ⟨error, failed⟩ | ⟨moved, content, ran, isFile, moves⟩
    · cases failed.symm.trans applied
    · cases ran.symm.trans applied
      exact ⟨content, isFile, moves⟩
  · cases failed

/-- A file that could not be renamed stays, and so does the target. -/
theorem Attempts.rename_error {target : Path} {error : IoError}
    (attempts : Attempts tool disk (.rename path target) (.error error) after) : after = disk := by
  rcases attempts with applied | ⟨_, rfl | left⟩
  · rcases Disk.rename_cases disk path target with ⟨error, failed⟩ | ⟨_, _, ran, _⟩
    · cases failed.symm.trans applied
      rfl
    · cases ran.symm.trans applied
  · rfl
  · exact left.elim

/-- A file that was copied. -/
theorem Attempts.copy_ok {target : Path}
    (attempts : Attempts tool disk (.copy path target) (.ok ()) after) :
    ∃ content, disk.lookup path = some (.file content) ∧
      after.lookup target = some (.file content) := by
  rcases attempts with applied | ⟨failed, _⟩
  · have ran : disk.copy path target = (.ok (), after) := applied
    unfold Disk.copy at ran
    split at ran
    · cases ran
    · rename_i content isFile
      exact ⟨content, Disk.read_eq_ok.mp isFile, (Disk.putFile_eq_ok ran).put⟩
  · cases failed

/-- A call that changes nothing when it works, and leaves nothing behind when it fails. -/
theorem Attempts.stays {op : StoreOp} {reply : op.Reply}
    (stays : (op.apply tool disk).2 = disk) (whole : ¬ LeftBehind disk op after)
    (attempts : Attempts tool disk op reply after) : after = disk := by
  rcases attempts with applied | ⟨_, same | left⟩
  · rw [applied] at stays
    exact stays
  · exact same
  · exact absurd left whole

/-- Opening a file for writing, and syncing it or its directory, changes nothing. -/
theorem Attempts.unchanged {op : StoreOp} {reply : op.Reply}
    (isSync : op = .openWrite path ∨ op = .syncAll path ∨ op = .syncDir path)
    (attempts : Attempts tool disk op reply after) : after = disk := by
  rcases isSync with rfl | rfl | rfl
  · exact attempts.stays rfl id
  · exact attempts.stays rfl id
  · exact attempts.stays rfl id

/-- The calls that only look. -/
def StoreOp.Looks : StoreOp → Prop
  | .read _ | .readDir _ | .length _ | .isFile _ | .sha256sum _ => True
  | _ => False

/-- They change nothing. -/
theorem Attempts.looks {op : StoreOp} {reply : op.Reply} (looks : op.Looks)
    (attempts : Attempts tool disk op reply after) : after = disk := by
  cases op with
  | read | readDir | length | isFile | sha256sum => exact attempts.stays rfl id
  | _ => exact looks.elim

end Faults

end TriAI.Storage
