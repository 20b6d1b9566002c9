import TriAI.Coding.Edits
import TriAI.FileSystem
import TriAI.Library.Fallible
import TriAI.Library.Subprogram
import TriAI.Library.SeenFiles

/-!
Contract: what a call of `write_file` or `patch_file` leaves of the rest of the project.

Owns: the project tree with its directories; what the failing calls leave behind; and exactly
which calls that fail leave the tree as it was, and which that succeed change their target only.

Does not own: what is put into the target (`Coding.Patches`), and the interleavings of several
edits (`Coding.Independence`).
-/

set_option autoImplicit false

namespace TriAI.Coding

open TriAI.Library
open TriAI.Library.Interaction
open TriAI.Library.TextLines

/-! ## The tree -/

/-- The files of a project under their places, and its directories, with which come those they
are in. -/
structure ProjectTree where
  files : OpenFiles (Place Path)
  directories : Path → Prop
  closed : ∀ front path : Path, front <+: path → directories path → directories front

/-- A directory is made with those it is in. -/
def ProjectTree.addDirectories (tree : ProjectTree) (made : Path) : ProjectTree where
  files := tree.files
  directories := fun path => tree.directories path ∨ path <+: made
  closed := fun front path isFront isThere =>
    isThere.imp (tree.closed front path isFront) isFront.trans

/-- The answers to one call. Making directories may fail when those to `made` are there, and a
write when `front` is written; `resolve` and the other calls that fail do nothing. -/
def TreeAnswers (made : Path) (front : List UInt8) (tree : ProjectTree) :
    (op : EditOp Path) → op.Reply → ProjectTree → Prop
  | .createDirAll directory, .ok (), after => after = tree.addDirectories directory
  | .createDirAll directory, .error _, after =>
      made <+: directory ∧ after = tree.addDirectories made
  | .writeAll file bytes, .error _, after =>
      front <+: bytes ∧ after = { tree with
        files := tree.files.setContent file
          (front ++ (tree.files.contents file).drop front.length) }
  | op, reply, after =>
      ∃ files, EditAnswers tree.files op reply files ∧ after = { tree with files }

/-- The tree is as it was. -/
structure TreeKept (before after : ProjectTree) : Prop where
  files : before.files.SameSeen after.files
  directories : ∀ path, after.directories path ↔ before.directories path

/-- Only the target has changed, and missing directories above it were made. -/
structure TargetReplaced (target : Place Path) (before after : ProjectTree) : Prop where
  files : before.files.SameSeenBut target after.files
  kept : ∀ path, before.directories path → after.directories path
  made : ∀ path, after.directories path → before.directories path ∨ path <+: target.directory

/-- What a call with this result may do to the tree. -/
def KeepsTree (target : Place Path) (before after : ProjectTree) : EditResult → Prop
  | .error _ => TreeKept before after
  | .ok _ => TargetReplaced target before after

/-! ## The condition -/

/-- A call after which an edit may fail: the directories were there before, and the temporary
held what is written to it. -/
def LeavesNothing (before : ProjectTree) (temporary : Place Path) (made : Path)
    (front : List UInt8) : (op : EditOp Path) → op.Reply → Prop
  | .createDirAll directory, .ok () => before.directories directory
  | .createDirAll _, .error _ => before.directories made
  | .writeAll _ bytes, .ok () => before.files.Reads temporary bytes
  | .writeAll _ _, .error _ => before.files.Reads temporary front
  | _, _ => True

/-- An edit fails after such calls only, or succeeds with a temporary whose use changes nothing
else. -/
def CleanEdit (before : ProjectTree) (temporary target : Place Path) (made : Path)
    (front : List UInt8) (trace : EditTrace Path) : EditResult → Prop
  | .error _ => ∀ event ∈ trace, LeavesNothing before temporary made front event.op event.reply
  | .ok bytes => before.files.ReplacesOnly temporary target bytes

section Directories

variable {tree : ProjectTree} {made : Path}

theorem addDirectories_same :
    (∀ path, (tree.addDirectories made).directories path ↔ tree.directories path) ↔
      tree.directories made := by
  constructor
  · exact fun same => (same made).mp (.inr (List.prefix_refl _))
  · intro isThere path
    constructor
    · rintro (already | isFront)
      · exact already
      · exact tree.closed path made isFront isThere
    · exact .inl

/-- Only directories were made. -/
theorem treeKept_addDirectories :
    TreeKept tree (tree.addDirectories made) ↔ tree.directories made :=
  ⟨fun kept => addDirectories_same.mp kept.directories,
    fun isThere => ⟨fun _ => rfl, addDirectories_same.mpr isThere⟩⟩

theorem treeKept_refl (tree : ProjectTree) : TreeKept tree tree :=
  ⟨fun _ => rfl, fun _ => Iff.rfl⟩

end Directories

/-! ## The temporary -/

/-- What a call with this result may do to the files. -/
def KeepsFiles (target : Place Path) (before after : OpenFiles (Place Path)) : EditResult → Prop
  | .error _ => before.SameSeen after
  | .ok _ => before.SameSeenBut target after

section Replacing

variable {process : UInt32} {target : Place Path} {content : List UInt8} {tool : String}
  {made : Path} {front : List UInt8} {before middle after : ProjectTree}
  {trace : EditTrace Path} {result : EditResult}

/-- Writing a file that was opened empty. -/
private theorem drop_opened {files opened : OpenFiles (Place Path)} {name : Place Path}
    {number : Nat} (opens : files.Opens name true number opened) (bytes : List UInt8) :
    bytes ++ (opened.contents number).drop bytes.length = bytes := by
  rw [opens.empty, List.drop_nil, List.append_nil]

/-- The last part of an edit leaves the directories, and the files exactly if it is clean. -/
theorem replaceTarget_keeps_iff (sameFiles : middle.files = before.files)
    (returns : Prog.Returns (replaceTarget tool process target content) trace result)
    (follows : Follows (TreeAnswers made front) middle trace after) :
    after.directories = middle.directories ∧
      (KeepsFiles target before.files after.files result ↔
        CleanEdit before (target.temporary process) target made front trace result) := by
  obtain ⟨created, rest, rfl, creates⟩ := Fallible.returns_call.mp returns
  obtain ⟨opened, answered, follows⟩ := follows
  cases created with
  | error error =>
      obtain ⟨rfl, rfl⟩ := Fallible.returns_ret.mp creates
      obtain ⟨_, rfl, rfl⟩ := answered
      obtain rfl := follows
      refine ⟨rfl, ?_⟩
      rw [sameFiles]
      simp [KeepsFiles, CleanEdit, LeavesNothing, OpenFiles.SameSeen]
  | ok file =>
      obtain ⟨files, opens, rfl⟩ := answered
      replace opens : middle.files.Opens (target.temporary process) true file files := opens
      rw [sameFiles] at opens
      obtain ⟨written, rest, rfl, writes⟩ := Fallible.returns_call.mp creates
      obtain ⟨stored, answered, follows⟩ := follows
      cases written with
      | error error =>
          obtain ⟨rfl, rfl⟩ := Fallible.returns_ret.mp writes
          obtain ⟨_, rfl⟩ := answered
          obtain rfl := follows
          refine ⟨rfl, ?_⟩
          simpa [KeepsFiles, CleanEdit, LeavesNothing, drop_opened opens front] using
            (opens.written front).sameSeen_iff
      | ok _ =>
          obtain ⟨_, stores, rfl⟩ := answered
          replace stores : _ = files.setContent file _ := stores
          rw [drop_opened opens content] at stores
          obtain rfl := stores
          have isWritten := opens.written content
          obtain ⟨renamed, rest, rfl, renames⟩ := Fallible.returns_call.mp writes
          obtain ⟨last, answered, follows⟩ := follows
          cases renamed with
          | error error =>
              obtain ⟨rfl, rfl⟩ := Fallible.returns_ret.mp renames
              obtain ⟨_, same, rfl⟩ := answered
              obtain rfl := same
              obtain rfl := follows
              refine ⟨rfl, ?_⟩
              simpa [KeepsFiles, CleanEdit, LeavesNothing] using isWritten.sameSeen_iff
          | ok _ =>
              obtain ⟨rfl, rfl⟩ := Fallible.returns_ret.mp renames
              obtain ⟨_, moved, rfl⟩ := answered
              obtain rfl := follows
              exact ⟨rfl, isWritten.replaces_iff moved⟩

end Replacing

/-! ## The calls -/

section Calls

variable {process : UInt32} {target : Place Path} {made : Path} {front : List UInt8}
  {before after : ProjectTree} {trace : EditTrace Path} {result : EditResult}

theorem resolve_answers {reply : (EditOp.resolve target).Reply}
    (answered : TreeAnswers made front before (.resolve target) reply after) : before = after := by
  cases reply with
  | error error =>
      obtain ⟨_, rfl, rfl⟩ := answered
      rfl
  | ok _ =>
      obtain ⟨_, rfl, rfl⟩ := answered
      rfl

theorem readToString_answers {reply : (EditOp.readToString target).Reply}
    (answered : TreeAnswers made front before (.readToString target) reply after) :
    before = after := by
  cases reply with
  | error error =>
      obtain ⟨_, rfl, rfl⟩ := answered
      rfl
  | ok data =>
      obtain ⟨_, ⟨rfl, _⟩, rfl⟩ := answered
      rfl

/-- Calls that leave everything as it is, before others. -/
private theorem cleanEdit_cons {event : Event (EditOp Path) EditOp.Reply}
    {rest : EditTrace Path} (nothing : LeavesNothing before (target.temporary process) made front
      event.op event.reply) :
    CleanEdit before (target.temporary process) target made front (event :: rest) result ↔
      CleanEdit before (target.temporary process) target made front rest result := by
  cases result with
  | error error => exact List.forall_mem_cons.trans (and_iff_right nothing)
  | ok bytes => exact Iff.rfl

/-- With the directories as they are the files decide. -/
private theorem keepsTree_iff (directories : after.directories = before.directories) :
    KeepsTree target before after result ↔
      KeepsFiles target before.files after.files result := by
  cases result with
  | error error =>
      constructor
      · exact fun kept => kept.files
      · exact fun files => ⟨files, fun path => by rw [directories]⟩
  | ok bytes =>
      constructor
      · exact fun replaced => replaced.files
      · intro files
        exact ⟨files, fun path => by rw [directories]; exact id,
          fun path isThere => .inl (directories ▸ isThere)⟩

/-- Both calls resolve their target before anything else. -/
private theorem keepsTree_iff_of_resolve {next : Except String Unit → EditProg Path EditResult}
    (refuses : ∀ error, next (.error error) = .ret (.error error))
    (returns : Prog.Returns (.call (EditOp.resolve target) next) trace result)
    (follows : Follows (TreeAnswers made front) before trace after)
    (later : ∀ {rest : EditTrace Path}, Prog.Returns (next (.ok ())) rest result →
      Follows (TreeAnswers made front) before rest after →
      (KeepsTree target before after result ↔
        CleanEdit before (target.temporary process) target made front rest result)) :
    KeepsTree target before after result ↔
      CleanEdit before (target.temporary process) target made front trace result := by
  obtain ⟨resolved, rest, rfl, resolves⟩ := Fallible.returns_call.mp returns
  obtain ⟨same, answered, follows⟩ := follows
  obtain rfl := resolve_answers answered
  cases resolved with
  | error error =>
      have refused : Prog.Returns (next (.error error)) rest result := resolves
      rw [refuses] at refused
      obtain ⟨rfl, rfl⟩ := Fallible.returns_ret.mp refused
      obtain rfl := follows
      simp [KeepsTree, CleanEdit, LeavesNothing, treeKept_refl]
  | ok _ => exact (later resolves follows).trans (cleanEdit_cons (by trivial)).symm

theorem writeFile_keepsTree_iff {content : String}
    (returns : Prog.Returns (writeFile process target content) trace result)
    (follows : Follows (TreeAnswers made front) before trace after) :
    KeepsTree target before after result ↔
      CleanEdit before (target.temporary process) target made front trace result := by
  apply keepsTree_iff_of_resolve (fun _ => rfl) returns follows
  intro trace resolves follows
  obtain ⟨created, rest, rfl, makes⟩ := Fallible.returns_call.mp resolves
  obtain ⟨middle, answered, follows⟩ := follows
  cases created with
  | error error =>
      obtain ⟨rfl, rfl⟩ := Fallible.returns_ret.mp makes
      obtain ⟨_, rfl⟩ := answered
      obtain rfl := follows
      simpa [KeepsTree, CleanEdit, LeavesNothing] using treeKept_addDirectories
  | ok _ =>
      obtain rfl : middle = before.addDirectories target.directory := answered
      have sameFiles : (before.addDirectories target.directory).files = before.files := rfl
      obtain ⟨directories, files⟩ := replaceTarget_keeps_iff sameFiles makes follows
      cases result with
      | error error =>
          have clean : (∀ event ∈ rest, LeavesNothing before (target.temporary process) made
              front event.op event.reply) ↔ before.files.SameSeen after.files := files.symm
          have kept : TreeKept before after ↔
              before.directories target.directory ∧ before.files.SameSeen after.files := by
            rw [← addDirectories_same, ← directories]
            exact ⟨fun kept => ⟨kept.directories, kept.files⟩, fun kept => ⟨kept.2, kept.1⟩⟩
          refine kept.trans ?_
          rw [← clean]
          unfold CleanEdit
          rw [List.forall_mem_cons]
          exact Iff.rfl
      | ok bytes =>
          refine Iff.trans ?_ files
          constructor
          · exact fun replaced => replaced.files
          · intro same
            exact ⟨same, fun path isThere => by rw [directories]; exact .inl isThere,
              fun path isThere => by rwa [directories] at isThere⟩

theorem patchFile_keepsTree_iff {old new : String}
    (returns : Prog.Returns (patchFile process target old new) trace result)
    (follows : Follows (TreeAnswers made front) before trace after) :
    KeepsTree target before after result ↔
      CleanEdit before (target.temporary process) target made front trace result := by
  apply keepsTree_iff_of_resolve (fun _ => rfl) returns follows
  intro trace resolves follows
  obtain ⟨read, rest, rfl, reads⟩ := Fallible.returns_call.mp resolves
  obtain ⟨middle, answered, follows⟩ := follows
  obtain rfl := readToString_answers answered
  cases read with
  | error error =>
      obtain ⟨rfl, rfl⟩ := Fallible.returns_ret.mp reads
      obtain rfl := follows
      simp [KeepsTree, CleanEdit, LeavesNothing, treeKept_refl]
  | ok data =>
      refine Iff.trans ?_ (cleanEdit_cons (by trivial)).symm
      cases accepted : patch data old new with
      | error error =>
          have refused : Prog.Returns (.ret (.error error)) rest result := by
            simpa only [Prog.bind, accepted, Prog.pure_eq_ret] using reads
          obtain ⟨rfl, rfl⟩ := Fallible.returns_ret.mp refused
          obtain rfl := follows
          simp [KeepsTree, CleanEdit, treeKept_refl]
      | ok patched =>
          have replaces : Prog.Returns
              (replaceTarget "patch_file" process target (utf8Bytes patched)) rest result := by
            simpa only [Prog.bind, accepted] using reads
          obtain ⟨directories, files⟩ := replaceTarget_keeps_iff rfl replaces follows
          exact (keepsTree_iff directories).trans files

end Calls

/-- A call that fails leaves the tree as it was exactly if it fails after calls that leave
nothing behind, and one that succeeds changes its target only exactly if the use of its
temporary changes nothing else. -/
theorem edit_keepsTree_iff (process : UInt32) (edit : Edit Path) (made : Path)
    (front : List UInt8) {before after : ProjectTree} {trace : EditTrace Path}
    {result : EditResult} (returns : Prog.Returns (edit.run process) trace result)
    (follows : Follows (TreeAnswers made front) before trace after) :
    KeepsTree edit.target before after result ↔
      CleanEdit before (edit.target.temporary process) edit.target made front trace result := by
  obtain ⟨target, kind⟩ := edit
  cases kind with
  | writeFile content => exact writeFile_keepsTree_iff returns follows
  | patchFile old new => exact patchFile_keepsTree_iff returns follows

/-! ## Two calls -/

/-- A project without files. -/
def emptyProject : ProjectTree where
  files := { slots := fun _ => none, contents := fun _ => [], made := 0, bounded := by simp }
  directories := fun path => path = []
  closed := fun front path isFront isRoot => by
    rw [isRoot] at isFront
    exact List.prefix_nil.mp isFront

def noteTarget : Place Path := ⟨[], "note.txt"⟩

/-- The temporary of the note. -/
def noteTemporary : Place Path := noteTarget.temporary 7

/-- A call in which the disk becomes full, and one in which every call succeeds. -/
def writeNote : Edit Path := ⟨noteTarget, .writeFile "x"⟩

private theorem follows_opened (last : ProjectTree) (rest : EditTrace Path)
    (follows : Follows (TreeAnswers [] []) { emptyProject.addDirectories [] with
      files := emptyProject.files.addFile noteTemporary } rest last) :
    Follows (TreeAnswers [] []) emptyProject
      (⟨.resolve noteTarget, .ok ()⟩ :: ⟨.createDirAll [], .ok ()⟩ ::
        ⟨.create noteTemporary, .ok 0⟩ :: rest) last := by
  refine ⟨emptyProject, ⟨_, rfl, rfl⟩, emptyProject.addDirectories [], rfl, _, ⟨_, ?_, rfl⟩,
    follows⟩
  exact OpenFiles.Opens.new rfl

/-- The disk is full: the call fails, and the temporary stays. -/
theorem failedEdit_leavesTemporary :
    ∃ trace after error, Prog.Returns (writeNote.run 7) trace (.error error) ∧
      Follows (TreeAnswers [] []) emptyProject trace after ∧
      ¬ KeepsTree noteTarget emptyProject after (.error error) := by
  have follows := follows_opened _
    [⟨.writeAll 0 (utf8Bytes "x"), .error "No space left on device"⟩]
    ⟨_, ⟨List.nil_prefix, rfl⟩, rfl⟩
  have returns : Prog.Returns (writeNote.run 7)
      [⟨.resolve noteTarget, .ok ()⟩, ⟨.createDirAll [], .ok ()⟩, ⟨.create noteTemporary, .ok 0⟩,
        ⟨.writeAll 0 (utf8Bytes "x"), .error "No space left on device"⟩]
      (.error "write_file: Schreiben fehlgeschlagen: No space left on device") :=
    .call _ (.call _ (.call _ (.call _ (.ret _))))
  refine ⟨_, _, _, returns, follows, ?_⟩
  have keeps : KeepsTree noteTarget emptyProject _ _ ↔ _ :=
    writeFile_keepsTree_iff returns follows
  rw [keeps]
  intro clean
  have left := clean ⟨.writeAll 0 (utf8Bytes "x"), .error "No space left on device"⟩ (by simp)
  obtain ⟨last, number, _, isFile, _⟩ := left
  cases isFile

/-- The temporary becomes the note. -/
private theorem renames_note (bytes : List UInt8) :
    ((emptyProject.files.addFile noteTemporary).setContent 0 bytes).Renames noteTemporary noteTarget
      (((emptyProject.files.addFile noteTemporary).setContent 0 bytes).move noteTemporary
        noteTarget) := by
  have apart : noteTemporary ≠ noteTarget := by decide +kernel
  have isFile : (emptyProject.files.addFile noteTemporary).slots noteTemporary =
      some (.file 0) := by
    rw [OpenFiles.addFile_slots, Function.update_self]
    rfl
  have isFree : (emptyProject.files.addFile noteTemporary).slots noteTarget = none := by
    rw [OpenFiles.addFile_slots, Function.update_of_ne apart.symm]
    rfl
  refine .moved isFile apart ?_
  intro number _ isNote
  rw [OpenFiles.setContent_slots, isFree] at isNote
  cases isNote

/-- Every call succeeds: only the note is new. -/
theorem edit_keepsTree_iff_note :
    ∃ trace after bytes, Prog.Returns (writeNote.run 7) trace (.ok bytes) ∧
      Follows (TreeAnswers [] []) emptyProject trace after ∧
      KeepsTree noteTarget emptyProject after (.ok bytes) := by
  have follows := follows_opened _
    [⟨.writeAll 0 (utf8Bytes "x"), .ok ()⟩, ⟨.rename noteTemporary noteTarget, .ok ()⟩]
    ⟨_, ⟨_, rfl, rfl⟩, _, ⟨_, renames_note _, rfl⟩, rfl⟩
  have returns : Prog.Returns (writeNote.run 7)
      [⟨.resolve noteTarget, .ok ()⟩, ⟨.createDirAll [], .ok ()⟩, ⟨.create noteTemporary, .ok 0⟩,
        ⟨.writeAll 0 (utf8Bytes "x"), .ok ()⟩, ⟨.rename noteTemporary noteTarget, .ok ()⟩]
      (.ok (utf8Bytes "x")) :=
    .call _ (.call _ (.call _ (.call _ (.call _ (.ret _)))))
  exact ⟨_, _, _, returns, follows,
    (edit_keepsTree_iff 7 writeNote [] [] returns follows).mpr (.free rfl)⟩

end TriAI.Coding
