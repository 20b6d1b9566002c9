import TriAI.Chunk.GroupLimits

/-!
Contract: packing that fails leaves its output path as it was.

Owns: file calls that fail for any reason while other processes work elsewhere; and that a run of
`packGguf` over such calls which fails ends with the output path, and everything below it, as
before the run.

Does not own: cleanups that fail. The removals here work as the state of the disk has it.
-/

set_option autoImplicit false

namespace TriAI

open TriAI.Library.FileTree
open TriAI.Library.Interaction

/-! ## File calls that fail -/

/-- The call reports that it failed; a path that cannot be looked at is none. -/
def FsOp.Fails : (op : FsOp) → op.Reply → Prop
  | .pathExists _, answer => answer = false
  | .read _, reply | .length _, reply | .openFile _, reply | .readAt _ _ _, reply
  | .createDir _, reply | .removeDir _, reply | .removeDirAll _, reply | .create _, reply
  | .writeAll _ _, reply | .syncAll _, reply => reply.isOk = false

/-- What a call that fails leaves: a write may have got some of its bytes out. -/
def FsOp.LeavesBehind (disk : Disk) : FsOp → Disk → Prop
  | .writeAll path bytes, after =>
      after = disk ∨ ∃ front, front <+: bytes ∧ (Disk.writeAll disk path front).2 = after
  | _, after => after = disk

/-- A removal of the cleanup. -/
def FsOp.Removes : FsOp → Prop
  | .removeDir _ | .removeDirAll _ => True
  | _ => False

/-- A call works as the disk has it, or fails for another reason, unless it removes something;
meanwhile other processes work elsewhere. -/
def FsOp.Attempts (output : Path) (disk : Disk) (op : FsOp) (reply : op.Reply) (after : Disk) :
    Prop :=
  ∃ middle,
    (op.apply disk = (reply, middle) ∨
      ¬ op.Removes ∧ op.Fails reply ∧ op.LeavesBehind disk middle) ∧
    ∀ path, output <+: path → after.lookup path = middle.lookup path

namespace Chunk

open TriAI.Chunk.Gguf (parseHeader)

/-- At and below a path nothing differs. -/
def SameBelow (output : Path) (before after : Disk) : Prop :=
  ∀ path, output <+: path → after.lookup path = before.lookup path

section Steps

variable {output path : Path} {before disk after : Disk}

/-- A call that only looks. -/
def Looks : FsOp → Prop
  | .pathExists _ | .read _ | .length _ | .openFile _ | .readAt _ _ _ | .syncAll _ => True
  | _ => False

theorem Looks.apply {op : FsOp} (looks : Looks op) (disk : Disk) : (op.apply disk).2 = disk := by
  cases op <;> first | rfl | exact looks.elim

theorem Looks.attempts {op : FsOp} (looks : Looks op) {reply : op.Reply}
    (attempts : op.Attempts output disk reply after) : SameBelow output disk after := by
  obtain ⟨middle, worked | ⟨_, _, left⟩, elsewhere⟩ := attempts
  · have unchanged := looks.apply disk
    rw [worked] at unchanged
    rwa [show middle = disk from unchanged] at elsewhere
  · have unchanged : middle = disk := by
      cases op <;> first | exact left | exact looks.elim
    rwa [unchanged] at elsewhere

private theorem putFile_keeps {content : ByteVec}
    (isDirectory : disk.lookup output = some .directory) :
    (Disk.putFile disk path content).2.lookup output = some .directory := by
  unfold Disk.putFile
  split
  · exact isDirectory
  · rename_i notDirectory
    split
    · rw [DirTree.lookup_put_other]
      · exact isDirectory
      · rintro rfl
        exact notDirectory isDirectory
    · exact isDirectory

private theorem writeAll_keeps {bytes : List UInt8}
    (isDirectory : disk.lookup output = some .directory) :
    (Disk.writeAll disk path bytes).2.lookup output = some .directory := by
  unfold Disk.writeAll
  split
  · exact isDirectory
  · split
    · exact putFile_keeps isDirectory
    · exact isDirectory

private theorem createDir_keeps (isDirectory : disk.lookup output = some .directory) :
    (Disk.createDir disk path).2.lookup output = some .directory := by
  unfold Disk.createDir
  split
  · exact isDirectory
  · rename_i absent
    split
    · rw [DirTree.lookup_put_other]
      · exact isDirectory
      · rintro rfl
        rw [absent] at isDirectory
        cases isDirectory
    · exact isDirectory

/-- Nothing but a removal makes a directory disappear. -/
theorem attempts_keepsDirectory {op : FsOp} (keeps : ¬ op.Removes) {reply : op.Reply}
    (isDirectory : disk.lookup output = some .directory)
    (attempts : op.Attempts output disk reply after) :
    after.lookup output = some .directory := by
  obtain ⟨middle, happened, elsewhere⟩ := attempts
  rw [elsewhere output (List.prefix_refl output)]
  rcases happened with worked | ⟨_, _, left⟩
  · have kept : (op.apply disk).2.lookup output = some .directory := by
      cases op with
      | createDir path => exact createDir_keeps isDirectory
      | create path => exact putFile_keeps isDirectory
      | writeAll path bytes => exact writeAll_keeps isDirectory
      | removeDir path => exact (keeps trivial).elim
      | removeDirAll path => exact (keeps trivial).elim
      | _ => exact isDirectory
    rwa [worked] at kept
  · cases op with
    | writeAll path bytes =>
        rcases left with unchanged | ⟨front, _, written⟩
        · rwa [unchanged]
        · rw [← written]
          exact writeAll_keeps isDirectory
    | _ =>
        have unchanged : middle = disk := left
        rwa [unchanged]

/-- A directory that was made: there was nothing, and there is nothing below it. -/
theorem attempts_createDir_ok
    (attempts : (FsOp.createDir output).Attempts output disk (.ok ()) after) :
    disk.lookup output = none ∧ after.lookup output = some .directory ∧
      ∀ path, output <+: path → path ≠ output → after.lookup path = none := by
  obtain ⟨middle, worked | ⟨_, fails, _⟩, elsewhere⟩ := attempts
  · have made := Disk.decides_createDir disk output
    have ran : Fallible.outcome FsOp.apply (Fs.createDir output) disk = (.ok (), middle) := by
      have created : Disk.createDir disk output = (.ok (), middle) := worked
      rw [Fs.outcome_createDir, created]
      rfl
    obtain ⟨⟨absent, _⟩, puts⟩ := made.of_ok ran
    refine ⟨absent, (elsewhere output (List.prefix_refl output)).trans puts.put, ?_⟩
    intro path below apart
    obtain ⟨suffix, rfl⟩ := below
    rw [elsewhere _ (List.prefix_append output suffix), puts.frame _ apart]
    exact disk.lookup_below_none absent
  · cases fails

/-- A directory that was not made. -/
theorem attempts_createDir_error {error : IoError}
    (attempts : (FsOp.createDir path).Attempts output disk (.error error) after) :
    SameBelow output disk after := by
  obtain ⟨middle, worked | ⟨_, _, left⟩, elsewhere⟩ := attempts
  · have unchanged : middle = disk := by
      have failed : Disk.createDir disk path = (.error error, middle) := worked
      unfold Disk.createDir at failed
      split at failed
      · exact (congrArg Prod.snd failed).symm
      · split at failed
        · cases congrArg Prod.fst failed
        · exact (congrArg Prod.snd failed).symm
    rwa [unchanged] at elsewhere
  · have unchanged : middle = disk := left
    rwa [unchanged] at elsewhere

/-- Nothing comes back where everything was removed. -/
private theorem removed_below {middle : Disk} (elsewhere : SameBelow output middle after)
    (isRemoved : disk.removeSubtree output = middle) :
    ∀ path, output <+: path → after.lookup path = none := by
  intro path below
  rw [elsewhere path below, ← isRemoved]
  exact disk.lookup_removeSubtree_below below

/-- The removal of an empty directory. -/
theorem attempts_removeDir {reply : (FsOp.removeDir output).Reply}
    (isDirectory : disk.lookup output = some .directory)
    (empty : ∀ path, output <+: path → path ≠ output → disk.lookup path = none)
    (attempts : (FsOp.removeDir output).Attempts output disk reply after) :
    ∀ path, output <+: path → after.lookup path = none := by
  obtain ⟨middle, worked | ⟨keeps, _, _⟩, elsewhere⟩ := attempts
  · have removed : Disk.removeDir disk output = (.ok (), disk.removeSubtree output) := by
      unfold Disk.removeDir
      rw [isDirectory]
      dsimp only
      rw [if_neg]
      simp only [List.any_eq_true, decide_eq_true_eq, not_exists, not_and]
      intro other member below same
      have found := AList.lookup_isSome.mpr (AList.mem_keys.mpr member)
      have missing : disk.entries.lookup other = none := by
        by_contra some
        exact some (empty other below fun isOutput => same isOutput.symm)
      rw [missing] at found
      cases found
    have ran : Disk.removeDir disk output = (reply, middle) := worked
    rw [removed] at ran
    exact removed_below elsewhere (congrArg Prod.snd ran)
  · exact (keeps trivial).elim

/-- The removal of a directory with all that is in it. -/
theorem attempts_removeDirAll {reply : (FsOp.removeDirAll output).Reply}
    (isDirectory : disk.lookup output = some .directory)
    (attempts : (FsOp.removeDirAll output).Attempts output disk reply after) :
    ∀ path, output <+: path → after.lookup path = none := by
  obtain ⟨middle, worked | ⟨keeps, _, _⟩, elsewhere⟩ := attempts
  · have removed : Disk.removeDirAll disk output = (.ok (), disk.removeSubtree output) := by
      unfold Disk.removeDirAll
      rw [isDirectory]
    have ran : Disk.removeDirAll disk output = (reply, middle) := worked
    rw [removed] at ran
    exact removed_below elsewhere (congrArg Prod.snd ran)
  · exact (keeps trivial).elim

end Steps

/-! ## A run -/

section Runs

variable {crates : Crates} {config : PackerConfig} {input output : Path} {before disk : Disk}
  {α β : Type}

/-- A failure leaves the output path as it was. -/
def LeavesNothing (output : Path) (before : Disk) (reached : Except TriAIError α)
    (after : Disk) : Prop :=
  reached.isOk = false → SameBelow output before after

/-- A part that only looks. -/
private theorem wlp_looks_bind {program : Fs α} {rest : α → Fs β}
    (only : Fallible.Only Looks program) (same : SameBelow output before disk)
    (continues : ∀ value after, SameBelow output before after →
      wlp (stepping (FsOp.Attempts output)) (rest value).run (LeavesNothing output before)
        after) :
    wlp (stepping (FsOp.Attempts output)) (program >>= rest).run (LeavesNothing output before)
      disk := by
  rw [Fallible.wlp_run_bind]
  have looked : wlp (stepping (FsOp.Attempts output)) program.run
      (fun _ after => SameBelow output before after) disk := by
    refine Prog.Only.keeps ?_ only same
    intro op looks view same
    refine ⟨trivial, ?_⟩
    intro reply after attempts path below
    exact (looks.attempts attempts path below).trans (same path below)
  apply wlp_mono looked
  intro reached after same
  cases reached with
  | ok value => exact continues value after same
  | error failure => exact fun _ => same

private theorem only_write {path : Path} {bytes : List UInt8} :
    Fallible.Only (fun op => ¬ op.Removes) (Fs.write path bytes) := by
  have created : Fallible.Only (fun op => ¬ op.Removes) (Fs.create path) :=
    .attempt ⟨id, fun _ => trivial⟩
  have written : Fallible.Only (fun op => ¬ op.Removes) (Fs.writeAll path bytes) :=
    .attempt ⟨id, fun _ => trivial⟩
  exact created.bind fun _ => written

private theorem only_read {path : Path} :
    Fallible.Only (fun op => ¬ op.Removes) (Fs.read path) :=
  .attempt ⟨id, fun _ => trivial⟩

private theorem only_packTensor {infos : List Gguf.GgufTensorInfo} {chunkId : String}
    (draft : ChunkDraft) (n : Fin infos.length) :
    Fallible.Only (fun op => ¬ op.Removes) (packTensor input infos chunkId draft n) := by
  have read : Fallible.Only (fun op => ¬ op.Removes)
      (Fs.readAt input (infos.get n).dataOffset (infos.get n).size) :=
    .attempt ⟨id, fun _ => trivial⟩
  unfold packTensor
  apply read.bind
  intro bytes
  apply Fallible.Only.bind (Fallible.Only.result _)
  exact fun raw => Fallible.Only.result _

private theorem only_packChunk {infos : List Gguf.GgufTensorInfo}
    (state : TensorIndex × ChunkManifest) (item : List (Fin infos.length) × Nat) :
    Fallible.Only (fun op => ¬ op.Removes)
      (packChunk crates input output config infos state item) := by
  have synced : Fallible.Only (fun op => ¬ op.Removes)
      (Fs.syncAll (chunkPath output (chunkName item.2))) :=
    .attempt ⟨id, fun _ => trivial⟩
  unfold packChunk
  apply Fallible.Only.bind (Fallible.Only.foldlM (fun _ _ => only_packTensor _ _) _ _)
  intro draft
  apply only_write.bind
  intro _
  apply synced.bind
  exact fun _ => Fallible.Only.result _

private theorem only_verifyChunk (chunk : ChunkDescriptor) :
    Fallible.Only (fun op => ¬ op.Removes) (verifyChunk crates output chunk) := by
  unfold verifyChunk
  apply only_read.bind
  intro stored
  apply Fallible.Only.bind (Fallible.Only.result _)
  intro raw
  split
  · exact Fallible.Only.result _
  · exact Fallible.Only.result _

private theorem only_verifyArchive :
    Fallible.Only (fun op => ¬ op.Removes) (verifyArchive crates output) := by
  have verified : ∀ chunks : List ChunkDescriptor,
      Fallible.Only (fun op => ¬ op.Removes) (chunks.forM (verifyChunk crates output)) := by
    intro chunks
    induction chunks with
    | nil => exact Fallible.Only.result _
    | cons chunk rest inductionHypothesis =>
        exact (only_verifyChunk chunk).bind fun _ => inductionHypothesis
  unfold verifyArchive
  apply only_read.bind
  intro bytes
  apply Fallible.Only.bind (Fallible.Only.result _)
  intro manifest
  exact (verified manifest.chunks).bind fun _ => Fallible.Only.result _

/-- Writing an archive removes nothing. -/
private theorem only_writeArchive (infos : List Gguf.GgufTensorInfo) (id digest : String)
    (len : UInt64) :
    Fallible.Only (fun op => ¬ op.Removes)
      (writeArchive crates input output config infos id digest len) := by
  have opened : Fallible.Only (fun op => ¬ op.Removes) (Fs.openFile input) :=
    .attempt ⟨fun removes => removes, fun _ => trivial⟩
  unfold writeArchive
  apply opened.bind
  intro _
  apply Fallible.Only.bind (Fallible.Only.foldlM only_packChunk _ _)
  rintro ⟨index, manifest⟩
  unfold finishArchive
  apply only_write.bind
  intro _
  apply only_write.bind
  intro _
  apply only_verifyArchive.bind
  exact fun _ => Fallible.Only.result _

/-- Once the output directory is made, a failure removes all of it. -/
private theorem wlp_fillArchive (infos : List Gguf.GgufTensorInfo) (id digest : String)
    (len : UInt64) (absent : before.lookup output = none)
    (isDirectory : disk.lookup output = some .directory)
    (empty : ∀ path, output <+: path → path ≠ output → disk.lookup path = none) :
    wlp (stepping (FsOp.Attempts output))
      (do
        (Fs.createDir (output ++ ["chunks"])).onError (Fs.removeDir output)
        (writeArchive crates input output config infos id digest len).onError
          (Fs.removeDirAll output) : Fs PackResult).run (LeavesNothing output before) disk := by
  have gone : ∀ after : Disk, (∀ path, output <+: path → after.lookup path = none) →
      SameBelow output before after := by
    intro after none path below
    obtain ⟨suffix, rfl⟩ := below
    rw [none _ (List.prefix_append output suffix)]
    exact (before.lookup_below_none absent).symm
  rw [Fallible.wlp_run_bind, Fallible.wlp_run_onError]
  refine ⟨trivial, ?_⟩
  intro reply chunked attempts
  cases reply with
  | error failure =>
      have unchanged := attempts_createDir_error attempts
      refine ⟨trivial, ?_⟩
      intro removed after removes _
      apply gone
      refine attempts_removeDir ?_ ?_ removes
      · rw [unchanged output (List.prefix_refl output)]
        exact isDirectory
      · intro path below apart
        rw [unchanged path below]
        exact empty path below apart
  | ok done =>
      have keeps : ¬ (FsOp.createDir (output ++ ["chunks"])).Removes := not_false
      have stillThere := attempts_keepsDirectory keeps isDirectory attempts
      show wlp _ (Fallible.onError _ _).run _ _
      rw [Fallible.wlp_run_onError]
      have written : wlp (stepping (FsOp.Attempts output))
          (writeArchive crates input output config infos id digest len).run
          (fun _ after => after.lookup output = some .directory) chunked := by
        refine Prog.Only.keeps ?_ (only_writeArchive infos id digest len) stillThere
        intro op keeps view isDirectory
        exact ⟨trivial, fun reply after => attempts_keepsDirectory keeps isDirectory⟩
      apply wlp_mono written
      intro reached after isDirectory
      cases reached with
      | ok result =>
          intro impossible
          cases impossible
      | error failure =>
          refine ⟨trivial, ?_⟩
          intro removed cleaned removes _
          exact gone cleaned (attempts_removeDirAll isDirectory removes)

theorem wlp_packGguf (crates : Crates) (input output : Path) (config : PackerConfig)
    (before : Disk) :
    wlp (stepping (FsOp.Attempts output)) (packGguf crates input output config).run
      (LeavesNothing output before) before := by
  have same : SameBelow output before before := fun _ _ => rfl
  unfold packGguf
  refine wlp_looks_bind (.lift ⟨trivial, fun _ => trivial⟩) same fun outputExists looked same => ?_
  split
  · exact fun _ => same
  · refine wlp_looks_bind (.attempt ⟨trivial, fun _ => trivial⟩) same fun file read same => ?_
    refine wlp_looks_bind (Fallible.Only.result _) same fun header parsed same => ?_
    split
    · exact fun _ => same
    · have reading : Fallible.Only Looks (Fs.read input) := .attempt ⟨trivial, fun _ => trivial⟩
      have digesting : Fallible.Only Looks (sha256OfFile crates input) :=
        reading.bind fun _ => Fallible.Only.result _
      refine wlp_looks_bind digesting same fun digest hashed same => ?_
      refine wlp_looks_bind (.attempt ⟨trivial, fun _ => trivial⟩) same fun len measured same => ?_
      refine ⟨trivial, ?_⟩
      intro reply made attempts
      cases reply with
      | error failure =>
          have unchanged := attempts_createDir_error attempts
          exact fun _ path below => (unchanged path below).trans (same path below)
      | ok done =>
          obtain ⟨absent, isDirectory, empty⟩ := attempts_createDir_ok attempts
          rw [same output (List.prefix_refl output)] at absent
          exact wlp_fillArchive header.tensors _ digest len absent isDirectory empty

/-- Whatever call fails, a run that fails leaves the output path and all below it as before. -/
theorem packGguf_leavesNothing {after : Disk} {failure : TriAIError}
    (run : Prog.Exec (FsOp.Attempts output) before (packGguf crates input output config).run
      (.error failure) after) : SameBelow output before after :=
  run.of_stepping (wlp_packGguf crates input output config before) rfl

end Runs

/-- Here no file can be synced. -/
def failSync : (op : FsOp) → Disk → op.Reply × Disk
  | .syncAll _, disk => (.error (.other "input/output error"), disk)
  | op, disk => op.apply disk

theorem failSync_attempts (op : FsOp) (disk : Disk) :
    op.Attempts ["archive"] disk (failSync op disk).1 (failSync op disk).2 := by
  cases op with
  | syncAll path => exact ⟨disk, .inr ⟨not_false, rfl, rfl⟩, fun _ _ => rfl⟩
  | _ => exact ⟨_, .inl rfl, fun _ _ => rfl⟩

/-- The first chunk is written but not synced: the run fails, and there is no archive. -/
theorem packGguf_leavesNothing_failSync :
    ∃ failure after,
      Prog.Exec (FsOp.Attempts ["archive"]) (diskWith attentionFile)
        (packGguf attentionRecord.crates ["m.gguf"] ["archive"] {}).run (.error failure) after ∧
      after.lookup ["archive"] = none := by
  have fails : ((packGguf attentionRecord.crates ["m.gguf"] ["archive"] {}).run.runWith failSync
      (diskWith attentionFile)).1.isOk = false := by
    decide +kernel
  have run := Prog.Exec.of_runWith failSync_attempts
    (packGguf attentionRecord.crates ["m.gguf"] ["archive"] {}).run (diskWith attentionFile)
  rcases ran : (packGguf attentionRecord.crates ["m.gguf"] ["archive"] {}).run.runWith failSync
      (diskWith attentionFile) with ⟨failure | result, after⟩
  · rw [ran] at run
    refine ⟨failure, after, run, ?_⟩
    have same := packGguf_leavesNothing run ["archive"] (List.prefix_refl _)
    rw [same]
    decide +kernel
  · rw [ran] at fails
    cases fails

end Chunk

end TriAI
