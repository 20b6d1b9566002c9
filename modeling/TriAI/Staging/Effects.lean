import TriAI.Staging.Recovery

/-!
Contract: what the operations of the staging store change.

Owns: the operations as one type, the record each of them is about to commit, what
a crash inside a call leaves, and the change an operation makes to the data file
and the marker of its block, whether it completes or is stopped anywhere.

Does not own: sequences of operations.
-/

set_option autoImplicit false

namespace TriAI.Staging

open TriAI.Library.FileTree
open TriAI.Library.Interaction
open TriAI.Library.TextLines
open TriAI.Storage

variable {tool : Sha256sum} {root : Path}

/-! ## Regions of the store -/

/-- A part file of the store. -/
def IsPart (root path : Path) : Prop :=
  ∃ name, extension name = some "part" ∧ path = root ++ [name]

/-- The part files and the data file and marker of a block. -/
def InBlock (root : Path) (blockId : String) (generation : UInt64) (path : Path) : Prop :=
  IsPart root path ∨ path = blobPath root blockId generation ∨
    path = commitPath root blockId generation

theorem isPart_partPath (root : Path) (blockId : String) (generation : UInt64) :
    IsPart root (partPath root blockId generation) :=
  ⟨_, extension_fileName (.inl rfl), rfl⟩

/-- Where a name has another extension it is not a part file. -/
private theorem not_isPart {name other : String} (isOther : extension name = some other)
    (different : other ≠ "part") : ¬ IsPart root (root ++ [name]) := by
  rintro ⟨part, isPart, same⟩
  have names : name = part := by simpa using same
  rw [← names, isOther] at isPart
  exact different (Option.some.inj isPart)

theorem not_isPart_blobPath (root : Path) (blockId : String) (generation : UInt64) :
    ¬ IsPart root (blobPath root blockId generation) :=
  not_isPart (extension_fileName (.inr (.inl rfl))) (by decide)

theorem not_isPart_commit {name : String} (isCommit : extension name = some "commit") :
    ¬ IsPart root (root ++ [name]) :=
  not_isPart isCommit (by decide)

theorem not_isPart_commitPath (root : Path) (blockId : String) (generation : UInt64) :
    ¬ IsPart root (commitPath root blockId generation) :=
  not_isPart_commit (extension_fileName (.inr (.inr rfl)))

theorem commitPath_ne_blobPath (root : Path) (blockId blockId' : String)
    (generation generation' : UInt64) :
    commitPath root blockId generation ≠ blobPath root blockId' generation' := by
  intro same
  have names : fileName blockId generation "commit" = fileName blockId' generation' "bin" := by
    simpa [commitPath, blobPath] using same
  have extensions := (fileName_inj (.inr (.inr rfl)) (.inr (.inl rfl)) names).2.2
  revert extensions
  decide

theorem root_not_inBlock (root : Path) (blockId : String) (generation : UInt64) :
    ¬ InBlock root blockId generation root := by
  rintro (⟨name, _, same⟩ | same | same)
  · simp at same
  · simp [blobPath] at same
  · simp [commitPath] at same

theorem root_not_isPart (root : Path) : ¬ IsPart root root := fun isPart =>
  root_not_inBlock root "" 0 (.inl isPart)

/-! ## Operations -/

/-- The operations that change the store. `appendPart` opens the part file for
resuming and writes chunks to it. -/
inductive StageOp where
  | stageBytes (blockId : String) (generation : UInt64) (data : List UInt8)
  | appendPart (blockId : String) (generation : UInt64) (chunks : List (List UInt8))
  | finalizePart (blockId : String) (generation : UInt64) (expectedSha256 : Option String)
  | discardPart (blockId : String) (generation : UInt64)
  | cleanupIncomplete

/-- `open_part_for_resume` and the writes that follow. -/
def appendPart (root : Path) (blockId : String) (generation : UInt64)
    (chunks : List (List UInt8)) : Stage Unit := do
  let _ ← openPartForResume root blockId generation
  chunks.foldlM (fun _ chunk => Store.writeAll os (partPath root blockId generation) chunk) ()

/-- What an operation does, and the record it returns if it commits one. -/
def StageOp.program (root : Path) : StageOp → Stage (Option CommitRecord)
  | .stageBytes blockId generation data => do
      let record ← Staging.stageBytes root blockId generation data
      pure (some record)
  | .appendPart blockId generation chunks => do
      Staging.appendPart root blockId generation chunks
      pure none
  | .finalizePart blockId generation expected => do
      let record ← Staging.finalizePart root blockId generation expected
      pure (some record)
  | .discardPart blockId generation => do
      Staging.discardPart root blockId generation
      pure none
  | .cleanupIncomplete => do
      let _ ← Staging.cleanupIncomplete root
      pure none

/-- The record an operation is about to commit. -/
def StageOp.attempt (tool : Sha256sum) (root : Path) (disk : Disk) :
    StageOp → Option CommitRecord
  | .stageBytes blockId generation data => some (recordOf tool root blockId generation data)
  | .finalizePart blockId generation _ =>
      some (recordOf tool root blockId generation
        (disk.bytesAt (partPath root blockId generation)))
  | _ => none

/-- The data an operation is about to commit. -/
def StageOp.data (root : Path) (disk : Disk) : StageOp → List UInt8
  | .stageBytes _ _ data => data
  | .finalizePart blockId generation _ => disk.bytesAt (partPath root blockId generation)
  | _ => []

/-- The marker of an operation is a text of the source, so no longer than one. -/
def StageOp.Representable (tool : Sha256sum) (root : Path) (disk : Disk) (op : StageOp) : Prop :=
  ∀ record, op.attempt tool root disk = some record →
    (utf8Bytes (commitText record)).length < 2 ^ 63

/-- A file being written to keeps some prefix of its bytes. -/
def TornFile (disk : Disk) (path : Path) (written : List UInt8) (after : Disk) : Prop :=
  ∃ content kept, disk.lookup path = some (.file content) ∧ kept <+: content.bytes ++ written ∧
    disk.WritesFile path kept after

/-- What a crash inside a call leaves. -/
def tornStage (disk : Disk) : StoreOp → Disk → Prop
  | .writeAll path bytes, after => TornFile disk path bytes after
  | .syncAll path, after => TornFile disk path [] after
  | _, _ => False

/-! ## Frames -/

section Frames

variable {ε α : Type} {region : Path → Prop} {wrap : IoError → ε} {path : Path}

/-- Frame of a call that is cut. -/
theorem cut_changesWithin {op : StoreOp} (within : op.WritesWithin region)
    {disk after : Disk} (cut : tornStage disk op after) : disk.ChangesWithin region after := by
  cases op with
  | writeAll path bytes =>
      obtain ⟨_, _, _, _, writes⟩ := cut
      exact .of_writesFile writes (within.2 path (by simp [StoreOp.writes]))
  | syncAll path =>
      obtain ⟨_, _, _, _, writes⟩ := cut
      exact .of_writesFile writes (within.2 path (by simp [StoreOp.writes]))
  | _ => exact cut.elim

/-- A program that writes within a region changes nothing else, wherever it is
stopped. -/
theorem changesWithin_of_interrupted {program : Store ε α}
    (only : Fallible.Only (StoreOp.WritesWithin region) program) {before after : Disk}
    (stopped : Fallible.Interrupted (StoreOp.apply tool) tornStage before program after) :
    before.ChangesWithin region after :=
  Prog.Only.interrupted Disk.ChangesWithin.refl Disk.ChangesWithin.trans
    (fun _ within disk => within.apply tool disk)
    (fun _ within _ _ cut => cut_changesWithin within cut) only stopped

/-- In particular if it completes. -/
theorem changesWithin_of_outcome {program : Store ε α}
    (only : Fallible.Only (StoreOp.WritesWithin region) program) {before after : Disk}
    {result : Except ε α}
    (ran : Fallible.outcome (StoreOp.apply tool) program before = (result, after)) :
    before.ChangesWithin region after :=
  changesWithin_of_interrupted only (.of_outcome ran)

end Frames

section Only

variable {region : Path → Prop} {blockId : String} {generation : UInt64}

theorem only_writePart (part : region (partPath root blockId generation)) (data : List UInt8) :
    Fallible.Only (StoreOp.WritesWithin region) (writePart root blockId generation data) := by
  unfold writePart
  apply Fallible.Only.bind (Fallible.Only.result _)
  intro _
  apply Fallible.Only.bind (Store.only_perform (.createNew _) (by simp) (by simpa [StoreOp.writes]))
  intro _
  apply Fallible.Only.bind (Store.only_perform (.writeAll _ _) (by simp) (by simpa [StoreOp.writes]))
  intro _
  exact Store.only_perform (.syncAll _) (by simp) (by simpa [StoreOp.writes])

theorem only_syncPart (part : region (partPath root blockId generation)) :
    Fallible.Only (StoreOp.WritesWithin region) (syncPart root blockId generation) := by
  unfold syncPart
  apply Fallible.Only.bind (Fallible.Only.result _)
  intro _
  apply Fallible.Only.bind (Store.only_read (.openWrite _) (by simp) rfl)
  intro _
  exact Store.only_perform (.syncAll _) (by simp) (by simpa [StoreOp.writes])

/-- The part file may be removed for its digest. -/
theorem only_checkDigest (part : region (partPath root blockId generation)) (sha : String)
    (expected : Option String) :
    Fallible.Only (StoreOp.WritesWithin region)
      (checkDigest (partPath root blockId generation) sha expected) := by
  cases expected with
  | none => exact Fallible.Only.result _
  | some expected =>
      simp only [checkDigest]
      split
      · exact Fallible.Only.result _
      · apply Fallible.Only.bind (Fallible.Only.capture
          (Store.only_perform (.removeFile _) (by simp) (by simpa [StoreOp.writes])))
        intro _
        exact Fallible.Only.result _

theorem only_measurePart (part : region (partPath root blockId generation))
    (expected : Option String) :
    Fallible.Only (StoreOp.WritesWithin region)
      (measurePart root blockId generation expected) := by
  unfold measurePart
  apply Fallible.Only.bind (Store.only_read (.length _) (by simp) rfl)
  intro _
  apply Fallible.Only.bind (Store.only_read (.sha256sum _) (by simp) rfl)
  intro sha
  exact Fallible.Only.bind (only_checkDigest part sha expected) fun _ => Fallible.Only.result _

theorem only_openPartForResume (part : region (partPath root blockId generation)) :
    Fallible.Only (StoreOp.WritesWithin region) (openPartForResume root blockId generation) := by
  unfold openPartForResume
  apply Fallible.Only.bind (Fallible.Only.result _)
  intro _
  apply Fallible.Only.bind (Store.only_perform (.openAppend _) (by simp) (by simpa [StoreOp.writes]))
  intro _
  exact Store.only_read (.length _) (by simp) rfl

theorem only_appendPart (part : region (partPath root blockId generation))
    (chunks : List (List UInt8)) :
    Fallible.Only (StoreOp.WritesWithin region) (appendPart root blockId generation chunks) := by
  unfold appendPart
  apply Fallible.Only.bind (only_openPartForResume part)
  intro _
  apply Fallible.Only.foldlM
  intro _ chunk
  exact Store.only_perform (.writeAll _ chunk) (by simp) (by simpa [StoreOp.writes])

theorem only_discardPart (part : region (partPath root blockId generation)) :
    Fallible.Only (StoreOp.WritesWithin region) (discardPart root blockId generation) := by
  unfold discardPart
  apply Fallible.Only.bind (Fallible.Only.result _)
  intro _
  apply Fallible.Only.bind (Fallible.Only.capture
    (Store.only_perform (.removeFile _) (by simp) (by simpa [StoreOp.writes])))
  intro _
  exact Fallible.Only.result _

theorem only_cleanupIncomplete (root : Path) :
    Fallible.Only (StoreOp.WritesWithin (IsPart root)) (cleanupIncomplete root) := by
  unfold cleanupIncomplete
  apply Fallible.Only.bind (Store.only_read (.readDir _) (by simp) rfl)
  intro names
  apply Fallible.Only.foldlM
  intro count name
  split
  · rename_i isPart
    apply Fallible.Only.bind
      (Store.only_perform (.removeFile _) (by simp) (by simpa [StoreOp.writes] using ⟨name, isPart, rfl⟩))
    intro _
    exact Fallible.Only.result _
  · exact Fallible.Only.result _

/-- The recovery only reads. -/
theorem only_recover (root : Path) :
    Fallible.Only (StoreOp.WritesWithin region) (recover root) := by
  unfold recover
  apply Fallible.Only.bind (Store.only_read (.readDir _) (by simp) rfl)
  intro names
  apply Fallible.Only.bind _ fun _ => Fallible.Only.result _
  apply Fallible.Only.foldlM
  intro out name
  apply Fallible.Only.bind _ fun _ => Fallible.Only.result _
  unfold recoverEntry
  split
  · apply Fallible.Only.bind (Store.only_read (.read _) (by simp) rfl)
    intro content
    apply Fallible.Only.bind (Fallible.Only.result _)
    intro text
    split
    · exact Fallible.Only.result _
    · rename_i record _
      unfold verifyBlob
      apply Fallible.Only.bind (Store.only_read (.isFile _) (by simp) rfl)
      intro isFile
      split
      · apply Fallible.Only.bind (Store.only_read (.length _) (by simp) rfl)
        intro bytes
        split
        · unfold verifySha
          apply Fallible.Only.bind
            (Fallible.Only.capture (Store.only_read (.sha256sum _) (by simp) rfl))
          exact fun _ => Fallible.Only.result _
        · exact Fallible.Only.result _
      · exact Fallible.Only.result _
  · exact Fallible.Only.result _

/-- A marker is written within its own path. -/
theorem only_writeMarker (root : Path) (record : CommitRecord)
    (commit : region (commitPath root record.blockId record.generation)) :
    Fallible.Only (StoreOp.WritesWithin region) (do
      Store.create os (commitPath root record.blockId record.generation)
      Store.writeAll os (commitPath root record.blockId record.generation)
        (utf8Bytes (commitText record))
      Store.syncAll os (commitPath root record.blockId record.generation)
      Store.syncDir os root
      pure record : Stage CommitRecord) := by
  apply Fallible.Only.bind (Store.only_perform (.create _) (by simp) (by simpa [StoreOp.writes]))
  intro _
  apply Fallible.Only.bind
    (Store.only_perform (.writeAll _ _) (by simp) (by simpa [StoreOp.writes]))
  intro _
  apply Fallible.Only.bind (Store.only_perform (.syncAll _) (by simp) (by simpa [StoreOp.writes]))
  intro _
  apply Fallible.Only.bind (Store.only_read (.syncDir _) (by simp) rfl)
  intro _
  exact Fallible.Only.result _

theorem only_publish {record : CommitRecord}
    (part : region (partPath root record.blockId record.generation))
    (blob : region (blobPath root record.blockId record.generation))
    (commit : region (commitPath root record.blockId record.generation)) :
    Fallible.Only (StoreOp.WritesWithin region) (publish root record) := by
  unfold publish
  apply Fallible.Only.bind (Store.only_perform (.rename _ _) (by simp) (by simp [StoreOp.writes, *]))
  intro _
  exact only_writeMarker root record commit

/-- A commit writes within its block. -/
private theorem only_publish_inBlock (record : CommitRecord) :
    Fallible.Only (StoreOp.WritesWithin (InBlock root record.blockId record.generation))
      (publish root record) :=
  only_publish (.inl (isPart_partPath root _ _)) (.inr (.inl rfl)) (.inr (.inr rfl))

end Only

/-! ## Commits -/

/-- A store that can be staged into: a directory without directories in it. -/
structure Ready (root : Path) (disk : Disk) : Prop where
  directory : disk.lookup root = some .directory
  files : ∀ name, disk.lookup (root ++ [name]) ≠ some .directory

/-- Staging keeps it. -/
theorem Ready.changesWithin {region : Path → Prop} {before after : Disk}
    (ready : Ready root before) (changes : before.ChangesWithin region after)
    (outside : ¬ region root) : Ready root after where
  directory := by rw [changes.frame root outside, ready.directory]
  files := fun name isDirectory => ready.files name (changes.directories _ isDirectory)

/-- The data file and the marker of a block are as before. -/
structure Untouched (root : Path) (blockId : String) (generation : UInt64)
    (before after : Disk) : Prop where
  blob : after.lookup (blobPath root blockId generation) =
    before.lookup (blobPath root blockId generation)
  commit : after.lookup (commitPath root blockId generation) =
    before.lookup (commitPath root blockId generation)

theorem Untouched.of_changesWithin {before after : Disk}
    (changes : before.ChangesWithin (IsPart root) after) (blockId : String)
    (generation : UInt64) : Untouched root blockId generation before after where
  blob := changes.frame _ (not_isPart_blobPath root blockId generation)
  commit := changes.frame _ (not_isPart_commitPath root blockId generation)

/-- The marker of a record holds these bytes. -/
def MarkerHolds (root : Path) (disk : Disk) (record : CommitRecord) (bytes : List UInt8) : Prop :=
  ∃ marker, disk.lookup (commitPath root record.blockId record.generation) =
    some (.file marker) ∧ marker.bytes = bytes

/-- What a commit that is stopped has done to the data file and the marker. -/
inductive Reached (tool : Sha256sum) (root : Path) (record : CommitRecord)
    (before after : Disk) : Prop
  | untouched (same : Untouched root record.blockId record.generation before after)
  | renamed (verified : Verified tool root after record)
      (commit : after.lookup (commitPath root record.blockId record.generation) =
        before.lookup (commitPath root record.blockId record.generation))
  | marked (verified : Verified tool root after record) (kept : List UInt8)
      (isPrefix : kept <+: utf8Bytes (commitText record))
      (holds : MarkerHolds root after record kept)

/-- What a commit of `data` that completed has done. -/
structure Committed (tool : Sha256sum) (root : Path) (record : CommitRecord) (data : List UInt8)
    (after : Disk) : Prop where
  verified : Verified tool root after record
  bytes : after.bytesAt (blobPath root record.blockId record.generation) = data
  marker : MarkerHolds root after record (utf8Bytes (commitText record))

/-- The record of the part file of its block. -/
def Measured (tool : Sha256sum) (root : Path) (disk : Disk) (record : CommitRecord) : Prop :=
  ∃ content, disk.lookup (partPath root record.blockId record.generation) =
      some (.file content) ∧
    record = recordOf tool root record.blockId record.generation content.bytes

theorem Measured.recordOf_eq {disk : Disk} {record : CommitRecord}
    (measured : Measured tool root disk record) :
    recordOf tool root record.blockId record.generation
      (disk.bytesAt (partPath root record.blockId record.generation)) = record := by
  obtain ⟨content, part, same⟩ := measured
  rw [Disk.bytesAt_file part, ← same]

/-- What is measured is the part file, and nothing is changed. -/
theorem measurePart_eq_ok (lawful : tool.Lawful) {before after : Disk} {blockId : String}
    {generation : UInt64} {expected : Option String} {record : CommitRecord}
    (ran : Fallible.outcome (StoreOp.apply tool) (measurePart root blockId generation expected)
      before = (.ok record, after)) :
    record.blockId = blockId ∧ record.generation = generation ∧
      Measured tool root before record ∧ after = before := by
  obtain ⟨bytes, measured, ranLength, afterLength⟩ := Fallible.outcome_bind_eq ran
  rw [Store.outcome_length] at ranLength
  obtain ⟨isLength, rfl⟩ := Prod.mk.inj ranLength
  obtain ⟨sha, hashed, ranSha, afterSha⟩ := Fallible.outcome_bind_eq afterLength
  rw [Store.outcome_sha256sum] at ranSha
  obtain ⟨isSha, rfl⟩ := Prod.mk.inj ranSha
  obtain ⟨_, checked, ranCheck, finish⟩ := Fallible.outcome_bind_eq afterSha
  have unchanged : checked = before := by
    cases expected with
    | none => exact (Prod.mk.inj ranCheck).2.symm
    | some expected =>
        simp only [checkDigest] at ranCheck
        split at ranCheck
        · exact (Prod.mk.inj ranCheck).2.symm
        · obtain ⟨_, _, _, thrown⟩ := Fallible.outcome_bind_eq ranCheck
          simp at thrown
  rw [Fallible.outcome_pure] at finish
  obtain ⟨isRecord, rfl⟩ := Prod.mk.inj finish
  obtain rfl := Except.ok.inj isRecord
  cases lookup : before.lookup (partPath root blockId generation) with
  | none => simp [sha256sumOf, Disk.read, lookup, Except.mapError] at isSha
  | some entry =>
      cases entry with
      | directory => simp [sha256sumOf, Disk.read, lookup, Except.mapError] at isSha
      | file content =>
          refine ⟨rfl, rfl, ⟨content, lookup, ?_⟩, unchanged⟩
          simp only [Disk.length, lookup, Except.mapError] at isLength
          simp only [sha256sumOf, Disk.read, lookup, Except.mapError] at isSha
          rw [← Except.ok.inj isLength, ← Except.ok.inj isSha, digest_partPath lawful]
          rfl

/-- Publishing a measured part file succeeds. -/
theorem publish_ok {before : Disk} {record : CommitRecord} (ready : Ready root before)
    (measured : Measured tool root before record)
    (short : (utf8Bytes (commitText record)).length < 2 ^ 63) :
    ∃ after, Fallible.outcome (StoreOp.apply tool) (publish root record) before =
        (.ok record, after) ∧
      Committed tool root record
        (before.bytesAt (partPath root record.blockId record.generation)) after := by
  obtain ⟨content, part, isRecord⟩ := measured
  have blobParent : before.ParentIsDirectory (blobPath root record.blockId record.generation) :=
    ⟨by simp [blobPath], by simpa [blobPath] using ready.directory⟩
  obtain ⟨moved, renamed, moves⟩ := Disk.rename_ok part blobParent (ready.files _)
  have rootApart : ∀ name : String, root ≠ root ++ [name] := by simp
  have movedRoot : moved.lookup root = some .directory := by
    rw [moves.frame root (rootApart _) (rootApart _), ready.directory]
  have commitApart : commitPath root record.blockId record.generation ≠
      partPath root record.blockId record.generation := by
    intro same
    exact not_isPart_commitPath root _ _ (same ▸ isPart_partPath root _ _)
  have movedCommit : moved.lookup (commitPath root record.blockId record.generation) ≠
      some .directory := by
    rw [moves.frame _ commitApart (commitPath_ne_blobPath _ _ _ _ _)]
    exact ready.files _
  have commitParent : moved.ParentIsDirectory (commitPath root record.blockId record.generation) :=
    ⟨by simp [commitPath], by simpa [commitPath] using movedRoot⟩
  obtain ⟨created, put, puts⟩ :=
    Disk.putFile_ok ⟨[], ByteVec.nil_fits⟩ commitParent movedCommit
  have room : ([] ++ utf8Bytes (commitText record)).length < 2 ^ 63 := by simpa using short
  obtain ⟨written, wrote⟩ := Disk.writeAll_ok (by simp [commitPath]) puts.put room
  have writes := Disk.writeAll_eq_ok wrote
  rw [Disk.bytesAt_file puts.put, List.nil_append] at writes
  have writtenRoot : written.lookup root = some .directory := by
    rw [writes.frame root (rootApart _), puts.frame root (rootApart _), movedRoot]
  have blob : written.lookup (blobPath root record.blockId record.generation) =
      some (.file content) := by
    rw [writes.frame _ (Ne.symm (commitPath_ne_blobPath _ _ _ _ _)),
      puts.frame _ (Ne.symm (commitPath_ne_blobPath _ _ _ _ _)), moves.put]
  have bytes : written.bytesAt (blobPath root record.blockId record.generation) =
      before.bytesAt (partPath root record.blockId record.generation) := by
    rw [Disk.bytesAt_file blob, Disk.bytesAt_file part]
  refine ⟨written, ?_, ⟨content, blob, isRecord⟩, bytes, writes.file⟩
  unfold publish
  rw [Fallible.outcome_bind_ok (by rw [Store.outcome_rename, renamed]; rfl),
    Fallible.outcome_bind_ok (by rw [Store.outcome_create, put]; rfl),
    Fallible.outcome_bind_ok (by rw [Store.outcome_writeAll, wrote]; rfl),
    Fallible.outcome_bind_ok (Store.outcome_syncAll ..),
    Fallible.outcome_bind_ok (by
      rw [Store.outcome_syncDir]
      simp only [Disk.syncDir, Disk.openRead, writtenRoot]
      rfl)]
  rfl

/-- Publishing that is stopped anywhere. -/
theorem publish_interrupted {before after : Disk} {record : CommitRecord}
    (measured : Measured tool root before record)
    (stopped : Fallible.Interrupted (StoreOp.apply tool) tornStage before (publish root record)
      after) :
    Reached tool root record before after := by
  obtain ⟨content, part, isRecord⟩ := measured
  have isRenamed : ∀ {moved}, before.Moves (partPath root record.blockId record.generation)
      (blobPath root record.blockId record.generation) content moved →
      Verified tool root moved record ∧
        moved.lookup (commitPath root record.blockId record.generation) =
          before.lookup (commitPath root record.blockId record.generation) := by
    intro moved moves
    refine ⟨⟨content, moves.put, isRecord⟩, moves.frame _ ?_ (commitPath_ne_blobPath _ _ _ _ _)⟩
    intro same
    exact not_isPart_commitPath root _ _ (same ▸ isPart_partPath root _ _)
  rcases stopped.of_bind with inRename | ⟨_, moved, ranRename, afterRename⟩
  · rcases inRename.of_attempt.of_perform with rfl | torn | rfl
    · exact .untouched ⟨rfl, rfl⟩
    · exact torn.elim
    · show Reached tool root record before (before.rename _ _).2
      rcases before.rename_cases (partPath root record.blockId record.generation)
          (blobPath root record.blockId record.generation) with
        ⟨error, failed⟩ | ⟨moved, content', ran, isFile, moves⟩
      · rw [failed]
        exact .untouched ⟨rfl, rfl⟩
      · rw [ran]
        rw [part] at isFile
        cases isFile
        exact .renamed (isRenamed moves).1 (isRenamed moves).2
  rcases before.rename_cases (partPath root record.blockId record.generation)
      (blobPath root record.blockId record.generation) with
    ⟨error, failed⟩ | ⟨moved', content', ran, isFile, moves⟩
  · rw [Store.outcome_rename, failed] at ranRename
    simp [Except.mapError] at ranRename
  rw [Store.outcome_rename, ran] at ranRename
  obtain rfl : moved' = moved := (Prod.mk.inj ranRename).2
  rw [part] at isFile
  cases isFile
  obtain ⟨verified, commit⟩ := isRenamed moves
  -- from here on the marker is being written
  have marked : ∀ {disk kept}, kept <+: utf8Bytes (commitText record) →
      moved'.WritesFile (commitPath root record.blockId record.generation) kept disk →
      Reached tool root record before disk := by
    intro disk kept isPrefix writes
    obtain ⟨stored, blob, same⟩ := verified
    refine .marked ⟨stored, ?_, same⟩ kept isPrefix writes.file
    rw [writes.frame _ (Ne.symm (commitPath_ne_blobPath _ _ _ _ _)), blob]
  rcases afterRename.of_bind with inCreate | ⟨_, created, ranCreate, afterCreate⟩
  · rcases inCreate.of_attempt.of_perform with rfl | torn | rfl
    · exact .renamed verified commit
    · exact torn.elim
    · show Reached tool root record before (moved'.putFile _ _).2
      rcases moved'.putFile_cases (commitPath root record.blockId record.generation)
          ⟨[], ByteVec.nil_fits⟩ with ⟨error, failed⟩ | ⟨created, ran, puts⟩
      · rw [failed]
        exact .renamed verified commit
      · rw [ran]
        exact marked List.nil_prefix puts.writesFile
  have creates : moved'.WritesFile (commitPath root record.blockId record.generation) []
      created := by
    exact (Disk.putFile_eq_ok (Fallible.outcome_attempt_eq ranCreate)).writesFile
  have tornMarker : ∀ {disk : Disk} {bytes written : List UInt8} {left : Disk},
      moved'.WritesFile (commitPath root record.blockId record.generation) bytes disk →
      bytes ++ written <+: utf8Bytes (commitText record) →
      TornFile disk (commitPath root record.blockId record.generation) written left →
      Reached tool root record before left := by
    rintro disk bytes written left writes isPrefix ⟨old, kept, isFile, shorter, torn⟩
    obtain ⟨stored, lookup, same⟩ := writes.file
    rw [isFile] at lookup
    cases lookup
    rw [same] at shorter
    exact marked (shorter.trans isPrefix) (writes.trans torn)
  rcases afterCreate.of_bind with inWrite | ⟨_, written, ranWrite, afterWrite⟩
  · rcases inWrite.of_attempt.of_perform with rfl | torn | rfl
    · exact marked List.nil_prefix creates
    · exact tornMarker creates (List.prefix_refl _) torn
    · show Reached tool root record before (created.writeAll _ _).2
      rcases created.writeAll_cases (commitPath root record.blockId record.generation)
          (utf8Bytes (commitText record)) with ⟨error, failed⟩ | ⟨written, ran, writes⟩
      · rw [failed]
        exact marked List.nil_prefix creates
      · rw [ran]
        rw [creates.bytesAt, List.nil_append] at writes
        exact marked (List.prefix_refl _) (creates.trans writes)
  have writes := creates.trans (Disk.writeAll_eq_ok (Fallible.outcome_attempt_eq ranWrite))
  rw [creates.bytesAt, List.nil_append] at writes
  have complete : Reached tool root record before written := marked (List.prefix_refl _) writes
  rcases afterWrite.of_bind with inSync | ⟨_, synced, ranSync, afterSync⟩
  · rcases inSync.of_attempt.of_perform with rfl | torn | rfl
    · exact complete
    · exact tornMarker writes (by simp) torn
    · exact complete
  obtain rfl : written = synced := (Prod.mk.inj ranSync).2
  rcases afterSync.of_bind with inDir | ⟨_, last, ranDir, atEnd⟩
  · rcases inDir.of_attempt.of_perform with rfl | torn | rfl
    · exact complete
    · exact torn.elim
    · exact complete
  obtain rfl : written = last := (Prod.mk.inj ranDir).2
  rw [Fallible.Interrupted.of_result atEnd]
  exact complete

/-- A commit that is stopped anywhere. -/
theorem commitPart_interrupted (lawful : tool.Lawful) {before after : Disk} {blockId : String}
    {generation : UInt64} {expected : Option String}
    (stopped : Fallible.Interrupted (StoreOp.apply tool) tornStage before
      (commitPart root blockId generation expected) after) :
    before.ChangesWithin (InBlock root blockId generation) after ∧
      Reached tool root (recordOf tool root blockId generation
        (before.bytesAt (partPath root blockId generation))) before after := by
  rcases stopped.of_bind with inMeasure | ⟨record, measured, ranMeasure, inPublish⟩
  · have changes := changesWithin_of_interrupted (only_measurePart (isPart_partPath root blockId generation) expected)
      inMeasure
    exact ⟨changes.mono fun _ => .inl, .untouched (.of_changesWithin changes _ _)⟩
  · obtain ⟨rfl, rfl, isMeasured, rfl⟩ := measurePart_eq_ok lawful ranMeasure
    rw [isMeasured.recordOf_eq]
    exact ⟨changesWithin_of_interrupted (only_publish_inBlock record) inPublish,
      publish_interrupted isMeasured inPublish⟩

/-- A commit that completes fails without a change outside the part files or does
all it should. -/
theorem commitPart_completed (lawful : tool.Lawful) {before after : Disk} {blockId : String}
    {generation : UInt64} {expected : Option String} {result : Except IoFailure CommitRecord}
    (ready : Ready root before)
    (short : (utf8Bytes (commitText (recordOf tool root blockId generation
      (before.bytesAt (partPath root blockId generation))))).length < 2 ^ 63)
    (ran : Fallible.outcome (StoreOp.apply tool) (commitPart root blockId generation expected)
      before = (result, after)) :
    (∃ error, result = .error error ∧ before.ChangesWithin (IsPart root) after) ∨
    (result = .ok (recordOf tool root blockId generation
        (before.bytesAt (partPath root blockId generation))) ∧
      before.ChangesWithin (InBlock root blockId generation) after ∧
      Committed tool root (recordOf tool root blockId generation
        (before.bytesAt (partPath root blockId generation)))
        (before.bytesAt (partPath root blockId generation)) after) := by
  unfold commitPart at ran
  rcases ranMeasure : Fallible.outcome (StoreOp.apply tool)
    (measurePart root blockId generation expected) before with ⟨error | record, measured⟩
  · rw [Fallible.outcome_bind_error ranMeasure] at ran
    obtain ⟨rfl, rfl⟩ := Prod.mk.inj ran
    exact .inl ⟨error, rfl, changesWithin_of_outcome (only_measurePart (isPart_partPath _ _ _) _) ranMeasure⟩
  · obtain ⟨rfl, rfl, isMeasured, rfl⟩ := measurePart_eq_ok lawful ranMeasure
    rw [isMeasured.recordOf_eq] at short ⊢
    obtain ⟨published, ranPublish, committed⟩ := publish_ok ready isMeasured short
    rw [Fallible.outcome_bind_ok ranMeasure, ranPublish] at ran
    obtain ⟨rfl, rfl⟩ := Prod.mk.inj ran
    exact .inr ⟨rfl, changesWithin_of_outcome (only_publish_inBlock record) ranPublish, committed⟩

/-! ## The operations -/

/-- What happened before the commit leaves the data file and the marker alone. -/
private theorem Reached.after {first second third : Disk} {record : CommitRecord}
    (same : Untouched root record.blockId record.generation first second)
    (reached : Reached tool root record second third) : Reached tool root record first third := by
  cases reached with
  | untouched still => exact .untouched ⟨still.blob.trans same.blob, still.commit.trans same.commit⟩
  | renamed verified commit => exact .renamed verified (commit.trans same.commit)
  | marked verified kept isPrefix holds => exact .marked verified kept isPrefix holds

/-- The data are in the part file. -/
private theorem writePart_eq_ok {before after : Disk} {blockId : String} {generation : UInt64}
    {data : List UInt8}
    (ran : Fallible.outcome (StoreOp.apply tool) (writePart root blockId generation data) before =
      (.ok (), after)) :
    after.bytesAt (partPath root blockId generation) = data := by
  obtain ⟨_, checked, _, afterCheck⟩ := Fallible.outcome_bind_eq ran
  obtain ⟨_, created, ranCreate, afterCreate⟩ := Fallible.outcome_bind_eq afterCheck
  obtain ⟨_, written, ranWrite, inSync⟩ := Fallible.outcome_bind_eq afterCreate
  have creates := (Disk.createNew_eq_ok (Fallible.outcome_attempt_eq ranCreate)).2
  have writes := Disk.writeAll_eq_ok (Fallible.outcome_attempt_eq ranWrite)
  obtain rfl : written = after := (Prod.mk.inj inSync).2
  rw [writes.bytesAt, creates.bytesAt, List.nil_append]

/-- Checking and syncing the part file changes nothing. -/
private theorem syncPart_eq_ok {before after : Disk} {blockId : String} {generation : UInt64}
    (ran : Fallible.outcome (StoreOp.apply tool) (syncPart root blockId generation) before =
      (.ok (), after)) : after = before := by
  obtain ⟨_, checked, ranCheck, afterCheck⟩ := Fallible.outcome_bind_eq ran
  obtain ⟨_, opened, ranOpen, inSync⟩ := Fallible.outcome_bind_eq afterCheck
  rw [← (Prod.mk.inj inSync).2, ← (Prod.mk.inj ranOpen).2, ← (Prod.mk.inj ranCheck).2]
  rfl

/-- A preparation that only changes part files, then a commit of what it left: stopped
anywhere. -/
private theorem prepared_interrupted (lawful : tool.Lawful) {before after : Disk}
    {blockId : String} {generation : UInt64} {expected : Option String} {data : List UInt8}
    {prepare : Stage Unit} (only : Fallible.Only (StoreOp.WritesWithin (IsPart root)) prepare)
    (leaves : ∀ {middle}, Fallible.outcome (StoreOp.apply tool) prepare before = (.ok (), middle) →
      middle.bytesAt (partPath root blockId generation) = data)
    (stopped : Fallible.Interrupted (StoreOp.apply tool) tornStage before
      (do
        let record ← (do prepare; commitPart root blockId generation expected)
        pure (some record)) after) :
    before.ChangesWithin (InBlock root blockId generation) after ∧
      Reached tool root (recordOf tool root blockId generation data) before after := by
  have inPrepare : ∀ {disk}, Fallible.Interrupted (StoreOp.apply tool) tornStage before prepare
      disk → before.ChangesWithin (IsPart root) disk :=
    fun stopped => changesWithin_of_interrupted only stopped
  have inBoth : ∀ {disk}, Fallible.Interrupted (StoreOp.apply tool) tornStage before
      (do prepare; commitPart root blockId generation expected) disk →
      before.ChangesWithin (InBlock root blockId generation) disk ∧
        Reached tool root (recordOf tool root blockId generation data) before disk := by
    intro disk stopped
    rcases stopped.of_bind with first | ⟨_, middle, ran, second⟩
    · exact ⟨(inPrepare first).mono fun _ => .inl,
        .untouched (.of_changesWithin (inPrepare first) _ _)⟩
    · have changes := changesWithin_of_outcome only ran
      have committed := commitPart_interrupted lawful second
      rw [leaves ran] at committed
      exact ⟨(changes.mono fun _ => .inl).trans committed.1,
        committed.2.after (.of_changesWithin changes _ _)⟩
  rcases stopped.of_bind with first | ⟨record, last, ran, atEnd⟩
  · exact inBoth first
  · rw [Fallible.Interrupted.of_result atEnd]
    exact inBoth (.of_outcome ran)

/-- The same sequence, completed. -/
private theorem prepared_completed (lawful : tool.Lawful) {before after : Disk}
    {blockId : String} {generation : UInt64} {expected : Option String} {data : List UInt8}
    {prepare : Stage Unit} {result : Except IoFailure (Option CommitRecord)}
    (only : Fallible.Only (StoreOp.WritesWithin (IsPart root)) prepare)
    (leaves : ∀ {middle}, Fallible.outcome (StoreOp.apply tool) prepare before = (.ok (), middle) →
      middle.bytesAt (partPath root blockId generation) = data)
    (ready : Ready root before)
    (short : (utf8Bytes (commitText (recordOf tool root blockId generation data))).length < 2 ^ 63)
    (ran : Fallible.outcome (StoreOp.apply tool)
      (do
        let record ← (do prepare; commitPart root blockId generation expected)
        pure (some record)) before = (result, after)) :
    (∃ error, result = .error error ∧ before.ChangesWithin (IsPart root) after) ∨
    (result = .ok (some (recordOf tool root blockId generation data)) ∧
      before.ChangesWithin (InBlock root blockId generation) after ∧
      Committed tool root (recordOf tool root blockId generation data) data after) := by
  rcases ranPrepare : Fallible.outcome (StoreOp.apply tool) prepare before with
    ⟨error | ⟨⟩, middle⟩
  · rw [Fallible.outcome_bind_error (Fallible.outcome_bind_error ranPrepare)] at ran
    obtain ⟨rfl, rfl⟩ := Prod.mk.inj ran
    exact .inl ⟨error, rfl, changesWithin_of_outcome only ranPrepare⟩
  · have changes := changesWithin_of_outcome only ranPrepare
    rcases ranCommit : Fallible.outcome (StoreOp.apply tool)
      (commitPart root blockId generation expected) middle with ⟨reached, last⟩
    rw [← leaves ranPrepare] at short ⊢
    rw [Fallible.outcome_bind, Fallible.outcome_bind_ok ranPrepare, ranCommit] at ran
    rcases commitPart_completed lawful (ready.changesWithin changes (root_not_isPart root)) short ranCommit with
      ⟨error, rfl, more⟩ | ⟨rfl, within, committed⟩
    · obtain ⟨rfl, rfl⟩ := Prod.mk.inj ran
      exact .inl ⟨error, rfl, changes.trans more⟩
    · obtain ⟨rfl, rfl⟩ := Prod.mk.inj ran
      exact .inr ⟨rfl, (changes.mono fun _ => .inl).trans within, committed⟩

/-- Step lemma for a crash: an operation that is stopped anywhere has changed part
files only, or has reached some point of its commit. -/
theorem StageOp.interrupted (lawful : tool.Lawful) {before after : Disk} {op : StageOp}
    (stopped : Fallible.Interrupted (StoreOp.apply tool) tornStage before (op.program root)
      after) :
    (op.attempt tool root before = none ∧ before.ChangesWithin (IsPart root) after) ∨
    ∃ record, op.attempt tool root before = some record ∧
      before.ChangesWithin (InBlock root record.blockId record.generation) after ∧
      Reached tool root record before after := by
  cases op with
  | stageBytes blockId generation data =>
      have reached := prepared_interrupted lawful (only_writePart (isPart_partPath root blockId generation) data)
        writePart_eq_ok stopped
      exact .inr ⟨_, rfl, reached⟩
  | finalizePart blockId generation expected =>
      have reached := prepared_interrupted lawful (only_syncPart (isPart_partPath root blockId generation))
        (fun ran => by rw [syncPart_eq_ok ran]) stopped
      exact .inr ⟨_, rfl, reached⟩
  | appendPart blockId generation chunks =>
      exact .inl ⟨rfl, changesWithin_of_interrupted
        ((only_appendPart (isPart_partPath root blockId generation) chunks).bind fun _ => Fallible.Only.result _) stopped⟩
  | discardPart blockId generation =>
      exact .inl ⟨rfl, changesWithin_of_interrupted
        ((only_discardPart (isPart_partPath root blockId generation)).bind fun _ => Fallible.Only.result _) stopped⟩
  | cleanupIncomplete =>
      exact .inl ⟨rfl, changesWithin_of_interrupted
        ((only_cleanupIncomplete root).bind fun _ => Fallible.Only.result _) stopped⟩

/-- An operation without a record returns none. -/
private theorem returns_no_record {α : Type} {program : Stage α} {before after : Disk}
    {result : Except IoFailure (Option CommitRecord)}
    (ran : Fallible.outcome (StoreOp.apply tool) (do let _ ← program; pure none) before =
      (result, after)) (record : CommitRecord) : result ≠ .ok (some record) := by
  intro isRecord
  rw [isRecord] at ran
  obtain ⟨_, _, _, atEnd⟩ := Fallible.outcome_bind_eq ran
  simp at atEnd

/-- Step lemma for a completed operation: it has changed part files only, or it has
committed its record. -/
theorem StageOp.completed (lawful : tool.Lawful) {before after : Disk} {op : StageOp}
    {result : Except IoFailure (Option CommitRecord)} (ready : Ready root before)
    (representable : op.Representable tool root before)
    (ran : Fallible.outcome (StoreOp.apply tool) (op.program root) before = (result, after)) :
    ((∀ record, result ≠ .ok (some record)) ∧ before.ChangesWithin (IsPart root) after) ∨
    ∃ record, op.attempt tool root before = some record ∧ result = .ok (some record) ∧
      before.ChangesWithin (InBlock root record.blockId record.generation) after ∧
      Committed tool root record (op.data root before) after := by
  cases op with
  | stageBytes blockId generation data =>
      rcases prepared_completed lawful (only_writePart (isPart_partPath root blockId generation) data) writePart_eq_ok
          ready (representable _ rfl) ran with ⟨error, rfl, changes⟩ | committed
      · exact .inl ⟨by simp, changes⟩
      · exact .inr ⟨_, rfl, committed⟩
  | finalizePart blockId generation expected =>
      rcases prepared_completed lawful (only_syncPart (isPart_partPath root blockId generation))
          (fun ran => by rw [syncPart_eq_ok ran]) ready (representable _ rfl) ran with
        ⟨error, rfl, changes⟩ | committed
      · exact .inl ⟨by simp, changes⟩
      · exact .inr ⟨_, rfl, committed⟩
  | appendPart blockId generation chunks =>
      exact .inl ⟨returns_no_record ran, changesWithin_of_outcome
        ((only_appendPart (isPart_partPath root blockId generation) chunks).bind fun _ => Fallible.Only.result _) ran⟩
  | discardPart blockId generation =>
      exact .inl ⟨returns_no_record ran, changesWithin_of_outcome
        ((only_discardPart (isPart_partPath root blockId generation)).bind fun _ => Fallible.Only.result _) ran⟩
  | cleanupIncomplete =>
      exact .inl ⟨returns_no_record ran, changesWithin_of_outcome
        ((only_cleanupIncomplete root).bind fun _ => Fallible.Only.result _) ran⟩

/-! ## Success -/

/-- The digest of a part file is as expected, where one is. -/
def ExpectedDigest (tool : Sha256sum) (path : Path) (data : List UInt8)
    (expected : Option String) : Prop :=
  ∀ digest, expected = some digest → eqIgnoreAsciiCase (tool.digest path data) digest = true

/-- A part file with the expected digest is measured. -/
private theorem measurePart_ok (lawful : tool.Lawful) {before : Disk} {blockId : String}
    {generation : UInt64} {expected : Option String} {content : ByteVec}
    (part : before.lookup (partPath root blockId generation) = some (.file content))
    (digest : ExpectedDigest tool (partPath root blockId generation) content.bytes expected) :
    Fallible.outcome (StoreOp.apply tool) (measurePart root blockId generation expected) before =
      (.ok (recordOf tool root blockId generation content.bytes), before) := by
  have ranLength : Fallible.outcome (StoreOp.apply tool)
      (Store.length os (partPath root blockId generation)) before =
        (.ok (UInt64.ofNat content.bytes.length), before) := by
    rw [Store.outcome_length]
    simp [Disk.length, part, Except.mapError]
  have ranSha : Fallible.outcome (StoreOp.apply tool)
      (Store.sha256sum os (partPath root blockId generation)) before =
        (.ok (tool.digest (partPath root blockId generation) content.bytes), before) := by
    rw [Store.outcome_sha256sum]
    simp [sha256sumOf, Disk.read_eq_ok.mpr part, Except.mapError]
  have ranCheck : Fallible.outcome (StoreOp.apply tool)
      (checkDigest (partPath root blockId generation)
        (tool.digest (partPath root blockId generation) content.bytes) expected) before =
        (.ok (), before) := by
    cases expected with
    | none => rfl
    | some expected =>
        simp only [checkDigest]
        rw [if_pos (digest expected rfl)]
        rfl
  unfold measurePart
  rw [Fallible.outcome_bind_ok ranLength, Fallible.outcome_bind_ok ranSha,
    Fallible.outcome_bind_ok ranCheck, Fallible.outcome_pure, digest_partPath lawful]
  rfl

/-- A part file with the expected digest is committed. -/
theorem commitPart_ok (lawful : tool.Lawful) {before : Disk} {blockId : String}
    {generation : UInt64} {expected : Option String} {content : ByteVec}
    (ready : Ready root before)
    (part : before.lookup (partPath root blockId generation) = some (.file content))
    (digest : ExpectedDigest tool (partPath root blockId generation) content.bytes expected)
    (short : (utf8Bytes (commitText (recordOf tool root blockId generation
      content.bytes))).length < 2 ^ 63) :
    ∃ after, Fallible.outcome (StoreOp.apply tool) (commitPart root blockId generation expected)
        before = (.ok (recordOf tool root blockId generation content.bytes), after) ∧
      Committed tool root (recordOf tool root blockId generation content.bytes) content.bytes
        after := by
  have measured : Measured tool root before (recordOf tool root blockId generation content.bytes) :=
    ⟨content, part, rfl⟩
  obtain ⟨after, ran, committed⟩ := publish_ok ready measured short
  rw [show before.bytesAt (partPath root
    (recordOf tool root blockId generation content.bytes).blockId
    (recordOf tool root blockId generation content.bytes).generation) = content.bytes from
      Disk.bytesAt_file part] at committed
  refine ⟨after, ?_, committed⟩
  unfold commitPart
  rw [Fallible.outcome_bind_ok (measurePart_ok lawful part digest)]
  exact ran

/-- Data are staged under an identifier without a part file. -/
theorem stageBytes_ok (lawful : tool.Lawful) {before : Disk} {blockId : String}
    {generation : UInt64} {data : List UInt8} (valid : validateId blockId = .ok ())
    (ready : Ready root before) (absent : before.lookup (partPath root blockId generation) = none)
    (room : data.length < 2 ^ 63)
    (short : (utf8Bytes (commitText (recordOf tool root blockId generation data))).length < 2 ^ 63) :
    ∃ after, Fallible.outcome (StoreOp.apply tool) (stageBytes root blockId generation data)
        before = (.ok (recordOf tool root blockId generation data), after) := by
  have parent : before.ParentIsDirectory (partPath root blockId generation) :=
    ⟨by simp [partPath], by simpa [partPath] using ready.directory⟩
  obtain ⟨created, put, puts⟩ := Disk.putFile_ok ⟨[], ByteVec.nil_fits⟩ parent (by simp [absent])
  have ranCreate : Fallible.outcome (StoreOp.apply tool)
      (Store.createNew os (partPath root blockId generation)) before = (.ok (), created) := by
    rw [Store.outcome_createNew]
    simp [Disk.createNew, absent, put, Except.mapError]
  have roomWrite : ([] ++ data).length < 2 ^ 63 := by simpa using room
  obtain ⟨written, wrote⟩ := Disk.writeAll_ok parent.1 puts.put roomWrite
  have ranWrite : Fallible.outcome (StoreOp.apply tool)
      (Store.writeAll os (partPath root blockId generation) data) created = (.ok (), written) := by
    rw [Store.outcome_writeAll, wrote]
    rfl
  have ranPart : Fallible.outcome (StoreOp.apply tool) (writePart root blockId generation data)
      before = (.ok (), written) := by
    unfold writePart
    rw [Store.outcome_bind_ofExcept valid, Fallible.outcome_bind_ok ranCreate,
      Fallible.outcome_bind_ok ranWrite]
    rfl
  have changes := changesWithin_of_outcome (only_writePart (isPart_partPath root blockId generation) data) ranPart
  obtain ⟨content, part, same⟩ := (Disk.writeAll_eq_ok wrote).file
  rw [Disk.bytesAt_file puts.put, List.nil_append] at same
  have noneExpected : ExpectedDigest tool (partPath root blockId generation) content.bytes none := by
    intro digest isSome
    simp at isSome
  obtain ⟨after, ran, _⟩ := commitPart_ok lawful (ready.changesWithin changes (root_not_isPart root)) part
    noneExpected (by rwa [same])
  rw [same] at ran
  refine ⟨after, ?_⟩
  unfold stageBytes
  rw [Fallible.outcome_bind_ok ranPart]
  exact ran

section Parts

variable {disk : Disk} {blockId : String} {generation : UInt64}

/-- The part file is opened at its end. -/
theorem openPartForResume_ok (valid : validateId blockId = .ok ()) (ready : Ready root disk) :
    ∃ after, Fallible.outcome (StoreOp.apply tool) (openPartForResume root blockId generation)
        disk = (.ok (UInt64.ofNat (disk.bytesAt (partPath root blockId generation)).length),
          after) ∧
      disk.WritesFile (partPath root blockId generation)
        (disk.bytesAt (partPath root blockId generation)) after := by
  have parent : disk.ParentIsDirectory (partPath root blockId generation) :=
    ⟨by simp [partPath], by simpa [partPath] using ready.directory⟩
  obtain ⟨after, opened⟩ := Disk.openAppend_ok parent (ready.files _)
  have writes := Disk.openAppend_eq_ok opened
  obtain ⟨content, isFile, bytes⟩ := writes.file
  refine ⟨after, ?_, writes⟩
  have ranOpen : Fallible.outcome (StoreOp.apply tool)
      (Store.openAppend os (partPath root blockId generation)) disk = (.ok (), after) := by
    rw [Store.outcome_openAppend, opened]
    rfl
  unfold openPartForResume
  rw [Store.outcome_bind_ofExcept valid, Fallible.outcome_bind_ok ranOpen, Store.outcome_length,
    Disk.length, isFile, ← bytes]
  rfl

/-- A part file is discarded. -/
theorem discardPart_ok {content : ByteVec} (valid : validateId blockId = .ok ())
    (isFile : disk.lookup (partPath root blockId generation) = some (.file content)) :
    ∃ after, Fallible.outcome (StoreOp.apply tool) (discardPart root blockId generation) disk =
        (.ok (), after) ∧
      disk.Removes (partPath root blockId generation) after := by
  rcases Disk.removeFile_cases disk (partPath root blockId generation) with
    ⟨error, failed⟩ | ⟨after, removed, removes⟩
  · simp [Disk.removeFile, isFile] at failed
  · refine ⟨after, ?_, removes⟩
    have ranRemove : Fallible.outcome (StoreOp.apply tool) (Fallible.capture
        (Store.removeFile os (partPath root blockId generation))) disk = (.ok (.ok ()), after) := by
      rw [Fallible.outcome_capture, Store.outcome_removeFile, removed]
      rfl
    unfold discardPart
    rw [Store.outcome_bind_ofExcept valid, Fallible.outcome_bind_ok ranRemove]
    rfl

/-- A part file with the expected digest is finalized. -/
theorem finalizePart_ok (lawful : tool.Lawful) {expected : Option String} {content : ByteVec}
    (valid : validateId blockId = .ok ()) (ready : Ready root disk)
    (part : disk.lookup (partPath root blockId generation) = some (.file content))
    (digest : ExpectedDigest tool (partPath root blockId generation) content.bytes expected)
    (short : (utf8Bytes (commitText (recordOf tool root blockId generation
      content.bytes))).length < 2 ^ 63) :
    ∃ after, Fallible.outcome (StoreOp.apply tool) (finalizePart root blockId generation expected)
        disk = (.ok (recordOf tool root blockId generation content.bytes), after) ∧
      disk.ChangesWithin (InBlock root blockId generation) after ∧
      Committed tool root (recordOf tool root blockId generation content.bytes) content.bytes
        after := by
  obtain ⟨after, ran, committed⟩ := commitPart_ok lawful ready part digest short
  have opened : Fallible.outcome (StoreOp.apply tool)
      (Store.openWrite os (partPath root blockId generation)) disk = (.ok (), disk) := by
    rw [Store.outcome_openWrite, Disk.read_eq_ok.mpr part]
    rfl
  have ranSync : Fallible.outcome (StoreOp.apply tool) (syncPart root blockId generation) disk =
      (.ok (), disk) := by
    unfold syncPart
    rw [Store.outcome_bind_ofExcept valid, Fallible.outcome_bind_ok opened]
    rfl
  have ranFinalize : Fallible.outcome (StoreOp.apply tool)
      (finalizePart root blockId generation expected) disk =
        (.ok (recordOf tool root blockId generation content.bytes), after) := by
    unfold finalizePart
    rw [Fallible.outcome_bind_ok ranSync]
    exact ran
  have ranOp : Fallible.outcome (StoreOp.apply tool)
      ((StageOp.finalizePart blockId generation expected).program root) disk =
        (.ok (some (recordOf tool root blockId generation content.bytes)), after) :=
    Fallible.outcome_bind_ok ranFinalize
  have representable : (StageOp.finalizePart blockId generation expected).Representable tool root
      disk := by
    intro record isRecord
    rw [← Option.some.inj isRecord, Disk.bytesAt_file part]
    exact short
  rcases StageOp.completed lawful ready representable ranOp with
    ⟨noRecord, _⟩ | ⟨record, _, isRecord, changes, _⟩
  · exact absurd rfl (noRecord _)
  · obtain rfl := Option.some.inj (Except.ok.inj isRecord)
    exact ⟨after, ranFinalize, changes, committed⟩

end Parts

end TriAI.Staging
