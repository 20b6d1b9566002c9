import TriAI.Staging.RoundTrip

/-!
Contract: staging stores in which crashes have stopped some of the operations.

Owns: runs of completed and crashed operations, the records a block may be
recovered with after such a run, and the crashes after which `recover` still
returns one of them for every block that was committed.

Does not own: renames and new directory entries that a power failure undoes.
-/

set_option autoImplicit false

namespace TriAI.Staging

open TriAI.Library.FileTree
open TriAI.Library.Interaction
open TriAI.Library.Runs
open TriAI.Library.TextLines
open TriAI.Storage

variable {tool : Sha256sum} {root : Path}

/-- An operation with its result, or with the record a crash kept it from
committing. -/
inductive StageEvent where
  | completed (op : StageOp) (result : Except IoFailure (Option CommitRecord))
  | crashed (op : StageOp) (attempt : Option CommitRecord)

/-- One operation from disk to disk. -/
inductive StageStep (tool : Sha256sum) (root : Path) : Disk → StageEvent → Disk → Prop where
  | completed {before after : Disk} {op : StageOp}
      {result : Except IoFailure (Option CommitRecord)}
      (representable : op.Representable tool root before)
      (ran : Fallible.outcome (StoreOp.apply tool) (op.program root) before = (result, after)) :
      StageStep tool root before (.completed op result) after
  | crashed {before after : Disk} {op : StageOp}
      (stopped : Fallible.Interrupted (StoreOp.apply tool) tornStage before (op.program root)
        after) :
      StageStep tool root before (.crashed op (op.attempt tool root before)) after

/-- The record belongs to the block. -/
def CommitRecord.IsFor (record : CommitRecord) (blockId : String) (generation : UInt64) : Prop :=
  record.blockId = blockId ∧ record.generation = generation

instance (record : CommitRecord) (blockId : String) (generation : UInt64) :
    Decidable (record.IsFor blockId generation) := by
  unfold CommitRecord.IsFor
  infer_instance

/-- The records with which a block may be recovered: that of its last completed
commit, and those of the crashed ones since. -/
def candidatesAfter (blockId : String) (generation : UInt64) (candidates : List CommitRecord) :
    StageEvent → List CommitRecord
  | .completed _ (.ok (some record)) =>
      if record.IsFor blockId generation then [record] else candidates
  | .crashed _ (some record) =>
      if record.IsFor blockId generation ∧ candidates ≠ [] then candidates ++ [record]
      else candidates
  | _ => candidates

def candidates (blockId : String) (generation : UInt64) (history : List StageEvent) :
    List CommitRecord :=
  history.foldl (candidatesAfter blockId generation) []

/-- The crashes that lose nothing. A crash of an operation that commits leaves the
data file and the marker of the block alone, or it strikes at a block that is not
yet recovered and leaves whole characters of its marker, or it leaves the new
marker but for its last newline. And the blocks that are committed have plain
identifiers. -/
def KeepsMarkers (tool : Sha256sum) (root : Path) (before : Disk) (event : StageEvent)
    (after : Disk) : Prop :=
  match event with
  | .completed _ (.ok (some record)) => IsPlain record.blockId
  | .crashed _ (some record) =>
      Untouched root record.blockId record.generation before after ∨
      (∀ found, ¬ Marks tool root before
        (fileName record.blockId record.generation "commit") found) ∧
        ValidUtf8 (after.bytesAt (commitPath root record.blockId record.generation)) ∨
      ∃ kept, MarkerHolds root after record kept ∧
        (kept = utf8Bytes (commitText record) ∨ kept ++ [10] = utf8Bytes (commitText record))
  | _ => True

/-- Every marker is a text, and that of a committed block is read as one of its
candidates. -/
structure HoldsCommitted (tool : Sha256sum) (root : Path) (history : List StageEvent)
    (disk : Disk) : Prop extends Ready root disk where
  texts : ∀ name content, extension name = some "commit" →
    disk.lookup (root ++ [name]) = some (.file content) → ValidUtf8 content.bytes
  kept : ∀ blockId generation, candidates blockId generation history ≠ [] →
    IsPlain blockId ∧ ∃ record ∈ candidates blockId generation history,
      Marks tool root disk (fileName blockId generation "commit") record

theorem Fresh.holdsCommitted {disk : Disk} (fresh : Fresh root disk) :
    HoldsCommitted tool root [] disk where
  toReady := fresh.ready
  texts := fun name content _ lookup => by simp [fresh.empty name] at lookup
  kept := fun _ _ nonempty => absurd rfl nonempty

/-! ## Candidates -/

theorem candidates_append (blockId : String) (generation : UInt64) (history : List StageEvent)
    (event : StageEvent) :
    candidates blockId generation (history ++ [event]) =
      candidatesAfter blockId generation (candidates blockId generation history) event := by
  unfold candidates
  rw [List.foldl_append]
  rfl

/-- All candidates of a block are its records. -/
theorem isFor_of_mem_candidates {blockId : String} {generation : UInt64}
    {history : List StageEvent} {record : CommitRecord}
    (member : record ∈ candidates blockId generation history) :
    record.IsFor blockId generation := by
  induction history using List.reverseRecOn with
  | nil => simp [candidates] at member
  | append_singleton front event inductionHypothesis =>
      rw [candidates_append] at member
      unfold candidatesAfter at member
      split at member
      · split at member
        · rename_i isFor
          rwa [List.mem_singleton.mp member]
        · exact inductionHypothesis member
      · split at member
        · rename_i isFor
          rcases List.mem_append.mp member with earlier | last
          · exact inductionHypothesis earlier
          · rw [List.mem_singleton.mp last]
            exact isFor.1
        · exact inductionHypothesis member
      · exact inductionHypothesis member

/-- Another block's events do not count. -/
theorem candidatesAfter_other {blockId : String} {generation : UInt64} {record : CommitRecord}
    (other : ¬ record.IsFor blockId generation) (before : List CommitRecord) (op : StageOp) :
    candidatesAfter blockId generation before (.completed op (.ok (some record))) = before ∧
      candidatesAfter blockId generation before (.crashed op (some record)) = before := by
  simp [candidatesAfter, other]

/-- A crash adds a candidate to a committed block at most. -/
theorem candidatesAfter_crashed {blockId : String} {generation : UInt64}
    {before : List CommitRecord} {op : StageOp} {attempt : Option CommitRecord}
    (nonempty : candidatesAfter blockId generation before (.crashed op attempt) ≠ []) :
    before ≠ [] ∧ before ⊆ candidatesAfter blockId generation before (.crashed op attempt) := by
  cases attempt with
  | none => exact ⟨nonempty, fun _ member => member⟩
  | some record =>
      unfold candidatesAfter at nonempty ⊢
      simp only at nonempty ⊢
      split at nonempty
      · rename_i added
        rw [if_pos added]
        exact ⟨added.2, List.subset_append_left _ _⟩
      · rename_i unchanged
        rw [if_neg unchanged]
        exact ⟨nonempty, fun _ member => member⟩

/-! ## Steps -/

/-- A marker is read as before where it and the data file are as before. -/
private theorem Marks.congr {before after : Disk} {name : String} {record : CommitRecord}
    (marks : Marks tool root before name record)
    (marker : after.lookup (root ++ [name]) = before.lookup (root ++ [name]))
    (blob : after.lookup (blobPath root record.blockId record.generation) =
      before.lookup (blobPath root record.blockId record.generation)) :
    Marks tool root after name record := by
  obtain ⟨isCommit, content, text, isMarker, bytes, parsed, verified⟩ := marks
  exact ⟨isCommit, content, text, marker.trans isMarker, bytes, parsed, verified.congr blob⟩

namespace HoldsCommitted

variable {history : List StageEvent} {event : StageEvent} {before after : Disk}

/-- A step that changes no marker and no data file, and takes no candidate away. -/
private theorem unchanged (holds : HoldsCommitted tool root history before)
    (ready : Ready root after)
    (markers : ∀ name, extension name = some "commit" →
      after.lookup (root ++ [name]) = before.lookup (root ++ [name]))
    (blobs : ∀ blockId generation, after.lookup (blobPath root blockId generation) =
      before.lookup (blobPath root blockId generation))
    (grows : ∀ blockId generation, candidates blockId generation (history ++ [event]) ≠ [] →
      candidates blockId generation history ≠ [] ∧ candidates blockId generation history ⊆
        candidates blockId generation (history ++ [event])) :
    HoldsCommitted tool root (history ++ [event]) after where
  toReady := ready
  texts := by
    intro name content isCommit lookup
    rw [markers name isCommit] at lookup
    exact holds.texts name content isCommit lookup
  kept := by
    intro blockId generation nonempty
    obtain ⟨committed, includes⟩ := grows blockId generation nonempty
    obtain ⟨plain, record, member, marks⟩ := holds.kept blockId generation committed
    exact ⟨plain, record, includes member, marks.congr (markers _ marks.1) (blobs _ _)⟩

/-- A step that writes the data file and the marker of one block. -/
private theorem written {record : CommitRecord} (holds : HoldsCommitted tool root history before)
    (ready : Ready root after)
    (changes : before.ChangesWithin (InBlock root record.blockId record.generation) after)
    (others : ∀ blockId generation, ¬ record.IsFor blockId generation →
      candidates blockId generation (history ++ [event]) = candidates blockId generation history)
    (ownText : ValidUtf8 (after.bytesAt (commitPath root record.blockId record.generation)))
    (own : candidates record.blockId record.generation (history ++ [event]) ≠ [] →
      IsPlain record.blockId ∧
        ∃ found ∈ candidates record.blockId record.generation (history ++ [event]),
          Marks tool root after (fileName record.blockId record.generation "commit") found) :
    HoldsCommitted tool root (history ++ [event]) after where
  toReady := ready
  texts := by
    intro name content isCommit lookup
    by_cases same : root ++ [name] = commitPath root record.blockId record.generation
    · rw [same] at lookup
      rwa [Disk.bytesAt_file lookup] at ownText
    · rw [changes.frame _ (not_inBlock_commit isCommit same)] at lookup
      exact holds.texts name content isCommit lookup
  kept := by
    intro blockId generation nonempty
    by_cases isOwn : record.IsFor blockId generation
    · obtain ⟨rfl, rfl⟩ := isOwn
      exact own nonempty
    · rw [others blockId generation isOwn] at nonempty ⊢
      obtain ⟨plain, found, member, marks⟩ := holds.kept blockId generation nonempty
      have different : ¬ (blockId = record.blockId ∧ generation = record.generation) :=
        fun same => isOwn ⟨same.1.symm, same.2.symm⟩
      refine ⟨plain, found, member, marks.congr (changes.frame _ ?_) (changes.frame _ ?_)⟩
      · exact not_inBlock_commit marks.1 fun same => different (commitPath_inj same)
      · obtain ⟨rfl, rfl⟩ := isFor_of_mem_candidates member
        exact not_inBlock_blobPath different

/-- A marker that is complete, but for its last newline at most, is a text. -/
private theorem text_of_complete {record : CommitRecord} {kept : List UInt8}
    (complete : kept = utf8Bytes (commitText record) ∨
      kept ++ [10] = utf8Bytes (commitText record)) :
    ∃ text, kept = utf8Bytes text ∧
      (text = commitText record ∨ text ++ "\n" = commitText record) := by
  rcases complete with whole | unended
  · exact ⟨commitText record, whole, .inl rfl⟩
  · have withoutEnd : markerText record record.sha256 ++ "\n" = commitText record := by
      simp [commitText, markerText, String.append_assoc]
    have newline : utf8Bytes "\n" = [10] := by decide +kernel
    rw [← withoutEnd, utf8Bytes_append, newline] at unended
    exact ⟨markerText record record.sha256, List.append_cancel_right unended, .inr withoutEnd⟩

/-- It is read as its record. -/
private theorem marks_of_complete (lawful : tool.Lawful) {disk : Disk} {record : CommitRecord}
    {kept : List UInt8} (plain : IsPlain record.blockId) (verified : Verified tool root disk record)
    (holds : MarkerHolds root disk record kept)
    (complete : kept = utf8Bytes (commitText record) ∨
      kept ++ [10] = utf8Bytes (commitText record)) :
    Marks tool root disk (fileName record.blockId record.generation "commit") record := by
  obtain ⟨marker, isMarker, bytes⟩ := holds
  obtain ⟨digestPlain, digestVisible⟩ : IsPlain record.sha256 ∧ record.sha256 ≠ "" := by
    obtain ⟨content, _, isRecord⟩ := verified
    rw [isRecord]
    exact isPlain_digest lawful _ _
  obtain ⟨text, isText, same⟩ := text_of_complete complete
  refine ⟨extension_fileName (.inr (.inr rfl)), marker, text, isMarker, bytes.trans isText, ?_,
    verified⟩
  rcases same with rfl | withoutEnd
  · exact parseRecord_commitText plain digestPlain
  · exact parseRecord_of_unended plain digestPlain digestVisible withoutEnd

/-- Step lemma: an operation that completes. -/
private theorem completed (lawful : tool.Lawful) {op : StageOp}
    {result : Except IoFailure (Option CommitRecord)}
    (holds : HoldsCommitted tool root history before)
    (representable : op.Representable tool root before)
    (ran : Fallible.outcome (StoreOp.apply tool) (op.program root) before = (result, after))
    (keeps : KeepsMarkers tool root before (.completed op result) after) :
    HoldsCommitted tool root (history ++ [.completed op result]) after := by
  rcases StageOp.completed lawful holds.toReady representable ran with
    ⟨noRecord, changes⟩ | ⟨record, _, rfl, changes, done⟩
  · refine holds.unchanged (holds.toReady.changesWithin changes (root_not_isPart root)) ?_ ?_ ?_
    · exact fun name isCommit => changes.frame _ (not_isPart_commit isCommit)
    · exact fun blockId generation => changes.frame _ (not_isPart_blobPath _ _ _)
    · intro blockId generation nonempty
      have same : candidates blockId generation (history ++ [.completed op result]) =
          candidates blockId generation history := by
        rw [candidates_append]
        unfold candidatesAfter
        split
        · rename_i _ record isCompleted
          cases isCompleted
          exact absurd rfl (noRecord record)
        · rename_i isCrashed
          cases isCrashed
        · rfl
      rw [same] at nonempty ⊢
      exact ⟨nonempty, fun _ member => member⟩
  · have isMarked := marks_of_complete lawful keeps done.verified done.marker (.inl rfl)
    obtain ⟨marker, isMarker, bytes⟩ := done.marker
    refine holds.written (holds.toReady.changesWithin changes (root_not_inBlock _ _ _)) changes ?_ ?_ ?_
    · intro blockId generation other
      rw [candidates_append]
      exact (candidatesAfter_other other _ op).1
    · rw [Disk.bytesAt_file isMarker, bytes]
      exact validUtf8_utf8Bytes _
    · intro _
      refine ⟨keeps, record, ?_, isMarked⟩
      rw [candidates_append]
      simp [candidatesAfter, CommitRecord.IsFor]

/-- Step lemma: an operation that a crash stops. -/
private theorem crashed (lawful : tool.Lawful) {op : StageOp}
    (holds : HoldsCommitted tool root history before)
    (stopped : Fallible.Interrupted (StoreOp.apply tool) tornStage before (op.program root) after)
    (keeps : KeepsMarkers tool root before (.crashed op (op.attempt tool root before)) after) :
    HoldsCommitted tool root (history ++ [.crashed op (op.attempt tool root before)]) after := by
  have grows : ∀ blockId generation, candidates blockId generation
        (history ++ [.crashed op (op.attempt tool root before)]) ≠ [] →
      candidates blockId generation history ≠ [] ∧ candidates blockId generation history ⊆
        candidates blockId generation (history ++ [.crashed op (op.attempt tool root before)]) := by
    intro blockId generation nonempty
    rw [candidates_append] at nonempty ⊢
    exact candidatesAfter_crashed nonempty
  rcases StageOp.interrupted lawful stopped with
    ⟨_, changes⟩ | ⟨record, isAttempt, changes, reached⟩
  · refine holds.unchanged (holds.toReady.changesWithin changes (root_not_isPart root)) ?_ ?_ grows
    · exact fun name isCommit => changes.frame _ (not_isPart_commit isCommit)
    · exact fun blockId generation => changes.frame _ (not_isPart_blobPath _ _ _)
  rw [isAttempt] at keeps grows ⊢
  have ready := holds.toReady.changesWithin changes (root_not_inBlock _ _ _)
  have whenUntouched : Untouched root record.blockId record.generation before after →
      HoldsCommitted tool root (history ++ [.crashed op (some record)]) after := by
    intro same
    refine holds.unchanged ready ?_ ?_ grows
    · intro name isCommit
      by_cases isOwn : root ++ [name] = commitPath root record.blockId record.generation
      · rw [isOwn, same.commit]
      · exact changes.frame _ (not_inBlock_commit isCommit isOwn)
    · intro blockId generation
      by_cases isOwn : blockId = record.blockId ∧ generation = record.generation
      · rw [isOwn.1, isOwn.2, same.blob]
      · exact changes.frame _ (not_inBlock_blobPath isOwn)
  have others : ∀ blockId generation, ¬ record.IsFor blockId generation →
      candidates blockId generation (history ++ [.crashed op (some record)]) =
        candidates blockId generation history := by
    intro blockId generation other
    rw [candidates_append]
    exact (candidatesAfter_other other _ op).2
  have verified : ¬ Untouched root record.blockId record.generation before after →
      Verified tool root after record := by
    intro touched
    cases reached with
    | untouched same => exact absurd same touched
    | renamed verified _ => exact verified
    | marked verified => exact verified
  by_cases untouched : Untouched root record.blockId record.generation before after
  · exact whenUntouched untouched
  rcases keeps with same | ⟨notRecovered, whole⟩ | ⟨kept, isKept, complete⟩
  · exact absurd same untouched
  · refine holds.written ready changes others whole fun nonempty => ?_
    -- a committed block would have been recovered before
    obtain ⟨_, found, _, marks⟩ :=
      holds.kept record.blockId record.generation (grows _ _ nonempty).1
    exact absurd marks (notRecovered found)
  · refine holds.written ready changes others ?_ fun nonempty => ?_
    · obtain ⟨marker, isMarker, bytes⟩ := isKept
      obtain ⟨text, isText, _⟩ := text_of_complete complete
      rw [Disk.bytesAt_file isMarker, bytes, isText]
      exact validUtf8_utf8Bytes text
    · obtain ⟨committed, _⟩ := grows _ _ nonempty
      obtain ⟨plain, _⟩ := holds.kept _ _ committed
      refine ⟨plain, record, ?_, marks_of_complete lawful plain (verified untouched) isKept complete⟩
      rw [candidates_append]
      simp [candidatesAfter, CommitRecord.IsFor, committed]

end HoldsCommitted

/-- After any run of operations and crashes of which no crash destroys the marker or
the data of a recovered block, `recover` succeeds and returns for every block that
was committed the record of its last commit or of a commit that has crashed since;
the data of the block are those of the record. -/
theorem recover_after_crashes (lawful : tool.Lawful) {first last : Disk}
    {history : List StageEvent} (fresh : Fresh root first)
    (run : Run (fun before event after => StageStep tool root before event after ∧
      KeepsMarkers tool root before event after) first history last) :
    ∃ records, Fallible.outcome (StoreOp.apply tool) (recover root) last = (.ok records, last) ∧
      ∀ blockId generation, candidates blockId generation history ≠ [] →
        ∃ record ∈ candidates blockId generation history,
          record ∈ records ∧ Verified tool root last record ∧
          ∀ other ∈ records, other.IsFor blockId generation → other = record := by
  have holds : HoldsCommitted tool root history last := by
    apply run.invariant (HoldsCommitted tool root)
    · exact fresh.holdsCommitted
    · intro done before event after holds step
      cases step.1 with
      | completed representable ran => exact holds.completed lawful representable ran step.2
      | crashed stopped => exact holds.crashed lawful stopped step.2
  have readable : Readable root last := by
    refine ⟨holds.directory, fun name entry lookup isCommit => ?_⟩
    cases entry with
    | directory => exact absurd lookup (holds.files name)
    | file content =>
        obtain ⟨text, bytes⟩ := validUtf8_iff.mp (holds.texts name content isCommit lookup)
        exact ⟨content, text, rfl, bytes⟩
  obtain ⟨records, ran, members⟩ := outcome_recover tool readable
  refine ⟨records, ran, fun blockId generation nonempty => ?_⟩
  obtain ⟨_, record, member, marks⟩ := holds.kept blockId generation nonempty
  have verified : Verified tool root last record := by
    obtain ⟨_, _, _, _, _, _, verified⟩ := marks
    exact verified
  refine ⟨record, member, (members record).mpr ⟨_, marks⟩, verified, ?_⟩
  intro other isMember isFor
  obtain ⟨_, _, _, _, _, _, _, otherVerified⟩ := (members other).mp isMember
  obtain ⟨sameId, sameGeneration⟩ := isFor_of_mem_candidates member
  exact otherVerified.eq verified (isFor.1.trans sameId.symm)
    (isFor.2.trans sameGeneration.symm)

/-! ## Two runs -/

/-- The disk after a crash of `stage_bytes` between the rename of the data and the
creation of the marker. -/
def renamedDisk (blockId : String) (data : List UInt8) (disk : Disk) : Disk :=
  let partDisk := (Fallible.outcome (StoreOp.apply exampleSha256sum)
    (writePart ["store"] blockId 1 data) disk).2
  let measuredDisk := (Fallible.outcome (StoreOp.apply exampleSha256sum)
    (measurePart ["store"] blockId 1 none) partDisk).2
  (measuredDisk.rename (partPath ["store"] blockId 1) (blobPath ["store"] blockId 1)).2

/-- Such a crash can happen whenever the part file can be written. -/
theorem renamed_step (blockId : String) (data : List UInt8) (disk : Disk)
    (wrote : (Fallible.outcome (StoreOp.apply exampleSha256sum)
      (writePart ["store"] blockId 1 data) disk).1 = .ok ())
    (measured : (Fallible.outcome (StoreOp.apply exampleSha256sum)
      (measurePart ["store"] blockId 1 none) (Fallible.outcome (StoreOp.apply exampleSha256sum)
        (writePart ["store"] blockId 1 data) disk).2).1 =
      .ok (recordOf exampleSha256sum ["store"] blockId 1 data)) :
    StageStep exampleSha256sum ["store"] disk
      (.crashed (.stageBytes blockId 1 data)
        (some (recordOf exampleSha256sum ["store"] blockId 1 data)))
      (renamedDisk blockId data disk) := by
  apply StageStep.crashed
  apply Fallible.Interrupted.inFirst
  apply Fallible.Interrupted.inSecond (Prod.ext wrote rfl)
  apply Fallible.Interrupted.inSecond (Prod.ext measured rfl)
  apply Fallible.Interrupted.inFirst
  exact .of_outcome (Prod.ext rfl rfl)

/-- A block with a short identifier is staged. -/
theorem staged_step (blockId : String) (short : blockId.length < 2 ^ 32)
    (succeeds : (Fallible.outcome (StoreOp.apply exampleSha256sum)
      (stageBytes ["store"] blockId 1 [97, 98, 99]) storeDisk).1 =
        .ok (recordOf exampleSha256sum ["store"] blockId 1 [97, 98, 99])) :
    StageStep exampleSha256sum ["store"] storeDisk
      (.completed (.stageBytes blockId 1 [97, 98, 99])
        (.ok (some (recordOf exampleSha256sum ["store"] blockId 1 [97, 98, 99]))))
      (stagedDisk blockId) := by
  apply StageStep.completed
  · intro record isRecord
    rw [← Option.some.inj isRecord]
    exact commitText_short exampleSha256sum_lawful 1 [97, 98, 99] short
  · exact Fallible.outcome_bind_ok (Prod.ext succeeds rfl)

/-- The operations of both runs. -/
def stagedThenCrashed (crashedId : String) : List StageEvent :=
  [.completed (.stageBytes "a" 1 [97, 98, 99])
      (.ok (some (recordOf exampleSha256sum ["store"] "a" 1 [97, 98, 99]))),
    .crashed (.stageBytes crashedId 1 [])
      (some (recordOf exampleSha256sum ["store"] crashedId 1 []))]

/-- A crash while another block is staged for the first time. -/
theorem recover_after_other_crashed :
    ∃ records, Fallible.outcome (StoreOp.apply exampleSha256sum) (recover ["store"])
        (renamedDisk "b" [] (stagedDisk "a")) =
          (.ok records, renamedDisk "b" [] (stagedDisk "a")) ∧
      ∀ blockId generation, candidates blockId generation (stagedThenCrashed "b") ≠ [] →
        ∃ record ∈ candidates blockId generation (stagedThenCrashed "b"),
          record ∈ records ∧
          Verified exampleSha256sum ["store"] (renamedDisk "b" [] (stagedDisk "a")) record ∧
          ∀ other ∈ records, other.IsFor blockId generation → other = record := by
  apply recover_after_crashes exampleSha256sum_lawful storeDisk_fresh
  have first : Run (fun before event after =>
      StageStep exampleSha256sum ["store"] before event after ∧
        KeepsMarkers exampleSha256sum ["store"] before event after) storeDisk
      [.completed (.stageBytes "a" 1 [97, 98, 99])
        (.ok (some (recordOf exampleSha256sum ["store"] "a" 1 [97, 98, 99])))]
      (stagedDisk "a") :=
    .step .start ⟨staged_step "a" (by decide) (by decide +kernel),
      (by decide +kernel : IsPlain "a")⟩
  apply first.step
  refine ⟨renamed_step "b" [] _ (by decide +kernel) (by decide +kernel), .inr (.inl ⟨?_, ?_⟩)⟩
  · rintro found ⟨_, content, _, lookup, _⟩
    have absent : (stagedDisk "a").lookup (["store"] ++ [fileName "b" 1 "commit"]) = none := by
      decide +kernel
    have marker : (stagedDisk "a").lookup (["store"] ++ [fileName "b" 1 "commit"]) =
        some (.file content) := lookup
    rw [absent] at marker
    simp at marker
  · decide +kernel

/-- A crash while a committed block is staged again loses both records. -/
theorem recover_loses_restaged_block :
    Run (StageStep exampleSha256sum ["store"]) storeDisk (stagedThenCrashed "a")
        (renamedDisk "a" [] (stagedDisk "a")) ∧
      candidates "a" 1 (stagedThenCrashed "a") ≠ [] ∧
      (Fallible.outcome (StoreOp.apply exampleSha256sum) (recover ["store"])
        (renamedDisk "a" [] (stagedDisk "a"))).1 = .ok [] := by
  have first : Run (StageStep exampleSha256sum ["store"]) storeDisk
      [.completed (.stageBytes "a" 1 [97, 98, 99])
        (.ok (some (recordOf exampleSha256sum ["store"] "a" 1 [97, 98, 99])))]
      (stagedDisk "a") :=
    .step .start (staged_step "a" (by decide) (by decide +kernel))
  refine ⟨first.step (renamed_step "a" [] _ (by decide +kernel) (by decide +kernel)), ?_, ?_⟩
  · decide +kernel
  · decide +kernel

end TriAI.Staging
