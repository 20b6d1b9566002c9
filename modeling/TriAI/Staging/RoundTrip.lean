import TriAI.Library.Runs
import TriAI.Staging.Effects

/-!
Contract: what is staged in a store without crashes is recovered and restored.

Owns: the stores that completed operations reach, and the identifiers for which
staging round trips from every one of them.

Does not own: crashes.
-/

set_option autoImplicit false

namespace TriAI.Staging

open TriAI.Library.FileTree
open TriAI.Library.Interaction
open TriAI.Library.Runs
open TriAI.Library.TextLines
open TriAI.Storage

variable {tool : Sha256sum} {root : Path}

/-- A store directory with nothing in it. -/
structure Fresh (root : Path) (disk : Disk) : Prop where
  directory : disk.lookup root = some .directory
  empty : ∀ name, disk.lookup (root ++ [name]) = none

theorem Fresh.ready {disk : Disk} (fresh : Fresh root disk) : Ready root disk where
  directory := fresh.directory
  files := fun name => by simp [fresh.empty name]

/-- An operation that completes, with or without success. -/
structure CompletedStep (tool : Sha256sum) (root : Path) (before : Disk) (op : StageOp)
    (after : Disk) : Prop where
  representable : op.Representable tool root before
  ran : ∃ result, Fallible.outcome (StoreOp.apply tool) (op.program root) before =
    (result, after)

/-! ## Blocks that are not staged -/

theorem commitPath_inj {blockId blockId' : String} {generation generation' : UInt64}
    (same : commitPath root blockId generation = commitPath root blockId' generation') :
    blockId = blockId' ∧ generation = generation' := by
  have names : fileName blockId generation "commit" = fileName blockId' generation' "commit" := by
    simpa [commitPath] using same
  have parts := fileName_inj (.inr (.inr rfl)) (.inr (.inr rfl)) names
  exact ⟨parts.1, parts.2.1⟩

theorem blobPath_inj {blockId blockId' : String} {generation generation' : UInt64}
    (same : blobPath root blockId generation = blobPath root blockId' generation') :
    blockId = blockId' ∧ generation = generation' := by
  have names : fileName blockId generation "bin" = fileName blockId' generation' "bin" := by
    simpa [blobPath] using same
  have parts := fileName_inj (.inr (.inl rfl)) (.inr (.inl rfl)) names
  exact ⟨parts.1, parts.2.1⟩

/-- The data file of another block. -/
theorem not_inBlock_blobPath {blockId other : String} {generation otherGeneration : UInt64}
    (different : ¬ (other = blockId ∧ otherGeneration = generation)) :
    ¬ InBlock root blockId generation (blobPath root other otherGeneration) := by
  rintro (isPart | isBlob | isCommit)
  · exact not_isPart_blobPath root _ _ isPart
  · exact different (blobPath_inj isBlob)
  · exact commitPath_ne_blobPath _ _ _ _ _ isCommit.symm

/-- The marker of another block. -/
theorem not_inBlock_commit {blockId name : String} {generation : UInt64}
    (isCommit : extension name = some "commit")
    (different : root ++ [name] ≠ commitPath root blockId generation) :
    ¬ InBlock root blockId generation (root ++ [name]) := by
  rintro (isPart | isBlob | same)
  · exact not_isPart_commit isCommit isPart
  · have names : name = fileName blockId generation "bin" := by simpa [blobPath] using isBlob
    rw [names, extension_fileName (.inr (.inl rfl))] at isCommit
    revert isCommit
    decide
  · exact different same

theorem Verified.congr {before after : Disk} {record : CommitRecord}
    (verified : Verified tool root before record)
    (same : after.lookup (blobPath root record.blockId record.generation) =
      before.lookup (blobPath root record.blockId record.generation)) :
    Verified tool root after record := by
  obtain ⟨content, blob, isRecord⟩ := verified
  exact ⟨content, same.trans blob, isRecord⟩

/-! ## Stores without crashes -/

/-- Every marker is the complete marker of its block, with the data it describes. -/
structure Sound (tool : Sha256sum) (root : Path) (disk : Disk) : Prop extends Ready root disk where
  markers : ∀ name content, extension name = some "commit" →
    disk.lookup (root ++ [name]) = some (.file content) →
    ∃ record, name = fileName record.blockId record.generation "commit" ∧
      content.bytes = utf8Bytes (commitText record) ∧ Verified tool root disk record

theorem Fresh.sound {disk : Disk} (fresh : Fresh root disk) : Sound tool root disk where
  toReady := fresh.ready
  markers := fun name content _ lookup => by simp [fresh.empty name] at lookup

/-- Step lemma: completed operations keep the markers sound. -/
theorem Sound.step (lawful : tool.Lawful) {before after : Disk} {op : StageOp}
    (sound : Sound tool root before) (step : CompletedStep tool root before op after) :
    Sound tool root after := by
  obtain ⟨result, ran⟩ := step.ran
  rcases StageOp.completed lawful sound.toReady step.representable ran with
    ⟨_, changes⟩ | ⟨committed, _, _, changes, isCommitted⟩
  · refine ⟨sound.toReady.changesWithin changes (root_not_isPart root), ?_⟩
    intro name content isCommit lookup
    rw [changes.frame _ (not_isPart_commit isCommit)] at lookup
    obtain ⟨record, isName, bytes, verified⟩ := sound.markers name content isCommit lookup
    exact ⟨record, isName, bytes, verified.congr (changes.frame _ (not_isPart_blobPath _ _ _))⟩
  · refine ⟨sound.toReady.changesWithin changes (root_not_inBlock _ _ _), ?_⟩
    intro name content isCommit lookup
    by_cases same : root ++ [name] = commitPath root committed.blockId committed.generation
    · obtain ⟨marker, isMarker, bytes⟩ := isCommitted.marker
      rw [same, isMarker] at lookup
      cases lookup
      exact ⟨committed, by simpa [commitPath] using same, bytes, isCommitted.verified⟩
    · rw [changes.frame _ (not_inBlock_commit isCommit same)] at lookup
      obtain ⟨record, isName, bytes, verified⟩ := sound.markers name content isCommit lookup
      refine ⟨record, isName, bytes, verified.congr (changes.frame _ (not_inBlock_blobPath ?_))⟩
      rintro ⟨sameId, sameGeneration⟩
      apply same
      rw [isName, sameId, sameGeneration]
      rfl

/-- Run lemma. -/
theorem sound_of_run (lawful : tool.Lawful) {first last : Disk} {history : List StageOp}
    (fresh : Fresh root first) (run : Run (CompletedStep tool root) first history last) :
    Sound tool root last :=
  run.state_invariant (Sound tool root) fresh.sound fun _ _ _ sound step => sound.step lawful step

/-- The markers of a sound store can be read. -/
theorem Sound.readable {disk : Disk} (sound : Sound tool root disk) : Readable root disk where
  directory := sound.directory
  markers := by
    intro name entry lookup isCommit
    cases entry with
    | directory => exact absurd lookup (sound.files name)
    | file content =>
        obtain ⟨record, _, bytes, _⟩ := sound.markers name content isCommit lookup
        exact ⟨content, commitText record, rfl, bytes⟩

/-! ## Round trips -/

/-- Staging `blockId` with success, from any store that completed operations reach:
its record is recovered and no other for the block, its data are restored, and the
records of other blocks are recovered as before. -/
def RoundTrips (tool : Sha256sum) (root : Path) (first : Disk) (blockId : String) : Prop :=
  ∀ (history : List StageOp) (before after : Disk) (generation : UInt64) (data : List UInt8)
    (record : CommitRecord),
    Run (CompletedStep tool root) first history before →
    Fallible.outcome (StoreOp.apply tool) (stageBytes root blockId generation data) before =
      (.ok record, after) →
    ∃ earlier records,
      Fallible.outcome (StoreOp.apply tool) (recover root) before = (.ok earlier, before) ∧
      Fallible.outcome (StoreOp.apply tool) (recover root) after = (.ok records, after) ∧
      (∀ found, found ∈ records ∧ found.blockId = blockId ∧ found.generation = generation ↔
        found = record) ∧
      (∀ target processId nanos,
        Restorable after target (restoreName blockId generation processId nanos) →
        ∃ last content, Fallible.outcome (StoreOp.apply tool)
            (restoreActive root processId nanos blockId generation target) after =
              (.ok (), last) ∧
          last.lookup target = some (.file content) ∧ content.bytes = data) ∧
      ∀ other ∈ earlier, ¬ (other.blockId = blockId ∧ other.generation = generation) →
        other ∈ records

/-- A record of another block is still recovered after a commit. -/
private theorem kept_of_committed (lawful : tool.Lawful) {before after : Disk} {blockId : String}
    {generation : UInt64} (plain : IsPlain blockId) (sound : Sound tool root before)
    (changes : before.ChangesWithin (InBlock root blockId generation) after)
    {other : CommitRecord} (different : ¬ (other.blockId = blockId ∧ other.generation = generation))
    {name : String} (marks : Marks tool root before name other) :
    Marks tool root after name other := by
  obtain ⟨isCommit, marker, text, isMarker, bytes, parsed, verified⟩ := marks
  have elsewhere : root ++ [name] ≠ commitPath root blockId generation := by
    intro same
    -- the marker of the block itself is read as a record of the block
    obtain ⟨owner, isName, ownerBytes, ownerVerified⟩ :=
      sound.markers name marker isCommit isMarker
    have ownerPath : commitPath root owner.blockId owner.generation =
        commitPath root blockId generation := by
      rw [← same, isName]
      rfl
    obtain ⟨sameId, sameGeneration⟩ := commitPath_inj ownerPath
    have ownerPlain : IsPlain owner.blockId := by rwa [sameId]
    have sameText : text = commitText owner := by
      have decoded := congrArg fromUtf8 (bytes.symm.trans ownerBytes)
      simpa using decoded
    rw [sameText, ownerVerified.parseRecord_commitText lawful ownerPlain] at parsed
    cases parsed
    exact different ⟨sameId, sameGeneration⟩
  refine ⟨isCommit, marker, text, ?_, bytes, parsed, ?_⟩
  · rw [changes.frame _ (not_inBlock_commit isCommit elsewhere), isMarker]
  · exact verified.congr (changes.frame _ (not_inBlock_blobPath different))

/-- A plain identifier round trips. -/
private theorem roundTrips_of_isPlain (lawful : tool.Lawful) {first : Disk} {blockId : String}
    (valid : validateId blockId = .ok ()) (fresh : Fresh root first)
    (representable : ∀ generation data,
      (utf8Bytes (commitText (recordOf tool root blockId generation data))).length < 2 ^ 63)
    (plain : IsPlain blockId) : RoundTrips tool root first blockId := by
  intro history before after generation data record run ran
  have sound := sound_of_run lawful fresh run
  have ranOp : Fallible.outcome (StoreOp.apply tool)
      ((StageOp.stageBytes blockId generation data).program root) before =
        (.ok (some record), after) := Fallible.outcome_bind_ok ran
  have isRepresentable : (StageOp.stageBytes blockId generation data).Representable tool root
      before := by
    intro record isRecord
    rw [← Option.some.inj isRecord]
    exact representable generation data
  have soundAfter := sound.step lawful ⟨isRepresentable, _, ranOp⟩
  obtain ⟨earlier, ranEarlier, earlierMembers⟩ := outcome_recover tool sound.readable
  obtain ⟨records, ranRecords, members⟩ := outcome_recover tool soundAfter.readable
  rcases StageOp.completed lawful sound.toReady isRepresentable ranOp with
    ⟨noRecord, _⟩ | ⟨committed, isAttempt, isCommitted, changes, done⟩
  · exact absurd rfl (noRecord record)
  obtain rfl : record = committed := by simpa using isCommitted
  obtain rfl : recordOf tool root blockId generation data = record := Option.some.inj isAttempt
  obtain ⟨content, blob, _⟩ := done.verified
  have isBlob : after.lookup (blobPath root blockId generation) = some (.file content) := blob
  have isData : after.bytesAt (blobPath root blockId generation) = data := done.bytes
  have own : ∀ found, found ∈ records ∧ found.blockId = blockId ∧ found.generation = generation ↔
      found = recordOf tool root blockId generation data := by
    intro found
    constructor
    · rintro ⟨member, sameId, sameGeneration⟩
      obtain ⟨_, _, _, _, _, _, _, verified⟩ := (members found).mp member
      exact verified.eq done.verified sameId sameGeneration
    · rintro rfl
      refine ⟨(members _).mpr ⟨fileName blockId generation "commit", ?_⟩, rfl, rfl⟩
      obtain ⟨marker, isMarker, bytes⟩ := done.marker
      exact ⟨extension_fileName (.inr (.inr rfl)), marker, _, isMarker, bytes,
        done.verified.parseRecord_commitText lawful plain, done.verified⟩
  refine ⟨earlier, records, ranEarlier, ranRecords, own, ?_, ?_⟩
  · intro target processId nanos restorable
    obtain ⟨member, _, _⟩ := (own _).mpr rfl
    obtain ⟨last, restored, written⟩ := outcome_restoreActive valid ranRecords
      ⟨_, member, rfl, rfl⟩ isBlob restorable
    rw [Disk.bytesAt_file isBlob] at isData
    exact ⟨last, content, restored, written, isData⟩
  · intro other member different
    obtain ⟨name, marks⟩ := (earlierMembers other).mp member
    exact (members other).mpr ⟨name, kept_of_committed lawful plain sound changes different marks⟩

/-- In a fresh store a block whose identifier is not plain is staged and then not
recovered. -/
private theorem isPlain_of_roundTrips (lawful : tool.Lawful) {first : Disk} {blockId : String}
    (valid : validateId blockId = .ok ()) (fresh : Fresh root first)
    (representable : ∀ generation data,
      (utf8Bytes (commitText (recordOf tool root blockId generation data))).length < 2 ^ 63)
    (roundTrips : RoundTrips tool root first blockId) : IsPlain blockId := by
  obtain ⟨after, ran⟩ := stageBytes_ok lawful valid fresh.ready (fresh.empty _)
    (show ([] : List UInt8).length < 2 ^ 63 by simp) (representable 0 [])
  obtain ⟨_, records, _, ranRecords, own, _⟩ :=
    roundTrips [] first after 0 [] _ .start ran
  obtain ⟨member, _, _⟩ := (own _).mpr rfl
  have ranOp : Fallible.outcome (StoreOp.apply tool)
      ((StageOp.stageBytes blockId 0 []).program root) first =
        (.ok (some (recordOf tool root blockId 0 [])), after) := Fallible.outcome_bind_ok ran
  have step : CompletedStep tool root first (.stageBytes blockId 0 []) after := by
    refine ⟨?_, _, ranOp⟩
    intro record isRecord
    rw [← Option.some.inj isRecord]
    exact representable 0 []
  have sound : Sound tool root after := fresh.sound.step lawful step
  obtain ⟨all, ranAll, members⟩ := outcome_recover tool sound.readable
  rw [ranRecords] at ranAll
  cases ranAll
  obtain ⟨name, isCommit, marker, text, isMarker, bytes, parsed, _⟩ := (members _).mp member
  -- the only marker is that of the block
  obtain ⟨owner, isName, ownerBytes, ownerVerified⟩ := sound.markers name marker isCommit isMarker
  have sameText : text = commitText owner := by
    have decoded := congrArg fromUtf8 (bytes.symm.trans ownerBytes)
    simpa using decoded
  rcases StageOp.completed lawful fresh.ready step.representable ranOp with
    ⟨noRecord, _⟩ | ⟨committed, isAttempt, _, changes, done⟩
  · exact absurd rfl (noRecord _)
  obtain rfl := Option.some.inj isAttempt
  have isOwn : root ++ [name] = commitPath root blockId 0 := by
    by_contra elsewhere
    rw [changes.frame _ (not_inBlock_commit isCommit elsewhere), fresh.empty name] at isMarker
    simp at isMarker
  have ownerPath : commitPath root owner.blockId owner.generation = commitPath root blockId 0 := by
    rw [← isOwn, isName]
    rfl
  obtain ⟨sameId, sameGeneration⟩ := commitPath_inj ownerPath
  have sameRecord : owner = recordOf tool root blockId 0 [] :=
    ownerVerified.eq done.verified sameId sameGeneration
  rw [sameText, sameRecord] at parsed
  exact isPlain_of_parseRecord parsed

/-- Exactly the plain identifiers round trip. -/
theorem stageBytes_roundTrips_iff (lawful : tool.Lawful) {first : Disk} {blockId : String}
    (valid : validateId blockId = .ok ()) (fresh : Fresh root first)
    (representable : ∀ generation data,
      (utf8Bytes (commitText (recordOf tool root blockId generation data))).length < 2 ^ 63) :
    RoundTrips tool root first blockId ↔ IsPlain blockId :=
  ⟨isPlain_of_roundTrips lawful valid fresh representable,
    roundTrips_of_isPlain lawful valid fresh representable⟩

/-! ## An identifier with a newline -/

/-- The digests of `abc` and of nothing. -/
def exampleSha256sum : Sha256sum where
  hex content :=
    if content = [97, 98, 99] then
      "ba7816bf8f01cfea414140de5dae2223b00361a396177a9cb410ff61f20015ad"
    else "e3b0c44298fc1c149afbf4c8996fb92427ae41e4649b934ca495991b7852b855"
  escapes c := c = '\\' ∨ c = '\n' ∨ c = '\r'

theorem exampleSha256sum_lawful : exampleSha256sum.Lawful where
  length := by
    intro content
    unfold exampleSha256sum
    simp only
    split <;> decide +kernel
  digits := by
    intro content c member
    have hexadecimal : ((exampleSha256sum.hex content).toList.all fun c =>
        c.isDigit || "abcdef".toList.contains c) = true := by
      unfold exampleSha256sum
      simp only
      split <;> decide +kernel
    simpa using List.all_eq_true.mp hexadecimal c member
  escapes := by
    intro c escaped
    simpa [exampleSha256sum] using escaped

/-- A disk with an empty directory for staging. -/
def storeDisk : Disk := (Disk.createDir DirTree.root ["store"]).2

theorem storeDisk_fresh : Fresh ["store"] storeDisk where
  directory := by decide +kernel
  empty := fun _ => rfl

/-- The marker texts of short identifiers are representable. -/
theorem commitText_short (lawful : tool.Lawful) {blockId : String} (generation : UInt64)
    (data : List UInt8) (short : blockId.length < 2 ^ 32) :
    (utf8Bytes (commitText (recordOf tool root blockId generation data))).length < 2 ^ 63 := by
  have digits : ∀ n : UInt64, (toString n.toNat).length ≤ 20 := by
    intro n
    rw [← String.length_toList, Nat.toString_eq_ofList_toDigits, String.toList_ofList,
      Nat.length_toDigits_le_iff (by decide) (by decide)]
    have bound := n.toNat_lt
    omega
  have word : (tool.digest (blobPath root blockId generation) data).length ≤ 65 := by
    unfold Sha256sum.digest
    have backslash : "\\".length = 1 := rfl
    split <;> simp [lawful.length, backslash]
  have bytes := length_utf8Bytes_le (commitText (recordOf tool root blockId generation data))
  have generationDigits := digits generation
  have lengthDigits := digits (UInt64.ofNat data.length)
  have characters : (commitText (recordOf tool root blockId generation data)).length =
      blockId.length + (toString generation.toNat).length +
        (toString (UInt64.ofNat data.length).toNat).length +
        (tool.digest (blobPath root blockId generation) data).length + 4 := by
    have newline : "\n".length = 1 := rfl
    simp only [commitText, recordOf, String.length_append, newline]
    omega
  omega

theorem block0_roundTrips_iff :
    RoundTrips exampleSha256sum ["store"] storeDisk "block0" ↔ IsPlain "block0" :=
  stageBytes_roundTrips_iff exampleSha256sum_lawful (by decide +kernel) storeDisk_fresh
    fun generation data => commitText_short exampleSha256sum_lawful generation data
      (by decide +kernel)

/-- The disk after `abc` has been staged. -/
def stagedDisk (blockId : String) : Disk :=
  (Fallible.outcome (StoreOp.apply exampleSha256sum)
    (stageBytes ["store"] blockId 1 [97, 98, 99]) storeDisk).2

/-- A block with a newline in its identifier is staged with success and not
recovered. -/
theorem stageBytes_newline_not_recovered :
    validateId "a\nb" = .ok () ∧
      Fallible.outcome (StoreOp.apply exampleSha256sum)
        (stageBytes ["store"] "a\nb" 1 [97, 98, 99]) storeDisk =
          (.ok (recordOf exampleSha256sum ["store"] "a\nb" 1 [97, 98, 99]),
            stagedDisk "a\nb") ∧
      (Fallible.outcome (StoreOp.apply exampleSha256sum) (recover ["store"])
        (stagedDisk "a\nb")).1 = .ok [] ∧
      ¬ RoundTrips exampleSha256sum ["store"] storeDisk "a\nb" := by
  have ran : Fallible.outcome (StoreOp.apply exampleSha256sum)
      (stageBytes ["store"] "a\nb" 1 [97, 98, 99]) storeDisk =
        (.ok (recordOf exampleSha256sum ["store"] "a\nb" 1 [97, 98, 99]), stagedDisk "a\nb") :=
    Prod.ext (by decide +kernel) rfl
  have recovered : (Fallible.outcome (StoreOp.apply exampleSha256sum) (recover ["store"])
      (stagedDisk "a\nb")).1 = .ok [] := by
    decide +kernel
  refine ⟨by decide +kernel, ran, recovered, ?_⟩
  intro roundTrips
  obtain ⟨_, records, _, ranRecords, own, _⟩ :=
    roundTrips [] storeDisk (stagedDisk "a\nb") 1 [97, 98, 99] _ .start ran
  rw [ranRecords] at recovered
  obtain rfl := Except.ok.inj recovered
  simpa using ((own _).mpr rfl).1

end TriAI.Staging
