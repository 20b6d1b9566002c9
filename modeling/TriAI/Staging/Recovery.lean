import TriAI.Staging.Names
import TriAI.Storage.Changes

/-!
Contract: what `recover` and `restore_active` find on a disk.

Owns: the record of staged data, the markers that stand for it, the exact set of
records `recover` returns, and what restoring one of them does to its target.

Does not own: how markers and data come about.
-/

set_option autoImplicit false

namespace TriAI.Staging

open TriAI.Library.FileTree
open TriAI.Library.Interaction
open TriAI.Library.TextLines
open TriAI.Storage

variable {tool : Sha256sum} {root : Path} {disk : Disk}

/-- The record of data that are staged for a block. -/
def recordOf (tool : Sha256sum) (root : Path) (blockId : String) (generation : UInt64)
    (data : List UInt8) : CommitRecord where
  blockId := blockId
  generation := generation
  bytes := UInt64.ofNat data.length
  sha256 := tool.digest (blobPath root blockId generation) data

/-- The data file of a record is as the record says. -/
def Verified (tool : Sha256sum) (root : Path) (disk : Disk) (record : CommitRecord) : Prop :=
  ∃ content, disk.lookup (blobPath root record.blockId record.generation) =
      some (.file content) ∧
    record = recordOf tool root record.blockId record.generation content.bytes

/-- The directory entry `name` is a marker from which `recover` reads `record`. -/
def Marks (tool : Sha256sum) (root : Path) (disk : Disk) (name : String)
    (record : CommitRecord) : Prop :=
  extension name = some "commit" ∧
    ∃ content text, disk.lookup (root ++ [name]) = some (.file content) ∧
      content.bytes = utf8Bytes text ∧ parseRecord text = some record ∧
      Verified tool root disk record

/-! ## Digests -/

/-- A digest is one word. -/
theorem isPlain_digest (lawful : tool.Lawful) (path : Path) (content : List UInt8) :
    IsPlain (tool.digest path content) ∧ tool.digest path content ≠ "" := by
  have plainHex : ∀ c ∈ (tool.hex content).toList, c ≠ '\n' ∧ c ≠ '\r' := by
    intro c member
    rcases lawful.digits content c member with isDigit | isLetter
    · constructor <;> rintro rfl <;> simp at isDigit
    · constructor <;> rintro rfl <;> simp at isLetter
  have nonempty : tool.hex content ≠ "" := by
    intro empty
    have length := lawful.length content
    simp [empty] at length
  have plainCharacters : ∀ c ∈ (tool.digest path content).toList, c ≠ '\n' ∧ c ≠ '\r' := by
    intro c member
    unfold Sha256sum.digest at member
    split at member
    · rw [String.toList_append, List.mem_append] at member
      rcases member with isBackslash | inHex
      · have same : c = '\\' := by simpa using isBackslash
        subst same
        decide
      · exact plainHex c inHex
    · exact plainHex c member
  refine ⟨⟨fun member => (plainCharacters _ member).1 rfl, fun last =>
    (plainCharacters _ (List.mem_of_getLast? last)).2 rfl⟩, ?_⟩
  unfold Sha256sum.digest
  split
  · simp
  · exact nonempty

/-- The part file and the data file of a block have the same digest. -/
theorem digest_partPath (lawful : tool.Lawful) (blockId : String) (generation : UInt64)
    (content : List UInt8) :
    tool.digest (partPath root blockId generation) content =
      tool.digest (blobPath root blockId generation) content := by
  have plain : ∀ c, tool.escapes c = true → c ∉ "part".toList ∧ c ∉ "bin".toList := by
    intro c isEscaped
    have special := lawful.escapes c isEscaped
    simp only [List.mem_cons, List.not_mem_nil, or_false] at special
    rcases special with rfl | rfl | rfl <;> decide
  have same : (fileName blockId generation "part").toList.any tool.escapes =
      (fileName blockId generation "bin").toList.any tool.escapes := by
    have part : "part".toList.any tool.escapes = false := by
      simp only [List.any_eq_false]
      exact fun c member isEscaped => (plain c isEscaped).1 member
    have bin : "bin".toList.any tool.escapes = false := by
      simp only [List.any_eq_false]
      exact fun c member isEscaped => (plain c isEscaped).2 member
    simp only [fileName, String.toList_append, List.any_append, part, bin]
  unfold Sha256sum.digest partPath blobPath
  simp only [List.any_append, List.any_cons, List.any_nil, same]

/-- The marker of a verified record is read as the record. -/
theorem Verified.parseRecord_commitText (lawful : tool.Lawful) {record : CommitRecord}
    (verified : Verified tool root disk record) (plain : IsPlain record.blockId) :
    parseRecord (commitText record) = some record := by
  obtain ⟨content, _, isRecord⟩ := verified
  apply Staging.parseRecord_commitText plain
  rw [isRecord]
  exact (isPlain_digest lawful _ _).1

/-- A block has one verified record. -/
theorem Verified.eq {left right : CommitRecord} (verified : Verified tool root disk left)
    (also : Verified tool root disk right) (sameId : left.blockId = right.blockId)
    (sameGeneration : left.generation = right.generation) : left = right := by
  obtain ⟨content, blob, isLeft⟩ := verified
  obtain ⟨other, otherBlob, isRight⟩ := also
  rw [sameId, sameGeneration] at blob isLeft
  rw [blob] at otherBlob
  cases otherBlob
  exact isLeft.trans isRight.symm

/-! ## `recover` -/

/-- The digest and the size are compared with the data file. -/
theorem outcome_verifyBlob (record : CommitRecord) :
    ∃ found, Fallible.outcome (StoreOp.apply tool) (verifyBlob root record) disk =
        (.ok found, disk) ∧
      ∀ other, found = some other ↔ other = record ∧ Verified tool root disk record := by
  unfold verifyBlob
  cases lookup : disk.lookup (blobPath root record.blockId record.generation) with
  | none =>
      refine ⟨none, ?_, ?_⟩
      · rw [Fallible.outcome_bind_ok (Store.outcome_isFile ..)]
        simp [Disk.isFile, lookup]
      · simp [Verified, lookup]
  | some entry =>
      cases entry with
      | directory =>
          refine ⟨none, ?_, ?_⟩
          · rw [Fallible.outcome_bind_ok (Store.outcome_isFile ..)]
            simp [Disk.isFile, lookup]
          · simp [Verified, lookup]
      | file content =>
          have isFile : disk.isFile (blobPath root record.blockId record.generation) = true := by
            simp [Disk.isFile, lookup]
          have length : Fallible.outcome (StoreOp.apply tool) (Store.length os
              (blobPath root record.blockId record.generation)) disk =
              (.ok (UInt64.ofNat content.bytes.length), disk) := by
            rw [Store.outcome_length]
            simp [Disk.length, lookup, Except.mapError]
          have sha : Fallible.outcome (StoreOp.apply tool) (Fallible.capture (Store.sha256sum os
              (blobPath root record.blockId record.generation))) disk =
              (.ok (.ok (tool.digest (blobPath root record.blockId record.generation)
                content.bytes)), disk) := by
            rw [Fallible.outcome_capture, Store.outcome_sha256sum]
            simp [sha256sumOf, Disk.read_eq_ok.mpr lookup, Except.mapError]
          have verified : Verified tool root disk record ↔
              UInt64.ofNat content.bytes.length = record.bytes ∧
                tool.digest (blobPath root record.blockId record.generation) content.bytes =
                  record.sha256 := by
            unfold Verified recordOf
            rw [lookup]
            simp [CommitRecord.ext_iff, eq_comm]
          rw [verified, Fallible.outcome_bind_ok (Store.outcome_isFile ..), isFile]
          simp only [if_true]
          rw [Fallible.outcome_bind_ok length]
          by_cases sameLength : UInt64.ofNat content.bytes.length = record.bytes
          · rw [if_pos sameLength]
            unfold verifySha
            rw [Fallible.outcome_bind_ok sha]
            refine ⟨_, rfl, fun other => ?_⟩
            simp [Except.toOption, sameLength, eq_comm, and_comm]
          · rw [if_neg sameLength]
            exact ⟨none, rfl, by simp [sameLength]⟩

/-- One directory entry, if a marker there can be read. -/
theorem outcome_recoverEntry (name : String)
    (readable : extension name = some "commit" → ∃ content text,
      disk.lookup (root ++ [name]) = some (.file content) ∧ content.bytes = utf8Bytes text) :
    ∃ found, Fallible.outcome (StoreOp.apply tool) (recoverEntry root name) disk =
        (.ok found, disk) ∧
      ∀ record, found = some record ↔ Marks tool root disk name record := by
  unfold recoverEntry
  by_cases isMarker : extension name = some "commit"
  · obtain ⟨content, text, lookup, bytes⟩ := readable isMarker
    have read : Fallible.outcome (StoreOp.apply tool) (Store.read os (root ++ [name])) disk =
        (.ok content, disk) := by
      rw [Store.outcome_read, Disk.read_eq_ok.mpr lookup]
      rfl
    have decoded : decodeText content = .ok text := by
      unfold decodeText
      rw [bytes, fromUtf8_utf8Bytes]
    have marks : ∀ record, Marks tool root disk name record ↔
        parseRecord text = some record ∧ Verified tool root disk record := by
      intro record
      constructor
      · rintro ⟨_, content', text', lookup', bytes', parsed, verified⟩
        rw [lookup] at lookup'
        cases lookup'
        have same : text' = text := by
          have both := congrArg fromUtf8 (bytes'.symm.trans bytes)
          simpa using both
        exact ⟨same ▸ parsed, verified⟩
      · rintro ⟨parsed, verified⟩
        exact ⟨isMarker, content, text, lookup, bytes, parsed, verified⟩
    rw [if_pos isMarker, Fallible.outcome_bind_ok read, Store.outcome_bind_ofExcept decoded]
    cases parsed : parseRecord text with
    | none => exact ⟨none, rfl, by simp [marks, parsed]⟩
    | some record =>
        obtain ⟨found, ran, means⟩ :
            ∃ found, Fallible.outcome (StoreOp.apply tool) (verifyBlob root record) disk =
                (.ok found, disk) ∧
              ∀ other, found = some other ↔ other = record ∧ Verified tool root disk record :=
          outcome_verifyBlob record
        refine ⟨found, ran, fun other => ?_⟩
        rw [means, marks, parsed]
        constructor
        · rintro ⟨rfl, verified⟩
          exact ⟨rfl, verified⟩
        · rintro ⟨same, verified⟩
          cases same
          exact ⟨rfl, verified⟩
  · rw [if_neg isMarker]
    exact ⟨none, rfl, by simp [Marks, isMarker]⟩

/-- The root is a directory of files, of which the markers are texts. -/
structure Readable (root : Path) (disk : Disk) : Prop where
  directory : disk.lookup root = some .directory
  markers : ∀ name entry, disk.lookup (root ++ [name]) = some entry →
    extension name = some "commit" → ∃ content text, entry = .file content ∧
      content.bytes = utf8Bytes text

/-- `recover` returns the records of all markers. -/
theorem outcome_recover (tool : Sha256sum) (readable : Readable root disk) :
    ∃ records, Fallible.outcome (StoreOp.apply tool) (recover root) disk = (.ok records, disk) ∧
      ∀ record, record ∈ records ↔ ∃ name, Marks tool root disk name record := by
  obtain ⟨names, listed, members⟩ := Disk.readDir_eq readable.directory
  have ranList : Fallible.outcome (StoreOp.apply tool) (Store.readDir os root) disk =
      (.ok names, disk) := by
    rw [Store.outcome_readDir, listed]
    rfl
  have reads : ∀ name ∈ names, ∃ found,
      Fallible.outcome (StoreOp.apply tool) (recoverEntry root name) disk = (.ok found, disk) ∧
        ∀ record, found = some record ↔ Marks tool root disk name record := by
    intro name member
    apply outcome_recoverEntry
    intro isMarker
    obtain ⟨entry, found⟩ := (members name).mp member
    obtain ⟨content, text, isFile, bytes⟩ := readable.markers name entry found isMarker
    exact ⟨content, text, isFile ▸ found, bytes⟩
  obtain ⟨out, ranLoop, collected⟩ := Fallible.outcome_collect names [] reads
  refine ⟨out.mergeSort recordLe, ?_, ?_⟩
  · unfold recover
    rw [Fallible.outcome_bind_ok ranList, Fallible.outcome_bind_ok ranLoop]
    rfl
  · intro record
    rw [List.mem_mergeSort, collected]
    constructor
    · rintro (initial | ⟨name, _, marks⟩)
      · simp at initial
      · exact ⟨name, marks⟩
    · rintro ⟨name, marks⟩
      obtain ⟨content, _, lookup, _⟩ := marks.2
      exact .inr ⟨name, (members name).mpr ⟨_, lookup⟩, marks⟩

/-! ## `restore_active` -/

/-- Where a record can be restored: the directory of the target exists, and neither
the target nor the temporary file is a directory. -/
structure Restorable (disk : Disk) (target : Path) (temporary : String) : Prop where
  nonempty : target ≠ []
  parent : disk.lookup target.dropLast = some .directory
  notDirectory : disk.lookup target ≠ some .directory
  temporary : disk.lookup (target.dropLast ++ [temporary]) ≠ some .directory

/-- A record whose data are there is restored. -/
private theorem outcome_restoreRecord {record : CommitRecord} {content : ByteVec} {target : Path}
    {processId nanos : Nat}
    (blob : disk.lookup (blobPath root record.blockId record.generation) = some (.file content))
    (restorable : Restorable disk target
      (restoreName record.blockId record.generation processId nanos)) :
    ∃ after, Fallible.outcome (StoreOp.apply tool)
        (restoreRecord root record processId nanos target.dropLast target) disk =
          (.ok (), after) ∧
      after.lookup target = some (.file content) := by
  obtain ⟨nonempty, parent, notDirectory, temporary⟩ := restorable
  let temporaryPath :=
    target.dropLast ++ [restoreName record.blockId record.generation processId nanos]
  have parentTemporary : disk.ParentIsDirectory temporaryPath := by
    refine ⟨by simp [temporaryPath], ?_⟩
    rwa [List.dropLast_concat]
  obtain ⟨copied, put, puts⟩ := Disk.putFile_ok content parentTemporary temporary
  have ranCopy : Fallible.outcome (StoreOp.apply tool)
      (Store.copy os (blobPath root record.blockId record.generation) temporaryPath) disk = (.ok (), copied) := by
    rw [Store.outcome_copy]
    simp [Disk.copy, Disk.read_eq_ok.mpr blob, put, Except.mapError]
  have ranSync : Fallible.outcome (StoreOp.apply tool)
      (do
        Store.openWrite os temporaryPath
        Store.syncAll os temporaryPath)
      copied = (.ok (), copied) := by
    apply Fallible.outcome_bind_ok
    rw [Store.outcome_openWrite, Disk.read_eq_ok.mpr puts.put]
    rfl
  have stillParent : copied.lookup target.dropLast = some .directory := by
    rw [puts.frame _ (by simp [temporaryPath]), parent]
  have stillFile : copied.lookup target ≠ some .directory := by
    by_cases same : target = temporaryPath
    · rw [same, puts.put]
      simp
    · rwa [puts.frame _ same]
  obtain ⟨after, renamed, moves⟩ := Disk.rename_ok puts.put ⟨nonempty, stillParent⟩ stillFile
  have ranRename : Fallible.outcome (StoreOp.apply tool)
      (Store.rename os temporaryPath target)
      copied = (.ok (), after) := by
    rw [Store.outcome_rename, renamed]
    rfl
  have shorter : target.dropLast ≠ target := by
    intro same
    have lengths := congrArg List.length same
    have positive := List.length_pos_iff.mpr nonempty
    simp only [List.length_dropLast] at lengths
    omega
  have lastParent : after.lookup target.dropLast = some .directory := by
    rw [moves.frame _ (by simp [temporaryPath]) shorter, stillParent]
  have ranDir : Fallible.outcome (StoreOp.apply tool) (Store.syncDir os target.dropLast) after =
      (.ok (), after) := by
    rw [Store.outcome_syncDir]
    simp [Disk.syncDir, Disk.openRead, lastParent, Except.mapError]
  refine ⟨after, ?_, moves.put⟩
  unfold restoreRecord
  rw [Fallible.outcome_bind_ok (Fallible.outcome_onError_ok ranCopy),
    Fallible.outcome_bind_ok (Fallible.outcome_onError_ok ranSync),
    Fallible.outcome_bind_ok (Fallible.outcome_onError_ok ranRename)]
  exact ranDir

/-- The record that is found is one of its block. -/
theorem of_findRecord {blockId : String} {generation : UInt64} {records : List CommitRecord}
    {record : CommitRecord} (listed : findRecord blockId generation records = .ok record) :
    record.blockId = blockId ∧ record.generation = generation := by
  unfold findRecord at listed
  split at listed
  · rename_i found isFound
    cases listed
    simpa using List.find?_some isFound
  · cases listed

theorem mem_of_findRecord {blockId : String} {generation : UInt64} {records : List CommitRecord}
    {record : CommitRecord} (listed : findRecord blockId generation records = .ok record) :
    record ∈ records := by
  unfold findRecord at listed
  split at listed
  · rename_i found isFound
    cases listed
    exact List.mem_of_find?_eq_some isFound
  · cases listed

/-- A recovered block is restored to its data. -/
theorem outcome_restoreActive {blockId : String} {generation : UInt64} {content : ByteVec}
    {records : List CommitRecord} {target : Path} {processId nanos : Nat}
    (valid : validateId blockId = .ok ())
    (recovered : Fallible.outcome (StoreOp.apply tool) (recover root) disk =
      (.ok records, disk))
    (present : ∃ record ∈ records, record.blockId = blockId ∧ record.generation = generation)
    (blob : disk.lookup (blobPath root blockId generation) = some (.file content))
    (restorable : Restorable disk target (restoreName blockId generation processId nanos)) :
    ∃ after, Fallible.outcome (StoreOp.apply tool)
        (restoreActive root processId nanos blockId generation target) disk = (.ok (), after) ∧
      after.lookup target = some (.file content) := by
  obtain ⟨wanted, member, isId, isGeneration⟩ := present
  cases found : records.find? fun r => r.blockId = blockId ∧ r.generation = generation with
  | none =>
      rw [List.find?_eq_none] at found
      exact absurd (found wanted member) (by simp [isId, isGeneration])
  | some record =>
      have isWanted := List.find?_some found
      simp only [decide_eq_true_eq] at isWanted
      obtain ⟨sameId, sameGeneration⟩ := isWanted
      have ranFind : findRecord blockId generation records = .ok record := by
        unfold findRecord
        rw [found]
      have ranParent : parent target = .ok target.dropLast := by
        unfold parent
        rw [if_neg restorable.nonempty]
      unfold restoreActive
      rw [Store.outcome_bind_ofExcept valid, Fallible.outcome_bind_ok recovered,
        Store.outcome_bind_ofExcept ranFind, Store.outcome_bind_ofExcept ranParent]
      apply outcome_restoreRecord
      · rwa [sameId, sameGeneration]
      · rwa [sameId, sameGeneration]

end TriAI.Staging
