import TriAI.Library.TextLines
import TriAI.Storage.Calls

/-!
Contract: the staging store of `staging.rs`.

Owns: the names and the marker text of a staged block, and the operations
`stage_bytes`, `open_part_for_resume`, `finalize_part`, `discard_part`, `recover`,
`restore_active` and `cleanup_incomplete` with every call they make.

Does not own: the log events, and limits on the length and the characters of a
file name. The clock and the process number are arguments of `restore_active`.
-/

set_option autoImplicit false

namespace TriAI.Staging

open TriAI.Library.FileTree
open TriAI.Library.Interaction
open TriAI.Library.TextLines
open TriAI.Storage

@[ext]
structure CommitRecord where
  blockId : String
  generation : UInt64
  bytes : UInt64
  sha256 : String
deriving DecidableEq, Repr

/-- An error of the operating system. -/
def os (error : IoError) : IoFailure := { kind := error }

/-- A program over the file calls that fails with an `io::Error`. -/
abbrev Stage (α : Type) : Type := Store IoFailure α

/-- `validate_id`. -/
def validateId (id : String) : Except IoFailure Unit :=
  if id = "" ∨ id = "." ∨ id = ".." ∨ '/' ∈ id.toList ∨ '\\' ∈ id.toList ∨
      ['.', '.'] <:+: id.toList then
    .error ⟨.invalidInput, some "invalid block id"⟩
  else .ok ()

/-! ## Names -/

/-- `format!("{block_id}.{generation}.{extension}")`. -/
def fileName (blockId : String) (generation : UInt64) (extension : String) : String :=
  blockId ++ "." ++ toString generation.toNat ++ "." ++ extension

/-- `part_path`. -/
def partPath (root : Path) (blockId : String) (generation : UInt64) : Path :=
  root ++ [fileName blockId generation "part"]

def blobPath (root : Path) (blockId : String) (generation : UInt64) : Path :=
  root ++ [fileName blockId generation "bin"]

def commitPath (root : Path) (blockId : String) (generation : UInt64) : Path :=
  root ++ [fileName blockId generation "commit"]

/-- The text of a `.commit` marker. -/
def commitText (record : CommitRecord) : String :=
  record.blockId ++ "\n" ++ (toString record.generation.toNat ++ "\n" ++
    (toString record.bytes.toNat ++ "\n" ++ (record.sha256 ++ "\n")))

/-- `str::parse::<u64>().unwrap_or(0)`. -/
def parseU64 (text : String) : UInt64 :=
  UInt64.ofNat ((parseUnsigned (2 ^ 64) text).getD 0)

/-- The record of a marker with four lines. -/
def parseRecord (text : String) : Option CommitRecord :=
  match lines text with
  | [blockId, generation, bytes, sha256] =>
      some { blockId, generation := parseU64 generation, bytes := parseU64 bytes, sha256 }
  | _ => none

/-! ## Committing -/

/-- `str::eq_ignore_ascii_case`. -/
def eqIgnoreAsciiCase (left right : String) : Bool :=
  left.toList.map Char.toLower = right.toList.map Char.toLower

/-- `SHA256-Mismatch: erwartet {expected}, erhalten {sha}`. -/
def shaMismatch (expected sha : String) : IoFailure :=
  ⟨.invalidData, some ("SHA256-Mismatch: erwartet " ++ expected ++ ", erhalten " ++ sha)⟩

/-- The check of `commit_part` against the expected digest. -/
def checkDigest (part : Path) (sha : String) : Option String → Stage Unit
  | none => pure ()
  | some expected =>
      if eqIgnoreAsciiCase sha expected then pure ()
      else do
        let _ ← Fallible.capture (Store.removeFile os part)
        throw (shaMismatch expected sha)

/-- `commit_part` up to its record: the size and the digest of the part file. -/
def measurePart (root : Path) (blockId : String) (generation : UInt64)
    (expectedSha256 : Option String) : Stage CommitRecord := do
  let part := partPath root blockId generation
  let bytes ← Store.length os part
  let sha ← Store.sha256sum os part
  checkDigest part sha expectedSha256
  pure { blockId, generation, bytes, sha256 := sha }

/-- `commit_part` from its record on: the data and the marker become visible. -/
def publish (root : Path) (record : CommitRecord) : Stage CommitRecord := do
  let part := partPath root record.blockId record.generation
  let blob := blobPath root record.blockId record.generation
  let commit := commitPath root record.blockId record.generation
  Store.rename os part blob
  Store.create os commit
  Store.writeAll os commit (utf8Bytes (commitText record))
  Store.syncAll os commit
  Store.syncDir os root
  pure record

/-- `StageStore::commit_part`. -/
def commitPart (root : Path) (blockId : String) (generation : UInt64)
    (expectedSha256 : Option String) : Stage CommitRecord := do
  let record ← measurePart root blockId generation expectedSha256
  publish root record

/-- `stage_bytes` up to the commit: the data are in the part file. -/
def writePart (root : Path) (blockId : String) (generation : UInt64) (data : List UInt8) :
    Stage Unit := do
  Store.ofExcept (validateId blockId)
  let part := partPath root blockId generation
  Store.createNew os part
  Store.writeAll os part data
  Store.syncAll os part

/-- `StageStore::stage_bytes`. -/
def stageBytes (root : Path) (blockId : String) (generation : UInt64) (data : List UInt8) :
    Stage CommitRecord := do
  writePart root blockId generation data
  commitPart root blockId generation none

/-- `StageStore::open_part_for_resume`. -/
def openPartForResume (root : Path) (blockId : String) (generation : UInt64) : Stage UInt64 := do
  Store.ofExcept (validateId blockId)
  let part := partPath root blockId generation
  Store.openAppend os part
  Store.length os part

/-- `finalize_part` up to the commit. -/
def syncPart (root : Path) (blockId : String) (generation : UInt64) : Stage Unit := do
  Store.ofExcept (validateId blockId)
  let part := partPath root blockId generation
  Store.openWrite os part
  Store.syncAll os part

/-- `StageStore::finalize_part`. -/
def finalizePart (root : Path) (blockId : String) (generation : UInt64)
    (expectedSha256 : Option String) : Stage CommitRecord := do
  syncPart root blockId generation
  commitPart root blockId generation expectedSha256

/-- A missing part file is no error. -/
def ignoreNotFound : Except IoFailure Unit → Except IoFailure Unit
  | .ok () => .ok ()
  | .error error => if error.kind = .notFound then .ok () else .error error

/-- `StageStore::discard_part`. -/
def discardPart (root : Path) (blockId : String) (generation : UInt64) : Stage Unit := do
  Store.ofExcept (validateId blockId)
  let removed ← Fallible.capture (Store.removeFile os (partPath root blockId generation))
  Store.ofExcept (ignoreNotFound removed)

/-! ## Recovering -/

/-- The text of a file, as `fs::read_to_string` decodes it. -/
def decodeText (content : ByteVec) : Except IoFailure String :=
  match fromUtf8 content.bytes with
  | some text => .ok text
  | none => .error ⟨.invalidData, some "stream did not contain valid UTF-8"⟩

/-- The digest of the data against the marker. -/
def verifySha (root : Path) (record : CommitRecord) : Stage (Option CommitRecord) := do
  let sha ← Fallible.capture
    (Store.sha256sum os (blobPath root record.blockId record.generation))
  pure (if sha.toOption = some record.sha256 then some record else none)

/-- The data against the marker, in the order of the source's conditions. -/
def verifyBlob (root : Path) (record : CommitRecord) : Stage (Option CommitRecord) := do
  let blob := blobPath root record.blockId record.generation
  if ← Store.isFile blob then
    if (← Store.length os blob) = record.bytes then verifySha root record else pure none
  else pure none

/-- What one directory entry adds to the records. -/
def recoverEntry (root : Path) (name : String) : Stage (Option CommitRecord) :=
  if extension name = some "commit" then do
    let content ← Store.read os (root ++ [name])
    let text ← Store.ofExcept (decodeText content)
    match parseRecord text with
    | none => pure none
    | some record => verifyBlob root record
  else pure none

/-- By identifier, then by generation. -/
def recordLe (left right : CommitRecord) : Bool :=
  left.blockId < right.blockId ∨
    (left.blockId = right.blockId ∧ left.generation ≤ right.generation)

/-- `StageStore::recover`. -/
def recover (root : Path) : Stage (List CommitRecord) := do
  let names ← Store.readDir os root
  let out ← names.foldlM (fun out name => do return out ++ (← recoverEntry root name).toList) []
  pure (out.mergeSort recordLe)

/-! ## Restoring -/

/-- `no verified commit for block '{block_id}' generation {generation}`. -/
def noVerifiedCommit (blockId : String) (generation : UInt64) : IoFailure :=
  ⟨.notFound, some ("no verified commit for block '" ++ blockId ++ "' generation " ++
    toString generation.toNat)⟩

/-- The file next to the target that becomes the target. -/
def restoreName (blockId : String) (generation : UInt64) (processId nanos : Nat) : String :=
  ".restore-" ++ blockId ++ "-" ++ toString generation.toNat ++ "-" ++ toString processId ++
    "-" ++ toString nanos ++ ".tmp"

/-- `restore_active` of a record that was found, for a target in `targetDir`. -/
def restoreRecord (root : Path) (record : CommitRecord) (processId nanos : Nat)
    (targetDir target : Path) : Stage Unit := do
  let blob := blobPath root record.blockId record.generation
  let tmp := targetDir ++ [restoreName record.blockId record.generation processId nanos]
  Fallible.onError (Store.copy os blob tmp) (Store.removeFile os tmp)
  Fallible.onError (do Store.openWrite os tmp; Store.syncAll os tmp) (Store.removeFile os tmp)
  Fallible.onError (Store.rename os tmp target) (Store.removeFile os tmp)
  Store.syncDir os targetDir

/-- `Path::parent`. -/
def parent (target : Path) : Except IoFailure Path :=
  if target = [] then .error ⟨.invalidInput, some "restore target has no parent directory"⟩
  else .ok target.dropLast

/-- The record `restore_active` looks up. -/
def findRecord (blockId : String) (generation : UInt64) (records : List CommitRecord) :
    Except IoFailure CommitRecord :=
  match records.find? fun r => r.blockId = blockId ∧ r.generation = generation with
  | some record => .ok record
  | none => .error (noVerifiedCommit blockId generation)

/-- `StageStore::restore_active`. -/
def restoreActive (root : Path) (processId nanos : Nat) (blockId : String) (generation : UInt64)
    (target : Path) : Stage Unit := do
  Store.ofExcept (validateId blockId)
  let records ← recover root
  let record ← Store.ofExcept (findRecord blockId generation records)
  let targetDir ← Store.ofExcept (parent target)
  restoreRecord root record processId nanos targetDir target

/-- `StageStore::cleanup_incomplete`. -/
def cleanupIncomplete (root : Path) : Stage Nat := do
  let names ← Store.readDir os root
  names.foldlM (fun count name =>
    if extension name = some "part" then do
      Store.removeFile os (root ++ [name])
      pure (count + 1)
    else pure count) 0

end TriAI.Staging
