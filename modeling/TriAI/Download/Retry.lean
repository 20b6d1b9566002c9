import TriAI.Download.Resume
import TriAI.Staging.RoundTrip

/-!
Contract: a retry of a download whose part file holds a beginning of the content.

Owns: the body, its commit and its installation in the world of a resumed download, the host on
which a retry finds its part file, and the retries that end with the content installed.

Does not own: the connection (`Download.Resume`).
-/

set_option autoImplicit false

namespace TriAI.Download

open TriAI.Library.FileTree
open TriAI.Library.Interaction
open TriAI.Library.TextLines
open TriAI.Staging
open TriAI.Storage

/-! ## From the body to the target -/

section Body

variable {tool : Sha256sum} {server : Server} {root : Path} {blockId : String}
  {generation : UInt64}

/-- A read delivers something, while there is something left. -/
theorem outcome_read (tool : Sha256sum) (server : Server) (world : RetryWorld) :
    ∃ chunk rest, Fallible.outcome (RetryWorld.answer tool server) Client.read world =
        (.ok chunk, { world with outside := rest }) ∧
      chunk ++ rest = world.outside ∧ (chunk = [] → world.outside = []) := by
  refine ⟨_, _, rfl, List.take_append_drop _ _, ?_⟩
  intro isEmpty
  have atLeastOne : 1 ≤ server.delivers readChunk world.outside := Nat.le_max_left _ _
  have nothing := congrArg List.length isEmpty
  rw [List.length_take, List.length_nil] at nothing
  exact List.length_eq_zero_iff.mp (by omega)

/-- The body is read to its end, if there are rounds enough. -/
theorem outcome_readBody {content : List UInt8} (small : content.length < 2 ^ 63)
    (rounds : Nat) (world : RetryWorld) {begun : ByteVec}
    (isFile : world.disk.lookup (partPath root blockId generation) = some (.file begun))
    (whole : begun.bytes ++ world.outside = content) (enough : world.outside.length < rounds) :
    ∃ after, Fallible.outcome (RetryWorld.answer tool server)
        (readBody root blockId generation rounds) world = (.ok .complete, after) ∧
      world.disk.WritesFile (partPath root blockId generation) content after.disk ∧
      after.handle.bytesDownloaded =
        world.handle.bytesDownloaded + UInt64.ofNat world.outside.length := by
  induction rounds generalizing world begun with
  | zero => omega
  | succ rounds inductionHypothesis =>
      have asked : Fallible.outcome (RetryWorld.answer tool server) Client.cancelRequested world =
          (.ok false, world) := rfl
      obtain ⟨chunk, rest, ranRead, parts, atEnd⟩ := outcome_read tool server world
      unfold readBody
      rw [Fallible.outcome_bind_ok asked]
      simp only [Bool.false_eq_true, if_false]
      rw [Fallible.outcome_bind_ok ranRead]
      by_cases nothing : chunk = []
      · rw [if_pos nothing]
        have isEnd := atEnd nothing
        rw [isEnd, List.append_nil] at whole
        refine ⟨_, rfl, ?_, ?_⟩
        · rw [← whole]
          exact .refl isFile
        · rw [isEnd]
          exact (UInt64.add_zero _).symm
      · rw [if_neg nothing]
        have lengths : chunk.length + rest.length = world.outside.length := by
          rw [← List.length_append, parts]
        have positive := List.length_pos_iff.mpr nothing
        rw [← parts, ← List.append_assoc] at whole
        have room : (begun.bytes ++ chunk).length < 2 ^ 63 := by
          rw [← whole, List.length_append] at small
          omega
        obtain ⟨written, wrote⟩ := Disk.writeAll_ok (by simp [partPath]) isFile room
        have writes := Disk.writeAll_eq_ok wrote
        rw [Disk.bytesAt_file isFile] at writes
        obtain ⟨next, isNext, bytes⟩ := writes.file
        have ranWrite : Fallible.outcome (StoreOp.apply tool)
            (Store.writeAll os (partPath root blockId generation) chunk) world.disk =
              (.ok (), written) := by
          rw [Store.outcome_writeAll, wrote]
          rfl
        have ranStage : Fallible.outcome (RetryWorld.answer tool server)
            (Client.stage "Schreibfehler beim Staging: "
              (Store.writeAll os (partPath root blockId generation) chunk))
            { world with outside := rest } =
              (.ok (), { world with disk := written, outside := rest }) :=
          outcome_stage_ok ranWrite
        let continued : RetryWorld := {
          disk := written
          handle := { world.handle with
            bytesDownloaded := world.handle.bytesDownloaded + UInt64.ofNat chunk.length }
          outside := rest }
        have shorter : continued.outside.length < rounds := by
          show rest.length < rounds
          omega
        obtain ⟨after, ran, last, downloaded⟩ :=
          inductionHypothesis continued isNext (by rw [bytes, ← whole]) shorter
        refine ⟨after, ?_, writes.trans last, ?_⟩
        · rw [Fallible.outcome_bind_ok ranStage, Fallible.outcome_bind_ok (outcome_onHandle _)]
          exact ran
        · rw [downloaded, ← lengths, UInt64.ofNat_add, ← UInt64.add_assoc]

/-- A staged model passes the inspection. -/
theorem outcome_inspectStaged {world : RetryWorld} {content : ByteVec}
    (isBlob : world.disk.lookup (blobPath root blockId generation) = some (.file content))
    (isModel : GgufRegistry.Accepts content) :
    Fallible.outcome (RetryWorld.answer tool server) (inspectStaged root blockId generation)
      world = (.ok (), world) := by
  obtain ⟨metadata, accepted⟩ := isModel
  have ranRead : Fallible.outcome (StoreOp.apply tool)
      (Store.read os (blobPath root blockId generation)) world.disk =
        (.ok content, world.disk) := by
    rw [Store.outcome_read, Disk.read_eq_ok.mpr isBlob]
    rfl
  have inspected : Fallible.outcome (StoreOp.apply tool)
      (inspectFile (blobPath root blockId generation)) world.disk =
        (.ok metadata, world.disk) := by
    unfold inspectFile
    rw [Fallible.outcome_bind_ok ranRead]
    exact congrArg (·, world.disk) accepted
  have ranInspect : Fallible.outcome (RetryWorld.answer tool server)
      (Client.stage "keine gueltige GGUF-Datei: "
        (inspectFile (blobPath root blockId generation))) world = (.ok metadata, world) :=
    outcome_stage_ok inspected
  unfold inspectStaged
  apply Fallible.outcome_onError_ok
  rw [Fallible.outcome_bind_ok ranInspect]
  rfl

/-- The part file is committed as a model. -/
theorem outcome_verify (lawful : tool.Lawful) {job : Job} {world : RetryWorld} {start : UInt64}
    {announced : Option UInt64} {content : ByteVec} (valid : validateId job.blockId = .ok ())
    (ready : Ready job.root world.disk)
    (isFile : world.disk.lookup (partPath job.root job.blockId job.generation) =
      some (.file content))
    (received : checkReceived (world.handle.bytesDownloaded - start) announced = .ok ())
    (digest : ExpectedDigest tool (partPath job.root job.blockId job.generation) content.bytes
      job.request.sha256)
    (short : job.blockId.length < 2 ^ 32) (isModel : GgufRegistry.Accepts content) :
    ∃ after, Fallible.outcome (RetryWorld.answer tool server) (job.verify start announced) world =
        (.ok (), after) ∧
      world.disk.ChangesWithin (InBlock job.root job.blockId job.generation) after.disk ∧
      Committed tool job.root (recordOf tool job.root job.blockId job.generation content.bytes)
        content.bytes after.disk := by
  obtain ⟨disk, finalized, changes, committed⟩ := finalizePart_ok lawful valid ready isFile digest
    (commitText_short lawful job.generation content.bytes short)
  have isBlob : disk.lookup (blobPath job.root job.blockId job.generation) =
      some (.file content) := by
    obtain ⟨staged, isStaged, _⟩ := committed.verified
    have isContent : staged = content :=
      ByteVec.ext ((Disk.bytesAt_file isStaged).symm.trans committed.bytes)
    rwa [isContent] at isStaged
  let verifying : RetryWorld := { world with handle := { world.handle with phase := .verifying } }
  have ranSync : Fallible.outcome (RetryWorld.answer tool server)
      (Client.stage "Teildatei nicht durchsynchronisierbar: "
        (Store.syncAll os (partPath job.root job.blockId job.generation))) world =
        (.ok (), world) := outcome_stage_ok rfl
  have ranCount : Fallible.outcome (RetryWorld.answer tool server)
      (Client.onHandle .bytesDownloaded) world =
        (.ok world.handle.bytesDownloaded, world) := rfl
  have ranPhase : Fallible.outcome (RetryWorld.answer tool server)
      (Client.onHandle (.setPhase .verifying)) world = (.ok (), verifying) := rfl
  have ranFinalize : Fallible.outcome (RetryWorld.answer tool server)
      (Client.stage "Verifikation fehlgeschlagen: "
        (finalizePart job.root job.blockId job.generation job.request.sha256)) verifying =
        (.ok (recordOf tool job.root job.blockId job.generation content.bytes),
          { verifying with disk }) := outcome_stage_ok finalized
  refine ⟨{ verifying with disk }, ?_, changes, committed⟩
  unfold Job.verify
  rw [Fallible.outcome_bind_ok ranSync, Fallible.outcome_bind_ok ranCount,
    Fallible.outcome_bind_ok (outcome_checked received), Fallible.outcome_bind_ok ranPhase,
    Fallible.outcome_bind_ok ranFinalize]
  exact outcome_inspectStaged isBlob isModel

end Body

/-! ## The marker of the block -/

section Markers

variable {tool : Sha256sum} {root : Path} {blockId : String} {generation : UInt64}
  {data : List UInt8} {before disk : Disk}

/-- The markers of the other blocks are texts. -/
def OtherMarkers (root : Path) (blockId : String) (generation : UInt64) (disk : Disk) : Prop :=
  ∀ name entry, disk.lookup (root ++ [name]) = some entry → extension name = some "commit" →
    root ++ [name] ≠ commitPath root blockId generation →
    ∃ content text, entry = .file content ∧ content.bytes = utf8Bytes text

/-- A marker of another block is read as the record of this one. -/
def MarkedElsewhere (tool : Sha256sum) (root : Path) (blockId : String) (generation : UInt64)
    (data : List UInt8) (disk : Disk) : Prop :=
  ∃ name content text, extension name = some "commit" ∧
    root ++ [name] ≠ commitPath root blockId generation ∧
    disk.lookup (root ++ [name]) = some (.file content) ∧ content.bytes = utf8Bytes text ∧
    parseRecord text = some (recordOf tool root blockId generation data)

/-- Which committed blocks are recovered: those with a plain identifier, or with the help of
another marker. -/
theorem recover_committed (lawful : tool.Lawful) (directory : disk.lookup root = some .directory)
    (others : OtherMarkers root blockId generation before)
    (same : ∀ name, extension name = some "commit" →
      root ++ [name] ≠ commitPath root blockId generation →
      disk.lookup (root ++ [name]) = before.lookup (root ++ [name]))
    (committed : Committed tool root (recordOf tool root blockId generation data) data disk) :
    ∃ records, Fallible.outcome (StoreOp.apply tool) (recover root) disk = (.ok records, disk) ∧
      ((∃ record ∈ records, record.blockId = blockId ∧ record.generation = generation) ↔
        IsPlain blockId ∨ MarkedElsewhere tool root blockId generation data before) := by
  obtain ⟨marker, isMarker, bytes⟩ := committed.marker
  have readable : Readable root disk := by
    refine ⟨directory, ?_⟩
    intro name entry found isCommit
    by_cases own : root ++ [name] = commitPath root blockId generation
    · rw [own] at found
      exact ⟨marker, _, Option.some.inj (found.symm.trans isMarker), bytes⟩
    · rw [same name isCommit own] at found
      exact others name entry found isCommit own
  obtain ⟨records, ran, members⟩ := outcome_recover tool readable
  refine ⟨records, ran, ?_, ?_⟩
  · rintro ⟨found, member, isId, isGeneration⟩
    obtain ⟨name, isCommit, content, text, isFile, isText, parsed, verified⟩ :=
      (members found).mp member
    by_cases own : root ++ [name] = commitPath root blockId generation
    · rw [own] at isFile
      have isOwn : some (Entry.file content) = some (.file marker) := isFile.symm.trans isMarker
      cases isOwn
      have texts := congrArg fromUtf8 (isText.symm.trans bytes)
      rw [fromUtf8_utf8Bytes, fromUtf8_utf8Bytes] at texts
      rw [Option.some.inj texts] at parsed
      exact .inl (isPlain_of_blockId parsed isId)
    · have isRecord := verified.eq committed.verified isId isGeneration
      rw [isRecord] at parsed
      exact .inr ⟨name, content, text, isCommit, own, (same name isCommit own).symm.trans isFile,
        isText, parsed⟩
  · rintro (plain | ⟨name, content, text, isCommit, own, isFile, isText, parsed⟩)
    · refine ⟨recordOf tool root blockId generation data,
        (members _).mpr ⟨fileName blockId generation "commit", ?_⟩, rfl, rfl⟩
      exact ⟨extension_fileName (.inr (.inr rfl)), marker, _, isMarker, bytes,
        committed.verified.parseRecord_commitText lawful plain, committed.verified⟩
    · refine ⟨recordOf tool root blockId generation data, (members _).mpr ⟨name, ?_⟩, rfl, rfl⟩
      exact ⟨isCommit, content, text, (same name isCommit own).trans isFile, isText, parsed,
        committed.verified⟩

/-- A block that is not recovered is not restored. -/
theorem restoreActive_error {records : List CommitRecord} {target : Path}
    {processId nanos : Nat} (valid : validateId blockId = .ok ())
    (recovered : Fallible.outcome (StoreOp.apply tool) (recover root) disk = (.ok records, disk))
    (absent : ¬ ∃ record ∈ records, record.blockId = blockId ∧ record.generation = generation) :
    ∃ error, Fallible.outcome (StoreOp.apply tool)
      (restoreActive root processId nanos blockId generation target) disk =
        (.error error, disk) := by
  have none : records.find? (fun r => r.blockId = blockId ∧ r.generation = generation) =
      none := by
    rw [List.find?_eq_none]
    intro record member found
    exact absent ⟨record, member, of_decide_eq_true found⟩
  refine ⟨noVerifiedCommit blockId generation, ?_⟩
  unfold restoreActive findRecord
  rw [Store.outcome_bind_ofExcept valid, Fallible.outcome_bind_ok recovered, none]
  rfl

end Markers

/-! ## Retries -/

/-- A host on which a retry finds its part file: a store whose other markers are texts, and a
models directory outside the store in which the model can be put. The size and the digest of the
request are those of the content. -/
structure Retry (tool : Sha256sum) (job : Job) (content : ByteVec) (received : List UInt8)
    (disk : Disk) : Prop where
  isModel : GgufRegistry.Accepts content
  isPrefix : received <+: content.bytes
  size : ∀ bytes, job.request.expectedSizeBytes = some bytes →
    bytes = UInt64.ofNat content.bytes.length
  digest : ExpectedDigest tool (partPath job.root job.blockId job.generation) content.bytes
    job.request.sha256
  short : job.blockId.length < 2 ^ 32
  ready : Ready job.root disk
  part : disk.bytesAt (partPath job.root job.blockId job.generation) = received
  markers : OtherMarkers job.root job.blockId job.generation disk
  outside : ∀ name, ¬ job.root ++ [name] <+: job.modelsDir
  way : ∀ front file, front <+: job.modelsDir → disk.lookup front ≠ some (.file file)
  target : disk.lookup (targetPath job.modelsDir job.request) ≠ some .directory
  temporary : disk.lookup (job.modelsDir ++
    [restoreName job.blockId job.generation job.processId job.nanos]) ≠ some .directory

section Install

variable {tool : Sha256sum} {server : Server} {job : Job} {content : ByteVec}
  {received : List UInt8} {before disk : Disk}

/-- Everything in a block lies directly in the store. -/
theorem inBlock_below {root path : Path} {blockId : String} {generation : UInt64}
    (inBlock : InBlock root blockId generation path) : ∃ name, path = root ++ [name] := by
  rcases inBlock with ⟨name, _, isPath⟩ | isBlob | isCommit
  · exact ⟨name, isPath⟩
  · exact ⟨_, isBlob⟩
  · exact ⟨_, isCommit⟩

/-- The models directory can still be made after the commit. -/
theorem Retry.makes (retry : Retry tool job content received before)
    (changes : before.ChangesWithin (InBlock job.root job.blockId job.generation) disk) :
    ∃ made, disk.createDirAll job.modelsDir = (.ok (), made) ∧
      made.lookup job.modelsDir = some .directory ∧ made.lookup job.root = some .directory ∧
      ∀ other, ¬ other <+: job.modelsDir → made.lookup other = disk.lookup other := by
  have ready := retry.ready.changesWithin changes (root_not_inBlock _ _ _)
  have start : disk.lookup [] = some .directory := by
    by_cases isRoot : job.root = []
    · rw [← isRoot]
      exact ready.directory
    · exact disk.lookup_prefix isRoot ready.directory
  have free : ∀ front file, front <+: [] ++ job.modelsDir →
      disk.lookup front ≠ some (.file file) := by
    intro front file isFront isFile
    rw [changes.frame front] at isFile
    · exact retry.way front file isFront isFile
    · intro inBlock
      obtain ⟨name, isName⟩ := inBlock_below inBlock
      rw [isName] at isFront
      exact retry.outside name isFront
  obtain ⟨made, ran, isMade⟩ := Disk.createDirAllBelow_ok start free
  rw [List.nil_append] at isMade
  have frame : ∀ other, ¬ other <+: job.modelsDir → made.lookup other = disk.lookup other := by
    intro other apart
    have same : (disk.createDirAll job.modelsDir).2.lookup other = disk.lookup other :=
      Disk.createDirAll_frame apart
    rwa [show disk.createDirAll job.modelsDir = (.ok (), made) from ran] at same
  refine ⟨made, ran, isMade, ?_, frame⟩
  by_cases onTheWay : job.root <+: job.modelsDir
  · obtain ⟨suffix, isSuffix⟩ := onTheWay
    rw [← isSuffix] at isMade
    by_cases below : suffix = []
    · rwa [below, List.append_nil] at isMade
    · exact made.lookup_prefix below isMade
  · rw [frame _ onTheWay]
    exact ready.directory

theorem removeFile_frame (disk : Disk) {path other : Path} (different : other ≠ path) :
    (disk.removeFile path).2.lookup other = disk.lookup other := by
  rcases disk.removeFile_cases path with ⟨error, failed⟩ | ⟨after, removed, removes⟩
  · rw [failed]
  · rw [removed]
    exact removes.frame other different

theorem outcome_removeStaged {root : Path} {blockId : String} {generation : UInt64}
    (tool : Sha256sum) (server : Server) (world : RetryWorld) :
    ∃ disk, Fallible.outcome (RetryWorld.answer tool server)
        (removeStaged root blockId generation) world = (.ok (), { world with disk }) ∧
      ∀ other, other ≠ blobPath root blockId generation →
        other ≠ commitPath root blockId generation →
        disk.lookup other = world.disk.lookup other := by
  refine ⟨((world.disk.removeFile (blobPath root blockId generation)).2.removeFile
    (commitPath root blockId generation)).2, ?_, ?_⟩
  · unfold removeStaged
    rw [Fallible.outcome_bind_ok (outcome_ignore _), outcome_ignore]
    rfl
  · intro other notBlob notCommit
    rw [removeFile_frame _ notCommit, removeFile_frame _ notBlob]

/-- The directory of the target. -/
theorem targetPath_dropLast (modelsDir : Path) (request : DownloadRequest) :
    (targetPath modelsDir request).dropLast = modelsDir := List.dropLast_concat

/-- A path in the models directory is not on the way to it. -/
theorem not_prefix_concat {path : Path} (name : String) : ¬ path ++ [name] <+: path := by
  intro isFront
  have longer := isFront.length_le
  rw [List.length_append, List.length_singleton] at longer
  omega

/-- Exactly the recovered blocks are installed. -/
theorem Retry.decides_install (lawful : tool.Lawful)
    (retry : Retry tool job content received before) {world : RetryWorld}
    (named : job.blockId = job.request.fileName) (valid : validateId job.blockId = .ok ())
    (changes : before.ChangesWithin (InBlock job.root job.blockId job.generation) world.disk)
    (committed : Committed tool job.root
      (recordOf tool job.root job.blockId job.generation content.bytes) content.bytes world.disk) :
    Fallible.Decides (RetryWorld.answer tool server) job.install world
      (IsPlain job.blockId ∨
        MarkedElsewhere tool job.root job.blockId job.generation content.bytes before)
      fun _ after => after.handle.phase = .completed ∧
        after.disk.lookup (targetPath job.modelsDir job.request) = some (.file content) := by
  obtain ⟨made, ranMake, isMade, directory, frame⟩ := retry.makes changes
  have below : ∀ name, made.lookup (job.root ++ [name]) = world.disk.lookup (job.root ++ [name]) :=
    fun name => frame _ (retry.outside name)
  obtain ⟨staged, isStaged, isRecord⟩ := committed.verified
  have isContent : staged = content :=
    ByteVec.ext ((Disk.bytesAt_file isStaged).symm.trans committed.bytes)
  have isBlob : made.lookup (blobPath job.root job.blockId job.generation) =
      some (.file content) := by
    rw [← isContent]
    exact (below _).trans isStaged
  have stillCommitted : Committed tool job.root
      (recordOf tool job.root job.blockId job.generation content.bytes) content.bytes made := by
    obtain ⟨marker, isMarker, bytes⟩ := committed.marker
    exact ⟨committed.verified.congr (below _), Disk.bytesAt_file isBlob, marker,
      (below _).trans isMarker, bytes⟩
  have same : ∀ name, extension name = some "commit" →
      job.root ++ [name] ≠ commitPath job.root job.blockId job.generation →
      made.lookup (job.root ++ [name]) = before.lookup (job.root ++ [name]) :=
    fun name isCommit other => (below name).trans
      (changes.frame _ (not_inBlock_commit isCommit other))
  obtain ⟨records, recovered, present⟩ :=
    recover_committed lawful directory retry.markers same stillCommitted
  rw [← present]
  have ranMakes : Fallible.outcome (RetryWorld.answer tool server)
      (Client.stage "Modellverzeichnis nicht anlegbar: " (Store.createDirAll os job.modelsDir))
      world = (.ok (), { world with disk := made }) := by
    apply outcome_stage_ok
    rw [Store.outcome_createDirAll, ranMake]
    rfl
  unfold Job.install
  apply Fallible.Decides.after_ok ranMakes
  by_cases isPresent : ∃ record ∈ records, record.blockId = job.blockId ∧
      record.generation = job.generation
  · have inModels : ∀ name, made.lookup (job.modelsDir ++ [name]) = some .directory →
        before.lookup (job.modelsDir ++ [name]) = some .directory := by
      intro name isDirectory
      rw [frame _ (not_prefix_concat name)] at isDirectory
      exact changes.directories _ isDirectory
    have restorable : Restorable made (targetPath job.modelsDir job.request)
        (restoreName job.blockId job.generation job.processId job.nanos) := by
      constructor
      · simp [targetPath]
      · rwa [targetPath_dropLast]
      · exact fun isDirectory => retry.target (inModels _ isDirectory)
      · rw [targetPath_dropLast]
        exact fun isDirectory => retry.temporary (inModels _ isDirectory)
    obtain ⟨restored, ranRestore, isTarget⟩ :=
      outcome_restoreActive valid recovered isPresent isBlob restorable
    have ranRestores : Fallible.outcome (RetryWorld.answer tool server)
        (Client.stage "Uebernahme ins Modellverzeichnis fehlgeschlagen: "
          (restoreActive job.root job.processId job.nanos job.blockId job.generation
            (targetPath job.modelsDir job.request)))
        { world with disk := made } = (.ok (), { world with disk := restored }) :=
      outcome_stage_ok ranRestore
    obtain ⟨cleaned, ranRemove, kept⟩ :=
      outcome_removeStaged tool server { world with disk := restored }
    have apart : ¬ IsStaged job.root job.blockId job.generation
        (targetPath job.modelsDir job.request) := by
      rw [named]
      exact target_not_staged _ _ _ _
    refine .inl ⟨isPresent, (), { world with
      disk := cleaned
      handle := { world.handle with phase := .completed } }, ?_, rfl, ?_⟩
    · rw [Fallible.outcome_bind_ok ranRestores, Fallible.outcome_bind_ok ranRemove]
      rfl
    · have isKept : cleaned.lookup (targetPath job.modelsDir job.request) =
          restored.lookup (targetPath job.modelsDir job.request) :=
        kept _ (fun isBlob => apart (.inr (.inl isBlob)))
          (fun isCommit => apart (.inr (.inr isCommit)))
      exact isKept.trans isTarget
  · obtain ⟨error, failed⟩ := restoreActive_error valid recovered isPresent
    exact .inr ⟨isPresent, _, _, Fallible.outcome_bind_error (outcome_stage_error failed)⟩

end Install

section Runs

variable {tool : Sha256sum} {server : Server} {job : Job} {content : ByteVec}
  {received : List UInt8} {world : RetryWorld}

/-- A model has bytes. -/
theorem accepts_nonempty (isModel : GgufRegistry.Accepts content) : content.bytes ≠ [] := by
  intro isEmpty
  obtain ⟨metadata, accepted⟩ := isModel
  obtain rfl : content = ⟨[], ByteVec.nil_fits⟩ := ByteVec.ext isEmpty
  cases accepted

/-- A retry is connected unless everything was received and the server follows the range. -/
theorem Retry.decides_connect (retry : Retry tool job content received world.disk)
    (urls : UrlLibrary) (requiredScheme : String) (valid : validateId job.blockId = .ok ())
    (serves : server.content = content.bytes) :
    Fallible.Decides (RetryWorld.answer tool server) (job.connect urls requiredScheme) world
      (received = content.bytes → server.ignoresRange = true)
      fun value after =>
        value.2 = (if server.announces then some (UInt64.ofNat after.outside.length) else none) ∧
        Begun content.bytes (partPath job.root job.blockId job.generation) value.1 after.outside
          after ∧
        world.disk.ChangesWithin (IsPart job.root) after.disk := by
  obtain ⟨rest, isRest⟩ := retry.isPrefix
  have parts : server.content = received ++ rest := serves.trans isRest.symm
  have small : server.content.length < 2 ^ 63 := by
    rw [serves]
    exact content.fits
  have everything : received = content.bytes ↔ rest = [] := by
    rw [← isRest]
    exact List.self_eq_append_right
  by_cases served : received = content.bytes → server.ignoresRange = true
  · have size : ∀ bytes, job.request.expectedSizeBytes = some bytes →
        bytes = UInt64.ofNat server.content.length := by
      rw [serves]
      exact retry.size
    obtain ⟨after, start, connected, begun, changes⟩ := outcome_connect urls requiredScheme valid
      retry.ready retry.part parts small
      (fun none => .inr (served (everything.mpr none))) size
    rw [serves] at begun
    exact .inl ⟨served, _, after, connected, rfl, begun, changes⟩
  · rw [Classical.not_imp] at served
    obtain ⟨isAll, follows⟩ := served
    obtain ⟨disk, resumeFrom, isStart, opened, _⟩ := outcome_openPart tool server world
      job.generation "Staging-Datei nicht oeffenbar: " valid retry.ready
    have smallReceived : received.length < 2 ^ 63 := isAll ▸ content.fits
    have refused : server.respond job.request.url (rangeStart resumeFrom) =
        (.error (job.request.url ++ ": status code 416"), []) := by
      have positive := (received_pos smallReceived).mpr (isAll ▸ accepts_nonempty retry.isModel)
      have noRest : ¬ (UInt64.ofNat received.length).toNat < server.content.length := by
        rw [toNat_received smallReceived, serves, ← isAll]
        omega
      rw [isStart, retry.part]
      unfold rangeStart Server.respond
      rw [if_pos positive]
      dsimp only
      rw [if_neg follows, if_neg noRest]
    refine .inr ⟨fun served => follows (served isAll), ?_⟩
    unfold Job.connect
    rw [Fallible.outcome_bind_ok opened]
    exact ⟨_, _, Fallible.outcome_bind_error (outcome_fetch_error maxRedirects refused)⟩

/-- A body that was read to its end has the announced length. -/
theorem checkReceived_ok {start : UInt64} {body : List UInt8} (announces : Bool) :
    checkReceived (start + UInt64.ofNat body.length - start)
      (if announces then some (UInt64.ofNat body.length) else none) = .ok () := by
  cases announces with
  | false => rfl
  | true =>
      have same : start + UInt64.ofNat body.length - start = UInt64.ofNat body.length := by
        rw [UInt64.add_comm, UInt64.add_sub_cancel]
      rw [same]
      exact if_neg (not_not.mpr rfl)

/-- The attempt of a retry succeeds exactly if it is connected and its block recovered. -/
theorem Retry.decides_tryDownload (lawful : tool.Lawful)
    (retry : Retry tool job content received world.disk) (urls : UrlLibrary)
    (requiredScheme : String) (named : job.blockId = job.request.fileName)
    (valid : validateId job.blockId = .ok ()) (serves : server.content = content.bytes)
    {rounds : Nat} (enough : content.bytes.length < rounds) :
    Fallible.Decides (RetryWorld.answer tool server) (job.tryDownload urls requiredScheme rounds)
      world
      ((received = content.bytes → server.ignoresRange = true) ∧
        (IsPlain job.blockId ∨
          MarkedElsewhere tool job.root job.blockId job.generation content.bytes world.disk))
      fun _ after => after.handle.phase = .completed ∧
        after.disk.lookup (targetPath job.modelsDir job.request) = some (.file content) := by
  unfold Job.tryDownload
  apply (retry.decides_connect urls requiredScheme valid serves).bind
  rintro ⟨start, announced⟩ connected ⟨isAnnounced, begun, changes⟩
  obtain ⟨file, isFile, whole, _⟩ := begun.file
  have fewer : connected.outside.length < rounds := by
    rw [← whole, List.length_append] at enough
    omega
  obtain ⟨read, ranBody, writes, downloaded⟩ :=
    outcome_readBody content.fits rounds connected isFile whole fewer
  obtain ⟨part, isPart, bytes⟩ := writes.file
  rw [show part = content from ByteVec.ext bytes] at isPart
  have inStore : world.disk.ChangesWithin (IsPart job.root) read.disk :=
    changes.trans (.of_writesFile writes (isPart_partPath job.root _ _))
  have received : checkReceived (read.handle.bytesDownloaded - start) announced = .ok () := by
    rw [downloaded, begun.downloaded, show announced = _ from isAnnounced]
    exact checkReceived_ok server.announces
  obtain ⟨verified, ranVerify, more, committed⟩ := outcome_verify lawful valid
    (retry.ready.changesWithin inStore (root_not_isPart job.root)) isPart received retry.digest
    retry.short retry.isModel
  apply Fallible.Decides.after_ok ranBody
  apply Fallible.Decides.after_ok ranVerify
  exact retry.decides_install lawful named valid ((inStore.mono fun _ => .inl).trans more) committed

end Runs

/-! ## Completed retries -/

/-- The retry ends `Completed`, and the target is what the server serves. -/
def Installs (tool : Sha256sum) (server : Server) (job : Job) (urls : UrlLibrary) (rounds : Nat)
    (disk : Disk) : Prop :=
  let after := ((job.runDownload urls rounds).runWith (RetryWorld.answer tool server)
    { disk := disk, handle := {}, outside := [] }).2
  after.handle.phase = .completed ∧ ∃ installed,
    after.disk.lookup (targetPath job.modelsDir job.request) = some (.file installed) ∧
      installed.bytes = server.content

section Completed

variable {tool : Sha256sum} {server : Server}

/-- A run whose attempt fails does not end `Completed`. -/
theorem conclude_error (failure : DownloadFailure) (world : RetryWorld) :
    ((Job.conclude (.error failure)).runWith (RetryWorld.answer tool server)
      world).2.handle.phase ≠ .completed := by
  show (Prog.runWith (RetryWorld.answer tool server)
    (if world.handle.phase = .cancelled then pure () else _) world).2.handle.phase ≠ .completed
  split
  · rename_i isCancelled
    show world.handle.phase ≠ .completed
    rw [isCancelled]
    exact DownloadPhase.noConfusion
  · exact DownloadPhase.noConfusion

/-- The file name of an accepted request is a block identifier. -/
theorem validateId_of_checkRequest {urls : UrlLibrary} {request : DownloadRequest}
    (accepted : checkRequest urls request = .ok ()) : validateId request.fileName = .ok () := by
  unfold checkRequest validateFileName at accepted
  unfold validateId
  split_ifs at accepted ⊢ with refused
  · cases accepted
  · rfl

/-- A retry installs the content exactly if the server does not refuse the range, which it does
where everything was received, and the block is recovered from its marker. -/
theorem retry_installs_iff (lawful : tool.Lawful) {urls : UrlLibrary} {request : DownloadRequest}
    (accepted : checkRequest urls request = .ok ()) (root modelsDir : Path)
    (stableHash : String → UInt64) (processId nanos : Nat) {content : ByteVec}
    {received : List UInt8} {disk : Disk}
    (retry : Retry tool (jobOf root modelsDir stableHash processId nanos request) content received
      disk)
    (serves : server.content = content.bytes) {rounds : Nat}
    (enough : content.bytes.length < rounds) :
    Installs tool server (jobOf root modelsDir stableHash processId nanos request) urls rounds
        disk ↔
      (received = content.bytes → server.ignoresRange = true) ∧
        (IsPlain request.fileName ∨ MarkedElsewhere tool root request.fileName
          (stableHash request.url) content.bytes disk) := by
  let world : RetryWorld := { disk := disk, handle := {}, outside := [] }
  have found : Retry tool (jobOf root modelsDir stableHash processId nanos request) content
      received world.disk := retry
  have valid : validateId (jobOf root modelsDir stableHash processId nanos request).blockId =
      .ok () := validateId_of_checkRequest accepted
  have decides := found.decides_tryDownload lawful urls "https" rfl valid serves enough
  unfold Installs Job.runDownload
  rw [Prog.runWith_bind]
  unfold Fallible.Decides Fallible.outcome at decides
  rcases decides with ⟨holds, _, after, ran, completed, isTarget⟩ | ⟨fails, error, after, ran⟩
  · rw [ran]
    exact iff_of_true ⟨completed, content, isTarget, serves.symm⟩ holds
  · rw [ran]
    exact iff_of_false (fun installs => conclude_error error after installs.1) fails

end Completed

/-! ## Two retries -/

/-- A server of the sample that follows the range and delivers eight bytes at a time. -/
def sampleServer : Server where
  content := sampleBytes
  ignoresRange := false
  announces := true
  portion := fun _ => 8

abbrev pinnedJob : Job := jobOf ["downloads"] ["models"] (fun _ => 1) 1 0 pinnedRequest

/-- The disk of the sample with a part file. -/
def partDisk (received : ByteVec) : Disk :=
  (sampleDisk.putFile (partPath ["downloads"] "m" 1) received).2

theorem partDisk_puts (received : ByteVec) :
    sampleDisk.Puts (partPath ["downloads"] "m" 1) (.file received) (partDisk received) := by
  have parent : sampleDisk.ParentIsDirectory (partPath ["downloads"] "m" 1) := by
    constructor
    · exact List.cons_ne_nil _ _
    · decide +kernel
  have absent : sampleDisk.lookup (partPath ["downloads"] "m" 1) ≠ some .directory := by
    decide +kernel
  obtain ⟨after, ran, puts⟩ := Disk.putFile_ok received parent absent
  unfold partDisk
  rwa [ran]

/-- Every beginning of the sample may have been received. -/
theorem sampleRetry (received : ByteVec) (isPrefix : received.bytes <+: sampleBytes) :
    Retry sampleShared.tool pinnedJob sampleShared.content received.bytes (partDisk received) := by
  have puts := partDisk_puts received
  have empty : ∀ name, sampleDisk.lookup (["downloads"] ++ [name]) = none := fun _ => rfl
  have inStore : ∀ name entry, (partDisk received).lookup (["downloads"] ++ [name]) = some entry →
      ["downloads"] ++ [name] = partPath ["downloads"] "m" 1 ∧ entry = .file received := by
    intro name entry found
    by_cases isPart : ["downloads"] ++ [name] = partPath ["downloads"] "m" 1
    · rw [isPart, puts.put] at found
      exact ⟨isPart, (Option.some.inj found).symm⟩
    · rw [puts.frame _ isPart, empty] at found
      cases found
  exact {
    isModel := ⟨_, rfl⟩
    isPrefix := isPrefix
    size := by
      intro bytes isSize
      rw [← Option.some.inj isSize]
      rfl
    digest := by
      intro digest pinned
      rw [← Option.some.inj pinned]
      decide +kernel
    short := by decide
    ready := by
      constructor
      · rw [puts.frame _ (by decide)]
        decide +kernel
      · intro name isDirectory
        cases (inStore name _ isDirectory).2
    part := Disk.bytesAt_file puts.put
    markers := by
      intro name entry found isCommit _
      have isPart : name = fileName "m" 1 "part" := by
        simpa [partPath] using (inStore name entry found).1
      rw [isPart, extension_fileName (.inl rfl)] at isCommit
      exact absurd isCommit (by decide)
    outside := by
      intro name onTheWay
      have longer := onTheWay.length_le
      simp [jobOf] at longer
    way := by
      intro front file isFront isFile
      have isDirectory : (partDisk received).lookup front = some .directory := by
        cases front with
        | nil =>
            rw [puts.frame _ (by decide)]
            decide +kernel
        | cons name rest =>
            obtain ⟨rfl, nothing⟩ := List.cons_prefix_cons.mp isFront
            rw [List.prefix_nil.mp nothing, puts.frame _ (by decide)]
            decide +kernel
      cases isDirectory.symm.trans isFile
    target := by
      rw [puts.frame _ (by decide)]
      decide +kernel
    temporary := by
      rw [puts.frame _ (by decide)]
      decide +kernel }

/-- The first bytes of the sample. -/
def sampleHalf : ByteVec where
  bytes := sampleBytes.take 10
  fits := by decide

/-- A retry from the middle of the sample. -/
theorem retry_installs_half :
    Installs sampleShared.tool sampleServer pinnedJob sampleShared.urls 25
      (partDisk sampleHalf) := by
  have resumes : sampleHalf.bytes = sampleBytes → sampleServer.ignoresRange = true := by
    intro same
    exact absurd same (by decide)
  exact (retry_installs_iff sampleTool_lawful pinnedRequest_accepted ["downloads"] ["models"]
    (fun _ => 1) 1 0 (sampleRetry sampleHalf (List.take_prefix 10 _)) rfl (by decide)).mpr
      ⟨resumes, .inl (by decide +kernel)⟩

/-- A retry after the whole sample was received is refused, and ends `Failed`. -/
theorem retry_refused :
    Retry sampleShared.tool pinnedJob sampleShared.content sampleBytes
        (partDisk sampleShared.content) ∧
      ((pinnedJob.runDownload sampleShared.urls 25).runWith
        (RetryWorld.answer sampleShared.tool sampleServer)
        { disk := partDisk sampleShared.content, handle := {}, outside := [] }).2.handle.phase =
          .failed ∧
      ¬ Installs sampleShared.tool sampleServer pinnedJob sampleShared.urls 25
        (partDisk sampleShared.content) := by
  have failed : ((pinnedJob.runDownload sampleShared.urls 25).runWith
      (RetryWorld.answer sampleShared.tool sampleServer)
      { disk := partDisk sampleShared.content, handle := {}, outside := [] }).2.handle.phase =
        .failed := by
    decide +kernel
  refine ⟨sampleRetry sampleShared.content (List.prefix_refl _), failed, ?_⟩
  intro installs
  have completed := installs.1
  rw [failed] at completed
  cases completed

end TriAI.Download
