import TriAI.Chunk.PackGroups

/-!
Contract: what `packGguf` writes and when it succeeds.

Owns: the archive as a function of the source file (`packedManifest`,
`packedIndex`, `storedOf`), the loops of the packer against that description, and
`packGguf_decides`, the exact condition under which packing succeeds.

Does not own: loading (`Chunk.ArchiveRoundTrip`) and cleanup after a failure.
-/

set_option autoImplicit false

namespace TriAI.Chunk

open TriAI.Library.FileTree
open TriAI.Library.Interaction
open TriAI.Library.MachineInt
open TriAI.Library.Tiling
open TriAI.Chunk.Gguf (GgufTensorInfo ParsedHeader parseHeader)

/-! ## Names of chunks -/

theorem chunkName_injective {left right : Nat} (same : chunkName left = chunkName right) :
    left = right := by
  have numbers : ∀ number : Nat,
      Nat.ofDigitChars 10 (fourDigits number).toList 0 = number := by
    intro number
    unfold fourDigits
    rw [String.toList_ofList, Nat.ofDigitChars_append, Nat.ofDigitChars_replicate_zero,
      Nat.mul_zero, Nat.ofDigitChars_ten_toDigits]
  have digits : (fourDigits left).toList = (fourDigits right).toList := by
    have characters := congrArg String.toList same
    unfold chunkName at characters
    rw [String.toList_append, String.toList_append] at characters
    exact List.append_cancel_left characters
  rw [← numbers left, ← numbers right, digits]

theorem chunkPath_injective {dir : Path} {left right : String}
    (same : chunkPath dir left = chunkPath dir right) : left = right := by
  have names := List.append_cancel_left same
  simp only [List.cons.injEq, and_true, true_and] at names
  have characters := congrArg String.toList names
  rw [String.toList_append, String.toList_append] at characters
  exact String.toList_inj.mp (List.append_cancel_right characters)

theorem chunkPath_dropLast (dir : Path) (chunkId : String) :
    (chunkPath dir chunkId).dropLast = dir ++ ["chunks"] := by
  unfold chunkPath
  rw [show dir ++ ["chunks", chunkId ++ ".zst"] = (dir ++ ["chunks"]) ++ [chunkId ++ ".zst"] by simp,
    List.dropLast_concat]

/-- A path one component below the archive is not the path of a chunk. -/
theorem ne_chunkPath (dir : Path) (name chunkId : String) :
    dir ++ [name] ≠ chunkPath dir chunkId := by
  intro same
  have lengths := congrArg List.length same
  simp [chunkPath] at lengths

theorem self_ne_chunkPath (dir : Path) (chunkId : String) : dir ≠ chunkPath dir chunkId := by
  intro same
  have lengths := congrArg List.length same
  simp [chunkPath] at lengths

/-! ## The archive as a function of the file -/

/-- The bytes as a buffer, if one can hold them. -/
def asVec (bytes : List UInt8) : ByteVec :=
  if fits : bytes.length < 2 ^ 63 then ⟨bytes, fits⟩ else emptyVec

theorem asVec_bytes {bytes : List UInt8} (fits : bytes.length < 2 ^ 63) :
    (asVec bytes).bytes = bytes := by
  unfold asVec
  rw [dif_pos fits]

section Archive

variable (crates : Crates) (config : PackerConfig) (file : ByteVec)
  (infos : List GgufTensorInfo)

/-- The groups with their numbers. -/
def numberedGroups : List (List (Fin infos.length) × Nat) :=
  (groupTensors config infos).zipIdx

/-- The raw bytes of a chunk. -/
def rawOf (group : List (Fin infos.length)) : ByteVec := asVec (groupBytes file infos group)

/-- The bytes stored for a chunk. -/
def storedOf (group : List (Fin infos.length)) : List UInt8 :=
  packedBytes crates config (categoriesOf infos group) (rawOf file infos group)

def descriptorOf (item : List (Fin infos.length) × Nat) : ChunkDescriptor :=
  { chunkId := chunkName item.2
    categories := categoriesOf infos item.1
    rawSize := UInt64.ofNat (rawOf file infos item.1).bytes.length
    compressedSize := UInt64.ofNat (storedOf crates config file infos item.1).length
    sha256 := crates.sha256Hex (rawOf file infos item.1).bytes
    fileOffset := 0
    tensorNames := item.1.map fun n => (infos.get n).name }

def packedManifest (id digest : String) : ChunkManifest :=
  ((numberedGroups config infos).map (descriptorOf crates config file infos)).foldl
    ChunkManifest.addChunk (ChunkManifest.new id digest)

/-- Placing the tensors of one numbered group. -/
def placeNumbered (index : TensorIndex) (item : List (Fin infos.length) × Nat) : TensorIndex :=
  placeGroup infos (chunkName item.2) item.1 0 index

def unplacedIndex (id digest : String) (len : UInt64) : TensorIndex :=
  (infos.map unplacedEntry).foldl TensorIndex.add (TensorIndex.new id digest len)

def packedIndex (id digest : String) (len : UInt64) : TensorIndex :=
  (numberedGroups config infos).foldl (placeNumbered infos) (unplacedIndex infos id digest len)

end Archive

/-! ## The loop over the tensors of a chunk -/

section Packing

variable {crates : Crates} {config : PackerConfig} {file : ByteVec}
  {infos : List GgufTensorInfo} {input output : Path}

/-- Reading a tensor from the source file. -/
private theorem readAt_tensor {disk : Disk} (isFile : Disk.read disk input = .ok file)
    (fits : FitsFile file infos) (n : Fin infos.length) :
    Disk.readAt disk input (infos.get n).dataOffset (infos.get n).size =
      .ok (tensorBytes file (infos.get n)) := by
  have inside := fits.inside n
  have small := file.fits
  unfold Disk.readAt
  rw [isFile]
  simp only
  rw [if_neg (by omega), if_neg (by omega)]
  rfl

/-- Step lemma: a round appends one tensor. -/
private theorem packTensor_round {disk : Disk} (isFile : Disk.read disk input = .ok file)
    (fits : FitsFile file infos) (chunkId : String) (draft : ChunkDraft)
    (n : Fin infos.length)
    (room : draft.raw.bytes.length + (infos.get n).size.toNat < 2 ^ 63) :
    ∃ raw, raw.bytes = draft.raw.bytes ++ tensorBytes file (infos.get n) ∧
      Fallible.outcome FsOp.apply (packTensor input infos chunkId draft n) disk =
        (.ok
          { raw
            names := draft.names ++ [(infos.get n).name]
            categories := addCategory infos draft.categories n
            index := draft.index.place n chunkId (UInt64.ofNat draft.raw.bytes.length) },
          disk) := by
  have capacity : (draft.raw.bytes ++ tensorBytes file (infos.get n)).length < 2 ^ 63 := by
    rw [List.length_append, tensorBytes_length fits]
    exact room
  have extended : extend draft.raw (tensorBytes file (infos.get n)) =
      .ok ⟨draft.raw.bytes ++ tensorBytes file (infos.get n), capacity⟩ := dif_pos capacity
  refine ⟨⟨draft.raw.bytes ++ tensorBytes file (infos.get n), capacity⟩, rfl, ?_⟩
  have wasRead : Fallible.outcome FsOp.apply
      (Fs.readAt input (infos.get n).dataOffset (infos.get n).size) disk =
        (.ok (tensorBytes file (infos.get n)), disk) := by
    rw [Fs.outcome_readAt, readAt_tensor isFile fits n]
    rfl
  unfold packTensor
  refine (Fallible.outcome_bind_ok wasRead).trans ?_
  rw [extended]
  rfl

/-- Run lemma: the loop over a group appends all of it. -/
private theorem packTensors_run {disk : Disk} (isFile : Disk.read disk input = .ok file)
    (fits : FitsFile file infos) (chunkId : String) (group : List (Fin infos.length))
    (draft : ChunkDraft)
    (room : draft.raw.bytes.length + groupSize infos group < 2 ^ 63) :
    ∃ raw, raw.bytes = draft.raw.bytes ++ groupBytes file infos group ∧
      Fallible.outcome FsOp.apply (group.foldlM (packTensor input infos chunkId) draft) disk =
        (.ok
          { raw
            names := draft.names ++ group.map fun n => (infos.get n).name
            categories := group.foldl (addCategory infos) draft.categories
            index := placeGroup infos chunkId group draft.raw.bytes.length draft.index },
          disk) := by
  induction group generalizing draft with
  | nil => exact ⟨draft.raw, by simp [groupBytes], by simp [placeGroup]⟩
  | cons n rest inductionHypothesis =>
      rw [groupSize_cons] at room
      obtain ⟨raw, rawBytes, ran⟩ :=
        packTensor_round isFile fits chunkId draft n (by omega)
      have rawLength : raw.bytes.length = draft.raw.bytes.length + (infos.get n).size.toNat := by
        rw [rawBytes, List.length_append, tensorBytes_length fits]
      obtain ⟨final, finalBytes, ranRest⟩ := inductionHypothesis
        { raw
          names := draft.names ++ [(infos.get n).name]
          categories := addCategory infos draft.categories n
          index := draft.index.place n chunkId (UInt64.ofNat draft.raw.bytes.length) }
        (by simp only; omega)
      refine ⟨final, ?_, ?_⟩
      · rw [finalBytes, rawBytes, groupBytes_cons, List.append_assoc]
      · rw [List.foldlM_cons, Fallible.outcome_bind_ok ran, ranRest]
        simp [placeGroup, rawLength]

/-! ## The loop over the chunks -/

theorem rawOf_bytes (fits : FitsFile file infos) {group : List (Fin infos.length)}
    (member : group ∈ groupTensors config infos) :
    (rawOf file infos group).bytes = groupBytes file infos group := by
  refine asVec_bytes ?_
  rw [groupBytes_length fits]
  exact Nat.lt_of_le_of_lt (groupSize_le fits member) file.fits

variable (crates config file infos input output)

/-- The invariant of the loop over the chunks: what is done is described by the
index, the manifest and the files, and nothing else on the disk has changed. -/
structure PackedSoFar (base : Disk) (index : TensorIndex) (manifest : ChunkManifest)
    (done : List (List (Fin infos.length) × Nat)) (state : TensorIndex × ChunkManifest)
    (disk : Disk) : Prop where
  index : state.1 = done.foldl (placeNumbered infos) index
  manifest : state.2 =
    (done.map (descriptorOf crates config file infos)).foldl ChunkManifest.addChunk manifest
  stored : ∀ item ∈ done, ∃ fits,
    disk.lookup (chunkPath output (chunkName item.2)) =
      some (.file ⟨storedOf crates config file infos item.1, fits⟩)
  frame : ∀ path, (∀ item ∈ done, path ≠ chunkPath output (chunkName item.2)) →
    disk.lookup path = base.lookup path

variable {crates config file infos input output}

/-- A disk on which the loop over the chunks can start: the source is readable and
the chunk directory exists and is empty. -/
structure ReadyToPack (file : ByteVec) (input output : Path) (base : Disk) : Prop where
  source : Disk.read base input = .ok file
  root : base.lookup output = some .directory
  chunks : base.lookup (output ++ ["chunks"]) = some .directory
  files : ∀ name, name ≠ "chunks" → base.lookup (output ++ [name]) = none
  empty : ∀ chunkId, base.lookup (chunkPath output chunkId) = none

/-- The source file is none of the files the loop writes. -/
private theorem input_ne_chunkPath {base : Disk} (ready : ReadyToPack file input output base)
    (chunkId : String) : input ≠ chunkPath output chunkId := by
  intro same
  have found := Disk.read_eq_ok.mp ready.source
  rw [same, ready.empty chunkId] at found
  cases found

/-- Step lemma: one chunk is packed if its stored bytes fit a file. -/
private theorem packChunk_decides {base disk : Disk} {index : TensorIndex}
    {manifest : ChunkManifest} {done : List (List (Fin infos.length) × Nat)}
    {state : TensorIndex × ChunkManifest} {item : List (Fin infos.length) × Nat}
    (ready : ReadyToPack file input output base) (fits : FitsFile file infos)
    (member : item.1 ∈ groupTensors config infos) (new : ∀ other ∈ done, other.2 ≠ item.2)
    (soFar : PackedSoFar crates config file infos output base index manifest done state disk) :
    Fallible.Decides FsOp.apply (packChunk crates input output config infos state item) disk
      ((storedOf crates config file infos item.1).length < 2 ^ 63)
      (PackedSoFar crates config file infos output base index manifest (done ++ [item])) := by
  have apart : ∀ other ∈ done,
      chunkPath output (chunkName item.2) ≠ chunkPath output (chunkName other.2) :=
    fun other isDone same => new other isDone (chunkName_injective (chunkPath_injective same)).symm
  have isFile : Disk.read disk input = .ok file := by
    rw [Disk.read_eq_ok, soFar.frame input fun other _ => input_ne_chunkPath ready _]
    exact Disk.read_eq_ok.mp ready.source
  have absent : disk.lookup (chunkPath output (chunkName item.2)) = none := by
    rw [soFar.frame _ apart]
    exact ready.empty _
  have parent : disk.ParentIsDirectory (chunkPath output (chunkName item.2)) := by
    refine ⟨by simp [chunkPath], ?_⟩
    rw [chunkPath_dropLast, soFar.frame _ fun other _ => ne_chunkPath output "chunks" _]
    exact ready.chunks
  have rawBytes := rawOf_bytes fits member
  have rawFits := (rawOf file infos item.1).fits
  rw [rawBytes, groupBytes_length fits] at rawFits
  obtain ⟨raw, drawn, ran⟩ := packTensors_run isFile fits (chunkName item.2) item.1
    ⟨emptyVec, [], [], state.1⟩ (by simpa [emptyVec] using rawFits)
  have rawEq : raw = rawOf file infos item.1 := by
    apply ByteVec.ext
    rw [drawn, rawBytes]
    rfl
  subst rawEq
  refine Fallible.Decides.after_ok ran ?_
  apply (Disk.decides_write _ parent (by rw [absent]; simp)).bind_known
  intro _ after written
  obtain ⟨storedFits, puts⟩ := written
  refine ⟨_, after, rfl, ?_, ?_, ?_, ?_⟩
  · rw [List.foldl_append, ← soFar.index]
    rfl
  · rw [List.map_append, List.foldl_append, ← soFar.manifest]
    rfl
  · intro other isDone
    rcases List.mem_append.mp isDone with before | isItem
    · obtain ⟨otherFits, found⟩ := soFar.stored other before
      refine ⟨otherFits, ?_⟩
      rw [puts.frame _ (apart other before).symm]
      exact found
    · rw [List.mem_singleton.mp isItem]
      exact ⟨storedFits, puts.put⟩
  · intro path other
    have different := other item (List.mem_append_right done (List.mem_singleton.mpr rfl))
    rw [puts.frame path different]
    exact soFar.frame path fun earlier before =>
      other earlier (List.mem_append_left [item] before)

/-- Run lemma: the loop over the chunks succeeds if all stored bytes fit. -/
private theorem packChunks_decides {base : Disk} {index : TensorIndex}
    {manifest : ChunkManifest} (ready : ReadyToPack file input output base)
    (fits : FitsFile file infos) :
    Fallible.Decides FsOp.apply
      ((numberedGroups config infos).foldlM
        (packChunk crates input output config infos) (index, manifest)) base
      (∀ item ∈ numberedGroups config infos,
        (storedOf crates config file infos item.1).length < 2 ^ 63)
      (PackedSoFar crates config file infos output base index manifest
        (numberedGroups config infos)) := by
  have numbers : ((numberedGroups config infos).map Prod.snd).Nodup := by
    unfold numberedGroups
    rw [List.zipIdx_map_snd]
    exact List.nodup_range'
  refine Fallible.Decides.foldlM (numberedGroups config infos) ?_ ?_
  · exact ⟨rfl, rfl, by simp, fun path _ => rfl⟩
  · intro done item rest state disk whole soFar
    have member : item.1 ∈ groupTensors config infos := by
      have inWhole : item ∈ numberedGroups config infos := by rw [whole]; simp
      exact (List.mem_zipIdx' inWhole).2 ▸ List.getElem_mem _
    refine packChunk_decides ready fits member (fun other before same => ?_) soFar
    rw [whole, List.map_append, List.map_cons] at numbers
    have separate := (List.nodup_append.mp numbers).2.2
    exact separate other.2 (List.mem_map_of_mem before) item.2 (List.mem_cons_self ..) same

/-! ## Verification -/

variable (crates config file infos)

/-- What a reader of the stored bytes takes for the raw ones: a stored length
equal to the raw one is read as "not compressed". -/
def readBack (group : List (Fin infos.length)) : ByteVec :=
  if (storedOf crates config file infos group).length = (rawOf file infos group).bytes.length then
    asVec (storedOf crates config file infos group)
  else rawOf file infos group

/-- The check that decides whether verification accepts a chunk. -/
def PassesVerify (group : List (Fin infos.length)) : Prop :=
  crates.sha256Hex (readBack crates config file infos group).bytes =
    crates.sha256Hex (rawOf file infos group).bytes

variable {crates config file infos}

/-- What is read back is as long as the chunk. -/
theorem readBack_length (group : List (Fin infos.length)) :
    (readBack crates config file infos group).bytes.length =
      (rawOf file infos group).bytes.length := by
  unfold readBack
  split
  · rename_i same
    have small := (rawOf file infos group).fits
    rw [asVec_bytes (by rw [same]; exact small), same]
  · rfl

/-- Decoding the stored bytes of a chunk. -/
theorem decodeStored_descriptorOf (lawful : crates.Lawful) (lowest : 1 ≤ config.zstdLevel)
    (highest : config.zstdLevel ≤ 22) (item : List (Fin infos.length) × Nat)
    (fits : (storedOf crates config file infos item.1).length < 2 ^ 63) :
    decodeStored crates (descriptorOf crates config file infos item)
      ⟨storedOf crates config file infos item.1, fits⟩ =
        .ok (readBack crates config file infos item.1) := by
  have rawFits := (rawOf file infos item.1).fits
  have flag : (descriptorOf crates config file infos item).compressedSize =
        (descriptorOf crates config file infos item).rawSize ↔
      (storedOf crates config file infos item.1).length =
        (rawOf file infos item.1).bytes.length := by
    rw [← UInt64.toNat_inj]
    simp only [descriptorOf, UInt64.toNat_ofNat']
    omega
  unfold decodeStored readBack
  by_cases same : (storedOf crates config file infos item.1).length =
      (rawOf file infos item.1).bytes.length
  · rw [if_pos (flag.mpr same), if_pos same]
    exact congrArg Except.ok (ByteVec.ext (asVec_bytes fits).symm)
  · rw [if_neg (flag.not.mpr same), if_neg same]
    -- bytes stored as they are would have had the raw length
    have compressed : storedOf crates config file infos item.1 =
        crates.zstdEncode config.zstdLevel (rawOf file infos item.1) := by
      unfold storedOf packedBytes at same ⊢
      split
      · rfl
      · rename_i stored
        rw [if_neg stored] at same
        exact absurd rfl same
    have decodedBack : crates.zstdDecode (storedOf crates config file infos item.1) =
        some (rawOf file infos item.1) := by
      rw [compressed]
      exact lawful.zstd_decode_encode _ _ lowest highest
    rw [decodedBack]
    rfl

theorem matchesChunk_descriptorOf {item : List (Fin infos.length) × Nat} {data : ByteVec}
    (length : data.bytes.length = (rawOf file infos item.1).bytes.length) :
    matchesChunk crates (descriptorOf crates config file infos item) data ↔
      crates.sha256Hex data.bytes = crates.sha256Hex (rawOf file infos item.1).bytes := by
  unfold matchesChunk descriptorOf
  rw [length]
  exact and_iff_right rfl

private theorem verifyChunk_decides (lawful : crates.Lawful) (lowest : 1 ≤ config.zstdLevel)
    (highest : config.zstdLevel ≤ 22) {disk : Disk} {item : List (Fin infos.length) × Nat}
    (stored : ∃ fits, disk.lookup (chunkPath output (chunkName item.2)) =
      some (.file ⟨storedOf crates config file infos item.1, fits⟩)) :
    Fallible.Decides FsOp.apply
      (verifyChunk crates output (descriptorOf crates config file infos item)) disk
      (PassesVerify crates config file infos item.1) fun _ after => after = disk := by
  obtain ⟨fits, found⟩ := stored
  have wasRead : Fallible.outcome FsOp.apply
      (Fs.read (chunkPath output (chunkName item.2))) disk =
        (.ok ⟨storedOf crates config file infos item.1, fits⟩, disk) := by
    rw [Fs.outcome_read, Disk.read_eq_ok.mpr found]
    rfl
  refine Fallible.Decides.after_ok wasRead ?_
  rw [decodeStored_descriptorOf lawful lowest highest item fits]
  refine Fallible.Decides.after_ok (Fs.outcome_ofExcept _ disk) ?_
  have passes : matchesChunk crates (descriptorOf crates config file infos item)
      (readBack crates config file infos item.1) ↔
        PassesVerify crates config file infos item.1 :=
    matchesChunk_descriptorOf (readBack_length item.1)
  by_cases good : PassesVerify crates config file infos item.1
  · rw [if_pos (passes.mpr good)]
    exact .inl ⟨good, (), disk, rfl, rfl⟩
  · rw [if_neg (passes.not.mpr good)]
    exact .inr ⟨good, _, disk, rfl⟩

/-! ## The whole archive -/

variable (crates config file infos output)

/-- The two JSON files of an archive are on the disk. -/
structure Documented (id digest : String) (len : UInt64) (disk : Disk) : Prop where
  manifest : ∃ fits, disk.lookup (output ++ ["manifest.json"]) =
    some (.file ⟨crates.manifestToJson (packedManifest crates config file infos id digest), fits⟩)
  index : ∃ fits, disk.lookup (output ++ ["tensor_index.json"]) =
    some (.file ⟨crates.indexToJson (packedIndex config infos id digest len), fits⟩)

/-- All files of an archive are on the disk. -/
structure Archived (id digest : String) (len : UInt64) (disk : Disk) : Prop
    extends Documented crates config file infos output id digest len disk where
  chunks : ∀ item ∈ numberedGroups config infos, ∃ fits,
    disk.lookup (chunkPath output (chunkName item.2)) =
      some (.file ⟨storedOf crates config file infos item.1, fits⟩)

/-- Every file of the archive fits the file system. -/
structure FilesFit (id digest : String) (len : UInt64) : Prop where
  chunks : ∀ group ∈ groupTensors config infos,
    (storedOf crates config file infos group).length < 2 ^ 63
  manifest :
    (crates.manifestToJson (packedManifest crates config file infos id digest)).length < 2 ^ 63
  index : (crates.indexToJson (packedIndex config infos id digest len)).length < 2 ^ 63

variable {crates config file infos output}

/-- A statement about the groups is one about the numbered groups. -/
theorem forall_numberedGroups {Property : List (Fin infos.length) → Prop} :
    (∀ item ∈ numberedGroups config infos, Property item.1) ↔
      ∀ group ∈ groupTensors config infos, Property group := by
  have groups : (numberedGroups config infos).map Prod.fst = groupTensors config infos :=
    List.zipIdx_map_fst 0 _
  rw [← groups, List.forall_mem_map]

/-- The chunks of the manifest are the numbered groups. -/
theorem packedManifest_chunks (id digest : String) :
    (packedManifest crates config file infos id digest).chunks =
      (numberedGroups config infos).map (descriptorOf crates config file infos) := by
  unfold packedManifest
  rw [ChunkManifest.chunks_foldl_addChunk]
  rfl

private theorem verifyArchive_decides (lawful : crates.Lawful)
    (lowest : 1 ≤ config.zstdLevel) (highest : config.zstdLevel ≤ 22) {disk : Disk}
    {id digest : String} {len : UInt64}
    (archived : Archived crates config file infos output id digest len disk) :
    Fallible.Decides FsOp.apply (verifyArchive crates output) disk
      (∀ group ∈ groupTensors config infos, PassesVerify crates config file infos group)
      fun _ after => after = disk := by
  obtain ⟨fits, found⟩ := archived.manifest
  have wasRead : Fallible.outcome FsOp.apply (Fs.read (output ++ ["manifest.json"])) disk =
      (.ok ⟨crates.manifestToJson (packedManifest crates config file infos id digest), fits⟩,
        disk) := by
    rw [Fs.outcome_read, Disk.read_eq_ok.mpr found]
    rfl
  refine Fallible.Decides.after_ok wasRead ?_
  rw [lawful.manifest_from_to]
  refine Fallible.Decides.after_ok (Fs.outcome_ofExcept _ disk) ?_
  rw [packedManifest_chunks, List.forM_eq_forM, List.forM_map]
  have checked : Fallible.Decides FsOp.apply
      ((numberedGroups config infos).forM fun item =>
        verifyChunk crates output (descriptorOf crates config file infos item)) disk
      (∀ item ∈ numberedGroups config infos, PassesVerify crates config file infos item.1)
      fun _ after => after = disk :=
    Fallible.Decides.forM _ fun item member =>
      verifyChunk_decides lawful lowest highest (archived.chunks item member)
  rw [forall_numberedGroups] at checked
  exact checked.bind_known fun _ after unchanged => ⟨true, after, rfl, unchanged⟩

private theorem root_ne_child (dir : Path) (name : String) : dir ≠ dir ++ [name] := by
  intro same
  have lengths := congrArg List.length same
  simp at lengths

private theorem parentIsDirectory_child {disk : Disk} {dir : Path}
    (isDirectory : disk.lookup dir = some .directory) (name : String) :
    disk.ParentIsDirectory (dir ++ [name]) := by
  refine ⟨by simp, ?_⟩
  rw [List.dropLast_concat]
  exact isDirectory

/-- After the chunks, the archive is completed if the JSON files fit and every
chunk verifies. -/
private theorem finishArchive_decides (lawful : crates.Lawful)
    (lowest : 1 ≤ config.zstdLevel) (highest : config.zstdLevel ≤ 22) {base packed : Disk}
    {id digest : String} {len : UInt64} (ready : ReadyToPack file input output base)
    {state : TensorIndex × ChunkManifest}
    (soFar : PackedSoFar crates config file infos output base (unplacedIndex infos id digest len)
      (ChunkManifest.new id digest) (numberedGroups config infos) state packed) :
    Fallible.Decides FsOp.apply (finishArchive crates output state) packed
      ((crates.manifestToJson
          (packedManifest crates config file infos id digest)).length < 2 ^ 63 ∧
        (crates.indexToJson (packedIndex config infos id digest len)).length < 2 ^ 63 ∧
        ∀ group ∈ groupTensors config infos, PassesVerify crates config file infos group)
      fun result after =>
        result = ⟨packedManifest crates config file infos id digest,
          packedIndex config infos id digest len, output⟩ ∧
        Archived crates config file infos output id digest len after := by
  obtain ⟨index, manifest⟩ := state
  obtain rfl : index = packedIndex config infos id digest len := soFar.index
  obtain rfl : manifest = packedManifest crates config file infos id digest := soFar.manifest
  have packedRoot : packed.lookup output = some .directory := by
    rw [soFar.frame output fun item _ => self_ne_chunkPath output _]
    exact ready.root
  have packedFiles : ∀ name, name ≠ "chunks" → packed.lookup (output ++ [name]) = none := by
    intro name notChunks
    rw [soFar.frame _ fun item _ => ne_chunkPath output name _]
    exact ready.files name notChunks
  have indexNe : output ++ ["tensor_index.json"] ≠ output ++ ["manifest.json"] := by simp
  refine (Disk.decides_write _ (parentIsDirectory_child packedRoot "manifest.json")
    (by rw [packedFiles _ (by decide)]; simp)).bind fun _ listed ⟨manifestFits, listPuts⟩ => ?_
  have listedRoot : listed.lookup output = some .directory := by
    rw [listPuts.frame output (root_ne_child output _)]
    exact packedRoot
  have listedIndex : listed.lookup (output ++ ["tensor_index.json"]) = none := by
    rw [listPuts.frame _ indexNe]
    exact packedFiles _ (by decide)
  refine (Disk.decides_write _ (parentIsDirectory_child listedRoot "tensor_index.json")
    (by rw [listedIndex]; simp)).bind fun _ written ⟨indexFits, indexPuts⟩ => ?_
  have archived : Archived crates config file infos output id digest len written := by
    refine ⟨⟨⟨manifestFits, ?_⟩, ⟨indexFits, indexPuts.put⟩⟩, fun item member => ?_⟩
    · rw [indexPuts.frame _ indexNe.symm]
      exact listPuts.put
    · obtain ⟨storedFits, found⟩ := soFar.stored item member
      refine ⟨storedFits, ?_⟩
      rw [indexPuts.frame _ (ne_chunkPath output _ _).symm,
        listPuts.frame _ (ne_chunkPath output _ _).symm]
      exact found
  refine (verifyArchive_decides lawful lowest highest archived).bind_known
    fun _ after unchanged => ⟨_, after, rfl, rfl, ?_⟩
  rw [unchanged]
  exact archived

/-- Writing an archive succeeds exactly if its files fit and verify. -/
private theorem writeArchive_decides (lawful : crates.Lawful)
    (lowest : 1 ≤ config.zstdLevel) (highest : config.zstdLevel ≤ 22) {base : Disk}
    (ready : ReadyToPack file input output base) (fits : FitsFile file infos)
    (id digest : String) (len : UInt64) :
    Fallible.Decides FsOp.apply
      (writeArchive crates input output config infos id digest len) base
      (FilesFit crates config file infos id digest len ∧
        ∀ group ∈ groupTensors config infos, PassesVerify crates config file infos group)
      fun result after =>
        result = ⟨packedManifest crates config file infos id digest,
          packedIndex config infos id digest len, output⟩ ∧
        Archived crates config file infos output id digest len after := by
  have opened : Fallible.outcome FsOp.apply (Fs.openFile input) base = (.ok (), base) := by
    change ((Disk.read base input).map (fun _ => ()) |>.mapError TriAIError.io, base) = _
    rw [ready.source]
    rfl
  refine Fallible.Decides.after_ok opened ?_
  refine ((packChunks_decides ready fits).bind fun state packed soFar =>
    finishArchive_decides lawful lowest highest ready soFar).mono ?_ fun _ _ _ final => final
  constructor
  · rintro ⟨chunks, manifest, index, verify⟩
    exact ⟨⟨forall_numberedGroups.mp chunks, manifest, index⟩, verify⟩
  · rintro ⟨⟨chunks, manifest, index⟩, verify⟩
    exact ⟨forall_numberedGroups.mpr chunks, manifest, index, verify⟩

variable (crates config) in
/-- Everything that has to hold for a file with this header to be packed. -/
structure Packable (disk : Disk) (input output : Path) (file : ByteVec)
    (header : ParsedHeader) : Prop where
  absent : disk.lookup output = none
  target : config.targetChunkBytes ≠ 0
  lowest : 1 ≤ config.zstdLevel
  highest : config.zstdLevel ≤ 22
  nonempty : header.tensors ≠ []
  parent : disk.ParentIsDirectory output
  files : FilesFit crates config file header.tensors (modelIdOf input header)
    (crates.sha256Hex file.bytes) (Gguf.fileLen file)
  verified : ∀ group ∈ groupTensors config header.tensors,
    PassesVerify crates config file header.tensors group

variable (crates config) in
/-- The result of packing, as a function of the file. -/
def packedResult (input output : Path) (file : ByteVec) (header : ParsedHeader) : PackResult where
  manifest := packedManifest crates config file header.tensors (modelIdOf input header)
    (crates.sha256Hex file.bytes)
  tensorIndex := packedIndex config header.tensors (modelIdOf input header)
    (crates.sha256Hex file.bytes) (Gguf.fileLen file)
  outputDir := output

/-- After the two directories are created, packing can start. -/
private theorem readyToPack {disk rooted base : Disk} (isFile : Disk.read disk input = .ok file)
    (absent : disk.lookup output = none) (rootPuts : disk.Puts output .directory rooted)
    (chunksPuts : rooted.Puts (output ++ ["chunks"]) .directory base) :
    ReadyToPack file input output base := by
  have belowAbsent : ∀ suffix, suffix ≠ [] → suffix ≠ ["chunks"] →
      base.lookup (output ++ suffix) = none := by
    intro suffix below notChunks
    rw [chunksPuts.frame _ fun same => notChunks (List.append_cancel_left same),
      rootPuts.frame _ fun same => below (List.append_right_eq_self.mp same)]
    exact disk.lookup_below_none absent
  have isFound := Disk.read_eq_ok.mp isFile
  refine ⟨?_, ?_, chunksPuts.put, fun name notChunks => ?_, fun chunkId => ?_⟩
  · have inputNeRoot : input ≠ output := by
      rintro rfl
      rw [absent] at isFound
      cases isFound
    have inputNeChunks : input ≠ output ++ ["chunks"] := by
      rintro rfl
      rw [disk.lookup_below_none absent] at isFound
      cases isFound
    rw [Disk.read_eq_ok, chunksPuts.frame _ inputNeChunks, rootPuts.frame _ inputNeRoot]
    exact isFound
  · rw [chunksPuts.frame _ (root_ne_child output "chunks")]
    exact rootPuts.put
  · exact belowAbsent [name] (by simp) (by simpa using notChunks)
  · exact belowAbsent _ (by simp) (by simp)

/-- Once the output directory exists, the rest of `packGguf` succeeds exactly if
the files fit and verify. -/
private theorem fillArchive_decides (lawful : crates.Lawful)
    (lowest : 1 ≤ config.zstdLevel) (highest : config.zstdLevel ≤ 22) {disk rooted : Disk}
    (isFile : Disk.read disk input = .ok file) (fits : FitsFile file infos)
    (absent : disk.lookup output = none) (rootPuts : disk.Puts output .directory rooted)
    (id digest : String) (len : UInt64) :
    Fallible.Decides FsOp.apply
      (do
        (Fs.createDir (output ++ ["chunks"])).onError (Fs.removeDir output)
        (writeArchive crates input output config infos id digest len).onError
          (Fs.removeDirAll output)) rooted
      (FilesFit crates config file infos id digest len ∧
        ∀ group ∈ groupTensors config infos, PassesVerify crates config file infos group)
      fun result after =>
        result = ⟨packedManifest crates config file infos id digest,
          packedIndex config infos id digest len, output⟩ ∧
        Archived crates config file infos output id digest len after := by
  have chunksFree : rooted.lookup (output ++ ["chunks"]) = none := by
    rw [rootPuts.frame _ (root_ne_child output "chunks").symm]
    exact disk.lookup_below_none absent
  obtain ⟨_, base, created, chunksPuts⟩ :=
    ((Disk.decides_createDir rooted (output ++ ["chunks"])).onError (Fs.removeDir output)).succeeds
      ⟨chunksFree, parentIsDirectory_child rootPuts.put "chunks"⟩
  refine Fallible.Decides.after_ok created ?_
  have ready := readyToPack isFile absent rootPuts chunksPuts
  exact (writeArchive_decides lawful lowest highest ready fits id digest len).onError _

/-- `packGguf` of a file with an accepted header succeeds exactly if it is
packable, and then leaves the archive the file determines. -/
theorem packGguf_decides (lawful : crates.Lawful) {disk : Disk} {header : ParsedHeader}
    (isFile : Disk.read disk input = .ok file) (accepted : parseHeader file = .ok header) :
    Fallible.Decides FsOp.apply (packGguf crates input output config) disk
      (Packable crates config disk input output file header)
      fun result after =>
        result = packedResult crates config input output file header ∧
        Archived crates config file header.tensors output (modelIdOf input header)
          (crates.sha256Hex file.bytes) (Gguf.fileLen file) after := by
  have wasRead : Fallible.outcome FsOp.apply (Fs.read input) disk = (.ok file, disk) := by
    rw [Fs.outcome_read, isFile]
    rfl
  have measured : Fallible.outcome FsOp.apply (Fs.length input) disk =
      (.ok (Gguf.fileLen file), disk) := by
    change ((Disk.read disk input).map (fun content => UInt64.ofNat content.bytes.length)
      |>.mapError TriAIError.io, disk) = _
    rw [isFile]
    rfl
  refine Fallible.Decides.after_ok (Fs.outcome_pathExists output disk) ?_
  by_cases invalid : (disk.lookup output).isSome = true ∨ config.targetChunkBytes = 0 ∨
      ¬ (1 ≤ config.zstdLevel ∧ config.zstdLevel ≤ 22)
  · rw [if_pos invalid]
    refine .inr ⟨fun packable => ?_, _, disk, rfl⟩
    rcases invalid with found | noTarget | badLevel
    · rw [packable.absent] at found
      cases found
    · exact packable.target noTarget
    · exact badLevel ⟨packable.lowest, packable.highest⟩
  rw [if_neg invalid]
  refine Fallible.Decides.after_ok wasRead ?_
  rw [accepted]
  refine Fallible.Decides.after_ok (Fs.outcome_ofExcept _ disk) ?_
  by_cases empty : header.tensors = []
  · rw [if_pos empty]
    exact .inr ⟨fun packable => packable.nonempty empty, _, disk, rfl⟩
  rw [if_neg empty]
  have digested : Fallible.outcome FsOp.apply (sha256OfFile crates input) disk =
      (.ok (crates.sha256Hex file.bytes), disk) := Fallible.outcome_bind_ok wasRead
  refine Fallible.Decides.after_ok digested (Fallible.Decides.after_ok measured ?_)
  simp only [not_or, not_not, Bool.not_eq_true, Option.isSome_eq_false_iff,
    Option.isNone_iff_eq_none] at invalid
  obtain ⟨absent, target, lowest, highest⟩ := invalid
  refine ((Disk.decides_createDir disk output).bind fun _ rooted rootPuts =>
    fillArchive_decides lawful lowest highest isFile (fitsFile_of_accepted accepted) absent
      rootPuts (modelIdOf input header) (crates.sha256Hex file.bytes) (Gguf.fileLen file)).mono
    ?_ fun _ _ _ final => final
  constructor
  · rintro ⟨⟨_, parent⟩, files, verified⟩
    exact ⟨absent, target, lowest, highest, empty, parent, files, verified⟩
  · intro packable
    exact ⟨⟨absent, packable.parent⟩, packable.files, packable.verified⟩

end Packing

end TriAI.Chunk
