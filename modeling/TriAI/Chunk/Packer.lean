import TriAI.Chunk.Index
import TriAI.Chunk.Gguf
import TriAI.FileSystem

/-!
Contract: packing a GGUF file into an archive, `chunk/packer.rs`.

Owns: `packGguf` and `verifyArchive` as programs over the file calls, with the
grouping loop, the loop over the chunks and the cleanup of a failed run.

Does not own: what an archive satisfies (`Chunk.PackedArchive`) and the savings
percentage.
-/

set_option autoImplicit false

namespace TriAI.Chunk

open TriAI.Library.FileTree
open TriAI.Library.Interaction
open TriAI.Library.MachineInt
open TriAI.Chunk.Gguf (GgufTensorInfo ParsedHeader parseHeader)

/-- `COMPRESSIBLE_CATEGORIES`. -/
def compressibleCategories : List TensorCategory :=
  [.embeddings, .output, .norms, .tokenizer, .metadata]

def shouldCompress (category : TensorCategory) : Bool :=
  category ∈ compressibleCategories

/-- `PackerConfig`. -/
structure PackerConfig where
  targetChunkBytes : UInt64 := 64 * 1024 * 1024
  zstdLevel : Int32 := 3
  separateCategories : List TensorCategory := [.moeExpert]
  compressOnlyCompressible : Bool := true

/-- `PackResult`. -/
structure PackResult where
  manifest : ChunkManifest
  tensorIndex : TensorIndex
  outputDir : Path

/-! ## Grouping -/

/-- The variables of the grouping loop. -/
structure Grouping (count : Nat) where
  group : List (Fin count)
  used : UInt64
  groups : List (List (Fin count))

/-- `groups.push(std::mem::take(&mut group)); used = 0`. -/
def Grouping.close {count : Nat} (state : Grouping count) : Grouping count :=
  { group := [], used := 0, groups := state.groups ++ [state.group] }

/-- One round of the grouping loop. -/
def groupTensor (config : PackerConfig) (infos : List GgufTensorInfo)
    (state : Grouping infos.length) (n : Fin infos.length) : Grouping infos.length :=
  let x := infos.get n
  let category := classifyTensor x.name
  if category = .moeExpert ∧ category ∈ config.separateCategories then
    let state := if state.group ≠ [] then state.close else state
    { state with groups := state.groups ++ [[n]] }
  else
    let state :=
      if state.group ≠ [] ∧ config.targetChunkBytes < saturatingAdd state.used x.size then
        state.close
      else state
    { state with group := state.group ++ [n], used := saturatingAdd state.used x.size }

/-- The groups of tensors that become chunks. -/
def groupTensors (config : PackerConfig) (infos : List GgufTensorInfo) :
    List (List (Fin infos.length)) :=
  let state := (List.finRange infos.length).foldl (groupTensor config infos) ⟨[], 0, []⟩
  if state.group ≠ [] then state.groups ++ [state.group] else state.groups

/-! ## Packing -/

/-- A decimal number in at least four digits, as the format `04` writes it. -/
def fourDigits (number : Nat) : String :=
  let digits := Nat.toDigits 10 number
  String.ofList (List.replicate (4 - digits.length) '0' ++ digits)

def chunkName (number : Nat) : String := "chunk_" ++ fourDigits number

/-- Where the bytes of a chunk are stored. -/
def chunkPath (dir : Path) (chunkId : String) : Path :=
  dir ++ ["chunks", chunkId ++ ".zst"]

/-- `extend_from_slice`. A buffer cannot grow past the largest allocation; there
the process ends, here the run does. -/
def extend (buffer : ByteVec) (bytes : List UInt8) : Except TriAIError ByteVec :=
  if fits : (buffer.bytes ++ bytes).length < 2 ^ 63 then .ok ⟨buffer.bytes ++ bytes, fits⟩
  else .error (.other "capacity overflow")

def emptyVec : ByteVec := ⟨[], ByteVec.nil_fits⟩

/-- `index.tensors[n].chunk_id` and `chunk_offset`. -/
def TensorIndex.place (index : TensorIndex) (n : Nat) (chunkId : String) (offset : UInt64) :
    TensorIndex :=
  { index with
    tensors := index.tensors.modify n fun entry =>
      { entry with chunkId := some chunkId, chunkOffset := some offset } }

/-- The variables of the loop over the tensors of one chunk. -/
structure ChunkDraft where
  raw : ByteVec
  names : List String
  categories : List TensorCategory
  index : TensorIndex

/-- One round of the loop over the tensors of one chunk. -/
def packTensor (input : Path) (infos : List GgufTensorInfo) (chunkId : String)
    (draft : ChunkDraft) (n : Fin infos.length) : Fs ChunkDraft := do
  let x := infos.get n
  let category := classifyTensor x.name
  let offset := UInt64.ofNat draft.raw.bytes.length
  let bytes ← Fs.readAt input x.dataOffset x.size
  let raw ← Fs.ofExcept (extend draft.raw bytes)
  pure
    { raw
      names := draft.names ++ [x.name]
      categories :=
        if category ∈ draft.categories then draft.categories
        else draft.categories ++ [category]
      index := draft.index.place n chunkId offset }

/-- Whether a chunk with these categories is compressed. -/
def shouldCompressChunk (config : PackerConfig) (categories : List TensorCategory) : Bool :=
  if config.compressOnlyCompressible then categories.all shouldCompress else true

/-- What is stored for a chunk. -/
def packedBytes (crates : Crates) (config : PackerConfig) (categories : List TensorCategory)
    (raw : ByteVec) : List UInt8 :=
  if shouldCompressChunk config categories then crates.zstdEncode config.zstdLevel raw
  else raw.bytes

/-- One round of the loop over the chunks. -/
def packChunk (crates : Crates) (input output : Path) (config : PackerConfig)
    (infos : List GgufTensorInfo) (state : TensorIndex × ChunkManifest)
    (numbered : List (Fin infos.length) × Nat) : Fs (TensorIndex × ChunkManifest) := do
  let (index, manifest) := state
  let (group, number) := numbered
  let chunkId := chunkName number
  let draft ← group.foldlM (packTensor input infos chunkId) ⟨emptyVec, [], [], index⟩
  let packed := packedBytes crates config draft.categories draft.raw
  Fs.write (chunkPath output chunkId) packed
  Fs.syncAll (chunkPath output chunkId)
  pure (draft.index, manifest.addChunk
    { chunkId
      categories := draft.categories
      rawSize := UInt64.ofNat draft.raw.bytes.length
      compressedSize := UInt64.ofNat packed.length
      sha256 := crates.sha256Hex draft.raw.bytes
      fileOffset := 0
      tensorNames := draft.names })

/-- The checks `verify_archive` and `load_primary` make on the stored bytes of a
chunk: equal sizes mean that the bytes were stored as they are. -/
def decodeStored (crates : Crates) (chunk : ChunkDescriptor) (stored : ByteVec) :
    Except TriAIError ByteVec :=
  if chunk.compressedSize = chunk.rawSize then .ok stored
  else decoded (.io (.other "zstd")) (crates.zstdDecode stored.bytes)

/-- Whether these bytes have the size and digest of the chunk. -/
def matchesChunk (crates : Crates) (chunk : ChunkDescriptor) (data : ByteVec) : Prop :=
  UInt64.ofNat data.bytes.length = chunk.rawSize ∧ crates.sha256Hex data.bytes = chunk.sha256

instance (crates : Crates) (chunk : ChunkDescriptor) (data : ByteVec) :
    Decidable (matchesChunk crates chunk data) := by
  unfold matchesChunk
  infer_instance

/-- One round of the loop of `verify_archive`. -/
def verifyChunk (crates : Crates) (dir : Path) (chunk : ChunkDescriptor) : Fs Unit := do
  let stored ← Fs.read (chunkPath dir chunk.chunkId)
  let raw ← Fs.ofExcept (decodeStored crates chunk stored)
  if matchesChunk crates chunk raw then pure ()
  else throw (.other "chunk integrity verification failed")

def verifyArchive (crates : Crates) (dir : Path) : Fs Bool := do
  let bytes ← Fs.read (dir ++ ["manifest.json"])
  let manifest ← Fs.ofExcept
    (decoded (.serialization "manifest") (crates.manifestFromJson bytes.bytes))
  manifest.chunks.forM (verifyChunk crates dir)
  pure true

/-- The entry of a tensor before it is placed in a chunk. -/
def unplacedEntry (x : GgufTensorInfo) : TensorEntry :=
  { name := x.name
    category := classifyTensor x.name
    dims := x.dims
    dtype := x.dtype
    ggufOffset := x.offset
    dataOffset := some x.dataOffset
    size := x.size
    chunkId := none
    chunkOffset := none }

/-- The end of the closure of `pack_gguf`: the two JSON files and the verification. -/
def finishArchive (crates : Crates) (output : Path) (state : TensorIndex × ChunkManifest) :
    Fs PackResult := do
  let (index, manifest) := state
  Fs.write (output ++ ["manifest.json"]) (crates.manifestToJson manifest)
  Fs.write (output ++ ["tensor_index.json"]) (crates.indexToJson index)
  let _ ← verifyArchive crates output
  pure { manifest, tensorIndex := index, outputDir := output }

/-- The closure of `pack_gguf` whose failure removes the output directory. -/
def writeArchive (crates : Crates) (input output : Path) (config : PackerConfig)
    (infos : List GgufTensorInfo) (id digest : String) (len : UInt64) : Fs PackResult := do
  let index := (infos.map unplacedEntry).foldl TensorIndex.add (TensorIndex.new id digest len)
  Fs.openFile input
  let state ← (groupTensors config infos).zipIdx.foldlM
    (packChunk crates input output config infos) (index, ChunkManifest.new id digest)
  finishArchive crates output state

/-- `Path::file_stem`: the last component up to its last dot, unless that dot is
its first character. -/
def fileStem (path : Path) : Option String :=
  path.getLast?.map fun name =>
    let characters := name.toList
    let reversedStem := (characters.reverse.dropWhile (· ≠ '.')).drop 1
    if reversedStem = [] then name else String.ofList reversedStem.reverse

/-- The model id: the declared name, else the file stem. -/
def modelIdOf (input : Path) (header : ParsedHeader) : String :=
  ((header.metadata.kv.lookup "general.name").or (fileStem input)).getD "unknown"

def sha256OfFile (crates : Crates) (path : Path) : Fs String := do
  let content ← Fs.read path
  pure (crates.sha256Hex content.bytes)

/-- `pack_gguf`. -/
def packGguf (crates : Crates) (input output : Path) (config : PackerConfig) :
    Fs PackResult := do
  let outputExists ← Fs.pathExists output
  if outputExists ∨ config.targetChunkBytes = 0 ∨
      ¬ (1 ≤ config.zstdLevel ∧ config.zstdLevel ≤ 22) then
    throw (.other "invalid pack destination or configuration")
  else do
    let file ← Fs.read input
    let header ← Fs.ofExcept (parseHeader file)
    if header.tensors = [] then
      throw (.other "GGUF contains no tensors")
    else do
      let digest ← sha256OfFile crates input
      let len ← Fs.length input
      Fs.createDir output
      (Fs.createDir (output ++ ["chunks"])).onError (Fs.removeDir output)
      (writeArchive crates input output config header.tensors (modelIdOf input header) digest
        len).onError (Fs.removeDirAll output)

end TriAI.Chunk
