import Mathlib
import TriAI.Error
import TriAI.Library.FileTree
import TriAI.Library.MachineInt

/-!
Contract: the tensors of a model and the records of an archive (`chunk/classify.rs`,
`chunk/index.rs`), with the crates that write them.

Owns:
- `TensorCategory`, its warmup order, and `classifyTensor` with the order in which the
  source tries its rules;
- the tensor index and the chunk manifest, with the operations that build them;
- `Crates`, the functions of `zstd`, `sha2` and `serde_json` as parameters, and
  `Crates.Lawful`, the documented behaviour the archive relies on.

Does not own: what the packer and the warmup do with a category, any property of the
digest, and the savings percentage, a floating-point number for display.
-/

set_option autoImplicit false

namespace TriAI.Chunk

open TriAI.Library.FileTree
open TriAI.Library.MachineInt

/-! ## Categories -/

/-- `TensorCategory`. -/
inductive TensorCategory where
  | metadata
  | tokenizer
  | embeddings
  | output
  | norms
  | attention
  | denseFfn
  | moeRouter
  | moeExpert
  | kvRuntime
deriving DecidableEq, Repr

namespace TensorCategory

def warmupPriority : TensorCategory → UInt8
  | .metadata => 1
  | .tokenizer => 2
  | .norms => 3
  | .moeRouter => 4
  | .embeddings => 5
  | .output => 6
  | .attention => 7
  | .denseFfn => 8
  | .moeExpert => 9
  | .kvRuntime => 10

def isEager (category : TensorCategory) : Bool :=
  category = .metadata ∨ category = .tokenizer ∨ category = .norms ∨ category = .moeRouter

end TensorCategory

/-- `str::contains`. -/
def contains (part : String) (text : List Char) : Bool :=
  part.toList <:+: text

/-- Whether `str::parse::<u32>` accepts: digits, with an optional plus sign, of a
value below `2 ^ 32`. -/
def parsesAsU32 (text : List Char) : Bool :=
  let digits := match text with
    | '+' :: rest => rest
    | _ => text
  digits ≠ [] ∧ digits.all Char.isDigit ∧
    digits.foldl (fun number digit => 10 * number + (digit.toNat - '0'.toNat)) 0 < 2 ^ 32

def isMoeExpertName (name : List Char) : Bool :=
  let parts := name.splitOn '.'
  4 ≤ parts.length ∧
    (parts[parts.length - 2]?).any (fun part =>
      part ∈ ["ffn_gate".toList, "ffn_up".toList, "ffn_down".toList]) ∧
    parts.getLast?.any parsesAsU32

/-- `classify_tensor`. -/
def classifyTensor (name : String) : TensorCategory :=
  let lower := name.toList.map Char.toLower
  if "tokenizer.".toList <+: lower then .tokenizer
  else if contains "token_embd" lower ∨ contains "embed_tokens" lower then .embeddings
  else if lower = "output".toList ∨ lower = "output.weight".toList ∨ contains "lm_head" lower then
    .output
  else if contains "norm" lower ∨ ".bias".toList <:+ lower then .norms
  else if contains "ffn_gate_inp" lower ∨ contains ".router" lower then .moeRouter
  else if isMoeExpertName lower then .moeExpert
  else if ["attn_q", "attn_k", "attn_v", "attn_output"].any (contains · lower) then .attention
  else if ["ffn_gate", "ffn_up", "ffn_down"].any (contains · lower) then .denseFfn
  else .metadata

example : ["token_embd.weight", "blk.0.attn_q.weight", "blk.0.ffn_gate.5",
      "blk.0.ffn_gate_inp.weight", "output_norm.weight"].map classifyTensor =
    [.embeddings, .attention, .moeExpert, .moeRouter, .norms] := by
  decide +kernel

/-! ## The records of an archive -/

/-- `TensorEntry`. -/
structure TensorEntry where
  name : String
  category : TensorCategory
  dims : List UInt64
  dtype : UInt32
  ggufOffset : UInt64
  dataOffset : Option UInt64
  size : UInt64
  chunkId : Option String
  chunkOffset : Option UInt64
deriving DecidableEq, Repr

/-- `TensorIndex`. -/
structure TensorIndex where
  modelId : String
  ggufSha256 : String
  ggufSize : UInt64
  tensors : List TensorEntry
  totalBytes : UInt64
deriving DecidableEq, Repr

namespace TensorIndex

def new (modelId ggufSha256 : String) (ggufSize : UInt64) : TensorIndex :=
  { modelId, ggufSha256, ggufSize, tensors := [], totalBytes := 0 }

def add (index : TensorIndex) (entry : TensorEntry) : TensorIndex :=
  { index with
    totalBytes := saturatingAdd index.totalBytes entry.size
    tensors := index.tensors ++ [entry] }

def eagerTensors (index : TensorIndex) : List TensorEntry :=
  index.tensors.filter fun entry => entry.category.isEager

/-- Adding entries one by one appends them. -/
theorem tensors_foldl_add (entries : List TensorEntry) (index : TensorIndex) :
    (entries.foldl add index).tensors = index.tensors ++ entries := by
  induction entries generalizing index with
  | nil => simp
  | cons entry rest inductionHypothesis =>
      rw [List.foldl_cons, inductionHypothesis]
      simp [add]

end TensorIndex

/-- `ChunkDescriptor`. -/
structure ChunkDescriptor where
  chunkId : String
  categories : List TensorCategory
  rawSize : UInt64
  compressedSize : UInt64
  sha256 : String
  fileOffset : UInt64
  tensorNames : List String
deriving DecidableEq, Repr

/-- `ChunkManifest`. -/
structure ChunkManifest where
  modelId : String
  ggufSha256 : String
  version : UInt32
  chunks : List ChunkDescriptor
  totalRawBytes : UInt64
  totalCompressedBytes : UInt64
deriving DecidableEq, Repr

namespace ChunkManifest

def new (modelId ggufSha256 : String) : ChunkManifest :=
  { modelId, ggufSha256, version := 1, chunks := [], totalRawBytes := 0,
    totalCompressedBytes := 0 }

def addChunk (manifest : ChunkManifest) (chunk : ChunkDescriptor) : ChunkManifest :=
  { manifest with
    totalRawBytes := saturatingAdd manifest.totalRawBytes chunk.rawSize
    totalCompressedBytes := saturatingAdd manifest.totalCompressedBytes chunk.compressedSize
    chunks := manifest.chunks ++ [chunk] }

/-- Adding chunks one by one appends them. -/
theorem chunks_foldl_addChunk (chunks : List ChunkDescriptor) (manifest : ChunkManifest) :
    (chunks.foldl addChunk manifest).chunks = manifest.chunks ++ chunks := by
  induction chunks generalizing manifest with
  | nil => simp
  | cons chunk rest inductionHypothesis =>
      rw [List.foldl_cons, inductionHypothesis]
      simp [addChunk]

end ChunkManifest

/-! ## Third-party crates -/

/-- The crates `zstd`, `sha2` and `serde_json`. What is to be written may be
longer than a file can be; what was read or decoded is a buffer in memory. -/
structure Crates where
  /-- `zstd::encode_all`. -/
  zstdEncode : Int32 → ByteVec → List UInt8
  /-- `zstd::decode_all`. -/
  zstdDecode : List UInt8 → Option ByteVec
  /-- `format!("\x7b:x\x7d", Sha256::digest(bytes))`. -/
  sha256Hex : List UInt8 → String
  /-- `serde_json::to_vec_pretty` and `serde_json::from_slice`. -/
  manifestToJson : ChunkManifest → List UInt8
  manifestFromJson : List UInt8 → Option ChunkManifest
  indexToJson : TensorIndex → List UInt8
  indexFromJson : List UInt8 → Option TensorIndex

/-- Decoding undoes encoding, at the compression levels zstd has. -/
structure Crates.Lawful (crates : Crates) : Prop where
  zstd_decode_encode : ∀ (level : Int32) (raw : ByteVec), 1 ≤ level → level ≤ 22 →
    crates.zstdDecode (crates.zstdEncode level raw) = some raw
  manifest_from_to : ∀ manifest : ChunkManifest,
    crates.manifestFromJson (crates.manifestToJson manifest) = some manifest
  index_from_to : ∀ index : TensorIndex,
    crates.indexFromJson (crates.indexToJson index) = some index

/-- A decoder's failure as the engine reports it. -/
def decoded {α : Type} (error : TriAIError) : Option α → Except TriAIError α
  | some value => .ok value
  | none => .error error

@[simp] theorem decoded_some {α : Type} (error : TriAIError) (value : α) :
    decoded error (some value) = .ok value := rfl

end TriAI.Chunk
