import TriAI.Library.MachineInt
import TriAI.Library.Tiling

/-!
Contract: the chunk plans of `storage.rs`.

Owns: `planChunks`, which sizes have a plan, and that the chunks of a plan tile the source
exactly.

Does not own: the content of the chunks; a plan is made before anything is read.
-/

set_option autoImplicit false

namespace TriAI.Storage

open TriAI.Library.MachineInt
open TriAI.Library.Tiling

def defaultChunkBytes : UInt64 := 64 * 1024 * 1024

inductive CompressionPlan where
  | originalGguf
  | zstdPerChunk (level : UInt8)
deriving DecidableEq

structure ChunkDescriptor where
  index : UInt32
  offset : UInt64
  length : UInt64
  sourceSha256 : String
deriving DecidableEq

structure StoragePlan where
  schemaVersion : UInt32
  sourceSizeBytes : UInt64
  chunkBytes : UInt64
  compression : CompressionPlan
  chunks : List ChunkDescriptor
  originalPathRemainsActive : Bool
deriving DecidableEq

/-- One round of the loop of `plan_chunks`. -/
def planChunk (sourceSizeBytes chunkBytes index : UInt64) : ChunkDescriptor :=
  let offset := index * chunkBytes
  { index := index.toUInt32
    offset := offset
    length := min (sourceSizeBytes - offset) chunkBytes
    sourceSha256 := "" }

def planChunks (sourceSizeBytes chunkBytes : UInt64) (compression : CompressionPlan) :
    Except String StoragePlan :=
  if sourceSizeBytes = 0 then
    .error "source_size_bytes darf nicht null sein"
  else if chunkBytes = 0 then
    .error "chunk_bytes darf nicht null sein"
  else
    let count := divCeil sourceSizeBytes chunkBytes
    if 4294967295 < count then
      .error "zu viele Chunks"
    else
      .ok {
        schemaVersion := 1
        sourceSizeBytes := sourceSizeBytes
        chunkBytes := chunkBytes
        compression := compression
        chunks := (List.range count.toNat).map fun index =>
          planChunk sourceSizeBytes chunkBytes (UInt64.ofNat index)
        originalPathRemainsActive := true }

/-! ## Sizes with a plan -/

section Plans

variable {sourceSizeBytes chunkBytes : UInt64} {compression : CompressionPlan}
  {plan : StoragePlan}

/-- Neither size is 0, and the indices of the chunks are words of 32 bits. -/
structure Plannable (sourceSizeBytes chunkBytes : UInt64) : Prop where
  source : 0 < sourceSizeBytes.toNat
  chunk : 0 < chunkBytes.toNat
  few : chunkCount sourceSizeBytes.toNat chunkBytes.toNat < 2 ^ 32

theorem planChunks_ok (planned : planChunks sourceSizeBytes chunkBytes compression = .ok plan) :
    Plannable sourceSizeBytes chunkBytes ∧
      plan.chunks = (List.range (chunkCount sourceSizeBytes.toNat chunkBytes.toNat)).map
        fun index => planChunk sourceSizeBytes chunkBytes (UInt64.ofNat index) := by
  simp only [planChunks] at planned
  split_ifs at planned with noSource noChunk tooMany
  have chunk := toNat_pos_word noChunk
  have count := toNat_divCeil sourceSizeBytes chunkBytes chunk
  rw [UInt64.not_lt, UInt64.le_iff_toNat_le, count] at tooMany
  cases planned
  refine ⟨⟨toNat_pos_word noSource, chunk, Nat.lt_succ_of_le tooMany⟩, ?_⟩
  rw [count]
  rfl

/-- These sizes have a plan, and by `planChunks_ok` only these. -/
theorem planChunks_of_plannable (plannable : Plannable sourceSizeBytes chunkBytes)
    (compression : CompressionPlan) :
    ∃ plan, planChunks sourceSizeBytes chunkBytes compression = .ok plan := by
  have source : sourceSizeBytes ≠ 0 := fun zero => by simpa [zero] using plannable.source
  have chunk : chunkBytes ≠ 0 := fun zero => by simpa [zero] using plannable.chunk
  have few : ¬ 4294967295 < divCeil sourceSizeBytes chunkBytes := by
    rw [UInt64.not_lt, UInt64.le_iff_toNat_le, toNat_divCeil _ _ plannable.chunk]
    exact Nat.le_of_lt_succ plannable.few
  unfold planChunks
  rw [if_neg source, if_neg chunk]
  exact ⟨_, if_neg few⟩

end Plans

/-! ## Tiling -/

section Tiling

/-- The bytes of a chunk. -/
def ChunkDescriptor.span (chunk : ChunkDescriptor) : Span :=
  ⟨chunk.offset.toNat, chunk.length.toNat⟩

/-- A chunk at its position: its index, its offset and its length are the exact results, its
length is not 0 and no more than that of a chunk, and it ends within the source. -/
structure ChunkFits (sourceSizeBytes chunkBytes : UInt64) (position : Nat)
    (chunk : ChunkDescriptor) : Prop where
  index : chunk.index.toNat = position
  offset : chunk.offset.toNat = position * chunkBytes.toNat
  length : chunk.length.toNat =
    min (sourceSizeBytes.toNat - position * chunkBytes.toNat) chunkBytes.toNat
  nonEmpty : 0 < chunk.length.toNat
  atMost : chunk.length.toNat ≤ chunkBytes.toNat
  inside : chunk.offset.toNat + chunk.length.toNat ≤ sourceSizeBytes.toNat

variable {sourceSizeBytes chunkBytes : UInt64} {position : Nat}

/-- No operation of a round of the loop overflows. -/
theorem planChunk_fits (plannable : Plannable sourceSizeBytes chunkBytes)
    (counted : position < chunkCount sourceSizeBytes.toNat chunkBytes.toNat) :
    ChunkFits sourceSizeBytes chunkBytes position
      (planChunk sourceSizeBytes chunkBytes (UInt64.ofNat position)) := by
  have few := plannable.few
  have chunk := plannable.chunk
  have starts := (lt_chunkCount_iff _ chunk position).mp counted
  have bound := sourceSizeBytes.toNat_lt
  have word : (UInt64.ofNat position).toNat = position := by
    rw [UInt64.toNat_ofNat']
    omega
  have offset : (UInt64.ofNat position * chunkBytes).toNat = position * chunkBytes.toNat := by
    rw [UInt64.toNat_mul, word, Nat.mod_eq_of_lt (starts.trans bound)]
  have length : (planChunk sourceSizeBytes chunkBytes (UInt64.ofNat position)).length.toNat =
      min (sourceSizeBytes.toNat - position * chunkBytes.toNat) chunkBytes.toNat := by
    show (min (sourceSizeBytes - UInt64.ofNat position * chunkBytes) chunkBytes).toNat = _
    rw [toNat_min_word, toNat_sub_of_le (by rw [offset]; exact starts.le), offset]
  refine ⟨?_, offset, length, ?_, ?_, ?_⟩
  · show (UInt64.ofNat position).toUInt32.toNat = position
    rw [UInt64.toNat_toUInt32, word]
    omega
  · rw [length]
    omega
  · rw [length]
    omega
  · show (UInt64.ofNat position * chunkBytes).toNat + _ ≤ _
    rw [offset, length]
    omega

/-- The chunks of a plan, in order, cover the source and nothing else, each as its position
asks. -/
structure TilesModel (sourceSizeBytes chunkBytes : UInt64) (plan : StoragePlan) : Prop where
  tiles : Tiles 0 sourceSizeBytes.toNat (plan.chunks.map ChunkDescriptor.span)
  fits : ∀ position chunk, plan.chunks[position]? = some chunk →
    ChunkFits sourceSizeBytes chunkBytes position chunk

/-- Where a plan is returned, its chunks tile the model. -/
theorem planChunks_tilesModel (sourceSizeBytes chunkBytes : UInt64)
    (compression : CompressionPlan) (plan : StoragePlan)
    (planned : planChunks sourceSizeBytes chunkBytes compression = .ok plan) :
    TilesModel sourceSizeBytes chunkBytes plan := by
  have ⟨plannable, chunks⟩ := planChunks_ok planned
  constructor
  · have same : plan.chunks.map ChunkDescriptor.span =
        (List.range (chunkCount sourceSizeBytes.toNat chunkBytes.toNat)).map
          (chunkSpan sourceSizeBytes.toNat chunkBytes.toNat) := by
      rw [chunks, List.map_map]
      apply List.map_congr_left
      intro position member
      have fits := planChunk_fits plannable (List.mem_range.mp member)
      exact congrArg₂ Span.mk fits.offset fits.length
    rw [same]
    exact tiles_chunks _ plannable.chunk
  · intro position chunk found
    rw [chunks, List.getElem?_map, Option.map_eq_some_iff] at found
    have ⟨counted, inRange, isChunk⟩ := found
    have ⟨inside, same⟩ := List.getElem?_eq_some_iff.mp inRange
    rw [List.length_range] at inside
    rw [List.getElem_range] at same
    rw [← isChunk, ← same]
    exact planChunk_fits plannable inside

/-- Ten bytes in chunks of four. -/
theorem planChunks_tilesModel_ten :
    ∃ plan, planChunks 10 4 .originalGguf = .ok plan ∧
      plan.chunks = [⟨0, 0, 4, ""⟩, ⟨1, 4, 4, ""⟩, ⟨2, 8, 2, ""⟩] ∧ TilesModel 10 4 plan :=
  ⟨_, rfl, by decide +kernel, planChunks_tilesModel 10 4 .originalGguf _ rfl⟩

end Tiling

end TriAI.Storage
