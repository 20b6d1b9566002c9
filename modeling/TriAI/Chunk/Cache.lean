import TriAI.Library.FileTree
import TriAI.Library.MachineInt

/-!
Contract: the chunk cache, `Cache` of `chunk/loader.rs`.

Owns: the cache with its counters, `get`, `insert` with the eviction loop, and
`clear`.

Does not own: who calls these and in which order (`Chunk.Loader`), and what the
counters satisfy (`Chunk.CacheAccounting`).

The order in which a `HashMap` is iterated is unspecified. It is a parameter of
every operation that iterates: any function that lists the same entries.
-/

set_option autoImplicit false

namespace TriAI.Chunk

open TriAI.Library.FileTree
open TriAI.Library.MachineInt

/-- `LoadedChunk`; an `Instant` is a number of ticks. -/
structure LoadedChunk where
  chunkId : String
  data : ByteVec
  verified : Bool
  lastAccessed : Nat
deriving DecidableEq

def LoadedChunk.memoryBytes (chunk : LoadedChunk) : UInt64 :=
  UInt64.ofNat chunk.data.bytes.length

@[simp] theorem LoadedChunk.toNat_memoryBytes (chunk : LoadedChunk) :
    chunk.memoryBytes.toNat = chunk.data.bytes.length := by
  have fits := chunk.data.fits
  unfold memoryBytes
  rw [UInt64.toNat_ofNat']
  omega

/-- `CacheStats`. -/
structure CacheStats where
  hits : UInt64 := 0
  misses : UInt64 := 0
  evictions : UInt64 := 0
  loadedBytes : UInt64 := 0
  cachedChunks : UInt32 := 0
deriving DecidableEq

/-- The `HashMap` from ids to chunks. -/
abbrev ChunkMap := AList fun _ : String => LoadedChunk

/-- One entry of the map. -/
abbrev CacheEntry := Sigma fun _ : String => LoadedChunk

/-- `Cache`. -/
structure Cache where
  entries : ChunkMap
  bytes : UInt64
  stats : CacheStats
  budget : UInt64

/-- An order in which a map may be iterated. -/
structure IterationOrder where
  arrange : List CacheEntry → List CacheEntry
  perm : ∀ entries, (arrange entries).Perm entries

/-- Entries in the order of the map. -/
def IterationOrder.asStored : IterationOrder := ⟨id, fun entries => List.Perm.refl entries⟩

namespace Cache

def new (budget : UInt64) : Cache :=
  { entries := ∅, bytes := 0, stats := {}, budget }

/-- `Cache::get` at the instant `now`. -/
def get (now : Nat) (cache : Cache) (id : String) : Option LoadedChunk × Cache :=
  match cache.entries.lookup id with
  | some chunk =>
      let touched := { chunk with lastAccessed := now }
      (some touched,
        { cache with
          entries := cache.entries.insert id touched
          stats := { cache.stats with hits := cache.stats.hits + 1 } })
  | none =>
      (none, { cache with stats := { cache.stats with misses := cache.stats.misses + 1 } })

/-- `min_by_key(|(_, v)| v.last_accessed)`: the first of the oldest entries. -/
def oldest (order : IterationOrder) (cache : Cache) : Option CacheEntry :=
  (order.arrange cache.entries.entries).argmin fun entry => entry.2.lastAccessed

/-- The body of the eviction loop. -/
def evict (order : IterationOrder) (cache : Cache) : Cache :=
  match cache.oldest order with
  | none => cache
  | some ⟨key, old⟩ =>
      { cache with
        entries := cache.entries.erase key
        bytes := saturatingSub cache.bytes old.memoryBytes
        stats := { cache.stats with evictions := cache.stats.evictions + 1 } }

/-- The condition of the eviction loop. -/
def mustEvict (need : UInt64) (cache : Cache) : Prop :=
  cache.budget < saturatingAdd cache.bytes need ∧ cache.entries.entries ≠ []

instance (need : UInt64) (cache : Cache) : Decidable (cache.mustEvict need) := by
  unfold mustEvict
  infer_instance

/-- The eviction loop. Every round removes an entry, so as many rounds as there
are entries are enough. -/
def evictLoop (order : IterationOrder) (need : UInt64) : Nat → Cache → Cache
  | 0, cache => cache
  | rounds + 1, cache =>
      if cache.mustEvict need then evictLoop order need rounds (cache.evict order) else cache

/-- The cache after the eviction loop of an insertion that needs `need` bytes. -/
def makeRoom (order : IterationOrder) (need : UInt64) (cache : Cache) : Cache :=
  evictLoop order need cache.entries.entries.length cache

/-- The part of an insertion that follows the eviction loop. -/
def store (cache : Cache) (chunk : LoadedChunk) : Cache :=
  let need := chunk.memoryBytes
  if need ≤ cache.budget then
    let entries := cache.entries.insert chunk.chunkId chunk
    { cache with
      bytes := cache.bytes + need
      entries
      stats :=
        { cache.stats with
          loadedBytes := cache.stats.loadedBytes + need
          cachedChunks := UInt32.ofNat entries.entries.length } }
  else cache

/-- `Cache::insert`. -/
def insert (order : IterationOrder) (cache : Cache) (chunk : LoadedChunk) : Cache :=
  (cache.makeRoom order chunk.memoryBytes).store chunk

/-- `clear_cache`. -/
def clear (cache : Cache) : Cache :=
  { cache with
    entries := ∅
    bytes := 0
    stats := { cache.stats with cachedChunks := 0 } }

end Cache

end TriAI.Chunk
