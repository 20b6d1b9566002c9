import TriAI.Chunk.Loader
import TriAI.Library.WeightedMap

/-!
Contract: the byte and entry counters of the chunk cache under any interleaving.

Owns: `Cache.Accounted`, the bookkeeping invariant; the spec of the eviction
loop; `AdmitsInsert`, exactly when an insertion keeps the invariant; and the
system of threads that load and clear over one cache.

Does not own: the contents of the chunks.

An insertion loses the invariant in two ways: a second insertion under an id
whose entry is still there counts its bytes twice, and a chunk larger than the
whole budget empties the cache but leaves the entry counter.
-/

set_option autoImplicit false

namespace TriAI.Chunk

open TriAI.Library.FileTree
open TriAI.Library.Interaction
open TriAI.Library.MachineInt
open TriAI.Library.WeightedMap

/-- The length of a cached chunk. -/
def CacheEntry.length (entry : CacheEntry) : Nat := entry.2.data.bytes.length

namespace Cache

/-- The summed lengths of the entries present. -/
def heldBytes (cache : Cache) : Nat := total CacheEntry.length cache.entries

/-- The bookkeeping invariant. -/
structure Accounted (cache : Cache) : Prop where
  bytesExact : cache.bytes.toNat = cache.heldBytes
  withinBudget : cache.heldBytes ≤ cache.budget.toNat
  countExact : cache.stats.cachedChunks.toNat = size cache.entries

theorem new_accounted (budget : UInt64) : (Cache.new budget).Accounted where
  bytesExact := rfl
  withinBudget := Nat.zero_le _
  countExact := rfl

theorem clear_accounted (cache : Cache) : cache.clear.Accounted where
  bytesExact := rfl
  withinBudget := Nat.zero_le _
  countExact := rfl

/-- A lookup only moves the access time of the entry it finds. -/
theorem get_accounted {cache : Cache} (accounted : cache.Accounted) (now : Nat) (id : String) :
    (cache.get now id).2.Accounted := by
  unfold get
  cases found : cache.entries.lookup id with
  | none => exact ⟨accounted.bytesExact, accounted.withinBudget, accounted.countExact⟩
  | some chunk =>
      have held : total CacheEntry.length
            (cache.entries.insert id { chunk with lastAccessed := now }) = cache.heldBytes :=
        total_insert_of_lookup found rfl
      refine ⟨?_, ?_, ?_⟩
      · exact accounted.bytesExact.trans held.symm
      · exact held.trans_le accounted.withinBudget
      · exact accounted.countExact.trans (size_insert_of_lookup found).symm

/-! ## The eviction loop -/

/-- What evictions leave alone and what they keep true. -/
structure EvictedFrom (before after : Cache) : Prop where
  budget : after.budget = before.budget
  cachedChunks : after.stats.cachedChunks = before.stats.cachedChunks
  bytesExact : before.bytes.toNat = before.heldBytes → after.bytes.toNat = after.heldBytes
  held : after.heldBytes ≤ before.heldBytes
  size : size after.entries ≤ size before.entries

theorem EvictedFrom.refl (cache : Cache) : EvictedFrom cache cache :=
  ⟨rfl, rfl, id, Nat.le_refl _, Nat.le_refl _⟩

theorem EvictedFrom.trans {first second third : Cache} (left : EvictedFrom first second)
    (right : EvictedFrom second third) : EvictedFrom first third where
  budget := right.budget.trans left.budget
  cachedChunks := right.cachedChunks.trans left.cachedChunks
  bytesExact := fun exact => right.bytesExact (left.bytesExact exact)
  held := right.held.trans left.held
  size := right.size.trans left.size

/-- A cache that is not empty has an oldest entry, and it is in the map. -/
theorem oldest_spec (order : IterationOrder) {cache : Cache}
    (nonempty : cache.entries.entries ≠ []) :
    ∃ key old, cache.oldest order = some ⟨key, old⟩ ∧
      cache.entries.lookup key = some old := by
  cases chosen : cache.oldest order with
  | none =>
      have arrangedEmpty := List.argmin_eq_none.mp chosen
      have perm := order.perm cache.entries.entries
      rw [arrangedEmpty] at perm
      exact absurd perm.nil_eq.symm nonempty
  | some entry =>
      obtain ⟨key, old⟩ := entry
      have arrangedMember := List.argmin_mem chosen
      have member := (order.perm cache.entries.entries).mem_iff.mp arrangedMember
      exact ⟨key, old, rfl, AList.mem_lookup_iff.mpr member⟩

/-- Step lemma: one round removes one entry and subtracts its length. -/
theorem evict_spec (order : IterationOrder) {cache : Cache}
    (nonempty : cache.entries.entries ≠ []) :
    EvictedFrom cache (cache.evict order) ∧
      size cache.entries = size (cache.evict order).entries + 1 := by
  obtain ⟨key, old, chosen, found⟩ := oldest_spec order nonempty
  have held : cache.heldBytes =
      old.data.bytes.length + total CacheEntry.length (cache.entries.erase key) :=
    total_of_lookup found
  have shrunk := size_of_lookup found
  unfold evict
  rw [chosen]
  refine ⟨⟨rfl, rfl, ?_, ?_, ?_⟩, shrunk⟩
  · intro exact
    show (saturatingSub cache.bytes old.memoryBytes).toNat =
      total CacheEntry.length (cache.entries.erase key)
    rw [toNat_saturatingSub, LoadedChunk.toNat_memoryBytes, exact, held]
    omega
  · show total CacheEntry.length (cache.entries.erase key) ≤ cache.heldBytes
    omega
  · show size (cache.entries.erase key) ≤ size cache.entries
    omega

/-- Run lemma: with enough rounds the loop ends because its condition fails. -/
theorem evictLoop_spec (order : IterationOrder) (need : UInt64) (rounds : Nat) (cache : Cache)
    (enough : size cache.entries ≤ rounds) :
    EvictedFrom cache (evictLoop order need rounds cache) ∧
      ¬ (evictLoop order need rounds cache).mustEvict need := by
  induction rounds generalizing cache with
  | zero =>
      refine ⟨EvictedFrom.refl cache, fun must => must.2 ?_⟩
      exact List.eq_nil_of_length_eq_zero (Nat.le_zero.mp enough)
  | succ rounds inductionHypothesis =>
      unfold evictLoop
      by_cases must : cache.mustEvict need
      · rw [if_pos must]
        obtain ⟨evicted, shrunk⟩ := evict_spec order must.2
        obtain ⟨later, stopped⟩ := inductionHypothesis (cache.evict order) (by omega)
        exact ⟨evicted.trans later, stopped⟩
      · rw [if_neg must]
        exact ⟨EvictedFrom.refl cache, must⟩

theorem makeRoom_spec (order : IterationOrder) (need : UInt64) (cache : Cache) :
    EvictedFrom cache (cache.makeRoom order need) ∧
      ¬ (cache.makeRoom order need).mustEvict need :=
  evictLoop_spec order need _ cache (Nat.le_refl _)

/-- When the loop has stopped, the new chunk fits or the cache is empty. -/
theorem makeRoom_stopped (order : IterationOrder) (need : UInt64) (cache : Cache) :
    (saturatingAdd (cache.makeRoom order need).bytes need).toNat ≤ cache.budget.toNat ∨
      (cache.makeRoom order need).entries.entries = [] := by
  obtain ⟨evicted, stopped⟩ := makeRoom_spec order need cache
  by_cases empty : (cache.makeRoom order need).entries.entries = []
  · exact .inr empty
  · left
    have fits : ¬ (cache.makeRoom order need).budget <
        saturatingAdd (cache.makeRoom order need).bytes need := fun above => stopped ⟨above, empty⟩
    rw [evicted.budget] at fits
    exact UInt64.le_iff_toNat_le.mp (UInt64.not_lt.mp fits)

/-! ## Insertion -/

/-- When storing a chunk keeps the counters exact: no bytes are left under its
id, and neither the bytes nor the entries outgrow their counters. -/
structure CountsStored (room : Cache) (chunk : LoadedChunk) : Prop where
  fresh : ∀ old ∈ room.entries.lookup chunk.chunkId, old.data.bytes = []
  addressable : room.heldBytes + chunk.data.bytes.length < 2 ^ 64
  countable : size (room.entries.insert chunk.chunkId chunk) < 2 ^ 32

/-- When an insertion keeps the invariant: the chunk fits the budget, or there is
nothing it could evict in vain; and it is counted right after the evictions. -/
structure AdmitsInsert (order : IterationOrder) (cache : Cache) (chunk : LoadedChunk) :
    Prop where
  cacheable : chunk.memoryBytes ≤ cache.budget ∨ size cache.entries = 0
  counted : (cache.makeRoom order chunk.memoryBytes).CountsStored chunk

/-- The bytes held under an id and the bytes held under all others. -/
private theorem heldBytes_split (room : Cache) (id : String) :
    ∃ old : Nat, room.heldBytes = old + total CacheEntry.length (room.entries.erase id) ∧
      old < 2 ^ 63 ∧ (old = 0 ↔ ∀ stale ∈ room.entries.lookup id, stale.data.bytes = []) := by
  cases found : room.entries.lookup id with
  | none =>
      refine ⟨0, ?_, by decide, by simp⟩
      rw [erase_of_absent found, Nat.zero_add]
      rfl
  | some stale =>
      exact ⟨stale.data.bytes.length, total_of_lookup found, stale.data.fits, by simp⟩

/-- Storing in a cache with room: the invariant holds exactly if it is counted. -/
theorem store_accounted_iff {room : Cache} {chunk : LoadedChunk}
    (bytesExact : room.bytes.toNat = room.heldBytes)
    (hasRoom : (saturatingAdd room.bytes chunk.memoryBytes).toNat ≤ room.budget.toNat ∨
      room.entries.entries = [])
    (cacheable : chunk.memoryBytes ≤ room.budget) :
    (room.store chunk).Accounted ↔ room.CountsStored chunk := by
  have chunkSmall := chunk.data.fits
  have budgetSmall := room.budget.toNat_lt
  have chunkLe : chunk.data.bytes.length ≤ room.budget.toNat := by
    simpa using UInt64.le_iff_toNat_le.mp cacheable
  obtain ⟨old, roomHeld, oldSmall, oldZero⟩ := heldBytes_split room chunk.chunkId
  have stored : room.store chunk =
      { room with
        bytes := room.bytes + chunk.memoryBytes
        entries := room.entries.insert chunk.chunkId chunk
        stats :=
          { room.stats with
            loadedBytes := room.stats.loadedBytes + chunk.memoryBytes
            cachedChunks :=
              UInt32.ofNat (size (room.entries.insert chunk.chunkId chunk)) } } :=
    if_pos cacheable
  have heldAfter : (room.store chunk).heldBytes =
      chunk.data.bytes.length + total CacheEntry.length (room.entries.erase chunk.chunkId) := by
    rw [stored]
    rfl
  have bytesAfter : (room.store chunk).bytes.toNat =
      (room.heldBytes + chunk.data.bytes.length) % 2 ^ 64 := by
    rw [stored, UInt64.toNat_add, bytesExact, chunk.toNat_memoryBytes]
  have countAfter : (room.store chunk).stats.cachedChunks.toNat =
      size (room.entries.insert chunk.chunkId chunk) % 2 ^ 32 := by
    rw [stored]
    exact UInt32.toNat_ofNat'
  have budgetAfter : (room.store chunk).budget = room.budget := by rw [stored]
  have entriesAfter : (room.store chunk).entries = room.entries.insert chunk.chunkId chunk := by
    rw [stored]
  constructor
  · rintro ⟨exact, within, counted⟩
    rw [bytesAfter, heldAfter] at exact
    rw [heldAfter, budgetAfter] at within
    rw [countAfter, entriesAfter] at counted
    -- a sum that wrapped could only be right for an old entry of 2 ^ 64 bytes
    have nothingOld : old = 0 := by omega
    exact ⟨oldZero.mp nothingOld, by omega, by omega⟩
  · rintro ⟨fresh, addressable, countable⟩
    have nothingOld : old = 0 := oldZero.mpr fresh
    refine ⟨?_, ?_, ?_⟩
    · rw [bytesAfter, heldAfter]
      omega
    · rw [heldAfter, budgetAfter]
      rcases hasRoom with below | empty
      · rw [toNat_saturatingAdd, bytesExact, chunk.toNat_memoryBytes] at below
        omega
      · have nothing : room.heldBytes = 0 := total_of_entries_nil empty
        omega
    · rw [countAfter, entriesAfter]
      omega

/-- An empty cache counts any first chunk right. -/
theorem countsStored_of_empty {room : Cache} (empty : room.entries = ∅) (chunk : LoadedChunk) :
    room.CountsStored chunk where
  fresh := by
    intro old found
    rw [empty, AList.lookup_empty] at found
    cases found
  addressable := by
    have chunkSmall := chunk.data.fits
    rw [heldBytes, empty, total_empty]
    omega
  countable := by
    rw [empty, AList.insert_empty]
    exact Nat.one_lt_two_pow (by decide)

/-- One insertion keeps the invariant exactly if the cache admits it. -/
theorem insert_accounted_iff {order : IterationOrder} {cache : Cache} {chunk : LoadedChunk}
    (accounted : cache.Accounted) :
    (cache.insert order chunk).Accounted ↔ AdmitsInsert order cache chunk := by
  obtain ⟨evicted, -⟩ := makeRoom_spec order chunk.memoryBytes cache
  have roomExact := evicted.bytesExact accounted.bytesExact
  have stopped := makeRoom_stopped order chunk.memoryBytes cache
  unfold insert
  by_cases cacheable : chunk.memoryBytes ≤ cache.budget
  · have inRoom : chunk.memoryBytes ≤ (cache.makeRoom order chunk.memoryBytes).budget := by
      rwa [evicted.budget]
    rw [← evicted.budget] at stopped
    rw [store_accounted_iff roomExact stopped inRoom]
    exact ⟨fun counted => ⟨.inl cacheable, counted⟩, AdmitsInsert.counted⟩
  · -- too large: everything is evicted and nothing is stored
    have larger : cache.budget.toNat < chunk.memoryBytes.toNat :=
      UInt64.lt_iff_toNat_lt.mp (UInt64.not_le.mp cacheable)
    have chunkSmall := chunk.data.fits
    have chunkNat := chunk.toNat_memoryBytes
    have empty : (cache.makeRoom order chunk.memoryBytes).entries.entries = [] := by
      rcases stopped with below | empty
      · rw [toNat_saturatingAdd] at below
        omega
      · exact empty
    have unchanged : (cache.makeRoom order chunk.memoryBytes).store chunk =
        cache.makeRoom order chunk.memoryBytes :=
      if_neg (by rwa [evicted.budget])
    rw [unchanged]
    have noEntries := AList.ext (t := (∅ : ChunkMap)) empty
    have noBytes : (cache.makeRoom order chunk.memoryBytes).heldBytes = 0 :=
      total_of_entries_nil empty
    constructor
    · intro roomAccounted
      refine ⟨.inr ?_, countsStored_of_empty noEntries chunk⟩
      have counted := roomAccounted.countExact
      rw [evicted.cachedChunks, accounted.countExact, noEntries] at counted
      exact counted
    · intro admits
      have wasEmpty : size cache.entries = 0 := admits.cacheable.resolve_left cacheable
      refine ⟨roomExact, by omega, ?_⟩
      rw [evicted.cachedChunks, accounted.countExact, wasEmpty, noEntries]
      rfl

end Cache

/-! ## Threads -/

/-- The programs that touch the cache: `load_chunk` of any id, called directly, as
a prefetch or as one of the parallel loads of `load_eager`; `clear_cache`; and
`cache_stats`. -/
inductive CacheProgram (crates : Crates) (loader : ChunkLoader) :
    Prog LoaderOp LoaderOp.Reply Unit → Prop where
  | load (id : String) :
      CacheProgram crates loader ((loader.loadChunk crates id).run >>= fun _ => .ret ())
  | clear : CacheProgram crates loader (Loading.clear.run >>= fun _ => .ret ())
  | stats : CacheProgram crates loader (Loading.stats.run >>= fun _ => .ret ())

/-- Any number of threads over one cache. Whatever the disk answers to a read is
possible, and so is any order of their calls. -/
def cacheSystem (Thread : Type) (crates : Crates) (loader : ChunkLoader) :
    System Thread LoaderOp LoaderOp.Reply Unit Cache where
  Offers := fun _ _ program => CacheProgram crates loader program
  Step := fun _ cache op reply after => op.Answers (fun _ _ => True) cache reply after
  Environment := fun _ _ => False

/-- Before any thread has begun. -/
def idlePool (Thread : Type) (loader : ChunkLoader) :
    Pool Thread LoaderOp LoaderOp.Reply Unit Cache where
  world := Cache.new loader.config.cacheBudgetBytes
  activity := fun _ => .resting ()

/-- The steps whose insertion, if they are one, is admitted. -/
def InsertionAdmitted (cache : Cache) : (op : LoaderOp) → op.Reply → Cache → Prop
  | .insert chunk, _, after =>
      ∃ order, cache.AdmitsInsert order chunk ∧ after = cache.insert order chunk
  | _, _, _ => True

/-- Step lemma: every admitted call keeps the bookkeeping. -/
theorem answers_accounted {reads : Path → Except IoError ByteVec → Prop} {cache after : Cache}
    {op : LoaderOp} {reply : op.Reply} (accounted : cache.Accounted)
    (answered : op.Answers reads cache reply after)
    (admitted : InsertionAdmitted cache op reply after) : after.Accounted := by
  cases op with
  | readFile path =>
      obtain ⟨-, rfl⟩ := answered
      exact accounted
  | now =>
      cases answered
      exact accounted
  | lookup id =>
      obtain ⟨now, result⟩ := answered
      obtain ⟨-, rfl⟩ := Prod.mk.inj result
      exact Cache.get_accounted accounted now id
  | insert chunk =>
      obtain ⟨order, admits, rfl⟩ := admitted
      exact (Cache.insert_accounted_iff accounted).mpr admits
  | clear =>
      cases answered
      exact Cache.clear_accounted cache
  | stats =>
      obtain ⟨-, rfl⟩ := answered
      exact accounted

/-- In every run of any number of threads in which every insertion is admitted,
the counters of the cache are exact and the budget is kept. -/
theorem cacheSystem_accounted {Thread : Type} [DecidableEq Thread] (crates : Crates)
    (loader : ChunkLoader) {pool : Pool Thread LoaderOp LoaderOp.Reply Unit Cache}
    (reachable : ((cacheSystem Thread crates loader).restrict InsertionAdmitted).Reachable
      (idlePool Thread loader) pool) :
    pool.world.Accounted := by
  refine reachable.world_invariant ?_ ?_ (Cache.new_accounted _)
  · intro thread cache op reply after accounted stepped
    exact answers_accounted accounted stepped.1 stepped.2
  · intro cache after _ impossible
    exact impossible.elim

/-- An archive of one chunk that holds the single byte 1, stored as it is. -/
def oneByteLoader : ChunkLoader where
  archive := ["archive"]
  manifest := (ChunkManifest.new "m" "d").addChunk
    { chunkId := "chunk_0000", categories := [.attention], rawSize := 1, compressedSize := 1,
      sha256 := "4bf5122f344554c53bde2ebb8cd2b7e3d1600ad631c385a5d7cce23c7785459a",
      fileOffset := 0, tensorNames := ["blk.0.attn_q.weight"] }
  index := TensorIndex.new "m" "d" 0
  config := { verifyOnLoad := false }
  fallback := none

/-- Crates for runs that never call them. -/
def idleCrates : Crates where
  zstdEncode := fun _ raw => raw.bytes
  zstdDecode := fun _ => none
  sha256Hex := fun _ => ""
  manifestToJson := fun _ => []
  manifestFromJson := fun _ => none
  indexToJson := fun _ => []
  indexFromJson := fun _ => none

def oneByte : ByteVec := ⟨[1], by simp⟩

/-- The archive of `oneByteLoader` with a second chunk that holds the same byte. -/
def twoByteLoader : ChunkLoader :=
  { oneByteLoader with
    manifest := oneByteLoader.manifest.addChunk
      { chunkId := "chunk_0001", categories := [.attention], rawSize := 1, compressedSize := 1,
        sha256 := "4bf5122f344554c53bde2ebb8cd2b7e3d1600ad631c385a5d7cce23c7785459a",
        fileOffset := 1, tensorNames := ["blk.1.attn_q.weight"] } }

/-- Two threads load a chunk each, and one of them the other's again, from the cache. -/
theorem cacheSystem_accounted_twoLoads :
    ∃ pool : Pool Bool LoaderOp LoaderOp.Reply Unit Cache,
      pool.world.Accounted ∧ pool.world.bytes = 2 ∧ pool.world.stats.hits = 1 := by
  have idle : ((cacheSystem Bool idleCrates twoByteLoader).restrict InsertionAdmitted).Reachable
    (idlePool Bool twoByteLoader) (idlePool Bool twoByteLoader) := .refl
  have firstBegun := idle.begin true _ rfl (.load "chunk_0000")
  have bothBegun := firstBegun.begin false _ rfl (.load "chunk_0001")
  have firstMissed := bothBegun.call true rfl none _ ⟨⟨0, rfl⟩, trivial⟩
  have bothMissed := firstMissed.call false rfl none _ ⟨⟨0, rfl⟩, trivial⟩
  have firstRead := bothMissed.call true rfl (.ok oneByte) _ ⟨⟨trivial, rfl⟩, trivial⟩
  have bothRead := firstRead.call false rfl (.ok oneByte) _ ⟨⟨trivial, rfl⟩, trivial⟩
  have firstTimed := bothRead.call true rfl (0 : Nat) _ ⟨rfl, trivial⟩
  have bothTimed := firstTimed.call false rfl (0 : Nat) _ ⟨rfl, trivial⟩
  have firstInserted := bothTimed.call true rfl () _
    ⟨⟨.asStored, rfl⟩, .asStored,
      ⟨.inl (by decide), Cache.countsStored_of_empty rfl _⟩, rfl⟩
  have bothInserted := firstInserted.call false rfl () _
    ⟨⟨.asStored, rfl⟩, .asStored,
      ⟨.inl (by decide), ⟨by decide, by decide, by decide⟩⟩, rfl⟩
  have finished := bothInserted.finish true rfl
  have begunAgain := finished.begin true _ rfl (.load "chunk_0001")
  have hit := begunAgain.call true rfl _ _ ⟨⟨1, Prod.mk.eta⟩, trivial⟩
  exact ⟨_, cacheSystem_accounted idleCrates twoByteLoader hit, by rfl, by rfl⟩

/-- Two threads miss the same chunk, both read it and both insert it: the cache
holds one byte and counts two. -/
theorem cacheSystem_not_accounted_doubleLoad :
    ∃ pool, (cacheSystem Bool idleCrates oneByteLoader).Reachable
        (idlePool Bool oneByteLoader) pool ∧
      pool.world.bytes = 2 ∧ pool.world.heldBytes = 1 ∧ ¬ pool.world.Accounted := by
  have idle : (cacheSystem Bool idleCrates oneByteLoader).Reachable
    (idlePool Bool oneByteLoader) (idlePool Bool oneByteLoader) := .refl
  have firstBegun := idle.begin true _ rfl (.load "chunk_0000")
  have bothBegun := firstBegun.begin false _ rfl (.load "chunk_0000")
  have firstMissed := bothBegun.call true rfl none _ ⟨0, rfl⟩
  have bothMissed := firstMissed.call false rfl none _ ⟨0, rfl⟩
  have firstRead := bothMissed.call true rfl (.ok oneByte) _ ⟨trivial, rfl⟩
  have bothRead := firstRead.call false rfl (.ok oneByte) _ ⟨trivial, rfl⟩
  have firstTimed := bothRead.call true rfl (0 : Nat) _ rfl
  have bothTimed := firstTimed.call false rfl (0 : Nat) _ rfl
  have firstInserted := bothTimed.call true rfl () _ ⟨.asStored, rfl⟩
  have bothInserted := firstInserted.call false rfl () _ ⟨.asStored, rfl⟩
  refine ⟨_, bothInserted, by rfl, by rfl, fun accounted => ?_⟩
  exact absurd accounted.bytesExact (by decide)

end TriAI.Chunk
