import TriAI.Chunk.CacheAccounting

/-!
Contract: which entries an insertion into the chunk cache evicts.

Owns: the entries the eviction loop removes, in their order; that they are the oldest, and no
more than the new chunk needs; and the exact condition under which a chunk that cannot be cached
evicts nothing.

Does not own: the counters (`Chunk.CacheAccounting`). What fits is what the running total of the
cache says.
-/

set_option autoImplicit false

namespace TriAI.Chunk

open TriAI.Library.MachineInt
open TriAI.Library.WeightedMap

namespace Cache

/-- The entries that the eviction loop removes, in its order. -/
def evictions (order : IterationOrder) (need : UInt64) : Nat → Cache → List CacheEntry
  | 0, _ => []
  | rounds + 1, cache =>
      if cache.mustEvict need then
        (cache.oldest order).toList ++ evictions order need rounds (cache.evict order)
      else []

/-- The summed lengths of some entries. -/
def lengths (entries : List CacheEntry) : Nat := (entries.map CacheEntry.length).sum

/-- What a loop that removes some entries, and keeps others, has to satisfy. -/
structure OldestNeeded (budget bytes need : Nat) (evicted kept : List CacheEntry) : Prop where
  oldestFirst : evicted.Pairwise fun first second => first.2.lastAccessed ≤ second.2.lastAccessed
  oldest : ∀ old ∈ evicted, ∀ other ∈ kept, old.2.lastAccessed ≤ other.2.lastAccessed
  needed : ∀ front rest, evicted = front ++ rest → rest ≠ [] →
    budget < bytes - lengths front + need

/-- Step lemma: a round removes one of the oldest entries. -/
theorem evict_removes (order : IterationOrder) {cache : Cache}
    (nonempty : cache.entries.entries ≠ []) :
    ∃ old, cache.oldest order = some old ∧
      cache.entries.entries.Perm (old :: (cache.evict order).entries.entries) ∧
      (∀ other ∈ cache.entries.entries, old.2.lastAccessed ≤ other.2.lastAccessed) ∧
      (cache.evict order).budget = cache.budget ∧
      (cache.evict order).bytes.toNat = cache.bytes.toNat - CacheEntry.length old := by
  obtain ⟨key, old, chosen, found⟩ := oldest_spec order nonempty
  have evicted : cache.evict order =
      { cache with
        entries := cache.entries.erase key
        bytes := saturatingSub cache.bytes old.memoryBytes
        stats := { cache.stats with evictions := cache.stats.evictions + 1 } } := by
    rw [evict, chosen]
  rw [evicted]
  refine ⟨⟨key, old⟩, chosen, entries_perm_erase found, ?_, rfl, ?_⟩
  · intro other member
    have arranged := (order.perm cache.entries.entries).mem_iff.mpr member
    exact List.le_of_mem_argmin (f := fun entry : CacheEntry => entry.2.lastAccessed) arranged
      chosen
  · rw [toNat_saturatingSub, LoadedChunk.toNat_memoryBytes]
    rfl

/-- Run lemma. -/
theorem evictLoop_removes (order : IterationOrder) (need : UInt64) (rounds : Nat)
    (cache : Cache) :
    cache.entries.entries.Perm
        (evictions order need rounds cache ++ (evictLoop order need rounds cache).entries.entries) ∧
      OldestNeeded cache.budget.toNat cache.bytes.toNat need.toNat
        (evictions order need rounds cache)
        (evictLoop order need rounds cache).entries.entries := by
  induction rounds generalizing cache with
  | zero => exact ⟨List.Perm.refl _, ⟨.nil, by simp [evictions], by simp [evictions]⟩⟩
  | succ rounds inductionHypothesis =>
      unfold evictions evictLoop
      by_cases must : cache.mustEvict need
      · rw [if_pos must, if_pos must]
        obtain ⟨old, chosen, removed, oldest, budget, bytes⟩ := evict_removes order must.2
        obtain ⟨later, sound⟩ := inductionHypothesis (cache.evict order)
        rw [chosen, Option.toList_some, List.singleton_append]
        have whole := removed.trans (later.cons old)
        refine ⟨whole, ⟨?_, ?_, ?_⟩⟩
        · refine List.pairwise_cons.mpr ⟨?_, sound.oldestFirst⟩
          intro other member
          apply oldest
          rw [whole.mem_iff]
          exact List.mem_cons_of_mem old (List.mem_append_left _ member)
        · intro first member other kept
          rcases List.mem_cons.mp member with rfl | isLater
          · apply oldest
            rw [whole.mem_iff]
            exact List.mem_cons_of_mem _ (List.mem_append_right _ kept)
          · exact sound.oldest first isLater other kept
        · intro front rest parts some
          cases front with
          | nil =>
              have above := UInt64.lt_iff_toNat_lt.mp must.1
              rw [toNat_saturatingAdd] at above
              simp only [lengths, List.map_nil, List.sum_nil]
              omega
          | cons first front =>
              rw [List.cons_append, List.cons.injEq] at parts
              obtain ⟨rfl, parts⟩ := parts
              have needed := sound.needed front rest parts some
              rw [budget, bytes] at needed
              simp only [lengths, List.map_cons, List.sum_cons] at needed ⊢
              omega
      · rw [if_neg must, if_neg must]
        exact ⟨List.Perm.refl _, ⟨.nil, by simp, by simp⟩⟩

/-! ## An insertion -/

/-- The entries other than that of a chunk. -/
def others (cache : Cache) (id : String) : List CacheEntry := (cache.entries.erase id).entries

/-- An insertion evicts these entries: the oldest, no more than the chunk needs, and none for a
chunk that cannot be cached. -/
structure EvictsMinimally (order : IterationOrder) (cache : Cache) (chunk : LoadedChunk)
    (evicted : List CacheEntry) : Prop where
  split : cache.entries.entries.Perm
    (evicted ++ (cache.insert order chunk).others chunk.chunkId)
  minimal : OldestNeeded cache.budget.toNat cache.bytes.toNat chunk.data.bytes.length evicted
    ((cache.insert order chunk).others chunk.chunkId)
  oversize : cache.budget < chunk.memoryBytes → evicted = []

/-- What an insertion leaves of the others is what the loop left. -/
theorem insert_others {order : IterationOrder} {cache : Cache} {chunk : LoadedChunk}
    (absent : cache.entries.lookup chunk.chunkId = none) :
    (cache.insert order chunk).others chunk.chunkId =
      (cache.makeRoom order chunk.memoryBytes).entries.entries := by
  obtain ⟨split, _⟩ := evictLoop_removes order chunk.memoryBytes cache.entries.entries.length cache
  have missing : (cache.makeRoom order chunk.memoryBytes).entries.lookup chunk.chunkId = none := by
    rw [Option.eq_none_iff_forall_ne_some]
    intro held found
    have member := AList.mem_lookup_iff.mp (Option.mem_def.mpr found)
    have before := split.mem_iff.mpr (List.mem_append_right _ member)
    rw [← AList.mem_lookup_iff, absent] at before
    cases before
  have notMem : chunk.chunkId ∉ (cache.makeRoom order chunk.memoryBytes).entries := by
    rwa [← AList.lookup_eq_none]
  unfold insert store others
  dsimp only
  split
  · have stored := AList.entries_insert_of_notMem (b := chunk) notMem
    show List.kerase chunk.chunkId _ = _
    rw [stored]
    exact List.kerase_cons_eq rfl
  · rw [erase_of_absent missing]

/-- A chunk that cannot be cached evicts nothing from an empty cache only. -/
theorem cacheable_of_evictsMinimally {order : IterationOrder} {cache : Cache}
    {chunk : LoadedChunk} (absent : cache.entries.lookup chunk.chunkId = none)
    {evicted : List CacheEntry} (evicts : EvictsMinimally order cache chunk evicted) :
    chunk.memoryBytes ≤ cache.budget ∨ cache.entries = ∅ := by
  by_cases cacheable : chunk.memoryBytes ≤ cache.budget
  · exact .inl cacheable
  · right
    have above := UInt64.not_le.mp cacheable
    have split := evicts.split
    rw [evicts.oversize above, List.nil_append, insert_others absent] at split
    rcases makeRoom_stopped order chunk.memoryBytes cache with fits | empty
    · have larger := UInt64.lt_iff_toNat_lt.mp above
      have small := cache.budget.toNat_lt
      rw [toNat_saturatingAdd] at fits
      have word := chunk.memoryBytes.toNat_lt
      omega
    · rw [empty] at split
      exact AList.ext split.eq_nil

/-- A cache of one byte that holds a chunk of one byte. -/
def fullCache : Cache :=
  { entries := AList.singleton "held" ⟨"held", oneByte, true, 0⟩
    bytes := 1
    stats := {}
    budget := 1 }

/-- A chunk of two bytes. -/
def largeChunk : LoadedChunk := ⟨"large", ⟨[1, 2], by decide⟩, true, 1⟩

end Cache

end TriAI.Chunk
