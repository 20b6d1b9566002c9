import TriAI.Chunk.Loader

/-!
Contract: what `loadChunk` returns when the chunk is not cached.

Owns: `uncached`, the result of reading a chunk from a disk, and the theorem that
a load which misses the cache returns exactly that, at any time and whatever it
evicts.

Does not own: loads that hit the cache.
-/

set_option autoImplicit false

namespace TriAI.Chunk

open TriAI.Library.FileTree
open TriAI.Library.Interaction

/-- The world of one loader over a disk that does not change. -/
abbrev overDisk (disk : Disk) : Contract LoaderOp LoaderOp.Reply Cache :=
  answeredBy (LoaderOp.Answers fun path reply => reply = Disk.read disk path)

namespace ChunkLoader

variable (crates : Crates) (loader : ChunkLoader) (disk : Disk) (desc : ChunkDescriptor)

/-- The result of `load_primary`. -/
def primary : Except TriAIError ByteVec := do
  let packed ← (Disk.read disk (chunkPath loader.archive desc.chunkId)).mapError .io
  loader.acceptStored crates desc packed

/-- The data and the verified flag of a chunk read from disk: the primary file,
else the fallback. -/
def uncached : Except TriAIError (ByteVec × Bool) :=
  match loader.primary crates disk desc with
  | .ok data => .ok (data, loader.config.verifyOnLoad)
  | .error primaryError =>
      (loader.loadFallback crates desc primaryError).map fun data => (data, true)

variable {crates loader disk desc}

/-! ## Single calls -/

theorem wlp_readFile (path : Path) (post : Except TriAIError ByteVec → Cache → Prop)
    (cache : Cache) :
    wlp (overDisk disk) (Loading.readFile path).run post cache ↔
      post ((Disk.read disk path).mapError .io) cache := by
  constructor
  · intro ran
    exact ran.2 (Disk.read disk path) cache ⟨rfl, rfl⟩
  · intro final
    refine ⟨⟨_, cache, rfl, rfl⟩, ?_⟩
    rintro reply after ⟨rfl, rfl⟩
    exact final

/-- A lookup of an absent id only counts a miss, whatever the time is. -/
theorem wlp_lookup_absent {id : String} {cache : Cache} (absent : cache.entries.lookup id = none)
    (post : Except TriAIError (Option LoadedChunk) → Cache → Prop) :
    wlp (overDisk disk) (Loading.lookup id).run post cache ↔
      post (.ok none) (cache.get 0 id).2 := by
  have missed : ∀ now, cache.get now id = (none, (cache.get 0 id).2) := by
    intro now
    unfold Cache.get
    rw [absent]
  constructor
  · intro ran
    exact ran.2 none _ ⟨0, (missed 0).symm⟩
  · intro final
    refine ⟨⟨none, _, 0, (missed 0).symm⟩, ?_⟩
    rintro reply after ⟨now, result⟩
    rw [missed now] at result
    cases result
    exact final

theorem wlp_now (post : Except TriAIError Nat → Cache → Prop) (cache : Cache) :
    wlp (overDisk disk) Loading.now.run post cache ↔ ∀ now, post (.ok now) cache := by
  constructor
  · intro ran now
    exact ran.2 now cache rfl
  · intro final
    refine ⟨⟨(0 : Nat), cache, rfl⟩, ?_⟩
    rintro now after rfl
    exact final now

theorem wlp_insert (chunk : LoadedChunk) (post : Except TriAIError Unit → Cache → Prop)
    (cache : Cache) :
    wlp (overDisk disk) (Loading.insert chunk).run post cache ↔
      ∀ order, post (.ok ()) (cache.insert order chunk) := by
  constructor
  · intro ran order
    exact ran.2 () _ ⟨order, rfl⟩
  · intro final
    refine ⟨⟨(), _, IterationOrder.asStored, rfl⟩, ?_⟩
    rintro reply after ⟨order, rfl⟩
    exact final order

/-! ## Loading -/

/-- What follows a failed primary read. -/
private theorem wlp_fallback (primaryError : TriAIError)
    (post : Except TriAIError (ByteVec × Bool) → Cache → Prop) (cache : Cache) :
    wlp (overDisk disk)
        (do
          let data ← Loading.ofExcept (loader.loadFallback crates desc primaryError)
          pure (data, true) : Loading (ByteVec × Bool)).run post cache ↔
      post ((loader.loadFallback crates desc primaryError).map fun data => (data, true))
        cache := by
  cases loader.loadFallback crates desc primaryError <;> rfl

/-- Reading a chunk from disk has one possible result. -/
theorem wlp_loadFromDisk (post : Except TriAIError (ByteVec × Bool) → Cache → Prop)
    (cache : Cache) :
    wlp (overDisk disk) (loader.loadFromDisk crates desc).run post cache ↔
      post (loader.uncached crates disk desc) cache := by
  unfold loadFromDisk
  rw [Fallible.wlp_run_bind, Fallible.wlp_run_capture]
  unfold loadPrimary
  rw [Fallible.wlp_run_bind, wlp_readFile]
  unfold uncached primary
  cases (Disk.read disk (chunkPath loader.archive desc.chunkId)).mapError TriAIError.io with
  | error error => exact wlp_fallback error post cache
  | ok packed =>
      change wlp _ (Prog.ret (loader.acceptStored crates desc packed)) _ _ ↔ post
        (match loader.acceptStored crates desc packed with
        | .ok data => .ok (data, loader.config.verifyOnLoad)
        | .error primaryError =>
            (loader.loadFallback crates desc primaryError).map fun data => (data, true)) cache
      rw [wlp_ret]
      cases loader.acceptStored crates desc packed with
      | error error => exact wlp_fallback error post cache
      | ok data => rfl

/-- A load that misses the cache returns what `uncached` says. -/
theorem wlp_loadChunk_absent {id : String} {cache : Cache}
    (absent : cache.entries.lookup id = none)
    (listed : loader.manifest.chunks.find? (·.chunkId = id) = some desc)
    (post : Except TriAIError (ByteVec × Bool) → Prop) :
    wlp (overDisk disk) (loader.loadChunk crates id).run
        (fun reached _ => post (reached.map fun chunk => (chunk.data, chunk.verified))) cache ↔
      post (loader.uncached crates disk desc) := by
  unfold loadChunk
  rw [Fallible.wlp_run_bind, wlp_lookup_absent absent]
  simp only
  rw [listed]
  simp only
  rw [Fallible.wlp_run_bind, wlp_loadFromDisk]
  cases loader.uncached crates disk desc with
  | error error => rfl
  | ok loaded =>
      simp only [Fallible.wlp_run_bind, wlp_now, wlp_insert]
      constructor
      · exact fun final => final 0 IterationOrder.asStored
      · exact fun final _ _ => final

/-- Such a load returns data with a property exactly if the disk gives such data. -/
theorem wlp_loadChunk_data {id : String} {cache : Cache}
    (absent : cache.entries.lookup id = none)
    (listed : loader.manifest.chunks.find? (·.chunkId = id) = some desc)
    (Property : ByteVec → Prop) :
    wlp (overDisk disk) (loader.loadChunk crates id).run
        (fun reached _ => ∃ chunk, reached = .ok chunk ∧ Property chunk.data) cache ↔
      ∃ loaded, loader.uncached crates disk desc = .ok loaded ∧ Property loaded.1 := by
  rw [← wlp_loadChunk_absent absent listed fun reached =>
    ∃ loaded, reached = .ok loaded ∧ Property loaded.1]
  refine iff_of_eq (congrArg (wlp (overDisk disk) _ · cache) ?_)
  funext reached _
  cases reached with
  | error error => simp [Except.map]
  | ok chunk => simp [Except.map]

end ChunkLoader

end TriAI.Chunk
