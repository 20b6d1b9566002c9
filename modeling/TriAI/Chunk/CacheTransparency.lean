import TriAI.Chunk.CacheAccounting
import TriAI.Chunk.LoadOutcome

/-!
Contract: loads through the shared cache return what loads without a cache return.

Owns: `loadUncached`, the result of a loader without a cache; the invariant that every
cached entry is the result for its key; and the system of threads that remember what
their loads returned.

Does not own: the counters of the cache. The archive and the fallback do not change.
-/

set_option autoImplicit false

namespace TriAI.Chunk

open TriAI.Library.FileTree
open TriAI.Library.Interaction

/-- What a caller sees of a loaded chunk. -/
abbrev LoadResult := Except TriAIError (ByteVec × Bool)

/-- The data and the verified flag of a load. -/
def LoadResult.of (reached : Except TriAIError LoadedChunk) : LoadResult :=
  reached.map fun chunk => (chunk.data, chunk.verified)

namespace ChunkLoader

variable (crates : Crates) (loader : ChunkLoader) (disk : Disk)

/-- The result of a loader without a cache. -/
def loadUncached (id : String) : LoadResult :=
  match loader.manifest.chunks.find? (·.chunkId = id) with
  | none => .error (.other "unknown chunk")
  | some desc => loader.uncached crates disk desc

/-- A chunk that is the uncached result for an id. -/
def Loads (id : String) (chunk : LoadedChunk) : Prop :=
  loader.loadUncached crates disk id = .ok (chunk.data, chunk.verified)

/-- Every cached entry is the uncached result for its key. -/
def CachesLoads (cache : Cache) : Prop :=
  ∀ id chunk, cache.entries.lookup id = some chunk → loader.Loads crates disk id chunk

variable {crates loader disk}

/-! ## The cache -/

theorem cachesLoads_of_empty {cache : Cache} (empty : cache.entries = ∅) :
    loader.CachesLoads crates disk cache := by
  intro id chunk found
  rw [empty, AList.lookup_empty] at found
  cases found

/-- A lookup finds the uncached result, and keeps the others. -/
theorem CachesLoads.get {cache : Cache} (caches : loader.CachesLoads crates disk cache)
    (now : Nat) (id : String) :
    (∀ chunk, (cache.get now id).1 = some chunk → loader.Loads crates disk id chunk) ∧
      loader.CachesLoads crates disk (cache.get now id).2 := by
  unfold Cache.get
  cases found : cache.entries.lookup id with
  | none =>
      constructor
      · intro chunk isSome
        cases isSome
      · exact caches
  | some chunk =>
      have touched : loader.Loads crates disk id { chunk with lastAccessed := now } :=
        caches id chunk found
      constructor
      · intro other isSome
        rw [← Option.some.inj isSome]
        exact touched
      · intro other held isHeld
        by_cases same : other = id
        · subst same
          rw [AList.lookup_insert] at isHeld
          rw [← Option.some.inj isHeld]
          exact touched
        · rw [AList.lookup_insert_ne same] at isHeld
          exact caches other held isHeld

/-- A round of the eviction loop removes an entry. -/
private theorem CachesLoads.evict {cache : Cache} (caches : loader.CachesLoads crates disk cache)
    (order : IterationOrder) : loader.CachesLoads crates disk (cache.evict order) := by
  unfold Cache.evict
  split
  · exact caches
  · rename_i key old _
    intro id chunk found
    by_cases same : id = key
    · subst same
      simp at found
    · apply caches id chunk
      rwa [← AList.lookup_erase_ne same]

private theorem CachesLoads.evictLoop {cache : Cache}
    (caches : loader.CachesLoads crates disk cache) (order : IterationOrder) (need : UInt64)
    (rounds : Nat) : loader.CachesLoads crates disk (Cache.evictLoop order need rounds cache) := by
  induction rounds generalizing cache with
  | zero => exact caches
  | succ rounds inductionHypothesis =>
      unfold Cache.evictLoop
      split
      · exact inductionHypothesis (caches.evict order)
      · exact caches

/-- Inserting an uncached result keeps the invariant, whatever is evicted. -/
theorem CachesLoads.insert {cache : Cache} (caches : loader.CachesLoads crates disk cache)
    (order : IterationOrder) {chunk : LoadedChunk}
    (loads : loader.Loads crates disk chunk.chunkId chunk) :
    loader.CachesLoads crates disk (cache.insert order chunk) := by
  have room : loader.CachesLoads crates disk (cache.makeRoom order chunk.memoryBytes) :=
    caches.evictLoop order chunk.memoryBytes _
  unfold Cache.insert Cache.store
  dsimp only
  split
  · intro id held isHeld
    by_cases same : id = chunk.chunkId
    · subst same
      rw [AList.lookup_insert] at isHeld
      rw [← Option.some.inj isHeld]
      exact loads
    · rw [AList.lookup_insert_ne same] at isHeld
      exact room id held isHeld
  · exact room

/-! ## One thread -/

variable (crates loader disk)

/-- What a thread relies on and keeps: reads are answered by the disk, a lookup finds an
uncached result, and only such results are inserted. -/
def loads : Contract LoaderOp LoaderOp.Reply Unit where
  Admits := fun _ op =>
    match op with
    | .insert chunk => loader.Loads crates disk chunk.chunkId chunk
    | _ => True
  Answers := fun _ op reply _ =>
    match op, reply with
    | .readFile path, reply => reply = Disk.read disk path
    | .lookup id, reply => ∀ chunk, reply = some chunk → loader.Loads crates disk id chunk
    | _, _ => True

variable {crates loader disk}

/-- A read gives what is on disk. -/
private theorem loads_readFile {path : Path} {post : Except TriAIError ByteVec → Unit → Prop}
    (final : post ((Disk.read disk path).mapError .io) ()) :
    wlp (loads crates loader disk) (Loading.readFile path).run post () := by
  refine ⟨trivial, fun reply after answered => ?_⟩
  obtain rfl : reply = Disk.read disk path := answered
  exact final

/-- What follows a failed primary read. -/
private theorem loads_fallback {desc : ChunkDescriptor} {primaryError : TriAIError}
    {post : LoadResult → Unit → Prop}
    (final : post ((loader.loadFallback crates desc primaryError).map fun data => (data, true))
      ()) :
    wlp (loads crates loader disk)
      (do
        let data ← Loading.ofExcept (loader.loadFallback crates desc primaryError)
        pure (data, true) : Loading (ByteVec × Bool)).run post () := by
  cases rebuilt : loader.loadFallback crates desc primaryError with
  | error error =>
      rw [rebuilt] at final
      exact final
  | ok data =>
      rw [rebuilt] at final
      exact final

/-- Reading a chunk from disk gives the uncached result. -/
private theorem loads_loadFromDisk {desc : ChunkDescriptor} {post : LoadResult → Unit → Prop}
    (final : post (loader.uncached crates disk desc) ()) :
    wlp (loads crates loader disk) (loader.loadFromDisk crates desc).run post () := by
  unfold loadFromDisk
  rw [Fallible.wlp_run_bind, Fallible.wlp_run_capture]
  unfold loadPrimary
  rw [Fallible.wlp_run_bind]
  apply loads_readFile
  unfold uncached at final
  cases read : (Disk.read disk (chunkPath loader.archive desc.chunkId)).mapError
      TriAIError.io with
  | error error =>
      have failed : loader.primary crates disk desc = .error error := by
        unfold primary
        rw [read]
        rfl
      rw [failed] at final
      exact loads_fallback final
  | ok packed =>
      have stored : loader.primary crates disk desc = loader.acceptStored crates desc packed := by
        unfold primary
        rw [read]
        rfl
      rw [stored] at final
      show wlp _ (Prog.ret (loader.acceptStored crates desc packed)) _ _
      rw [wlp_ret]
      cases accepted : loader.acceptStored crates desc packed with
      | error error =>
          rw [accepted] at final
          exact loads_fallback final
      | ok data =>
          rw [accepted] at final
          exact final

/-- A load returns the uncached result, from the cache or from disk. -/
theorem loads_loadChunk (id : String) :
    wlp (loads crates loader disk) (loader.loadChunk crates id).run
      (fun reached _ => LoadResult.of reached = loader.loadUncached crates disk id) () := by
  unfold loadChunk
  rw [Fallible.wlp_run_bind]
  refine ⟨trivial, fun reply _ found => ?_⟩
  cases reply with
  | some chunk => exact (found chunk rfl).symm
  | none =>
      cases listed : loader.manifest.chunks.find? (·.chunkId = id) with
      | none =>
          show LoadResult.of (.error (.other "unknown chunk")) = _
          rw [loadUncached, listed]
          rfl
      | some desc =>
          have isUncached : loader.loadUncached crates disk id =
              loader.uncached crates disk desc := by
            rw [loadUncached, listed]
          simp only [Prog.bind, Function.comp_apply, wlp_ret]
          rw [Fallible.wlp_run_bind]
          apply loads_loadFromDisk
          rw [isUncached]
          cases loaded : loader.uncached crates disk desc with
          | error error => rfl
          | ok result =>
              refine ⟨trivial, fun now _ _ => ⟨?_, fun _ _ _ => rfl⟩⟩
              show loader.loadUncached crates disk id = .ok (result.1, result.2)
              rw [isUncached, loaded]

end ChunkLoader

/-! ## Threads -/

/-- The id and the result of every load of a thread, the latest first. -/
abbrev LoadLog := List (String × LoadResult)

/-- The programs of `CacheProgram`, which remember what a load returned. -/
inductive LoggedProgram (crates : Crates) (loader : ChunkLoader) (log : LoadLog) :
    Prog LoaderOp LoaderOp.Reply LoadLog → Prop where
  | load (id : String) :
      LoggedProgram crates loader log ((loader.loadChunk crates id).run >>= fun reached =>
        .ret ((id, LoadResult.of reached) :: log))
  | clear : LoggedProgram crates loader log (Loading.clear.run >>= fun _ => .ret log)
  | stats : LoggedProgram crates loader log (Loading.stats.run >>= fun _ => .ret log)

/-- Any number of threads over one cache and a disk that does not change. -/
def loadSystem (Thread : Type) (crates : Crates) (loader : ChunkLoader) (disk : Disk) :
    System Thread LoaderOp LoaderOp.Reply LoadLog Cache where
  Offers := fun _ log program => LoggedProgram crates loader log program
  Step := fun _ cache op reply after =>
    op.Answers (fun path reply => reply = Disk.read disk path) cache reply after
  Environment := fun _ _ => False

/-- Before any thread has begun. -/
def freshPool (Thread : Type) (loader : ChunkLoader) :
    Pool Thread LoaderOp LoaderOp.Reply LoadLog Cache where
  world := Cache.new loader.config.cacheBudgetBytes
  activity := fun _ => .resting []

section Transparency

variable {Thread : Type} [DecidableEq Thread] (crates : Crates) (loader : ChunkLoader)
  (disk : Disk)

/-- The results a thread remembers are uncached results. -/
def Transparent (log : LoadLog) : Prop :=
  ∀ entry ∈ log, entry.2 = loader.loadUncached crates disk entry.1

/-- Step lemma: a call the contract admits keeps the cache, and is answered as the contract
says. -/
private theorem answers_cachesLoads {cache after : Cache} {op : LoaderOp} {reply : op.Reply}
    (caches : loader.CachesLoads crates disk cache)
    (admitted : (loader.loads crates disk).Admits () op)
    (answered : op.Answers (fun path reply => reply = Disk.read disk path) cache reply after) :
    (loader.loads crates disk).Answers () op reply () ∧ loader.CachesLoads crates disk after := by
  cases op with
  | readFile path =>
      obtain ⟨read, rfl⟩ := answered
      exact ⟨read, caches⟩
  | now =>
      cases answered
      exact ⟨trivial, caches⟩
  | lookup id =>
      obtain ⟨now, result⟩ := answered
      obtain ⟨found, kept⟩ := caches.get now id
      obtain ⟨rfl, rfl⟩ := Prod.mk.inj result
      exact ⟨found, kept⟩
  | insert chunk =>
      obtain ⟨order, rfl⟩ := answered
      exact ⟨trivial, caches.insert order admitted⟩
  | clear =>
      cases answered
      exact ⟨trivial, ChunkLoader.cachesLoads_of_empty rfl⟩
  | stats =>
      obtain ⟨-, rfl⟩ := answered
      exact ⟨trivial, caches⟩

theorem loadSystem_respects :
    (loadSystem Thread crates loader disk).Respects (loader.loads crates disk)
      (fun log _ => Transparent crates loader disk log)
      (fun cache _ => loader.CachesLoads crates disk cache) where
  offered := by
    intro thread log program view transparent offered
    cases offered with
    | load id =>
        apply wlp_seq (ChunkLoader.loads_loadChunk id)
        intro reached _ same entry member
        rcases List.mem_cons.mp member with rfl | earlier
        · exact same
        · exact transparent entry earlier
    | clear => exact ⟨trivial, fun _ _ _ => transparent⟩
    | stats => exact ⟨trivial, fun _ _ _ => transparent⟩
  step := by
    intro thread cache views op reply after caches admitted stepped
    obtain ⟨answered, kept⟩ := answers_cachesLoads crates loader disk caches admitted stepped
    exact ⟨(), answered, kept⟩
  environment := fun _ _ _ _ impossible => impossible.elim

/-- In every run of any number of threads every finished load returned the uncached result,
and a load that is about to return will. -/
theorem loadSystem_transparent {pool : Pool Thread LoaderOp LoaderOp.Reply LoadLog Cache}
    (reachable : (loadSystem Thread crates loader disk).Reachable (freshPool Thread loader)
      pool) :
    ∀ thread log, (pool.activity thread = .resting log ∨
        pool.activity thread = .running (.ret log)) →
      ∀ entry ∈ log, entry.2 = loader.loadUncached crates disk entry.1 := by
  have initially : (freshPool Thread loader).Safe (loader.loads crates disk)
      (fun log _ => Transparent crates loader disk log)
      (fun cache _ => loader.CachesLoads crates disk cache) := by
    refine ⟨fun _ => (), ChunkLoader.cachesLoads_of_empty rfl, fun _ => ?_⟩
    intro entry member
    cases member
  obtain ⟨views, -, meets⟩ := reachable.safe (loadSystem_respects crates loader disk) initially
  intro thread log returned
  have owed := meets thread
  rcases returned with resting | running
  · rw [resting] at owed
    exact owed
  · rw [running] at owed
    exact owed

end Transparency

/-- The archive of `oneByteLoader`. -/
def oneByteDisk : Disk :=
  let archive := (Disk.createDir DirTree.root ["archive"]).2
  let chunks := (archive.createDir ["archive", "chunks"]).2
  (chunks.putFile ["archive", "chunks", "chunk_0000.zst"] oneByte).2

/-- Two threads miss the chunk and both store it, and one of them loads it again, from the
cache. -/
theorem loadSystem_transparent_twoThreads :
    ∃ (pool : Pool Bool LoaderOp LoaderOp.Reply LoadLog Cache) (log : LoadLog),
      (loadSystem Bool idleCrates oneByteLoader oneByteDisk).Reachable
          (freshPool Bool oneByteLoader) pool ∧
        pool.activity true = .running (.ret log) ∧ log.length = 2 ∧
        pool.world.stats.hits = 1 ∧ pool.world.bytes = 2 ∧
        ∀ entry ∈ log, entry.2 = oneByteLoader.loadUncached idleCrates oneByteDisk entry.1 := by
  have read : .ok oneByte = Disk.read oneByteDisk (chunkPath ["archive"] "chunk_0000") := by
    rfl
  have idle : (loadSystem Bool idleCrates oneByteLoader oneByteDisk).Reachable
    (freshPool Bool oneByteLoader) (freshPool Bool oneByteLoader) := .refl
  have firstBegun := idle.begin true _ rfl (.load "chunk_0000")
  have bothBegun := firstBegun.begin false _ rfl (.load "chunk_0000")
  have firstMissed := bothBegun.call true rfl none _ ⟨0, rfl⟩
  have bothMissed := firstMissed.call false rfl none _ ⟨0, rfl⟩
  have firstRead := bothMissed.call true rfl (.ok oneByte) _ ⟨read, rfl⟩
  have bothRead := firstRead.call false rfl (.ok oneByte) _ ⟨read, rfl⟩
  have firstTimed := bothRead.call true rfl (0 : Nat) _ rfl
  have bothTimed := firstTimed.call false rfl (0 : Nat) _ rfl
  have firstInserted := bothTimed.call true rfl () _ ⟨.asStored, rfl⟩
  have bothInserted := firstInserted.call false rfl () _ ⟨.asStored, rfl⟩
  have finished := bothInserted.finish true rfl
  have begunAgain := finished.begin true _ rfl (.load "chunk_0000")
  have hit := begunAgain.call true rfl _ _ ⟨1, Prod.mk.eta⟩
  exact ⟨_, _, hit, rfl, rfl, by rfl, by rfl,
    loadSystem_transparent idleCrates oneByteLoader oneByteDisk hit true _ (.inr rfl)⟩

end TriAI.Chunk
