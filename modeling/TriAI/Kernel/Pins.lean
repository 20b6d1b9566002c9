import TriAI.Kernel.Threads

/-!
Contract: pinned pages of the memory manager stay where they are.

Owns: the invariant of the pin counts and the pinned keys, what every step under the locks
does to it, and the exact steps that break it: a page that is moved or stored over between
the check of an operation and its change.

Does not own: the steps (`Kernel.Threads`).
-/

set_option autoImplicit false

namespace TriAI.Kernel

open TriAI.Library.Interaction

/-- The pinned keys are the pages of the VRAM map with a pin. -/
def PinsAgree (worker : KernelWorker) : Prop :=
  ∀ id, id ∈ worker.pinnedKeys ↔ ∃ page, worker.vramPages.lookup id = some page ∧ page.pinCount ≠ 0

/-- A page that was pinned more often than unpinned is in the VRAM map with its pins. -/
def PinsStay (world : PinWorld) : Prop :=
  ∀ id, world.unpins id < world.pins id → ∃ page, world.worker.vramPages.lookup id = some page ∧
    world.pins id ≤ world.unpins id + page.pinCount.toNat

/-- The steps that break no pin: no pinned page is moved to RAM or stored over, and no pin
count overflows. -/
def Respectful (worker : KernelWorker) : KernelOp → Prop
  | .movePage chunkId => chunkId ∉ worker.pinnedKeys
  | .storePage chunkId _ _ => chunkId ∉ worker.pinnedKeys
  | .pinChunk chunkId =>
      ∀ page, worker.vramPages.lookup chunkId = some page → page.pinCount.toNat + 1 < 2 ^ 32
  | _ => True

section Evictions

variable (worker : KernelWorker)

@[simp] theorem moveToRam_pinnedKeys (id : String) :
    (worker.moveToRam id).pinnedKeys = worker.pinnedKeys := by
  unfold KernelWorker.moveToRam
  split <;> rfl

/-- Exactly the page that is moved is gone. -/
theorem vramLookup_moveToRam (id other : String) :
    (worker.moveToRam id).vramPages.lookup other =
      if other = id then none else worker.vramPages.lookup other := by
  unfold KernelWorker.moveToRam
  split
  · rename_i missing
    split
    · rename_i same
      rw [same]
      exact missing
    · rfl
  · split
    · rename_i same
      rw [same]
      exact AList.lookup_erase ..
    · rename_i different
      exact AList.lookup_erase_ne different

/-- The loop of `evict_cold_entries`. -/
private theorem vramLookup_foldl_moveToRam (keys : List String) (worker : KernelWorker) :
    (keys.foldl KernelWorker.moveToRam worker).pinnedKeys = worker.pinnedKeys ∧
    ∀ id, (keys.foldl KernelWorker.moveToRam worker).vramPages.lookup id =
      if id ∈ keys then none else worker.vramPages.lookup id := by
  induction keys generalizing worker with
  | nil => simp
  | cons key rest inductionHypothesis =>
      obtain ⟨pinned, lookups⟩ := inductionHypothesis (worker.moveToRam key)
      refine ⟨pinned.trans (moveToRam_pinnedKeys worker key), ?_⟩
      intro id
      rw [List.foldl_cons, lookups, vramLookup_moveToRam]
      by_cases same : id = key
      · simp [same]
      · simp [same]

@[simp] theorem evictColdEntries_pinnedKeys :
    worker.evictColdEntries.pinnedKeys = worker.pinnedKeys :=
  (vramLookup_foldl_moveToRam _ worker).1

/-- A pinned page is not evicted, and no page is changed. -/
theorem lookup_evictColdEntries (id : String) :
    worker.evictColdEntries.vramPages.lookup id = worker.vramPages.lookup id ∨
      id ∉ worker.pinnedKeys ∧ worker.evictColdEntries.vramPages.lookup id = none := by
  unfold KernelWorker.evictColdEntries
  rw [(vramLookup_foldl_moveToRam _ worker).2]
  split
  · rename_i cold
    obtain ⟨entry, member, rfl⟩ := List.mem_map.mp cold
    have isCold := of_decide_eq_true (List.mem_filter.mp member).2
    exact .inr ⟨isCold.1, rfl⟩
  · exact .inl rfl

end Evictions

/-! ## Steps -/

/-- What a chunk owes: it is a pinned key if its page has a pin, and its page has the pins
that were not taken back. -/
structure ChunkSound (worker : KernelWorker) (pins unpins : Nat) (id : String) : Prop where
  agree : id ∈ worker.pinnedKeys ↔
    ∃ page, worker.vramPages.lookup id = some page ∧ page.pinCount ≠ 0
  stay : unpins < pins → ∃ page, worker.vramPages.lookup id = some page ∧
    pins ≤ unpins + page.pinCount.toNat

namespace ChunkSound

variable {worker after : KernelWorker} {pins unpins : Nat} {id : String} {page : VramPage}

/-- A step that leaves the chunk alone. -/
theorem unchanged (sound : ChunkSound worker pins unpins id)
    (samePage : after.vramPages.lookup id = worker.vramPages.lookup id)
    (sameKey : id ∈ after.pinnedKeys ↔ id ∈ worker.pinnedKeys) :
    ChunkSound after pins unpins id where
  agree := by
    rw [sameKey, samePage]
    exact sound.agree
  stay := by
    rw [samePage]
    exact sound.stay

/-- A chunk that is no pinned key has no pins left. -/
theorem no_pins (sound : ChunkSound worker pins unpins id) (notPinned : id ∉ worker.pinnedKeys) :
    pins ≤ unpins := by
  by_contra more
  obtain ⟨page, found, bound⟩ := sound.stay (by omega)
  apply notPinned
  rw [sound.agree]
  refine ⟨page, found, ?_⟩
  intro zero
  rw [zero] at bound
  simp at bound
  omega

/-- A chunk whose page has this count from now on. -/
theorem of_page (found : after.vramPages.lookup id = some page)
    (key : id ∈ after.pinnedKeys ↔ page.pinCount ≠ 0)
    (bound : unpins < pins → pins ≤ unpins + page.pinCount.toNat) :
    ChunkSound after pins unpins id where
  agree := by
    rw [key, found]
    simp
  stay := fun more => ⟨page, found, bound more⟩

/-- A chunk without a page and without pins. -/
theorem of_missing (missing : after.vramPages.lookup id = none) (key : id ∉ after.pinnedKeys)
    (none : pins ≤ unpins) : ChunkSound after pins unpins id where
  agree := by simp [missing, key]
  stay := fun more => absurd more (by omega)

end ChunkSound

/-- All chunks are sound. -/
def PinsSound (world : PinWorld) : Prop :=
  ∀ id, ChunkSound world.worker (world.pins id) (world.unpins id) id

section Steps

variable {world : PinWorld}

private theorem sound_recordAccess (sound : PinsSound world) (chunkId : String) :
    PinsSound { world with worker := world.worker.recordAccess chunkId } := by
  intro id
  show ChunkSound (world.worker.recordAccess chunkId) (world.pins id) (world.unpins id) id
  unfold KernelWorker.recordAccess
  cases found : world.worker.vramPages.lookup chunkId with
  | none => exact sound id
  | some page =>
      by_cases same : id = chunkId
      · subst same
        apply ChunkSound.of_page (AList.lookup_insert _)
        · show id ∈ world.worker.pinnedKeys ↔ page.pinCount ≠ 0
          rw [(sound id).agree, found]
          simp
        · intro more
          obtain ⟨page', found', bound⟩ := (sound id).stay more
          rw [found] at found'
          cases found'
          exact bound
      · exact (sound id).unchanged (AList.lookup_insert_ne same) Iff.rfl

private theorem sound_evictColdEntries (sound : PinsSound world) :
    PinsSound { world with worker := world.worker.evictColdEntries } := by
  intro id
  rcases lookup_evictColdEntries world.worker id with same | ⟨notPinned, gone⟩
  · exact (sound id).unchanged same (by rw [evictColdEntries_pinnedKeys])
  · exact .of_missing gone (by rw [evictColdEntries_pinnedKeys]; exact notPinned)
      ((sound id).no_pins notPinned)

private theorem sound_storePage (sound : PinsSound world) {chunkId : String}
    (notPinned : chunkId ∉ world.worker.pinnedKeys) (tensorName : String) (size : UInt64) :
    PinsSound { world.count (.storePage chunkId tensorName size) with
      worker := world.worker.storePage chunkId tensorName size } := by
  intro id
  by_cases same : id = chunkId
  · subst same
    have none := (sound id).no_pins notPinned
    have stillNone : (world.count (.storePage id tensorName size)).pins id ≤
        (world.count (.storePage id tensorName size)).unpins id := by
      by_cases present : id ∈ world.worker.vramPages
      · simpa [PinWorld.count, present] using none
      · simp [PinWorld.count, present]
    apply ChunkSound.of_page (AList.lookup_insert _)
    · exact iff_of_false notPinned (by simp [KernelWorker.loadedPage])
    · exact fun more => absurd more (Nat.not_lt.mpr stillNone)
  · have pins : (world.count (.storePage chunkId tensorName size)).pins id = world.pins id := by
      by_cases present : chunkId ∈ world.worker.vramPages
      · simp [PinWorld.count, present]
      · simp [PinWorld.count, present, Function.update_of_ne same]
    have unpins : (world.count (.storePage chunkId tensorName size)).unpins id =
        world.unpins id := by
      by_cases present : chunkId ∈ world.worker.vramPages
      · simp [PinWorld.count, present]
      · simp [PinWorld.count, present, Function.update_of_ne same]
    show ChunkSound _ ((world.count (.storePage chunkId tensorName size)).pins id)
      ((world.count (.storePage chunkId tensorName size)).unpins id) id
    rw [pins, unpins]
    exact (sound id).unchanged (AList.lookup_insert_ne same) Iff.rfl

private theorem sound_movePage (sound : PinsSound world) {chunkId : String}
    (notPinned : chunkId ∉ world.worker.pinnedKeys) :
    PinsSound { world with worker := world.worker.moveToRam chunkId } := by
  intro id
  by_cases same : id = chunkId
  · subst same
    apply ChunkSound.of_missing
    · rw [vramLookup_moveToRam, if_pos rfl]
    · rw [moveToRam_pinnedKeys]
      exact notPinned
    · exact (sound id).no_pins notPinned
  · apply (sound id).unchanged
    · rw [vramLookup_moveToRam, if_neg same]
    · rw [moveToRam_pinnedKeys]

private theorem sound_pinChunk (sound : PinsSound world) {chunkId : String}
    (room : ∀ page, world.worker.vramPages.lookup chunkId = some page →
      page.pinCount.toNat + 1 < 2 ^ 32) :
    PinsSound { world.count (.pinChunk chunkId) with
      worker := world.worker.pinChunk chunkId } := by
  cases found : world.worker.vramPages.lookup chunkId with
  | none =>
      have missing : chunkId ∉ world.worker.vramPages := AList.lookup_eq_none.mp found
      unfold PinWorld.count KernelWorker.pinChunk
      simp only [if_neg missing, found]
      exact sound
  | some page =>
      have present : chunkId ∈ world.worker.vramPages :=
        AList.lookup_isSome.mp (by rw [found]; rfl)
      unfold PinWorld.count KernelWorker.pinChunk
      simp only [if_pos present, found]
      intro id
      by_cases same : id = chunkId
      · subst same
        have count : (page.pinCount + 1).toNat = page.pinCount.toNat + 1 := by
          rw [UInt32.toNat_add]
          exact Nat.mod_eq_of_lt (room page found)
        apply ChunkSound.of_page (AList.lookup_insert _)
        · apply iff_of_true (Finset.mem_insert_self _ _)
          intro zero
          have counted := congrArg UInt32.toNat zero
          simp only [count] at counted
          simp at counted
        · simp only [Function.update_self]
          intro more
          rw [count]
          by_cases before : world.unpins id < world.pins id
          · obtain ⟨page', found', bound⟩ := (sound id).stay before
            rw [found] at found'
            cases found'
            omega
          · omega
      · simp only [Function.update_of_ne same]
        apply (sound id).unchanged (AList.lookup_insert_ne same)
        simp [same]

/-- The page an unpin leaves. -/
private def unpinned (page : VramPage) : VramPage :=
  if 0 < page.pinCount then { page with pinCount := page.pinCount - 1 } else page

private theorem toNat_unpinned (page : VramPage) :
    (unpinned page).pinCount.toNat = page.pinCount.toNat - 1 := by
  unfold unpinned
  split
  · rename_i some
    have positive := UInt32.lt_iff_toNat_lt.mp some
    show (page.pinCount - 1).toNat = page.pinCount.toNat - 1
    have one : (1 : UInt32) ≤ page.pinCount := by
      rw [UInt32.le_iff_toNat_le]
      exact positive
    exact UInt32.toNat_sub_of_le _ _ one
  · rename_i none
    have zero : ¬ 0 < page.pinCount.toNat := fun positive =>
      none (UInt32.lt_iff_toNat_lt.mpr positive)
    omega

private theorem sound_unpinChunk (sound : PinsSound world) (chunkId : String) :
    PinsSound { world.count (.unpinChunk chunkId) with
      worker := world.worker.unpinChunk chunkId } := by
  cases found : world.worker.vramPages.lookup chunkId with
  | none =>
      have missing : chunkId ∉ world.worker.vramPages := AList.lookup_eq_none.mp found
      unfold PinWorld.count KernelWorker.unpinChunk
      simp only [if_neg missing, found]
      exact sound
  | some page =>
      have present : chunkId ∈ world.worker.vramPages :=
        AList.lookup_isSome.mp (by rw [found]; rfl)
      have unpins : world.worker.unpinChunk chunkId =
          { world.worker with
            vramPages := world.worker.vramPages.insert chunkId (unpinned page)
            pinnedKeys :=
              if (unpinned page).pinCount = 0 then world.worker.pinnedKeys.erase chunkId
              else world.worker.pinnedKeys } := by
        unfold KernelWorker.unpinChunk
        rw [found]
        rfl
      rw [unpins]
      unfold PinWorld.count
      simp only [if_pos present]
      intro id
      by_cases same : id = chunkId
      · subst same
        simp only [Function.update_self]
        have count := toNat_unpinned page
        apply ChunkSound.of_page (AList.lookup_insert _)
        · by_cases zero : (unpinned page).pinCount = 0
          · simp only [if_pos zero]
            exact iff_of_false (Finset.notMem_erase _ _) (absurd zero)
          · simp only [if_neg zero]
            apply iff_of_true _ zero
            rw [(sound id).agree]
            refine ⟨page, found, ?_⟩
            intro noPins
            apply zero
            rw [← UInt32.toNat_inj, count, noPins]
            rfl
        · intro more
          obtain ⟨page', found', bound⟩ := (sound id).stay (by omega)
          rw [found] at found'
          cases found'
          omega
      · simp only [Function.update_of_ne same]
        apply (sound id).unchanged (AList.lookup_insert_ne same)
        split
        · simp [same]
        · rfl

end Steps

/-- Step lemma. -/
theorem PinsSound.answers {world after : PinWorld} {op : KernelOp} {reply : op.Reply}
    (sound : PinsSound world) (answers : world.Answers op reply after)
    (respectful : Respectful world.worker op) : PinsSound after := by
  obtain ⟨worker, applied, rfl⟩ := answers
  have isWorker : (op.apply world.worker).2 = worker := by rw [applied]
  subst isWorker
  cases op with
  | inspect chunkId => exact sound
  | recordAccess chunkId => exact sound_recordAccess sound chunkId
  | evictColdEntries => exact sound_evictColdEntries sound
  | storePage chunkId tensorName size => exact sound_storePage sound respectful tensorName size
  | pushEvent event => exact fun id => (sound id).unchanged rfl Iff.rfl
  | isPinned chunkId => exact sound
  | movePage chunkId => exact sound_movePage sound respectful
  | pinChunk chunkId => exact sound_pinChunk sound respectful
  | unpinChunk chunkId => exact sound_unpinChunk sound chunkId

/-- The system in which every step breaks no pin. -/
def respectfulSystem (vramBudgetBytes : UInt64) :
    System Nat KernelOp KernelOp.Reply Unit PinWorld :=
  (pinSystem vramBudgetBytes).restrict fun world op _ _ => Respectful world.worker op

/-- Where no step breaks a pin, a page that is pinned more often than unpinned keeps its
place and its pins, and the pinned keys are the pages with a pin. -/
theorem pins_stay (vramBudgetBytes vramBudgetMb : UInt64) {pool : PinPool}
    (reachable : (respectfulSystem vramBudgetBytes).Reachable (freshPinPool vramBudgetMb) pool) :
    PinsStay pool.world ∧ PinsAgree pool.world.worker := by
  have initially : PinsSound (freshPinPool vramBudgetMb).world := by
    intro id
    exact .of_missing rfl (Finset.notMem_empty id) le_rfl
  have sound : PinsSound pool.world := by
    apply reachable.world_invariant _ _ initially
    · rintro thread world op reply after sound ⟨answers, respectful⟩
      exact sound.answers answers respectful
    · exact fun _ _ _ impossible => impossible.elim
  exact ⟨fun id => (sound id).stay, fun id => (sound id).agree⟩

/-! ## Two runs -/

/-- A page that is pinned after an eviction found it unpinned is moved to RAM with its
pin. -/
theorem pins_lost :
    ∃ pool, (pinSystem 1).Reachable (freshPinPool 1) pool ∧
      ¬ PinsStay pool.world ∧ ¬ PinsAgree pool.world.worker := by
  have fresh : (pinSystem 1).Reachable (freshPinPool 1) (freshPinPool 1) := .refl
  have loads := fresh.begin 0 (KernelThreads.loadToVram 1 "a" "t" 1) rfl (.loadToVram "a" "t" 1)
  have looked := loads.call 0 rfl (false, 0) _ ⟨_, rfl, rfl⟩
  have stored := looked.call 0 rfl () _ ⟨_, rfl, rfl⟩
  have evicts := stored.begin 1 (KernelThreads.evictToRam "a") rfl (.evictToRam "a")
  have checked := evicts.call 1 rfl false _ ⟨_, rfl, rfl⟩
  have pins := checked.begin 2 (Prog.perform (KernelOp.pinChunk "a")) rfl (.pinChunk "a")
  have pinned := pins.call 2 rfl () _ ⟨_, rfl, rfl⟩
  have moved := pinned.call 1 rfl _ _ ⟨_, rfl, rfl⟩
  refine ⟨_, moved, ?_, ?_⟩
  · intro stay
    obtain ⟨page, found, _⟩ := stay "a" (by decide +kernel)
    cases found
  · intro agree
    obtain ⟨page, found, _⟩ := (agree "a").mp (by decide +kernel)
    cases found

/-- A chunk that is loaded and pinned stays, also where an eviction asks for it. -/
theorem pins_stay_pinned :
    ∃ pool, (respectfulSystem 1).Reachable (freshPinPool 1) pool ∧ 0 < pool.world.pins "a" ∧
      PinsStay pool.world ∧ PinsAgree pool.world.worker := by
  have fresh : (respectfulSystem 1).Reachable (freshPinPool 1) (freshPinPool 1) := .refl
  have loads := fresh.begin 0 (KernelThreads.loadToVram 1 "a" "t" 1) rfl (.loadToVram "a" "t" 1)
  have looked := loads.call 0 rfl (false, 0) _ ⟨⟨_, rfl, rfl⟩, trivial⟩
  have stored := looked.call 0 rfl () _ ⟨⟨_, rfl, rfl⟩, Finset.notMem_empty _⟩
  have pins := stored.begin 1 (Prog.perform (KernelOp.pinChunk "a")) rfl (.pinChunk "a")
  have pinned := pins.call 1 rfl () _ ⟨⟨_, rfl, rfl⟩, by
    intro page found
    cases found
    decide⟩
  have evicts := pinned.begin 2 (KernelThreads.evictToRam "a") rfl (.evictToRam "a")
  have checked := evicts.call 2 rfl true _ ⟨⟨_, rfl, rfl⟩, trivial⟩
  exact ⟨_, checked, by decide +kernel, pins_stay 1 1 checked⟩

end TriAI.Kernel
