import TriAI.Kernel.Worker
import TriAI.Library.Runs

/-!
Contract: where the pages of the memory manager are, and how many bytes of them.

Owns: the changes that only evict, the separation of the page maps and the VRAM
budget over runs of the manager, and the exact conditions under which a load keeps
them.

Does not own: the operations.
-/

set_option autoImplicit false

namespace TriAI.Kernel

open TriAI.Library.Runs
open TriAI.Library.WeightedMap

/-! ## Changes that only evict -/

/-- Pages leave the VRAM map for the RAM map, and no page is loaded. -/
structure OnlyEvicts (before after : KernelWorker) : Prop where
  vram : ∀ id, id ∈ after.vramPages → id ∈ before.vramPages
  ram : ∀ id, id ∈ after.ramPages →
    id ∈ before.ramPages ∨ id ∈ before.vramPages ∧ id ∉ after.vramPages
  ramKept : ∀ id, id ∈ before.ramPages → id ∈ after.ramPages
  disk : after.diskPages = before.diskPages
  budget : after.vramBudgetBytes = before.vramBudgetBytes

namespace OnlyEvicts

theorem refl (worker : KernelWorker) : OnlyEvicts worker worker where
  vram := fun _ present => present
  ram := fun _ present => .inl present
  ramKept := fun _ present => present
  disk := rfl
  budget := rfl

theorem trans {first second third : KernelWorker} (left : OnlyEvicts first second)
    (right : OnlyEvicts second third) : OnlyEvicts first third where
  vram := fun id present => left.vram id (right.vram id present)
  ram := by
    intro id present
    rcases right.ram id present with earlier | ⟨inVram, gone⟩
    · rcases left.ram id earlier with earliest | ⟨inVram, gone⟩
      · exact .inl earliest
      · exact .inr ⟨inVram, fun present => gone (right.vram id present)⟩
    · exact .inr ⟨left.vram id inVram, gone⟩
  ramKept := fun id present => right.ramKept id (left.ramKept id present)
  disk := right.disk.trans left.disk
  budget := right.budget.trans left.budget

end OnlyEvicts

section Operations

variable {worker : KernelWorker} {id : String} {page : VramPage}

/-- Replacing a page of the VRAM map evicts nothing. -/
private theorem onlyEvicts_of_same {after : KernelWorker}
    (found : worker.vramPages.lookup id = some page) {next : VramPage}
    (vram : after.vramPages = worker.vramPages.insert id next)
    (ram : after.ramPages = worker.ramPages) (disk : after.diskPages = worker.diskPages)
    (budget : after.vramBudgetBytes = worker.vramBudgetBytes) : OnlyEvicts worker after where
  vram := by
    intro other present
    rw [vram, AList.mem_insert] at present
    rcases present with rfl | present
    · exact AList.lookup_isSome.mp (by simp [found])
    · exact present
  ram := fun _ present => .inl (ram ▸ present)
  ramKept := fun _ present => ram.symm ▸ present
  disk := disk
  budget := budget

/-- Moving a page from the VRAM map to the RAM map. -/
private theorem onlyEvicts_of_moved {after : KernelWorker}
    (found : worker.vramPages.lookup id = some page) {next : RamPage}
    (vram : after.vramPages = worker.vramPages.erase id)
    (ram : after.ramPages = worker.ramPages.insert id next)
    (disk : after.diskPages = worker.diskPages)
    (budget : after.vramBudgetBytes = worker.vramBudgetBytes) : OnlyEvicts worker after where
  vram := by
    intro other present
    rw [vram, AList.mem_erase] at present
    exact present.2
  ram := by
    intro other present
    rw [ram, AList.mem_insert] at present
    rcases present with rfl | present
    · refine .inr ⟨AList.lookup_isSome.mp (by simp [found]), ?_⟩
      rw [vram, AList.mem_erase]
      simp
    · exact .inl present
  ramKept := by
    intro other present
    rw [ram, AList.mem_insert]
    exact .inr present
  disk := disk
  budget := budget

theorem onlyEvicts_recordAccess (worker : KernelWorker) (id : String) :
    OnlyEvicts worker (worker.recordAccess id) := by
  unfold KernelWorker.recordAccess
  split
  · exact .refl worker
  · rename_i page found
    exact onlyEvicts_of_same found rfl rfl rfl rfl

theorem onlyEvicts_pinChunk (worker : KernelWorker) (id : String) :
    OnlyEvicts worker (worker.pinChunk id) := by
  unfold KernelWorker.pinChunk
  split
  · exact .refl worker
  · rename_i page found
    exact onlyEvicts_of_same found rfl rfl rfl rfl

theorem onlyEvicts_unpinChunk (worker : KernelWorker) (id : String) :
    OnlyEvicts worker (worker.unpinChunk id) := by
  unfold KernelWorker.unpinChunk
  split
  · exact .refl worker
  · rename_i page found
    exact onlyEvicts_of_same found rfl rfl rfl rfl

theorem onlyEvicts_moveToRam (worker : KernelWorker) (id : String) :
    OnlyEvicts worker (worker.moveToRam id) := by
  unfold KernelWorker.moveToRam
  split
  · exact .refl worker
  · rename_i page found
    exact onlyEvicts_of_moved found rfl rfl rfl rfl

theorem onlyEvicts_evictToRam (worker : KernelWorker) (id : String) :
    OnlyEvicts worker (worker.evictToRam id) := by
  unfold KernelWorker.evictToRam
  split
  · exact .refl worker
  · split
    · exact .refl worker
    · rename_i page found
      exact onlyEvicts_of_moved found rfl rfl rfl rfl

/-- A loop of evictions. -/
private theorem onlyEvicts_foldl (keys : List String) (worker : KernelWorker) :
    OnlyEvicts worker (keys.foldl KernelWorker.moveToRam worker) := by
  induction keys generalizing worker with
  | nil => exact .refl worker
  | cons key rest inductionHypothesis =>
      exact (onlyEvicts_moveToRam worker key).trans (inductionHypothesis _)

theorem onlyEvicts_evictColdEntries (worker : KernelWorker) :
    OnlyEvicts worker worker.evictColdEntries :=
  onlyEvicts_foldl _ worker

/-- An operation that loads nothing. -/
theorem onlyEvicts_classifyExperts (worker : KernelWorker) (events : List ExpertEvent) :
    OnlyEvicts worker (worker.classifyExperts events) where
  vram := fun _ present => present
  ram := fun _ present => .inl present
  ramKept := fun _ present => present
  disk := rfl
  budget := rfl

end Operations

/-- A load records an access, or inserts its page after some evictions. -/
theorem loadToVram_cases (worker : KernelWorker) (id tensorName : String) (size : UInt64) :
    (id ∈ worker.vramPages ∧ worker.loadToVram id tensorName size = worker.recordAccess id) ∨
    (id ∉ worker.vramPages ∧ worker.vramBudgetBytes < worker.vramBytes + size ∧
      worker.loadToVram id tensorName size =
        worker.evictColdEntries.insertPage id tensorName size) ∨
    (id ∉ worker.vramPages ∧ ¬ worker.vramBudgetBytes < worker.vramBytes + size ∧
      worker.loadToVram id tensorName size = worker.insertPage id tensorName size) := by
  unfold KernelWorker.loadToVram
  by_cases present : id ∈ worker.vramPages
  · rw [if_pos present]
    exact .inl ⟨present, rfl⟩
  · rw [if_neg present]
    by_cases full : worker.vramBudgetBytes < worker.vramBytes + size
    · rw [if_pos full]
      exact .inr (.inl ⟨present, full, rfl⟩)
    · rw [if_neg full]
      exact .inr (.inr ⟨present, full, rfl⟩)

/-- The check of `prefetch_experts` is that of `load_to_vram` again. -/
theorem prefetchExpert_eq (worker : KernelWorker) (decision : UInt32 × UInt32) :
    worker.prefetchExpert decision = worker.loadToVram (KernelWorker.expertChunkId decision)
      (KernelWorker.expertTensorName decision) KernelWorker.expertBytes := by
  unfold KernelWorker.prefetchExpert
  split
  · rename_i present
    unfold KernelWorker.loadToVram
    rw [if_pos present]
  · rfl

/-! ## One tier -/

/-- A chunk id is in at most one of the page maps. -/
structure Exclusive (worker : KernelWorker) : Prop where
  vramRam : ∀ id, id ∈ worker.vramPages → id ∉ worker.ramPages
  vramDisk : ∀ id, id ∈ worker.vramPages → id ∉ worker.diskPages
  ramDisk : ∀ id, id ∈ worker.ramPages → id ∉ worker.diskPages

/-- The invariant: the disk map is never used, and the other two are apart. -/
structure Separated (worker : KernelWorker) : Prop where
  disk : worker.diskPages = ∅
  apart : ∀ id, id ∈ worker.vramPages → id ∉ worker.ramPages

theorem Separated.exclusive {worker : KernelWorker} (separated : Separated worker) :
    Exclusive worker where
  vramRam := separated.apart
  vramDisk := fun id _ => by simp [separated.disk]
  ramDisk := fun id _ => by simp [separated.disk]

theorem Separated.onlyEvicts {before after : KernelWorker} (separated : Separated before)
    (evicts : OnlyEvicts before after) : Separated after where
  disk := evicts.disk.trans separated.disk
  apart := by
    intro id inVram inRam
    rcases evicts.ram id inRam with earlier | ⟨_, gone⟩
    · exact separated.apart id (evicts.vram id inVram) earlier
    · exact gone inVram

private theorem Separated.insertPage {worker : KernelWorker} (separated : Separated worker)
    {id : String} (absent : id ∉ worker.ramPages) (tensorName : String) (size : UInt64) :
    Separated (worker.insertPage id tensorName size) where
  disk := separated.disk
  apart := by
    intro other inVram
    show other ∉ worker.ramPages
    rw [KernelWorker.insertPage, AList.mem_insert] at inVram
    rcases inVram with rfl | present
    · exact absent
    · exact separated.apart other present

/-- Exactly the loads of chunks that are not in the RAM map keep the maps apart. -/
theorem Separated.loadToVram_iff {worker : KernelWorker} (separated : Separated worker)
    (id tensorName : String) (size : UInt64) :
    Separated (worker.loadToVram id tensorName size) ↔ id ∉ worker.ramPages := by
  rcases loadToVram_cases worker id tensorName size with
    ⟨present, same⟩ | ⟨absent, _, same⟩ | ⟨absent, _, same⟩
  · rw [same]
    exact iff_of_true (separated.onlyEvicts (onlyEvicts_recordAccess worker id))
      (separated.apart id present)
  · rw [same]
    have evicts := onlyEvicts_evictColdEntries worker
    constructor
    · intro after inRam
      apply after.apart id
      · simp [KernelWorker.insertPage]
      · exact evicts.ramKept id inRam
    · intro notInRam
      apply (separated.onlyEvicts evicts).insertPage
      intro inRam
      rcases evicts.ram id inRam with earlier | ⟨inVram, _⟩
      · exact notInRam earlier
      · exact absent inVram
  · rw [same]
    constructor
    · intro after inRam
      apply after.apart id
      · simp [KernelWorker.insertPage]
      · exact inRam
    · intro notInRam
      exact separated.insertPage notInRam tensorName size

/-- No chunk is loaded while it is in the RAM map. -/
def Request.LoadsNew (worker : KernelWorker) : Request → Prop
  | .loadToVram chunkId _ _ => chunkId ∉ worker.ramPages
  | .prefetchExperts events =>
      Along KernelWorker.prefetchExpert
        (fun worker decision => KernelWorker.expertChunkId decision ∉ worker.ramPages) worker
        (KernelWorker.decisions events)
  | .syncExpertEvents events =>
      Along KernelWorker.prefetchExpert
        (fun worker decision => KernelWorker.expertChunkId decision ∉ worker.ramPages)
        (worker.classifyExperts events) (KernelWorker.decisions events)
  | _ => True

private theorem Separated.prefetch {worker : KernelWorker} (separated : Separated worker)
    {decisions : List (UInt32 × UInt32)}
    (along : Along KernelWorker.prefetchExpert
      (fun worker decision => KernelWorker.expertChunkId decision ∉ worker.ramPages) worker
      decisions) : Separated (decisions.foldl KernelWorker.prefetchExpert worker) := by
  refine along.invariant Separated ?_ separated
  intro worker decision separated notInRam
  rw [prefetchExpert_eq, separated.loadToVram_iff]
  exact notInRam

/-- Step lemma. -/
private theorem Separated.perform {worker : KernelWorker} (separated : Separated worker)
    {request : Request} (new : request.LoadsNew worker) :
    Separated (request.perform worker) := by
  cases request with
  | loadToVram id tensorName size => exact (separated.loadToVram_iff id tensorName size).mpr new
  | prefetchExperts events => exact separated.prefetch new
  | syncExpertEvents events =>
      exact (separated.onlyEvicts (onlyEvicts_classifyExperts worker events)).prefetch new
  | evictToRam id => exact separated.onlyEvicts (onlyEvicts_evictToRam worker id)
  | evictColdEntries => exact separated.onlyEvicts (onlyEvicts_evictColdEntries worker)
  | pinChunk id => exact separated.onlyEvicts (onlyEvicts_pinChunk worker id)
  | unpinChunk id => exact separated.onlyEvicts (onlyEvicts_unpinChunk worker id)
  | recordAccess id => exact separated.onlyEvicts (onlyEvicts_recordAccess worker id)

theorem separated_new (vramBudgetMb : UInt64) : Separated (KernelWorker.new vramBudgetMb) where
  disk := rfl
  apart := fun id inVram => absurd inVram (by simp [KernelWorker.new])

/-- A call that loads no chunk which is in the RAM map. -/
structure NewLoads (before : KernelWorker) (request : Request) (after : KernelWorker) : Prop where
  new : request.LoadsNew before
  performed : after = request.perform before

/-- Run lemma: every chunk stays in one tier at most. -/
theorem kernelWorker_exclusive {vramBudgetMb : UInt64} {history : List Request}
    {last : KernelWorker} (run : Run NewLoads (KernelWorker.new vramBudgetMb) history last) :
    Exclusive last := by
  apply Separated.exclusive
  apply run.state_invariant Separated (separated_new vramBudgetMb)
  intro worker request after separated step
  rw [step.performed]
  exact separated.perform step.new

/-- Two loads, of which the second evicts the first. -/
theorem kernelWorker_exclusive_evicted :
    Exclusive ((Request.loadToVram "b" "t" 1048576).perform
      ((Request.loadToVram "a" "t" 1048576).perform (KernelWorker.new 1))) := by
  have first : NewLoads (KernelWorker.new 1) (.loadToVram "a" "t" 1048576)
      ((Request.loadToVram "a" "t" 1048576).perform (KernelWorker.new 1)) := by
    refine ⟨?_, rfl⟩
    show "a" ∉ (KernelWorker.new 1).ramPages
    decide +kernel
  have second : NewLoads ((Request.loadToVram "a" "t" 1048576).perform (KernelWorker.new 1))
      (.loadToVram "b" "t" 1048576)
      ((Request.loadToVram "b" "t" 1048576).perform
        ((Request.loadToVram "a" "t" 1048576).perform (KernelWorker.new 1))) := by
    refine ⟨?_, rfl⟩
    show "b" ∉ ((Request.loadToVram "a" "t" 1048576).perform (KernelWorker.new 1)).ramPages
    decide +kernel
  exact kernelWorker_exclusive ((Run.start.step first).step second)

/-- A chunk that is evicted and loaded again is in two tiers. -/
theorem kernelWorker_not_exclusive_reloaded :
    ¬ Exclusive ([Request.loadToVram "a" "t" 1024, .evictToRam "a", .loadToVram "a" "t" 1024].foldl
      Request.perform (KernelWorker.new 100)) := by
  intro exclusive
  have inVram : "a" ∈ ([Request.loadToVram "a" "t" 1024, .evictToRam "a",
      .loadToVram "a" "t" 1024].foldl Request.perform (KernelWorker.new 100)).vramPages := by
    decide +kernel
  have inRam : "a" ∈ ([Request.loadToVram "a" "t" 1024, .evictToRam "a",
      .loadToVram "a" "t" 1024].foldl Request.perform (KernelWorker.new 100)).ramPages := by
    decide +kernel
  exact exclusive.vramRam "a" inVram inRam

/-! ## The VRAM budget -/

/-- The size of a page that an eviction of cold entries leaves in the VRAM map. -/
def KernelWorker.keptBytes (worker : KernelWorker) (entry : Sigma fun _ : String => VramPage) : Nat :=
  if worker.IsCold entry then 0 else KernelWorker.pageBytes entry

/-- What an eviction of cold entries leaves: the pinned and the hot pages. -/
def KernelWorker.keptTotal (worker : KernelWorker) : Nat :=
  total worker.keptBytes worker.vramPages

/-- Cold entries weigh nothing, so moving them away keeps the total. -/
private theorem total_moveToRam {weight : (Sigma fun _ : String => VramPage) → Nat}
    {worker : KernelWorker} {id : String}
    (weightless : ∀ page, worker.vramPages.lookup id = some page → weight ⟨id, page⟩ = 0) :
    total weight (worker.moveToRam id).vramPages = total weight worker.vramPages := by
  unfold KernelWorker.moveToRam
  split
  · rfl
  · rename_i page found
    rw [total_of_lookup found, weightless page found, Nat.zero_add]

private theorem lookup_moveToRam {worker : KernelWorker} {id other : String} {page : VramPage}
    (found : (worker.moveToRam id).vramPages.lookup other = some page) :
    other ≠ id ∧ worker.vramPages.lookup other = some page := by
  unfold KernelWorker.moveToRam at found
  split at found
  · rename_i absent
    refine ⟨?_, found⟩
    rintro rfl
    simp [absent] at found
  · by_cases same : other = id
    · subst same
      simp at found
    · exact ⟨same, by simpa [AList.lookup_erase_ne same] using found⟩

/-- A loop that moves weightless entries away keeps the total, and leaves none of them. -/
private theorem foldl_moveToRam {weight : (Sigma fun _ : String => VramPage) → Nat}
    (keys : List String) {worker : KernelWorker}
    (weightless : ∀ id ∈ keys, ∀ page, worker.vramPages.lookup id = some page →
      weight ⟨id, page⟩ = 0) :
    total weight (keys.foldl KernelWorker.moveToRam worker).vramPages =
        total weight worker.vramPages ∧
      ∀ id page, (keys.foldl KernelWorker.moveToRam worker).vramPages.lookup id = some page →
        id ∉ keys ∧ worker.vramPages.lookup id = some page := by
  induction keys generalizing worker with
  | nil => exact ⟨rfl, fun id page found => ⟨List.not_mem_nil, found⟩⟩
  | cons key rest inductionHypothesis =>
      have later : ∀ id ∈ rest, ∀ page, (worker.moveToRam key).vramPages.lookup id = some page →
          weight ⟨id, page⟩ = 0 := by
        intro id member page found
        exact weightless id (List.mem_cons_of_mem key member) page (lookup_moveToRam found).2
      obtain ⟨same, remaining⟩ := inductionHypothesis later
      refine ⟨?_, ?_⟩
      · rw [List.foldl_cons, same]
        exact total_moveToRam (weightless key (List.mem_cons_self ..))
      · intro id page found
        obtain ⟨notInRest, inMoved⟩ := remaining id page found
        obtain ⟨different, before⟩ := lookup_moveToRam inMoved
        exact ⟨by simp [different, notInRest], before⟩

/-- After an eviction of cold entries the kept pages are left. -/
theorem vramTotal_evictColdEntries (worker : KernelWorker) :
    worker.evictColdEntries.vramTotal = worker.keptTotal := by
  have isCold : ∀ id page, worker.vramPages.lookup id = some page →
      (id ∈ (worker.vramPages.entries.filter fun entry => decide (worker.IsCold entry)).map
        Sigma.fst ↔ worker.IsCold ⟨id, page⟩) := by
    intro id page found
    have member : (⟨id, page⟩ : Sigma fun _ : String => VramPage) ∈ worker.vramPages.entries :=
      AList.mem_lookup_iff.mp found
    simp only [List.mem_map, List.mem_filter, decide_eq_true_eq]
    constructor
    · rintro ⟨⟨other, otherPage⟩, ⟨otherMember, cold⟩, rfl⟩
      cases worker.vramPages.nodupKeys.eq_of_mk_mem member otherMember
      exact cold
    · intro cold
      exact ⟨⟨id, page⟩, ⟨member, cold⟩, rfl⟩
  have weightless : ∀ id ∈ (worker.vramPages.entries.filter fun entry =>
      decide (worker.IsCold entry)).map Sigma.fst, ∀ page,
      worker.vramPages.lookup id = some page → worker.keptBytes ⟨id, page⟩ = 0 := by
    intro id member page found
    exact if_pos ((isCold id page found).mp member)
  obtain ⟨same, remaining⟩ := foldl_moveToRam _ weightless
  rw [KernelWorker.keptTotal, ← same]
  -- what is left is not cold, so it weighs its size
  unfold KernelWorker.vramTotal total KernelWorker.evictColdEntries
  congr 1
  apply List.map_congr_left
  rintro ⟨id, page⟩ member
  obtain ⟨notCold, found⟩ := remaining id page (AList.mem_lookup_iff.mpr member)
  rw [isCold id page found] at notCold
  exact (if_neg notCold).symm

def WithinBudget (worker : KernelWorker) : Prop :=
  worker.vramTotal ≤ worker.vramBudgetBytes.toNat

/-- The sums a load computes, as exact numbers. -/
def KernelWorker.loadSums (worker : KernelWorker) (id : String) (size : UInt64) : List Nat :=
  if id ∈ worker.vramPages then [] else [worker.vramTotal, worker.vramTotal + size.toNat]

/-- A page that is not in the VRAM map has room: the sum of the sizes with it is a
64-bit number, and it fits the budget beside all pages or beside the kept ones. -/
def KernelWorker.Fits (worker : KernelWorker) (id : String) (size : UInt64) : Prop :=
  id ∉ worker.vramPages →
    worker.vramTotal + size.toNat < 2 ^ 64 ∧
      (worker.vramTotal + size.toNat ≤ worker.vramBudgetBytes.toNat ∨
        worker.keptTotal + size.toNat ≤ worker.vramBudgetBytes.toNat)

/-- The sum without overflow. -/
private theorem vramBytes_add {worker : KernelWorker} {size : UInt64}
    (fits : worker.vramTotal + size.toNat < 2 ^ 64) :
    (worker.vramBytes + size).toNat = worker.vramTotal + size.toNat := by
  rw [UInt64.toNat_add, KernelWorker.vramBytes, UInt64.toNat_ofNat']
  omega

private theorem vramTotal_insertPage {worker : KernelWorker} {id : String}
    (absent : id ∉ worker.vramPages) (tensorName : String) (size : UInt64) :
    (worker.insertPage id tensorName size).vramTotal = size.toNat + worker.vramTotal := by
  unfold KernelWorker.insertPage KernelWorker.vramTotal
  rw [total_insert, erase_of_absent (AList.lookup_eq_none.mpr absent)]
  rfl

/-- Replacing a page by one of its size. -/
private theorem vramTotal_of_same {worker after : KernelWorker} {id : String}
    {page next : VramPage} (found : worker.vramPages.lookup id = some page)
    (vram : after.vramPages = worker.vramPages.insert id next)
    (size : next.sizeBytes = page.sizeBytes) : after.vramTotal = worker.vramTotal := by
  unfold KernelWorker.vramTotal
  rw [vram]
  apply total_insert_of_lookup found
  simp [KernelWorker.pageBytes, size]

theorem vramTotal_recordAccess (worker : KernelWorker) (id : String) :
    (worker.recordAccess id).vramTotal = worker.vramTotal := by
  unfold KernelWorker.recordAccess
  split
  · rfl
  · rename_i page found
    exact vramTotal_of_same found rfl rfl

theorem vramTotal_pinChunk (worker : KernelWorker) (id : String) :
    (worker.pinChunk id).vramTotal = worker.vramTotal := by
  unfold KernelWorker.pinChunk
  split
  · rfl
  · rename_i page found
    exact vramTotal_of_same found rfl rfl

theorem vramTotal_unpinChunk (worker : KernelWorker) (id : String) :
    (worker.unpinChunk id).vramTotal = worker.vramTotal := by
  unfold KernelWorker.unpinChunk
  split
  · rfl
  · rename_i page found
    refine vramTotal_of_same found rfl ?_
    split <;> rfl

theorem vramTotal_evictToRam_le (worker : KernelWorker) (id : String) :
    (worker.evictToRam id).vramTotal ≤ worker.vramTotal := by
  unfold KernelWorker.evictToRam
  split
  · exact Nat.le_refl _
  · split
    · exact Nat.le_refl _
    · rename_i page found
      show total KernelWorker.pageBytes (worker.vramPages.erase id) ≤ worker.vramTotal
      unfold KernelWorker.vramTotal
      rw [total_of_lookup found]
      omega

theorem keptTotal_le (worker : KernelWorker) : worker.keptTotal ≤ worker.vramTotal := by
  unfold KernelWorker.keptTotal KernelWorker.vramTotal total
  apply List.sum_le_sum
  intro entry _
  unfold KernelWorker.keptBytes
  split
  · exact Nat.zero_le _
  · exact Nat.le_refl _

/-- Exactly the loads that fit keep the budget and compute sums without overflow. -/
theorem WithinBudget.loadToVram_iff {worker : KernelWorker} (within : WithinBudget worker)
    (id tensorName : String) (size : UInt64) :
    (WithinBudget (worker.loadToVram id tensorName size) ∧
      ∀ sum ∈ worker.loadSums id size, sum < 2 ^ 64) ↔ worker.Fits id size := by
  unfold KernelWorker.loadSums KernelWorker.Fits
  have bound := worker.vramBudgetBytes.toNat_lt
  have kept := keptTotal_le worker
  by_cases overflows : worker.vramTotal + size.toNat < 2 ^ 64
  · have sum := vramBytes_add overflows
    rcases loadToVram_cases worker id tensorName size with
      ⟨present, same⟩ | ⟨absent, full, same⟩ | ⟨absent, notFull, same⟩
    · rw [same]
      have unchanged : WithinBudget (worker.recordAccess id) := by
        unfold WithinBudget
        rw [vramTotal_recordAccess, (onlyEvicts_recordAccess worker id).budget]
        exact within
      simp [present, unchanged]
    · have evicts := onlyEvicts_evictColdEntries worker
      have absentAfter : id ∉ worker.evictColdEntries.vramPages := fun present =>
        absent (evicts.vram id present)
      rw [UInt64.lt_iff_toNat_lt, sum] at full
      rw [same]
      unfold WithinBudget
      rw [vramTotal_insertPage absentAfter, vramTotal_evictColdEntries]
      show size.toNat + worker.keptTotal ≤ worker.evictColdEntries.vramBudgetBytes.toNat ∧ _ ↔ _
      rw [evicts.budget]
      simp only [absent, if_false, List.forall_mem_cons, List.not_mem_nil, false_implies,
        implies_true, not_false_eq_true, true_implies, and_true]
      omega
    · rw [UInt64.lt_iff_toNat_lt, sum] at notFull
      rw [same]
      unfold WithinBudget
      rw [vramTotal_insertPage absent]
      show size.toNat + worker.vramTotal ≤ worker.vramBudgetBytes.toNat ∧ _ ↔ _
      simp only [absent, if_false, List.forall_mem_cons, List.not_mem_nil, false_implies,
        implies_true, not_false_eq_true, true_implies, and_true]
      omega
  · by_cases present : id ∈ worker.vramPages
    · have unchanged : WithinBudget (worker.loadToVram id tensorName size) := by
        unfold WithinBudget KernelWorker.loadToVram
        rw [if_pos present, vramTotal_recordAccess, (onlyEvicts_recordAccess worker id).budget]
        exact within
      simp [present, unchanged]
    · refine iff_of_false ?_ ?_
      · rintro ⟨_, sums⟩
        rw [if_neg present] at sums
        exact overflows (sums _ (by simp))
      · intro fits
        exact overflows (fits present).1

/-- Every load of the call fits. -/
def Request.Fits (worker : KernelWorker) : Request → Prop
  | .loadToVram chunkId _ size => worker.Fits chunkId size
  | .prefetchExperts events =>
      Along KernelWorker.prefetchExpert
        (fun worker decision =>
          worker.Fits (KernelWorker.expertChunkId decision) KernelWorker.expertBytes) worker
        (KernelWorker.decisions events)
  | .syncExpertEvents events =>
      Along KernelWorker.prefetchExpert
        (fun worker decision =>
          worker.Fits (KernelWorker.expertChunkId decision) KernelWorker.expertBytes)
        (worker.classifyExperts events) (KernelWorker.decisions events)
  | _ => True

/-- The sums the loads of a prefetch compute. -/
def KernelWorker.prefetchSums (worker : KernelWorker) : List (UInt32 × UInt32) → List Nat
  | [] => []
  | decision :: rest =>
      worker.loadSums (KernelWorker.expertChunkId decision) KernelWorker.expertBytes ++
        (worker.prefetchExpert decision).prefetchSums rest

/-- The sums a call computes, as exact numbers. -/
def Request.sums (worker : KernelWorker) : Request → List Nat
  | .loadToVram chunkId _ size => worker.loadSums chunkId size
  | .prefetchExperts events => worker.prefetchSums (KernelWorker.decisions events)
  | .syncExpertEvents events =>
      (worker.classifyExperts events).prefetchSums (KernelWorker.decisions events)
  | _ => []

private theorem WithinBudget.prefetch {worker : KernelWorker} (within : WithinBudget worker)
    {decisions : List (UInt32 × UInt32)}
    (along : Along KernelWorker.prefetchExpert
      (fun worker decision =>
        worker.Fits (KernelWorker.expertChunkId decision) KernelWorker.expertBytes) worker
      decisions) :
    WithinBudget (decisions.foldl KernelWorker.prefetchExpert worker) ∧
      ∀ sum ∈ worker.prefetchSums decisions, sum < 2 ^ 64 := by
  induction decisions generalizing worker with
  | nil => exact ⟨within, by simp [KernelWorker.prefetchSums]⟩
  | cons decision rest inductionHypothesis =>
      obtain ⟨loaded, sums⟩ := (within.loadToVram_iff _
        (KernelWorker.expertTensorName decision) _).mpr along.1
      rw [← prefetchExpert_eq] at loaded
      obtain ⟨after, laterSums⟩ := inductionHypothesis loaded along.2
      refine ⟨after, ?_⟩
      intro sum member
      rcases List.mem_append.mp member with now | later
      · exact sums sum now
      · exact laterSums sum later

/-- Step lemma. -/
theorem WithinBudget.perform {worker : KernelWorker} (within : WithinBudget worker)
    {request : Request} (fits : request.Fits worker) :
    WithinBudget (request.perform worker) ∧ ∀ sum ∈ request.sums worker, sum < 2 ^ 64 := by
  have kept : ∀ after, OnlyEvicts worker after → after.vramTotal ≤ worker.vramTotal →
      WithinBudget after := by
    intro after evicts less
    unfold WithinBudget
    rw [evicts.budget]
    exact Nat.le_trans less within
  cases request with
  | loadToVram id tensorName size => exact (within.loadToVram_iff id tensorName size).mpr fits
  | prefetchExperts events => exact within.prefetch fits
  | syncExpertEvents events =>
      exact (kept _ (onlyEvicts_classifyExperts worker events) (Nat.le_refl _)).prefetch fits
  | evictToRam id =>
      exact ⟨kept _ (onlyEvicts_evictToRam worker id) (vramTotal_evictToRam_le worker id),
        by simp [Request.sums]⟩
  | evictColdEntries =>
      have less := keptTotal_le worker
      rw [← vramTotal_evictColdEntries] at less
      exact ⟨kept _ (onlyEvicts_evictColdEntries worker) less, by simp [Request.sums]⟩
  | pinChunk id =>
      exact ⟨kept _ (onlyEvicts_pinChunk worker id) (Nat.le_of_eq (vramTotal_pinChunk worker id)),
        by simp [Request.sums]⟩
  | unpinChunk id =>
      exact ⟨kept _ (onlyEvicts_unpinChunk worker id)
        (Nat.le_of_eq (vramTotal_unpinChunk worker id)), by simp [Request.sums]⟩
  | recordAccess id =>
      exact ⟨kept _ (onlyEvicts_recordAccess worker id)
        (Nat.le_of_eq (vramTotal_recordAccess worker id)), by simp [Request.sums]⟩

/-- A call whose loads fit. -/
structure FittingLoads (before : KernelWorker) (request : Request) (after : KernelWorker) :
    Prop where
  fits : request.Fits before
  performed : after = request.perform before

/-- Run lemma. -/
theorem withinBudget_of_run {vramBudgetMb : UInt64} {history : List Request}
    {last : KernelWorker} (run : Run FittingLoads (KernelWorker.new vramBudgetMb) history last) :
    WithinBudget last := by
  apply run.state_invariant WithinBudget
  · exact Nat.zero_le _
  · intro worker request after within step
    rw [step.performed]
    exact (within.perform step.fits).1

/-- While the loads fit, the budget is kept, and the next call whose loads fit computes no sum
that overflows. -/
theorem kernelWorker_withinBudget {vramBudgetMb : UInt64} {history : List Request}
    {last : KernelWorker} (run : Run FittingLoads (KernelWorker.new vramBudgetMb) history last) :
    WithinBudget last ∧
      ∀ request : Request, request.Fits last → ∀ sum ∈ request.sums last, sum < 2 ^ 64 := by
  have within := withinBudget_of_run run
  exact ⟨within, fun request fits => (within.perform fits).2⟩

/-- A second page that fits once the first is evicted. -/
theorem kernelWorker_withinBudget_evicted :
    WithinBudget ((Request.loadToVram "b" "t" 1048576).perform
        ((Request.loadToVram "a" "t" 1048576).perform (KernelWorker.new 1))) ∧
      ∀ request : Request, request.Fits ((Request.loadToVram "b" "t" 1048576).perform
          ((Request.loadToVram "a" "t" 1048576).perform (KernelWorker.new 1))) →
        ∀ sum ∈ request.sums ((Request.loadToVram "b" "t" 1048576).perform
          ((Request.loadToVram "a" "t" 1048576).perform (KernelWorker.new 1))), sum < 2 ^ 64 := by
  have first : FittingLoads (KernelWorker.new 1) (.loadToVram "a" "t" 1048576)
      ((Request.loadToVram "a" "t" 1048576).perform (KernelWorker.new 1)) := by
    refine ⟨?_, rfl⟩
    intro _
    decide +kernel
  have second : FittingLoads ((Request.loadToVram "a" "t" 1048576).perform (KernelWorker.new 1))
      (.loadToVram "b" "t" 1048576)
      ((Request.loadToVram "b" "t" 1048576).perform
        ((Request.loadToVram "a" "t" 1048576).perform (KernelWorker.new 1))) := by
    refine ⟨?_, rfl⟩
    intro _
    decide +kernel
  exact kernelWorker_withinBudget ((Run.start.step first).step second)

/-- A page that is larger than the budget is loaded all the same. -/
theorem kernelWorker_not_withinBudget_large :
    ¬ WithinBudget ((Request.loadToVram "a" "t" 2097152).perform (KernelWorker.new 1)) := by
  unfold WithinBudget
  decide +kernel

end TriAI.Kernel
