import TriAI.Library.WeightedMap

/-!
Contract: the memory manager of `kernel_worker.rs`.

Owns: `KernelWorker` with its three page maps, and the operations that load, evict,
prefetch, classify, pin and unpin pages.

Does not own: the monitoring thread, the GPU query and the reports. Instants are left
out: nothing modelled reads them. A map is iterated in its stored order, which decides
nothing here: the entries that are evicted together are moved independently.
-/

set_option autoImplicit false

namespace TriAI.Kernel

open TriAI.Library.WeightedMap

structure PageKey where
  chunkId : String
  tensorName : String
deriving DecidableEq

structure VramPage where
  key : PageKey
  sizeBytes : UInt64
  accessCount : UInt64
  isHot : Bool
  pinCount : UInt32
deriving DecidableEq

structure RamPage where
  key : PageKey
  sizeBytes : UInt64
  diskOffset : UInt64
  accessSinceEviction : UInt64
deriving DecidableEq

structure DiskPage where
  key : PageKey
  sizeBytes : UInt64
deriving DecidableEq

inductive MemoryTier where
  | vram
  | ram
  | disk
deriving DecidableEq

/-- The reasons the operations give. -/
inductive MemoryEventReason where
  | load
  | evict
deriving DecidableEq

structure MemoryEvent where
  tierFrom : MemoryTier
  tierTo : MemoryTier
  key : PageKey
  sizeBytes : UInt64
  reason : MemoryEventReason
deriving DecidableEq

structure ExpertEvent where
  layerId : UInt32
  expertIds : List UInt32
deriving DecidableEq

structure KernelWorker where
  vramPages : AList fun _ : String => VramPage
  ramPages : AList fun _ : String => RamPage
  diskPages : AList fun _ : String => DiskPage
  events : List MemoryEvent
  hotKeys : Finset String
  coldKeys : Finset String
  pinnedKeys : Finset String
  vramBudgetBytes : UInt64

namespace KernelWorker

/-- `KernelWorker::new`. -/
def new (vramBudgetMb : UInt64) : KernelWorker where
  vramPages := ∅
  ramPages := ∅
  diskPages := ∅
  events := []
  hotKeys := ∅
  coldKeys := ∅
  pinnedKeys := ∅
  vramBudgetBytes := vramBudgetMb * 1024 * 1024

/-- The size of a page of the VRAM map. -/
def pageBytes (entry : Sigma fun _ : String => VramPage) : Nat := entry.2.sizeBytes.toNat

variable (worker : KernelWorker)

/-- The exact sum of the sizes in the VRAM map. -/
def vramTotal : Nat := total pageBytes worker.vramPages

/-- `vram.values().map(|p| p.size_bytes).sum()`, which wraps. -/
def vramBytes : UInt64 := UInt64.ofNat worker.vramTotal

/-- An entry `evict_cold_entries` selects. -/
def IsCold (entry : Sigma fun _ : String => VramPage) : Prop :=
  entry.1 ∉ worker.pinnedKeys ∧ entry.2.isHot = false

instance (entry : Sigma fun _ : String => VramPage) : Decidable (worker.IsCold entry) := by
  unfold IsCold
  infer_instance

/-- The RAM page of an evicted page. -/
def evictedPage (page : VramPage) : RamPage where
  key := page.key
  sizeBytes := page.sizeBytes
  diskOffset := 0
  accessSinceEviction := 0

/-- One round of the loop of `evict_cold_entries`. -/
def moveToRam (key : String) : KernelWorker :=
  match worker.vramPages.lookup key with
  | none => worker
  | some page =>
      { worker with
        vramPages := worker.vramPages.erase key
        ramPages := worker.ramPages.insert key (evictedPage page) }

/-- `evict_cold_entries`. -/
def evictColdEntries : KernelWorker :=
  let coldEntries :=
    (worker.vramPages.entries.filter fun entry => decide (worker.IsCold entry)).map Sigma.fst
  coldEntries.foldl moveToRam worker

/-- `record_access`. -/
def recordAccess (chunkId : String) : KernelWorker :=
  match worker.vramPages.lookup chunkId with
  | none => worker
  | some page =>
      let accessCount := page.accessCount + 1
      let page := { page with accessCount, isHot := decide (3 < accessCount) }
      { worker with vramPages := worker.vramPages.insert chunkId page }

/-- The insertion at the end of `load_to_vram`. -/
def insertPage (chunkId tensorName : String) (size : UInt64) : KernelWorker :=
  let key : PageKey := { chunkId, tensorName }
  let page : VramPage := { key, sizeBytes := size, accessCount := 1, isHot := false, pinCount := 0 }
  { worker with
    vramPages := worker.vramPages.insert chunkId page
    events := worker.events ++
      [{ tierFrom := .disk, tierTo := .vram, key, sizeBytes := size, reason := .load }] }

/-- `load_to_vram`. -/
def loadToVram (chunkId tensorName : String) (size : UInt64) : KernelWorker :=
  if chunkId ∈ worker.vramPages then worker.recordAccess chunkId
  else if worker.vramBudgetBytes < worker.vramBytes + size then
    worker.evictColdEntries.insertPage chunkId tensorName size
  else worker.insertPage chunkId tensorName size

/-- `evict_to_ram`. -/
def evictToRam (chunkId : String) : KernelWorker :=
  if chunkId ∈ worker.pinnedKeys then worker
  else
    match worker.vramPages.lookup chunkId with
    | none => worker
    | some page =>
        { worker with
          vramPages := worker.vramPages.erase chunkId
          ramPages := worker.ramPages.insert chunkId (evictedPage page)
          events := worker.events ++
            [{ tierFrom := .vram, tierTo := .ram, key := page.key, sizeBytes := page.sizeBytes,
               reason := .evict }] }

/-- The routing decisions in order: a layer and one of its experts. -/
def decisions (events : List ExpertEvent) : List (UInt32 × UInt32) :=
  events.flatMap fun event => event.expertIds.map fun expertId => (event.layerId, expertId)

/-- `classify_experts`: a key is hot from three decisions on. -/
def classifyExperts (events : List ExpertEvent) : KernelWorker :=
  let keys := (decisions events).map fun decision =>
    toString decision.1.toNat ++ "_" ++ toString decision.2.toNat
  { worker with
    hotKeys := keys.toFinset.filter fun key => 3 ≤ keys.count key
    coldKeys := keys.toFinset.filter fun key => ¬ 3 ≤ keys.count key }

/-- `expert_{layer}_{expert}`. -/
def expertChunkId (decision : UInt32 × UInt32) : String :=
  "expert_" ++ toString decision.1.toNat ++ "_" ++ toString decision.2.toNat

def expertTensorName (decision : UInt32 × UInt32) : String :=
  "blk." ++ toString decision.1.toNat ++ ".ffn_gate." ++ toString decision.2.toNat

/-- The size `prefetch_experts` assumes for an expert. -/
def expertBytes : UInt64 := 64 * 1024 * 1024

/-- One round of the loop of `prefetch_experts`. -/
def prefetchExpert (decision : UInt32 × UInt32) : KernelWorker :=
  if expertChunkId decision ∈ worker.vramPages then worker.recordAccess (expertChunkId decision)
  else worker.loadToVram (expertChunkId decision) (expertTensorName decision) expertBytes

/-- `prefetch_experts`. -/
def prefetchExperts (events : List ExpertEvent) : KernelWorker :=
  (decisions events).foldl prefetchExpert worker

/-- `sync_expert_events`. -/
def syncExpertEvents (events : List ExpertEvent) : KernelWorker :=
  (worker.classifyExperts events).prefetchExperts events

/-- `pin_chunk`. -/
def pinChunk (chunkId : String) : KernelWorker :=
  match worker.vramPages.lookup chunkId with
  | none => worker
  | some page =>
      { worker with
        vramPages := worker.vramPages.insert chunkId { page with pinCount := page.pinCount + 1 }
        pinnedKeys := insert chunkId worker.pinnedKeys }

/-- `unpin_chunk`. -/
def unpinChunk (chunkId : String) : KernelWorker :=
  match worker.vramPages.lookup chunkId with
  | none => worker
  | some page =>
      let page := if 0 < page.pinCount then { page with pinCount := page.pinCount - 1 } else page
      { worker with
        vramPages := worker.vramPages.insert chunkId page
        pinnedKeys :=
          if page.pinCount = 0 then worker.pinnedKeys.erase chunkId else worker.pinnedKeys }

end KernelWorker

/-- The calls of the manager. -/
inductive Request where
  | loadToVram (chunkId tensorName : String) (size : UInt64)
  | prefetchExperts (events : List ExpertEvent)
  | syncExpertEvents (events : List ExpertEvent)
  | evictToRam (chunkId : String)
  | evictColdEntries
  | pinChunk (chunkId : String)
  | unpinChunk (chunkId : String)
  | recordAccess (chunkId : String)

def Request.perform (worker : KernelWorker) : Request → KernelWorker
  | .loadToVram chunkId tensorName size => worker.loadToVram chunkId tensorName size
  | .prefetchExperts events => worker.prefetchExperts events
  | .syncExpertEvents events => worker.syncExpertEvents events
  | .evictToRam chunkId => worker.evictToRam chunkId
  | .evictColdEntries => worker.evictColdEntries
  | .pinChunk chunkId => worker.pinChunk chunkId
  | .unpinChunk chunkId => worker.unpinChunk chunkId
  | .recordAccess chunkId => worker.recordAccess chunkId

end TriAI.Kernel
