import TriAI.Kernel.Worker
import TriAI.Library.Interaction

/-!
Contract: the operations of the memory manager on several threads (`kernel_worker.rs`).

Owns: the steps that an operation makes under its locks, each of which is one call here;
the operations as programs of these steps, which done by one thread alone are the
operations of `Kernel.Worker`; and how often each page was pinned and unpinned.

Does not own: the locks themselves (`Kernel.LockOrder`).
-/

set_option autoImplicit false

namespace TriAI.Kernel

open TriAI.Library.Interaction

/-- What is done under the locks, before any of them is given back. -/
inductive KernelOp where
  /-- Whether the chunk is in the VRAM map, and the size of that map. -/
  | inspect (chunkId : String)
  | recordAccess (chunkId : String)
  | evictColdEntries
  /-- `vram.insert` of `load_to_vram`. -/
  | storePage (chunkId tensorName : String) (size : UInt64)
  | pushEvent (event : MemoryEvent)
  /-- `pinned.contains`. -/
  | isPinned (chunkId : String)
  /-- The page goes from the VRAM map to the RAM map. -/
  | movePage (chunkId : String)
  | pinChunk (chunkId : String)
  | unpinChunk (chunkId : String)

@[reducible] def KernelOp.Reply : KernelOp → Type
  | .inspect _ => Bool × UInt64
  | .isPinned _ => Bool
  | .movePage _ => Option VramPage
  | _ => Unit

abbrev KernelProg (α : Type) : Type := Prog KernelOp KernelOp.Reply α

namespace KernelWorker

/-- A page as it is loaded. -/
def loadedPage (chunkId tensorName : String) (size : UInt64) : VramPage where
  key := { chunkId, tensorName }
  sizeBytes := size
  accessCount := 1
  isHot := false
  pinCount := 0

def storePage (worker : KernelWorker) (chunkId tensorName : String) (size : UInt64) :
    KernelWorker :=
  { worker with
    vramPages := worker.vramPages.insert chunkId (loadedPage chunkId tensorName size) }

def pushEvent (worker : KernelWorker) (event : MemoryEvent) : KernelWorker :=
  { worker with events := worker.events ++ [event] }

end KernelWorker

def KernelOp.apply : (op : KernelOp) → KernelWorker → op.Reply × KernelWorker
  | .inspect chunkId, worker => ((decide (chunkId ∈ worker.vramPages), worker.vramBytes), worker)
  | .recordAccess chunkId, worker => ((), worker.recordAccess chunkId)
  | .evictColdEntries, worker => ((), worker.evictColdEntries)
  | .storePage chunkId tensorName size, worker => ((), worker.storePage chunkId tensorName size)
  | .pushEvent event, worker => ((), worker.pushEvent event)
  | .isPinned chunkId, worker => (decide (chunkId ∈ worker.pinnedKeys), worker)
  | .movePage chunkId, worker => (worker.vramPages.lookup chunkId, worker.moveToRam chunkId)
  | .pinChunk chunkId, worker => ((), worker.pinChunk chunkId)
  | .unpinChunk chunkId, worker => ((), worker.unpinChunk chunkId)

/-! ## The operations -/

namespace KernelThreads

/-- `load_to_vram`, with the budget of the manager. -/
def loadToVram (vramBudgetBytes : UInt64) (chunkId tensorName : String) (size : UInt64) :
    KernelProg Unit := do
  let (present, vramBytes) ← Prog.perform (KernelOp.inspect chunkId)
  if present then Prog.perform (KernelOp.recordAccess chunkId)
  else do
    if vramBudgetBytes < vramBytes + size then Prog.perform KernelOp.evictColdEntries
    Prog.perform (KernelOp.storePage chunkId tensorName size)
    Prog.perform (KernelOp.pushEvent {
      tierFrom := .disk
      tierTo := .vram
      key := { chunkId, tensorName }
      sizeBytes := size
      reason := .load })

/-- `evict_to_ram`. -/
def evictToRam (chunkId : String) : KernelProg Unit := do
  let pinned : Bool ← Prog.perform (KernelOp.isPinned chunkId)
  if pinned then pure ()
  else do
    let moved : Option VramPage ← Prog.perform (KernelOp.movePage chunkId)
    match moved with
    | none => pure ()
    | some page =>
        Prog.perform (KernelOp.pushEvent {
          tierFrom := .vram
          tierTo := .ram
          key := page.key
          sizeBytes := page.sizeBytes
          reason := .evict })

end KernelThreads

/-- The operations a thread may run. -/
inductive IsKernelCall (vramBudgetBytes : UInt64) : KernelProg Unit → Prop where
  | loadToVram (chunkId tensorName : String) (size : UInt64) :
      IsKernelCall vramBudgetBytes
        (KernelThreads.loadToVram vramBudgetBytes chunkId tensorName size)
  | evictToRam (chunkId : String) : IsKernelCall vramBudgetBytes (KernelThreads.evictToRam chunkId)
  | evictColdEntries : IsKernelCall vramBudgetBytes (Prog.perform KernelOp.evictColdEntries)
  | pinChunk (chunkId : String) :
      IsKernelCall vramBudgetBytes (Prog.perform (KernelOp.pinChunk chunkId))
  | unpinChunk (chunkId : String) :
      IsKernelCall vramBudgetBytes (Prog.perform (KernelOp.unpinChunk chunkId))

/-- A thread alone loads as `Kernel.Worker` says. -/
theorem loadToVram_alone (worker : KernelWorker) (chunkId tensorName : String) (size : UInt64) :
    ((KernelThreads.loadToVram worker.vramBudgetBytes chunkId tensorName size).runWith
      KernelOp.apply worker).2 = worker.loadToVram chunkId tensorName size := by
  unfold KernelThreads.loadToVram KernelWorker.loadToVram
  by_cases present : chunkId ∈ worker.vramPages
  · simp [KernelOp.apply, present]
    rfl
  · by_cases full : worker.vramBudgetBytes < worker.vramBytes + size
    · simp [KernelOp.apply, present, full]
      rfl
    · simp [KernelOp.apply, present, full]
      rfl

/-- A thread alone evicts as `Kernel.Worker` says. -/
theorem evictToRam_alone (worker : KernelWorker) (chunkId : String) :
    ((KernelThreads.evictToRam chunkId).runWith KernelOp.apply worker).2 =
      worker.evictToRam chunkId := by
  unfold KernelThreads.evictToRam KernelWorker.evictToRam
  by_cases pinned : chunkId ∈ worker.pinnedKeys
  · simp [KernelOp.apply, pinned]
  · cases found : worker.vramPages.lookup chunkId with
    | none => simp [KernelOp.apply, KernelWorker.moveToRam, pinned, found]
    | some page =>
        simp [KernelOp.apply, KernelWorker.moveToRam, pinned, found]
        rfl

/-! ## Threads -/

/-- The manager, and how often the page of a chunk was pinned and unpinned since it was
loaded. -/
structure PinWorld where
  worker : KernelWorker
  pins : String → Nat := fun _ => 0
  unpins : String → Nat := fun _ => 0

/-- The count of what a call pins, unpins or loads anew. -/
def PinWorld.count (world : PinWorld) : KernelOp → PinWorld
  | .storePage chunkId _ _ =>
      if chunkId ∈ world.worker.vramPages then world
      else { world with
        pins := Function.update world.pins chunkId 0
        unpins := Function.update world.unpins chunkId 0 }
  | .pinChunk chunkId =>
      if chunkId ∈ world.worker.vramPages then
        { world with pins := Function.update world.pins chunkId (world.pins chunkId + 1) }
      else world
  | .unpinChunk chunkId =>
      if chunkId ∈ world.worker.vramPages then
        { world with unpins := Function.update world.unpins chunkId (world.unpins chunkId + 1) }
      else world
  | _ => world

/-- A call under the locks. -/
def PinWorld.Answers (world : PinWorld) (op : KernelOp) (reply : op.Reply) (after : PinWorld) :
    Prop :=
  ∃ worker, op.apply world.worker = (reply, worker) ∧ after = { world.count op with worker }

/-- Any number of threads that call the operations. -/
def pinSystem (vramBudgetBytes : UInt64) :
    System Nat KernelOp KernelOp.Reply Unit PinWorld where
  Offers := fun _ _ program => IsKernelCall vramBudgetBytes program
  Step := fun _ world op reply after => world.Answers op reply after
  Environment := fun _ _ => False

abbrev PinPool : Type := Pool Nat KernelOp KernelOp.Reply Unit PinWorld

/-- No thread has begun. -/
def freshPinPool (vramBudgetMb : UInt64) : PinPool where
  world := { worker := KernelWorker.new vramBudgetMb }
  activity := fun _ => .resting ()

end TriAI.Kernel
