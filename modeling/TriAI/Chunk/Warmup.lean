import TriAI.Chunk.Loader
import TriAI.Library.Subprogram

/-!
Contract: the warmup of an archive, `chunk/warmup.rs`.

Owns: `WarmupStrategy` and its `execute` as a program over the calls of a loader: which chunks
it plans, in which order it loads them, and its report.

Does not own: what a load does (`Chunk.Loader`), and the figures derived from a report.
-/

set_option autoImplicit false

namespace TriAI.Chunk

open TriAI.Library.Interaction

/-- `ChunkLoadMetric`; a duration is a number of ticks. -/
structure ChunkLoadMetric where
  chunkId : String
  categories : List TensorCategory
  duration : Nat
  bytes : UInt64
  wasCacheHit : Bool
deriving DecidableEq, Repr

/-- `WarmupReport`. -/
structure WarmupReport where
  totalDuration : Nat
  chunksLoaded : UInt32
  tensorsCovered : UInt32
  perChunk : List ChunkLoadMetric
  cacheHits : UInt64
deriving DecidableEq, Repr

/-- `WarmupConfig`. -/
structure WarmupConfig where
  maxChunks : UInt64 := 0
  strictOrder : Bool := true
  criticalOnly : Bool := false
deriving DecidableEq, Repr

/-- `WarmupStrategy`; of the kernel worker it matters whether there is one. -/
structure WarmupStrategy where
  config : WarmupConfig
  hasKernel : Bool := false

/-! ## The work list -/

/-- What `planned` holds for a chunk. -/
structure Planned where
  priority : UInt8
  categories : List TensorCategory
deriving DecidableEq, Repr

/-- `entry(..).or_insert(..)` and what is done with the entry. -/
def Planned.add (category : TensorCategory) (entry : Option Planned) : Planned :=
  let entry := entry.getD { priority := category.warmupPriority, categories := [] }
  { priority := min entry.priority category.warmupPriority
    categories :=
      if category ∈ entry.categories then entry.categories else entry.categories ++ [category] }

/-- The body of the planning loop. -/
def planTensor (planned : Std.TreeMap String Planned) (tensor : TensorEntry) :
    Std.TreeMap String Planned :=
  match tensor.chunkId with
  | none => planned
  | some id => planned.alter id fun entry => some (Planned.add tensor.category entry)

/-- The planning loop. -/
def planTensors (eager : List TensorEntry) : Std.TreeMap String Planned :=
  eager.foldl planTensor ∅

/-- The first comparison: by priority, then by id. -/
def WorkLe (first second : String × Planned) : Prop :=
  first.2.priority < second.2.priority ∨
    first.2.priority = second.2.priority ∧ first.1 ≤ second.1

instance : DecidableRel WorkLe := fun first second =>
  inferInstanceAs (Decidable (first.2.priority < second.2.priority ∨
    first.2.priority = second.2.priority ∧ first.1 ≤ second.1))

def WarmupConfig.truncate (config : WarmupConfig) (work : List (String × Planned)) :
    List (String × Planned) :=
  if config.criticalOnly then work.take 3
  else if 0 < config.maxChunks then work.take config.maxChunks.toNat
  else work

/-- The chunks `execute` loads, in its order. The sorts are stable. -/
def WarmupConfig.work (config : WarmupConfig) (index : TensorIndex) : List (String × Planned) :=
  let work := config.truncate ((planTensors index.eagerTensors).toList.insertionSort WorkLe)
  if config.strictOrder then work.insertionSort fun first second => first.1 ≤ second.1
  else work

/-! ## Execution -/

/-- The calls of a loader, and `KernelWorker::record_access`. -/
inductive WarmupOp where
  | loader (op : LoaderOp)
  | recordAccess (key : String)

@[reducible] def WarmupOp.Reply : WarmupOp → Type
  | .loader op => op.Reply
  | .recordAccess _ => Unit

/-- A program of the warmup. -/
abbrev Warming (α : Type) : Type := Fallible TriAIError WarmupOp WarmupOp.Reply α

namespace Warming

def onLoader {α : Type} (program : Loading α) : Warming α :=
  ExceptT.mk (program.run.embed .loader fun _ reply => reply)

def recordAccess (key : String) : Warming Unit :=
  ExceptT.lift (Prog.perform (WarmupOp.recordAccess key))

end Warming

/-- The body of the loading loop. -/
def warmChunk (crates : Crates) (loader : ChunkLoader) (id : String)
    (categories : List TensorCategory) : Warming ChunkLoadMetric := do
  let stamp ← Warming.onLoader Loading.now
  let pre ← Warming.onLoader Loading.stats
  let chunk ← Warming.onLoader (loader.loadChunk crates id)
  let post ← Warming.onLoader Loading.stats
  let loaded ← Warming.onLoader Loading.now
  pure
    { chunkId := id
      categories
      duration := loaded - stamp
      bytes := chunk.memoryBytes
      wasCacheHit := pre.hits < post.hits }

/-- The loading loop; `?` ends it at the first chunk that cannot be loaded. -/
def warmChunks (crates : Crates) (loader : ChunkLoader) :
    List (String × Planned) → Warming (List ChunkLoadMetric)
  | [] => pure []
  | (id, planned) :: rest => do
      let metric ← warmChunk crates loader id planned.categories
      let metrics ← warmChunks crates loader rest
      pure (metric :: metrics)

/-- A strategy with a kernel worker records the access. -/
def WarmupStrategy.recordEager (strategy : WarmupStrategy) : Warming Unit :=
  if strategy.hasKernel then Warming.recordAccess "eager" else pure ()

/-- `execute`. -/
def WarmupStrategy.execute (crates : Crates) (strategy : WarmupStrategy) (loader : ChunkLoader) :
    Warming WarmupReport := do
  let start ← Warming.onLoader Loading.now
  let eager := loader.index.eagerTensors
  strategy.recordEager
  let before ← Warming.onLoader Loading.stats
  let perChunk ← warmChunks crates loader (strategy.config.work loader.index)
  let loaded ← Warming.onLoader Loading.now
  let after ← Warming.onLoader Loading.stats
  pure
    { totalDuration := loaded - start
      chunksLoaded := UInt32.ofNat perChunk.length
      tensorsCovered := UInt32.ofNat eager.length
      perChunk
      cacheHits := after.hits - before.hits }

end TriAI.Chunk
