import TriAI.Chunk.Cache
import TriAI.Chunk.Packer

/-!
Contract: loading chunks of an archive, `chunk/loader.rs`, and rebuilding a chunk from the
original GGUF file, `chunk/rollback.rs`.

Owns: `FallbackReader` and `reconstructChunk`; `ChunkLoader`, how it is opened, `loadChunk` as a
program whose critical sections and file reads are single calls, and what each call does to the
shared cache.

Does not own: the threads that run these programs. The build is the workspace's release build,
where a panic unwinds and arithmetic wraps: nothing under the cache lock panics, so it is never
poisoned. The file mapped for the fallback is the content it had when it was opened.
-/

set_option autoImplicit false

namespace TriAI.Chunk

open TriAI.Library.FileTree
open TriAI.Library.Interaction
open TriAI.Library.MachineInt

/-! ## Rebuilding a chunk -/

/-- `FallbackReader`. -/
structure FallbackReader where
  map : ByteVec
  path : Path
deriving DecidableEq

namespace FallbackReader

/-- `FallbackReader::open`. -/
def openAt (crates : Crates) (path : Path) (expectedDigest : String) : Fs FallbackReader := do
  let map ← Fs.read path
  if map.bytes.length < 4 ∨ map.bytes.take 4 ≠ Gguf.magic then
    throw (.other "fallback is not a GGUF")
  else do
    let digest ← sha256OfFile crates path
    if digest ≠ expectedDigest then
      throw (.other "fallback GGUF digest mismatch")
    else
      pure { map, path }

/-- `read_span`. -/
def readSpan (reader : FallbackReader) (offset size : UInt64) :
    Except TriAIError (List UInt8) :=
  match checkedAdd offset size with
  | none => .error (.other "fallback span overflow")
  | some stop =>
      if reader.map.bytes.length < stop.toNat then
        .error (.other ("fallback span exceeds " ++ "/".intercalate reader.path))
      else
        .ok ((reader.map.bytes.drop offset.toNat).take size.toNat)

end FallbackReader

/-- One round of the loop of `reconstruct_chunk`. -/
def reconstructTensor (reader : FallbackReader) (index : TensorIndex) (out : ByteVec)
    (name : String) : Except TriAIError ByteVec :=
  match index.tensors.find? (·.name = name) with
  | none => .error (.other "fallback tensor missing from index")
  | some tensor =>
      match tensor.dataOffset with
      | none => .error (.other "legacy index lacks absolute data offset")
      | some offset => do
          let span ← reader.readSpan offset tensor.size
          extend out span

/-- `reconstruct_chunk`. -/
def reconstructChunk (reader : FallbackReader) (index : TensorIndex) (names : List String) :
    Except TriAIError ByteVec :=
  names.foldlM (reconstructTensor reader index) emptyVec

/-! ## Loading -/

/-- `LoaderConfig`. -/
structure LoaderConfig where
  cacheBudgetBytes : UInt64 := 512 * 1024 * 1024
  verifyOnLoad : Bool := true
  fallbackGgufPath : Option Path := none

/-- `ChunkLoader` but for the cache, which its programs share. -/
structure ChunkLoader where
  archive : Path
  manifest : ChunkManifest
  index : TensorIndex
  config : LoaderConfig
  fallback : Option FallbackReader

namespace ChunkLoader

/-- The `fallback` of `ChunkLoader::open`. -/
def openFallback (crates : Crates) (config : LoaderConfig) (index : TensorIndex) :
    Fs (Option FallbackReader) :=
  match config.fallbackGgufPath with
  | none => pure none
  | some path => do
      let reader ← FallbackReader.openAt crates path index.ggufSha256
      pure (some reader)

/-- `ChunkLoader::open`: the loader and its empty cache. -/
def openAt (crates : Crates) (dir : Path) (config : LoaderConfig) : Fs (ChunkLoader × Cache) := do
  let manifestBytes ← Fs.read (dir ++ ["manifest.json"])
  let manifest ← Fs.ofExcept
    (decoded (.serialization "manifest") (crates.manifestFromJson manifestBytes.bytes))
  let indexBytes ← Fs.read (dir ++ ["tensor_index.json"])
  let index ← Fs.ofExcept
    (decoded (.serialization "tensor_index") (crates.indexFromJson indexBytes.bytes))
  let fallback ← openFallback crates config index
  pure ({ archive := dir, manifest, index, config, fallback },
    Cache.new config.cacheBudgetBytes)

end ChunkLoader

/-! ## The calls of a loader -/

/-- A file read, the clock, and the critical sections on the cache. -/
inductive LoaderOp where
  | readFile (path : Path)
  | now
  | lookup (id : String)
  | insert (chunk : LoadedChunk)
  | clear
  | stats

@[reducible] def LoaderOp.Reply : LoaderOp → Type
  | .readFile _ => Except IoError ByteVec
  | .now => Nat
  | .lookup _ => Option LoadedChunk
  | .insert _ => Unit
  | .clear => Unit
  | .stats => CacheStats

/-- What a call does to the cache, when file reads are answered by `reads`. The
clock and the iteration order of the map are arbitrary. -/
def LoaderOp.Answers (reads : Path → Except IoError ByteVec → Prop) (cache : Cache) :
    (op : LoaderOp) → op.Reply → Cache → Prop
  | .readFile path, reply, after => reads path reply ∧ after = cache
  | .now, _, after => after = cache
  | .lookup id, reply, after => ∃ now, (reply, after) = cache.get now id
  | .insert chunk, _, after => ∃ order, after = cache.insert order chunk
  | .clear, _, after => after = cache.clear
  | .stats, reply, after => reply = cache.stats ∧ after = cache

/-- A program of a loader that may fail. -/
abbrev Loading (α : Type) : Type := Fallible TriAIError LoaderOp LoaderOp.Reply α

namespace Loading

def readFile (path : Path) : Loading ByteVec :=
  Fallible.attempt TriAIError.io (Prog.perform (LoaderOp.readFile path))

def now : Loading Nat := ExceptT.lift (Prog.perform LoaderOp.now)

def lookup (id : String) : Loading (Option LoadedChunk) :=
  ExceptT.lift (Prog.perform (LoaderOp.lookup id))

def insert (chunk : LoadedChunk) : Loading Unit :=
  ExceptT.lift (Prog.perform (LoaderOp.insert chunk))

def clear : Loading Unit := ExceptT.lift (Prog.perform LoaderOp.clear)

def stats : Loading CacheStats := ExceptT.lift (Prog.perform LoaderOp.stats)

/-- A pure step that may fail. -/
def ofExcept {α : Type} (result : Except TriAIError α) : Loading α := ExceptT.mk (.ret result)

end Loading

namespace ChunkLoader

/-- What `load_primary` does with the bytes it read. -/
def acceptStored (crates : Crates) (loader : ChunkLoader) (desc : ChunkDescriptor)
    (packed : ByteVec) : Except TriAIError ByteVec := do
  let data ← decodeStored crates desc packed
  if loader.config.verifyOnLoad ∧ ¬ matchesChunk crates desc data then
    .error (.other "chunk integrity verification failed")
  else .ok data

def loadPrimary (crates : Crates) (loader : ChunkLoader) (desc : ChunkDescriptor) :
    Loading ByteVec := do
  let packed ← Loading.readFile (chunkPath loader.archive desc.chunkId)
  Loading.ofExcept (loader.acceptStored crates desc packed)

/-- The check of the fallback arm of `load_chunk`. -/
def acceptRebuilt (crates : Crates) (desc : ChunkDescriptor) (data : ByteVec) :
    Except TriAIError ByteVec :=
  if ¬ matchesChunk crates desc data then
    .error (.other "fallback chunk integrity verification failed")
  else .ok data

/-- The fallback arm of `load_chunk`, after `primaryError`. -/
def loadFallback (crates : Crates) (loader : ChunkLoader) (desc : ChunkDescriptor)
    (primaryError : TriAIError) : Except TriAIError ByteVec :=
  match loader.fallback with
  | none => .error primaryError
  | some fallback => do
      let data ← reconstructChunk fallback loader.index desc.tensorNames
      acceptRebuilt crates desc data

/-- The data of a chunk from disk and whether it was verified. -/
def loadFromDisk (crates : Crates) (loader : ChunkLoader) (desc : ChunkDescriptor) :
    Loading (ByteVec × Bool) := do
  match ← Fallible.capture (loader.loadPrimary crates desc) with
  | .ok data => pure (data, loader.config.verifyOnLoad)
  | .error primaryError => do
      let data ← Loading.ofExcept (loader.loadFallback crates desc primaryError)
      pure (data, true)

/-- `load_chunk`. -/
def loadChunk (crates : Crates) (loader : ChunkLoader) (id : String) :
    Loading LoadedChunk := do
  match ← Loading.lookup id with
  | some chunk => pure chunk
  | none =>
      match loader.manifest.chunks.find? (·.chunkId = id) with
      | none => throw (.other "unknown chunk")
      | some desc => do
          let (data, verified) ← loader.loadFromDisk crates desc
          let lastAccessed ← Loading.now
          let chunk : LoadedChunk := { chunkId := id, data, verified, lastAccessed }
          Loading.insert chunk
          pure chunk

end ChunkLoader

end TriAI.Chunk
