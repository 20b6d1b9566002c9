import TriAI.Library.MachineInt

/-!
Contract: the resource planner of `planner.rs`.

Owns: `planWithRuntime` with all its lanes, the memory estimates it makes, the
normalisation of resources and the identifiers of plans and generations.

Does not own: what the lanes guarantee (`Planner.Safety`).

The floating-point share of layers that the RAM-balanced lane puts on the GPU is
the parameter `LayerShare`; `exactLayerShare` is its value in exact arithmetic.
-/

set_option autoImplicit false

namespace TriAI.Planner

open TriAI.Library.MachineInt

structure Resources where
  vramFreeMb : UInt64
  ramFreeMb : UInt64
  ssdFreeMb : UInt64
  vramReserveMb : UInt64
  ramReserveMb : UInt64
  ssdReserveMb : UInt64
deriving DecidableEq, Repr

structure ModelProfile where
  model : String
  fileSizeMb : UInt64
  estimatedGpuMb : UInt64
  estimatedRamMb : UInt64
  layers : UInt32
  contextTokens : UInt32
  requestedContextTokens : UInt32
deriving DecidableEq, Repr

/-- Runtime shares that do not follow from the GGUF file size. -/
structure RuntimeMemoryConfig where
  parallelSlots : UInt32
  kvBytesPerToken : UInt64
  computeOverheadMb : UInt64
deriving DecidableEq, Repr

namespace RuntimeMemoryConfig

def f16KvBytesPerToken : UInt64 := 64 * 1024

def q8KvBytesPerToken : UInt64 := 32 * 1024

/-- `RuntimeMemoryConfig::default()`. -/
def default : RuntimeMemoryConfig where
  parallelSlots := 1
  kvBytesPerToken := f16KvBytesPerToken
  computeOverheadMb := 256

end RuntimeMemoryConfig

inductive Lane where
  | gpuFast
  | ramBalanced
  | cpuSafe
  | reject
deriving DecidableEq, Repr

structure Plan where
  planId : String
  resourceGeneration : String
  model : String
  lane : Lane
  gpuLayers : UInt32
  ctxSize : UInt32
  estimatedVramMb : UInt64
  estimatedRamMb : UInt64
  reason : String
  safe : Bool
deriving DecidableEq, Repr

/-! ## Identifiers -/

/-- `StableHash`: four FNV-style words. -/
structure StableHash where
  state : List UInt64
deriving DecidableEq, Repr

namespace StableHash

def prime : UInt64 := 0x00000100000001b3

def new : StableHash :=
  ⟨[0xcbf29ce484222325, 0x84222325cbf29ce4, 0x9e3779b97f4a7c15, 0x517cc1b727220a95]⟩

/-- Every word absorbs every byte; `index` is the word's position. -/
def absorb (hash : StableHash) (bytes : List UInt8) : StableHash :=
  ⟨hash.state.mapIdx fun index word =>
    bytes.foldl (fun word byte => (word ^^^ (byte.toUInt64 + UInt64.ofNat index)) * prime)
      word⟩

/-- `to_le_bytes`. -/
def leBytes (value : UInt64) : List UInt8 :=
  (List.range 8).map fun index => (value >>> UInt64.ofNat (8 * index)).toUInt8

def writeU64 (hash : StableHash) (value : UInt64) : StableHash :=
  hash.absorb (leBytes value)

def writeBytes (hash : StableHash) (bytes : List UInt8) : StableHash :=
  (hash.writeU64 (UInt64.ofNat bytes.length)).absorb bytes

def writeStr (hash : StableHash) (text : String) : StableHash :=
  hash.writeBytes text.toByteArray.data.toList

end StableHash

/-- `{:016x}`. -/
def hex16 (word : UInt64) : String :=
  let digits := Nat.toDigits 16 word.toNat
  String.ofList (List.replicate (16 - digits.length) '0' ++ digits)

/-- Free capacities rounded down to multiples of 64 MiB; reserves unchanged. -/
def normalizeResources (resources : Resources) : Resources :=
  let floor := fun (value : UInt64) => value / 64 * 64
  { resources with
    vramFreeMb := floor resources.vramFreeMb
    ramFreeMb := floor resources.ramFreeMb
    ssdFreeMb := floor resources.ssdFreeMb }

def resourceGenerationFromNormalized (resources : Resources) : UInt64 :=
  let hash := (StableHash.new.writeStr "tri-ai-resource-generation-v1").writeU64
    resources.vramFreeMb
  let hash := (hash.writeU64 resources.ramFreeMb).writeU64 resources.ssdFreeMb
  let hash := (hash.writeU64 resources.vramReserveMb).writeU64 resources.ramReserveMb
  (hash.writeU64 resources.ssdReserveMb).state.headD 0

def resourceGeneration (resources : Resources) : String :=
  "resources-v1-" ++ hex16 (resourceGenerationFromNormalized (normalizeResources resources))

def Lane.tag : Lane → UInt64
  | .gpuFast => 1
  | .ramBalanced => 2
  | .cpuSafe => 3
  | .reject => 4

/-- Put the plan's identifier into the plan. -/
def identifiedPlan (profile : ModelProfile) (resourceGeneration : UInt64) (plan : Plan) :
    Plan :=
  let hash := (StableHash.new.writeStr "tri-ai-plan-v1").writeStr profile.model
  let hash := (hash.writeU64 profile.fileSizeMb).writeU64 profile.estimatedGpuMb
  let hash := (hash.writeU64 profile.estimatedRamMb).writeU64 profile.layers.toUInt64
  let hash := hash.writeU64 profile.contextTokens.toUInt64
  let hash := hash.writeU64 profile.requestedContextTokens.toUInt64
  let hash := (hash.writeU64 resourceGeneration).writeU64 plan.lane.tag
  let hash := (hash.writeU64 plan.gpuLayers.toUInt64).writeU64 plan.ctxSize.toUInt64
  let hash := (hash.writeU64 plan.estimatedVramMb).writeU64 plan.estimatedRamMb
  let hash := hash.writeU64 (if plan.safe then 1 else 0)
  { plan with planId := "plan-v1-" ++ String.join (hash.state.map hex16) }

/-! ## Estimates -/

/-- Normalised free VRAM less the reserve. -/
def usableVram (resources : Resources) : UInt64 :=
  saturatingSub resources.vramFreeMb resources.vramReserveMb

def usableRam (resources : Resources) : UInt64 :=
  saturatingSub resources.ramFreeMb resources.ramReserveMb

def usableSsd (resources : Resources) : UInt64 :=
  saturatingSub resources.ssdFreeMb resources.ssdReserveMb

def ctxSize (profile : ModelProfile) : UInt32 :=
  max (min profile.requestedContextTokens profile.contextTokens) 512

/-- KV cache in MiB: tokens times slots times bytes per token, rounded up. -/
def kvOverhead (profile : ModelProfile) (runtime : RuntimeMemoryConfig) : UInt64 :=
  divCeil
    (saturatingMul
      (saturatingMul (ctxSize profile).toUInt64 (max runtime.parallelSlots 1).toUInt64)
      runtime.kvBytesPerToken)
    1048576

def gpuOverhead (profile : ModelProfile) (runtime : RuntimeMemoryConfig) : UInt64 :=
  saturatingAdd (kvOverhead profile runtime) runtime.computeOverheadMb

def gpuNeed (profile : ModelProfile) (runtime : RuntimeMemoryConfig) : UInt64 :=
  saturatingAdd profile.estimatedGpuMb (gpuOverhead profile runtime)

def ramNeed (profile : ModelProfile) (runtime : RuntimeMemoryConfig) : UInt64 :=
  saturatingAdd profile.estimatedRamMb (kvOverhead profile runtime)

/-- `((layers as f64) * (usable_vram as f64 / estimated_gpu.max(1) as f64)).floor() as u32`
as a function of `layers`, `usable_vram` and `estimated_gpu`. -/
abbrev LayerShare := UInt32 → UInt64 → UInt64 → UInt32

/-- The share in exact rationals, saturating like the cast to `u32`. -/
def exactLayerShare : LayerShare := fun layers usableVram estimatedGpu =>
  UInt32.ofNat
    (min (layers.toNat * usableVram.toNat / max estimatedGpu.toNat 1) (2 ^ 32 - 1))

/-! ## Planning -/

/-- The lane `plan_with_runtime` takes for normalised resources. The two
rejections differ in their texts and estimates. -/
inductive Decision where
  | unknownLayers
  | gpuFast
  | ramBalanced
  | cpuSafe
  | noLane
deriving DecidableEq, Repr

def decision (profile : ModelProfile) (resources : Resources)
    (runtime : RuntimeMemoryConfig) : Decision :=
  if profile.layers = 0 ∨ profile.layers = 999 then
    .unknownLayers
  else if gpuNeed profile runtime ≤ usableVram resources then
    .gpuFast
  else if ramNeed profile runtime ≤ usableRam resources ∧
      profile.fileSizeMb ≤ usableSsd resources then
    .ramBalanced
  else if profile.fileSizeMb ≤ usableSsd resources ∧
      kvOverhead profile runtime ≤ usableRam resources then
    .cpuSafe
  else
    .noLane

/-- The plan of a decision, still without its identifier. -/
def draft (share : LayerShare) (profile : ModelProfile) (resources : Resources)
    (runtime : RuntimeMemoryConfig) (generation : String) : Decision → Plan
  | .unknownLayers =>
      { planId := "", resourceGeneration := generation, model := profile.model
        lane := .reject
        gpuLayers := 0
        ctxSize := ctxSize profile
        estimatedVramMb := 0
        estimatedRamMb := ramNeed profile runtime
        reason := "reale GGUF-Layerzahl erforderlich; 999 ist nur ein llama.cpp-Sentinel"
        safe := false }
  | .gpuFast =>
      { planId := "", resourceGeneration := generation, model := profile.model
        lane := .gpuFast
        gpuLayers := profile.layers
        ctxSize := ctxSize profile
        estimatedVramMb := gpuNeed profile runtime
        estimatedRamMb := ramNeed profile runtime
        reason := "Modell passt mit Reserve in den GPU-Slot"
        safe := true }
  | .ramBalanced =>
      { planId := "", resourceGeneration := generation, model := profile.model
        lane := .ramBalanced
        gpuLayers :=
          min (share profile.layers (usableVram resources) profile.estimatedGpuMb)
            (if profile.layers = 0 then 0 else profile.layers - 1)
        ctxSize := ctxSize profile
        estimatedVramMb := min (usableVram resources) (gpuNeed profile runtime)
        estimatedRamMb := ramNeed profile runtime
        reason := "GPU-Slot reicht nicht vollständig; RAM/SSD-Puffer verfügbar"
        safe := true }
  | .cpuSafe =>
      { planId := "", resourceGeneration := generation, model := profile.model
        lane := .cpuSafe
        gpuLayers := 0
        ctxSize := ctxSize profile
        estimatedVramMb := kvOverhead profile runtime
        estimatedRamMb := ramNeed profile runtime
        reason := "Nur CPU-Safe-Lane innerhalb der harten Speichergrenzen"
        safe := true }
  | .noLane =>
      { planId := "", resourceGeneration := generation, model := profile.model
        lane := .reject
        gpuLayers := 0
        ctxSize := ctxSize profile
        estimatedVramMb := 0
        estimatedRamMb := 0
        reason := "Keine sichere Lane: Speicherreserven würden verletzt"
        safe := false }

def planWithRuntime (share : LayerShare) (profile : ModelProfile) (resources : Resources)
    (runtime : RuntimeMemoryConfig) : Plan :=
  let resources := normalizeResources resources
  let generationHash := resourceGenerationFromNormalized resources
  identifiedPlan profile generationHash
    (draft share profile resources runtime ("resources-v1-" ++ hex16 generationHash)
      (decision profile resources runtime))

def plan (share : LayerShare) (profile : ModelProfile) (resources : Resources) : Plan :=
  planWithRuntime share profile resources .default

end TriAI.Planner
