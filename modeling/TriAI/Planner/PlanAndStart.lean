import TriAI.Planner.Requests

/-!
Contract: the automatic plan and the start that follows it.

Owns: when a plan is safe, in plain numbers; what the automatic plan and the start plan for;
and the exact inputs on which a start does not deny the resources that the automatic plan
found safe.

Does not own: the requests.
-/

set_option autoImplicit false

namespace TriAI.Planner

open TriAI.Chat (ApiError ApiErrorCode)
open TriAI.GgufRegistry (GgufMetadata)
open TriAI.Library.MachineInt
open TriAI.Supervisor (WorkerConfig WorkerFailure WorkerFailureCode)

/-! ## Safe plans -/

/-- The usable capacities in MiB. -/
structure Room where
  vram : Nat
  ram : Nat
  ssd : Nat

def roomOf (resources : Resources) : Room where
  vram := (usableVram (normalizeResources resources)).toNat
  ram := (usableRam (normalizeResources resources)).toNat
  ssd := (usableSsd (normalizeResources resources)).toNat

/-- The KV cache of a context, in MiB, at 64 KiB a token. -/
def kvMib (context : Nat) : Nat := (max context 512 + 15) / 16

/-- Some lane holds a model of a size with a KV cache. -/
def Room.Holds (room : Room) (size kv : Nat) : Prop :=
  size + kv + 256 ≤ room.vram ∨ size ≤ room.ssd ∧ kv ≤ room.ram

instance (room : Room) (size kv : Nat) : Decidable (room.Holds size kv) := by
  unfold Room.Holds
  infer_instance

section Plans

variable (share : LayerShare) (profile : ModelProfile) (resources : Resources)

/-- The context a profile is planned with. -/
def ModelProfile.context : Nat :=
  min profile.requestedContextTokens.toNat profile.contextTokens.toNat

theorem toNat_kvOverhead_default :
    (kvOverhead profile .default).toNat = kvMib profile.context := by
  have context : (ctxSize profile).toNat = max profile.context 512 := by
    unfold ctxSize ModelProfile.context
    rw [toNat_max, toNat_min]
    rfl
  have small := (ctxSize profile).toNat_lt
  have bytes : kvBytes profile .default = (ctxSize profile).toNat * 65536 := by
    unfold kvBytes
    show (ctxSize profile).toNat * 1 * 65536 = _
    omega
  rw [toNat_kvOverhead]
  unfold exactKv kvMib
  rw [bytes, ← context]
  omega

theorem kvFitsRam_of_fitsRam {runtime : RuntimeMemoryConfig}
    (inRam : FitsRam profile resources runtime) : KvFitsRam profile resources runtime := by
  have kvLt := (kvOverhead profile runtime).toNat_lt
  unfold FitsRam ramNeed at inRam
  unfold KvFitsRam
  rw [UInt64.le_iff_toNat_le] at *
  rw [toNat_saturatingAdd] at inRam
  omega

theorem planWithRuntime_safe_iff (runtime : RuntimeMemoryConfig) :
    (planWithRuntime share profile resources runtime).safe = true ↔
      ¬ UnknownLayers profile ∧ (FitsGpu profile (normalizeResources resources) runtime ∨
        FitsSsd profile (normalizeResources resources) ∧
          KvFitsRam profile (normalizeResources resources) runtime) := by
  show (draft share profile (normalizeResources resources) runtime _
    (decision profile (normalizeResources resources) runtime)).safe = true ↔ _
  rcases decision_cases profile (normalizeResources resources) runtime with
    ⟨taken, unknown⟩ | ⟨taken, known, onGpu⟩ | ⟨taken, known, notOnGpu, inRam, onSsd⟩ |
    ⟨taken, known, notOnGpu, notInRam, onSsd, kvInRam⟩ | ⟨taken, known, notOnGpu, nowhere⟩
  · rw [taken]
    exact iff_of_false Bool.noConfusion fun safe => safe.1 unknown
  · rw [taken]
    exact iff_of_true rfl ⟨known, .inl onGpu⟩
  · rw [taken]
    exact iff_of_true rfl ⟨known, .inr ⟨onSsd, kvFitsRam_of_fitsRam profile _ inRam⟩⟩
  · rw [taken]
    exact iff_of_true rfl ⟨known, .inr ⟨onSsd, kvInRam⟩⟩
  · rw [taken]
    exact iff_of_false Bool.noConfusion fun safe => safe.2.elim notOnGpu nowhere

/-- A plan for a model that needs its file size on the GPU. -/
theorem plan_safe_iff (wholeFile : profile.estimatedGpuMb = profile.fileSizeMb) :
    (plan share profile resources).safe = true ↔
      ¬ UnknownLayers profile ∧
        (roomOf resources).Holds profile.fileSizeMb.toNat (kvMib profile.context) := by
  have kv := toNat_kvOverhead_default profile
  have usable := toNat_usableVram_normalizeResources resources
  have kvSmall : kvMib profile.context ≤ 2 ^ 44 := by
    rw [← kv, toNat_kvOverhead]
    exact Nat.min_le_right _ _
  have gpu : FitsGpu profile (normalizeResources resources) .default ↔
      profile.fileSizeMb.toNat + kvMib profile.context + 256 ≤ (roomOf resources).vram := by
    rw [fitsGpu_iff, ← toNat_kvOverhead, kv, wholeFile, ← usable.1]
    rfl
  unfold plan
  rw [planWithRuntime_safe_iff, gpu]
  unfold FitsSsd KvFitsRam Room.Holds
  rw [UInt64.le_iff_toNat_le, UInt64.le_iff_toNat_le, kv]
  rfl

theorem plan_planId (resources : Resources) :
    (plan share profile resources).model = profile.model ∧
      (plan share profile resources).resourceGeneration = resourceGeneration resources := by
  show (draft share profile (normalizeResources resources) .default _
      (decision profile (normalizeResources resources) .default)).model = profile.model ∧
    (draft share profile (normalizeResources resources) .default (resourceGeneration resources)
      (decision profile (normalizeResources resources) .default)).resourceGeneration = _
  cases decision profile (normalizeResources resources) .default <;> exact ⟨rfl, rfl⟩

end Plans

/-! ## Two requests -/

section Requests

variable (share : LayerShare) (config : Config) (host : Host)

/-- A model of the catalog whose file can be read, on an idle host that can be measured. -/
structure Startable (model path : String) (length : UInt64) (metadata : GgufMetadata)
    (layers : UInt64) (resources : Resources) : Prop where
  located : host.startLocation model = some path
  readable : host.fileLength path = .ok length
  inspected : host.inspect path = .ok metadata
  counted : metadata.layers = some layers
  measured : measuredResources config host = .ok resources
  idle : host.engineState = .idle

/-- A start after a safe automatic plan does not deny the resources. -/
def StartAgrees (model : String) : Prop :=
  ∀ plan, handleEnginePlanAuto share config host model = .ok plan → plan.safe = true →
    ∀ error, startModelPlanned share config host (some plan) model plan.planId = .error error →
      error.code ≠ .resourceDenied

/-- The context that the automatic plan asks for. -/
def autoContext (metadata : GgufMetadata) : Nat :=
  min (metadata.contextLength.elim config.defaultContext.toNat (·.toNat))
    config.defaultContext.toNat

def autoSize (length : UInt64) : Nat := max ((length.toNat + 1048575) / 1048576) 1

def startSize (length : UInt64) : Nat := min (length.toNat + 1048575) (2 ^ 64 - 1) / 1048576

variable {share config host} {model path : String} {length : UInt64} {metadata : GgufMetadata}
  {layers : UInt64} {resources : Resources}

theorem autoProfile_values :
    (autoProfile config model length metadata layers).fileSizeMb.toNat = autoSize length ∧
      (autoProfile config model length metadata layers).context = autoContext config metadata ∧
      (autoProfile config model length metadata layers).layers.toNat =
        min layers.toNat 4294967295 := by
  have contextLt := config.defaultContext.toNat_lt
  refine ⟨?_, ?_, ?_⟩
  · show (max (divCeil length 1048576) 1).toNat = _
    rw [toNat_max_word, toNat_divCeil _ _ (by decide)]
    rfl
  · have tokens : (min (min (metadata.contextLength.getD config.defaultContext.toUInt64)
        config.defaultContext.toUInt64) 4294967295).toUInt32.toNat =
          autoContext config metadata := by
      rw [UInt64.toNat_toUInt32, toNat_min_word, toNat_min_word, UInt32.toNat_toUInt64]
      unfold autoContext
      cases metadata.contextLength with
      | none =>
          show min (min config.defaultContext.toUInt64.toNat _) 4294967295 % 2 ^ 32 =
            min config.defaultContext.toNat _
          rw [UInt32.toNat_toUInt64]
          omega
      | some advertised =>
          show min (min advertised.toNat _) 4294967295 % 2 ^ 32 = min advertised.toNat _
          omega
    show min _ _ = _
    rw [← tokens]
    exact Nat.min_self _
  · show (min layers 4294967295).toUInt32.toNat = _
    rw [UInt64.toNat_toUInt32, toNat_min_word]
    show min layers.toNat 4294967295 % 2 ^ 32 = _
    omega

theorem startProfile_values (small : layers ≤ 4294967295) :
    (startProfile config model length layers.toUInt32).fileSizeMb.toNat = startSize length ∧
      (startProfile config model length layers.toUInt32).context = config.defaultContext.toNat ∧
      (startProfile config model length layers.toUInt32).layers.toNat = layers.toNat := by
  refine ⟨?_, ?_, ?_⟩
  · show (saturatingAdd length 1048575 / 1048576).toNat = _
    rw [UInt64.toNat_div, toNat_saturatingAdd]
    rfl
  · show min config.defaultContext.toNat (max config.defaultContext 512).toNat = _
    rw [toNat_max]
    exact Nat.min_eq_left (Nat.le_max_left _ _)
  · rw [UInt64.le_iff_toNat_le] at small
    show layers.toUInt32.toNat = _
    rw [UInt64.toNat_toUInt32]
    exact Nat.mod_eq_of_lt (Nat.lt_succ_of_le small)

/-- The automatic plan of a startable model. -/
theorem Startable.auto
    (startable : Startable config host model path length metadata layers resources) :
    handleEnginePlanAuto share config host model =
      .ok (plan share (autoProfile config model length metadata layers) resources) := by
  simp only [handleEnginePlanAuto, planAndRespond, startable.located, startable.readable,
    startable.inspected, startable.counted, startable.measured, Option.elim_some,
    Option.elim_none, Except.mapError, bind, Except.bind]
  rfl

/-- A start with a stored plan that is safe, of this model and of these resources. -/
theorem Startable.worker
    (startable : Startable config host model path length metadata layers resources)
    {stored : Plan} (safe : stored.safe = true) (sameModel : stored.model = model)
    (sameGeneration : stored.resourceGeneration = resourceGeneration resources) :
    plannedWorker share config host (some stored) model stored.planId =
      (resolveWorkerConfig share config host model path resources).map fun resolved =>
        { resolved with gpuLayers := stored.gpuLayers, ctxSize := stored.ctxSize } := by
  have identity : validatePlanIdentity (some stored) model stored.planId = .ok stored := by
    simp [validatePlanIdentity, sameModel, safe]
  have generation : validateResourceGeneration stored (resourceGeneration resources) = .ok () :=
    if_neg (not_not.mpr sameGeneration)
  have located : resolveModelPath host model = .ok path := by
    unfold resolveModelPath
    rw [startable.located]
  simp only [plannedWorker, identity, startable.measured, generation, configWithPlan,
    startable.idle, resolveStartConfig, located, bind, Except.bind, ne_eq, not_true_eq_false,
    if_false]
  cases resolveWorkerConfig share config host model path resources <;> rfl

/-- The start's own plan denies the resources. -/
def StartDenies (share : LayerShare) (config : Config) (model : String) (length layers : UInt64)
    (resources : Resources) : Prop :=
  layers ≤ 4294967295 ∧
    (plan share (startProfile config model length layers.toUInt32) resources).safe ≠ true

/-- The configuration of a start, or its error. -/
theorem Startable.resolved
    (startable : Startable config host model path length metadata layers resources) :
    (∃ worker, resolveWorkerConfig share config host model path resources = .ok worker ∧
      ¬ StartDenies share config model length layers resources) ∨
    ∃ error, resolveWorkerConfig share config host model path resources = .error error ∧
      (error.code = .resourceDenied ↔ StartDenies share config model length layers resources) := by
  have count : startLayers host path = layers := by
    unfold startLayers
    rw [startable.inspected]
    show metadata.layers.getD 32 = layers
    rw [startable.counted]
    rfl
  simp only [resolveWorkerConfig, startable.readable, Except.mapError, count, bind, Except.bind]
  by_cases small : layers ≤ 4294967295
  · simp only [if_pos small]
    by_cases safe :
        (plan share (startProfile config model length layers.toUInt32) resources).safe = true
    · rw [if_pos safe]
      exact .inl ⟨_, rfl, fun denies => denies.2 safe⟩
    · rw [if_neg safe]
      exact .inr ⟨_, rfl, iff_of_true rfl ⟨small, safe⟩⟩
  · simp only [if_neg small]
    exact .inr ⟨_, rfl, iff_of_false ApiErrorCode.noConfusion fun denies => small denies.1⟩

/-- No failure of a worker is a denial of resources. -/
theorem apiErrorCodeForWorkerFailure_ne (code : WorkerFailureCode) :
    apiErrorCodeForWorkerFailure code ≠ .resourceDenied := by
  cases code <;> exact ApiErrorCode.noConfusion

/-- When a start with a safe stored plan denies the resources. -/
theorem Startable.denied_iff
    (startable : Startable config host model path length metadata layers resources)
    {stored : Plan} (safe : stored.safe = true) (sameModel : stored.model = model)
    (sameGeneration : stored.resourceGeneration = resourceGeneration resources) :
    (∃ error, startModelPlanned share config host (some stored) model stored.planId =
        .error error ∧ error.code = .resourceDenied) ↔
      StartDenies share config model length layers resources := by
  simp only [startModelPlanned, startable.worker safe sameModel sameGeneration]
  have resolution := @startable.resolved share
  rcases resolution with ⟨worker, resolved, grants⟩ | ⟨error, resolved, denied⟩
  · rw [resolved]
    refine iff_of_false ?_ grants
    rintro ⟨error, failed, code⟩
    simp only [Except.map, bind, Except.bind] at failed
    generalize ({ worker with gpuLayers := stored.gpuLayers, ctxSize := stored.ctxSize } :
      WorkerConfig) = started at failed
    cases ready : host.startModelReady started with
    | ok done =>
        rw [ready] at failed
        cases failed
    | error failure =>
        rw [ready] at failed
        cases failed
        exact apiErrorCodeForWorkerFailure_ne failure.code code
  · rw [resolved, ← denied]
    constructor
    · rintro ⟨other, same, code⟩
      cases same
      exact code
    · intro code
      exact ⟨error, rfl, code⟩

theorem startAgrees_iff_tests
    (startable : Startable config host model path length metadata layers resources) :
    StartAgrees share config host model ↔
      ((plan share (autoProfile config model length metadata layers) resources).safe = true →
        ¬ StartDenies share config model length layers resources) := by
  have identity := plan_planId share (autoProfile config model length metadata layers) resources
  unfold StartAgrees
  rw [startable.auto]
  constructor
  · intro agrees safe denies
    obtain ⟨error, failed, code⟩ := (startable.denied_iff safe identity.1 identity.2).mpr denies
    exact agrees _ rfl safe error failed code
  · intro grants stored same safe error failed code
    cases same
    exact grants safe
      ((startable.denied_iff safe identity.1 identity.2).mp ⟨error, failed, code⟩)

/-- The automatic plan in plain numbers. -/
theorem autoPlan_safe_iff :
    (plan share (autoProfile config model length metadata layers) resources).safe = true ↔
      ¬ (layers = 0 ∨ layers = 999) ∧
        (roomOf resources).Holds (autoSize length) (kvMib (autoContext config metadata)) := by
  obtain ⟨size, context, count⟩ := @autoProfile_values config model length metadata layers
  rw [plan_safe_iff share _ resources rfl, size, context]
  unfold UnknownLayers
  simp only [← UInt32.toNat_inj, ← UInt64.toNat_inj, count]
  refine and_congr_left fun _ => not_congr ?_
  show min layers.toNat 4294967295 = 0 ∨ min layers.toNat 4294967295 = 999 ↔
    layers.toNat = 0 ∨ layers.toNat = 999
  omega

/-- The start's own plan in plain numbers. -/
theorem startDenies_iff :
    StartDenies share config model length layers resources ↔
      layers.toNat ≤ 4294967295 ∧ ¬ (¬ (layers = 0 ∨ layers = 999) ∧
        (roomOf resources).Holds (startSize length) (kvMib config.defaultContext.toNat)) := by
  unfold StartDenies
  rw [UInt64.le_iff_toNat_le]
  refine and_congr_right fun small => not_congr ?_
  obtain ⟨size, context, count⟩ :=
    @startProfile_values config model length layers (UInt64.le_iff_toNat_le.mpr small)
  rw [plan_safe_iff share _ resources rfl, size, context]
  unfold UnknownLayers
  simp only [← UInt32.toNat_inj, ← UInt64.toNat_inj, count]
  rfl

/-- The start after an automatic plan does not deny the resources exactly where its own layer
count is refused otherwise, or the automatic plan is not safe, or a lane holds the model with
the KV cache of the configured context, whatever context the file asks for. -/
theorem startAgrees_iff
    (startable : Startable config host model path length metadata layers resources) :
    StartAgrees share config host model ↔
      4294967295 < layers.toNat ∨ layers = 0 ∨ layers = 999 ∨
        ¬ (roomOf resources).Holds (autoSize length) (kvMib (autoContext config metadata)) ∨
        (roomOf resources).Holds (startSize length) (kvMib config.defaultContext.toNat) := by
  rw [startAgrees_iff_tests startable, autoPlan_safe_iff, startDenies_iff, ← not_le]
  tauto

end Requests

/-! ## Two models -/

/-- A host with 5312 MiB of usable VRAM and 128 MiB of usable RAM, and a file of 5000 MiB with
32 layers and some context. -/
def tightHost (contextLength : Option UInt64) : Host where
  startLocation := fun _ => some "/models/m.gguf"
  resolveUnder := fun _ => .ok none
  fileLength := fun _ => .ok 5242880000
  inspect := fun _ => .ok {
    version := 3
    tensorCount := 300
    architecture := some "llama"
    name := none
    quantization := none
    contextLength := contextLength
    parameterCount := none
    layers := some 32 }
  snapshot := .ok ⟨5312, 4096, 100000⟩
  engineState := .idle
  startModelReady := fun _ => .ok ()

def tightConfig : Config where
  vramReserveMb := 0
  ramReserveMb := 3968
  ssdReserveMb := 1000
  defaultContext := 4096
  llamaServer := "llama-server"
  port := 8901

theorem tightHost_startable (contextLength : Option UInt64) :
    Startable tightConfig (tightHost contextLength) "m" "/models/m.gguf" 5242880000
      { version := 3
        tensorCount := 300
        architecture := some "llama"
        name := none
        quantization := none
        contextLength := contextLength
        parameterCount := none
        layers := some 32 }
      32 (defaultResourcesFromSnapshot ⟨5312, 4096, 100000⟩ tightConfig) :=
  ⟨rfl, rfl, rfl, rfl, rfl, rfl⟩

/-- A file with a long context is neither planned nor started. -/
theorem startAgrees_longContext :
    StartAgrees f64LayerShare tightConfig (tightHost (some 8192)) "m" :=
  (startAgrees_iff (tightHost_startable (some 8192))).mpr (by decide +kernel)

/-- A file with a context of 512 tokens is planned for the GPU, and its start denied. -/
theorem startAgrees_not_shortContext :
    ¬ StartAgrees f64LayerShare tightConfig (tightHost (some 512)) "m" := by
  rw [startAgrees_iff_tests (tightHost_startable (some 512)), autoPlan_safe_iff, startDenies_iff]
  decide +kernel

end TriAI.Planner
