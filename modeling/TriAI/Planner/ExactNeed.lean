import TriAI.Planner.Safety

/-!
Contract: the GPU lane and the demand in unbounded integers.

Owns: the demand and the usable VRAM without saturation, when the GPU lane is taken, and the
exact inputs on which it is taken only where the demand fits.

Does not own: the planner, and the lanes that split a model.
-/

set_option autoImplicit false

namespace TriAI.Planner

open TriAI.Library.MachineInt

/-! ## Unbounded integers -/

/-- The KV cache in bytes. -/
def kvBytes (profile : ModelProfile) (runtime : RuntimeMemoryConfig) : Nat :=
  (ctxSize profile).toNat * max runtime.parallelSlots.toNat 1 * runtime.kvBytesPerToken.toNat

/-- The KV cache in MiB, rounded up. -/
def exactKv (profile : ModelProfile) (runtime : RuntimeMemoryConfig) : Nat :=
  (kvBytes profile runtime + 1048575) / 1048576

def exactNeed (profile : ModelProfile) (runtime : RuntimeMemoryConfig) : Nat :=
  profile.estimatedGpuMb.toNat + exactKv profile runtime + runtime.computeOverheadMb.toNat

/-- The normalised free VRAM less the reserve, which may be negative. -/
def exactUsable (resources : Resources) : Int :=
  (normalizeResources resources).vramFreeMb.toNat - resources.vramReserveMb.toNat

/-- A plan takes the GPU lane only where the demand fits. -/
def GpuFastFits (resources : Resources) (profile : ModelProfile) (runtime : RuntimeMemoryConfig)
    (plan : Plan) : Prop :=
  plan.lane = .gpuFast → (exactNeed profile runtime : Int) ≤ exactUsable resources

instance (resources : Resources) (profile : ModelProfile) (runtime : RuntimeMemoryConfig)
    (plan : Plan) : Decidable (GpuFastFits resources profile runtime plan) := by
  unfold GpuFastFits
  infer_instance

/-! ## Estimates -/

section Estimates

variable (profile : ModelProfile) (resources : Resources) (runtime : RuntimeMemoryConfig)

/-- Tokens times slots is a word, and their product with the bytes of a token saturates. -/
theorem toNat_kvOverhead :
    (kvOverhead profile runtime).toNat = min (exactKv profile runtime) (2 ^ 44) := by
  have tokens := (ctxSize profile).toNat_lt
  have slots : max runtime.parallelSlots.toNat 1 < 2 ^ 32 := by
    have slotsLt := runtime.parallelSlots.toNat_lt
    omega
  have small : (ctxSize profile).toNat * max runtime.parallelSlots.toNat 1 ≤ 2 ^ 64 - 1 := by
    have product := Nat.mul_le_mul (Nat.le_sub_one_of_lt tokens) (Nat.le_sub_one_of_lt slots)
    omega
  unfold kvOverhead exactKv kvBytes
  rw [toNat_divCeil _ _ (by decide), toNat_saturatingMul, toNat_saturatingMul,
    UInt32.toNat_toUInt64, UInt32.toNat_toUInt64, toNat_max, UInt32.toNat_one,
    Nat.min_eq_left small]
  show (min _ (2 ^ 64 - 1) + 1048575) / 1048576 = _
  omega

/-- Normalised capacities end in a multiple of 64. -/
theorem toNat_usableVram_normalizeResources :
    (usableVram (normalizeResources resources)).toNat = (exactUsable resources).toNat ∧
      (exactUsable resources).toNat ≤ 2 ^ 64 - 64 := by
  have free : (normalizeResources resources).vramFreeMb.toNat ≤ 2 ^ 64 - 64 := by
    have freeLt := resources.vramFreeMb.toNat_lt
    show (resources.vramFreeMb / 64 * 64).toNat ≤ _
    rw [UInt64.toNat_mul, UInt64.toNat_div]
    show resources.vramFreeMb.toNat / 64 * 64 % 2 ^ 64 ≤ _
    omega
  have reserve : (normalizeResources resources).vramReserveMb = resources.vramReserveMb := rfl
  unfold usableVram exactUsable
  rw [toNat_saturatingSub, reserve]
  omega

/-- The GPU lane's test in unbounded integers, where the KV cache counts at most 2^44 MiB. -/
theorem fitsGpu_iff :
    FitsGpu profile (normalizeResources resources) runtime ↔
      profile.estimatedGpuMb.toNat + min (exactKv profile runtime) (2 ^ 44) +
        runtime.computeOverheadMb.toNat ≤ (exactUsable resources).toNat := by
  have usable := toNat_usableVram_normalizeResources resources
  unfold FitsGpu gpuNeed gpuOverhead
  rw [UInt64.le_iff_toNat_le, toNat_saturatingAdd, toNat_saturatingAdd, toNat_kvOverhead,
    usable.1]
  omega

/-- When the GPU lane is taken. -/
theorem planWithRuntime_lane_gpuFast (share : LayerShare) :
    (planWithRuntime share profile resources runtime).lane = .gpuFast ↔
      ¬ UnknownLayers profile ∧ FitsGpu profile (normalizeResources resources) runtime := by
  show (draft share profile (normalizeResources resources) runtime _
    (decision profile (normalizeResources resources) runtime)).lane = .gpuFast ↔ _
  rcases decision_cases profile (normalizeResources resources) runtime with
    ⟨taken, unknown⟩ | ⟨taken, known, onGpu⟩ | ⟨taken, known, notOnGpu, _⟩ |
    ⟨taken, known, notOnGpu, _⟩ | ⟨taken, known, notOnGpu, _⟩
  · rw [taken]
    exact iff_of_false Lane.noConfusion fun lane => lane.1 unknown
  · rw [taken]
    exact iff_of_true rfl ⟨known, onGpu⟩
  · rw [taken]
    exact iff_of_false Lane.noConfusion fun lane => notOnGpu lane.2
  · rw [taken]
    exact iff_of_false Lane.noConfusion fun lane => notOnGpu lane.2
  · rw [taken]
    exact iff_of_false Lane.noConfusion fun lane => notOnGpu lane.2

/-! ## The GPU lane -/

/-- The KV cache is 2^64 bytes or more, and the usable VRAM holds the demand with a cache of
2^44 MiB but not with the real one. -/
def CutShort : Prop :=
  2 ^ 64 ≤ kvBytes profile runtime ∧
    profile.estimatedGpuMb.toNat + 2 ^ 44 + runtime.computeOverheadMb.toNat ≤
      exactUsable resources ∧
    exactUsable resources < exactNeed profile runtime

/-- Nothing is demanded of a host whose free VRAM lies below its reserve. -/
def NothingBelowReserve : Prop :=
  profile.estimatedGpuMb = 0 ∧ runtime.kvBytesPerToken = 0 ∧ runtime.computeOverheadMb = 0 ∧
    exactUsable resources < 0

theorem exactKv_eq_zero : exactKv profile runtime = 0 ↔ runtime.kvBytesPerToken = 0 := by
  have tokens : 0 < (ctxSize profile).toNat := by
    unfold ctxSize
    rw [toNat_max]
    show 0 < max _ 512
    omega
  have slots : 0 < max runtime.parallelSlots.toNat 1 := by omega
  have positive := Nat.mul_pos tokens slots
  have bytes : kvBytes profile runtime = 0 ↔ runtime.kvBytesPerToken.toNat = 0 := by
    unfold kvBytes
    rw [Nat.mul_eq_zero]
    omega
  rw [← UInt64.toNat_inj, UInt64.toNat_zero, ← bytes]
  unfold exactKv
  omega

/-- The planner takes the GPU lane only where the demand fits, unless the KV cache is cut short
or nothing is demanded below the reserve. -/
theorem planWithRuntime_gpuFastFits_iff (share : LayerShare) :
    GpuFastFits resources profile runtime (planWithRuntime share profile resources runtime) ↔
      UnknownLayers profile ∨
        ¬ CutShort profile resources runtime ∧ ¬ NothingBelowReserve profile resources runtime := by
  have nothing := exactKv_eq_zero profile runtime
  unfold GpuFastFits CutShort NothingBelowReserve
  rw [planWithRuntime_lane_gpuFast, fitsGpu_iff]
  by_cases unknown : UnknownLayers profile
  · exact iff_of_true (fun lane => absurd unknown lane.1) (.inl unknown)
  · simp only [unknown, not_false_eq_true, true_and, false_or]
    rw [← nothing, ← UInt64.toNat_inj, ← UInt64.toNat_inj, UInt64.toNat_zero]
    unfold exactNeed
    have bytes : 2 ^ 64 ≤ kvBytes profile runtime → 2 ^ 44 ≤ exactKv profile runtime := by
      unfold exactKv
      omega
    have few : ¬ 2 ^ 64 ≤ kvBytes profile runtime → exactKv profile runtime ≤ 2 ^ 44 := by
      unfold exactKv
      omega
    omega

end Estimates

/-- A host with a little more than 2^44 MiB of free VRAM. -/
def vastHost : Resources where
  vramFreeMb := 17592186045440
  ramFreeMb := 4096
  ssdFreeMb := 100000
  vramReserveMb := 0
  ramReserveMb := 1000
  ssdReserveMb := 1000

/-- 2^56 bytes of KV cache a token. -/
def vastCache : RuntimeMemoryConfig where
  parallelSlots := 1
  kvBytesPerToken := 72057594037927936
  computeOverheadMb := 256

def smallContextModel : ModelProfile where
  model := "m.gguf"
  fileSizeMb := 100
  estimatedGpuMb := 100
  estimatedRamMb := 100
  layers := 32
  contextTokens := 512
  requestedContextTokens := 512

/-- The GPU lane is taken with a KV cache of 2^65 bytes, which is twice the VRAM. -/
theorem vastHost_plan_not_gpuFastFits :
    ¬ GpuFastFits vastHost smallContextModel vastCache
      (planWithRuntime exactLayerShare smallContextModel vastHost vastCache) := by
  decide +kernel

end TriAI.Planner
