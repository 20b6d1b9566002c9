import TriAI.Library.Binary64
import TriAI.Planner.ExactNeed

/-!
Contract: the layers that the RAM-balanced lane puts on the GPU.

Owns: the share of layers in binary64 and the ratio of VRAM and estimate from which on it
reaches a number of layers; when the RAM-balanced lane is taken; and the exact inputs on which
the layers on the GPU fit together with their share of the overhead.

Does not own: the planner and the rounding.
-/

set_option autoImplicit false

namespace TriAI.Planner

open TriAI.Library.Arithmetic
open TriAI.Library.Binary64
open TriAI.Library.MachineInt

/-- The share in binary64. It is never negative, so that the cast cuts off what `floor`
does. -/
def f64LayerShare : LayerShare := fun layers usableVram estimatedGpu =>
  (layers.toFloat * (usableVram.toFloat / (max estimatedGpu 1).toFloat)).toUInt32

/-! ## The share of layers -/

/-- The usable VRAM and the estimate as binary64 numbers, divided without rounding. -/
def vramRatio (usableVram estimatedGpu : UInt64) : ℚ :=
  nearest usableVram.toNat / nearest (max estimatedGpu 1).toNat

section Share

variable (layers : UInt32) (usableVram estimatedGpu : UInt64)

theorem between_estimate : Between 0 64 (nearest (max estimatedGpu 1).toNat) := by
  refine (between_natCast ?_ (max estimatedGpu 1).toNat_lt.le).nearest
  rw [toNat_max_word]
  exact Nat.lt_of_lt_of_le Nat.one_pos (Nat.le_max_right ..)

theorem vramRatio_bounds :
    vramRatio usableVram estimatedGpu = 0 ∨
      Between (-64) 64 (vramRatio usableVram estimatedGpu) := by
  unfold vramRatio
  rcases Nat.eq_zero_or_pos usableVram.toNat with none | some
  · left
    rw [none, Nat.cast_zero, nearest_zero, zero_div]
  · right
    have isUsable := (between_natCast some usableVram.toNat_lt.le).nearest
    exact isUsable.div (between_estimate estimatedGpu)

variable {usableVram estimatedGpu} in
/-- Below 2^53 MiB the two numbers stand for themselves. -/
theorem vramRatio_eq_div (usableFew : usableVram.toNat < 2 ^ 53)
    (estimateFew : estimatedGpu.toNat < 2 ^ 53) :
    vramRatio usableVram estimatedGpu = usableVram.toNat / (max estimatedGpu.toNat 1 : ℕ) := by
  have divisorFew : (max estimatedGpu 1).toNat < 2 ^ 53 := by
    rw [toNat_max_word]
    exact max_lt estimateFew (by decide)
  unfold vramRatio
  rw [nearest_natCast usableFew, nearest_natCast divisorFew, toNat_max_word]
  rfl

theorem vramRatio_nonneg : 0 ≤ vramRatio usableVram estimatedGpu := by
  rcases vramRatio_bounds usableVram estimatedGpu with none | some
  · exact none.ge
  · exact some.pos.le

/-- The share in binary64 is that of the ratio, rounded twice. -/
theorem toNat_f64LayerShare :
    (f64LayerShare layers usableVram estimatedGpu).toNat =
      min ⌊nearest (layers.toNat * nearest (vramRatio usableVram estimatedGpu))⌋₊
        (2 ^ 32 - 1) := by
  have layersShort : layers.toNat < 2 ^ 53 := layers.toNat_lt.trans (by decide)
  have isLayers := stands_uint32 layers
  rw [nearest_natCast layersShort] at isLayers
  have bounds := vramRatio_bounds usableVram estimatedGpu
  have ratioInRange : InRange (vramRatio usableVram estimatedGpu) := by
    rcases bounds with none | some
    · exact .inl none
    · exact some.inRange (by decide) (by decide)
  have isRatio := (stands_uint64 usableVram).div (stands_uint64 (max estimatedGpu 1))
    (between_estimate estimatedGpu).pos.ne' ratioInRange
  have productInRange : InRange (layers.toNat * nearest (vramRatio usableVram estimatedGpu)) := by
    rcases bounds with none | some
    · rw [none, nearest_zero, mul_zero]
      exact .inl rfl
    · rcases Nat.eq_zero_or_pos layers.toNat with noLayers | someLayers
      · rw [noLayers, Nat.cast_zero, zero_mul]
        exact .inl rfl
      · have isCount := between_natCast someLayers (layers.toNat_lt.le.trans (by decide))
        exact (isCount.mul some.nearest).inRange (by decide) (by decide)
  exact (isLayers.mul isRatio productInRange).toNat_toUInt32

/-- From which ratio on, rounded, a share of the layers is reached. -/
def ratioFor (layers : UInt32) (count : ℕ) : ℚ := halfBelow count / layers.toNat

/-- A number of layers is reached exactly where the ratio is rounded to theirs. -/
theorem le_f64LayerShare_iff {count : ℕ} (some : 0 < count) (few : count < 2 ^ 32)
    (known : 0 < layers.toNat) :
    count ≤ (f64LayerShare layers usableVram estimatedGpu).toNat ↔
      Reaches (ratioFor layers count) (vramRatio usableVram estimatedGpu) := by
  have countPos : (0 : ℚ) < count := by exact_mod_cast some
  have layersPos : (0 : ℚ) < layers.toNat := by exact_mod_cast known
  have ratioPos : 0 < ratioFor layers count := div_pos (halfBelow_pos countPos) layersPos
  have nonneg := vramRatio_nonneg usableVram estimatedGpu
  have even := even_units_natCast some (few.trans (by decide))
  rw [toNat_f64LayerShare, le_min_iff, and_iff_left (by omega), Nat.le_floor_iff' some.ne',
    le_nearest_iff countPos (mul_nonneg layersPos.le (nearest_nonneg nonneg)),
    ← le_nearest_iff ratioPos nonneg]
  unfold Reaches ratioFor
  rw [and_iff_left even, ← le_iff_lt_or_eq, div_le_iff₀' layersPos]

end Share

/-! ## The split -/

/-- The model with its KV cache and compute overhead. -/
def wholeModel (profile : ModelProfile) (runtime : RuntimeMemoryConfig) : Nat :=
  profile.estimatedGpuMb.toNat + (gpuOverhead profile runtime).toNat

/-- In the RAM-balanced lane some layer stays off the GPU, and the same share of the whole
model as of the layers fits the usable VRAM. -/
def SplitFits (resources : Resources) (profile : ModelProfile) (runtime : RuntimeMemoryConfig)
    (plan : Plan) : Prop :=
  plan.lane = .ramBalanced →
    plan.gpuLayers < profile.layers ∧
      plan.gpuLayers.toNat * wholeModel profile runtime ≤
        (usableVram (normalizeResources resources)).toNat * profile.layers.toNat

instance (resources : Resources) (profile : ModelProfile) (runtime : RuntimeMemoryConfig)
    (plan : Plan) : Decidable (SplitFits resources profile runtime plan) := by
  unfold SplitFits
  infer_instance

section Split

variable (share : LayerShare) (profile : ModelProfile) (resources : Resources)
  (runtime : RuntimeMemoryConfig)

/-- What the RAM-balanced lane tests. -/
def TakesRamBalanced : Prop :=
  ¬ UnknownLayers profile ∧ ¬ FitsGpu profile (normalizeResources resources) runtime ∧
    FitsRam profile (normalizeResources resources) runtime ∧
    FitsSsd profile (normalizeResources resources)

theorem decision_eq_ramBalanced :
    decision profile (normalizeResources resources) runtime = .ramBalanced ↔
      TakesRamBalanced profile resources runtime := by
  unfold decision TakesRamBalanced UnknownLayers FitsGpu FitsRam FitsSsd
  split_ifs with unknown onGpu inRam onCpu
  · exact iff_of_false id fun tested => tested.1 unknown
  · exact iff_of_false id fun tested => tested.2.1 onGpu
  · exact iff_of_true rfl ⟨unknown, onGpu, inRam⟩
  · exact iff_of_false id fun tested => inRam tested.2.2
  · exact iff_of_false id fun tested => inRam tested.2.2

theorem planWithRuntime_lane_ramBalanced :
    (planWithRuntime share profile resources runtime).lane = .ramBalanced ↔
      TakesRamBalanced profile resources runtime := by
  rw [← decision_eq_ramBalanced]
  show (draft share profile (normalizeResources resources) runtime _
    (decision profile (normalizeResources resources) runtime)).lane = .ramBalanced ↔ _
  cases decision profile (normalizeResources resources) runtime with
  | ramBalanced => exact iff_of_true rfl rfl
  | unknownLayers | gpuFast | cpuSafe | noLane =>
      exact iff_of_false Lane.noConfusion Decision.noConfusion

variable {profile resources runtime} (tested : TakesRamBalanced profile resources runtime)

include tested

theorem TakesRamBalanced.layers_pos : 0 < profile.layers.toNat := by
  have known : profile.layers ≠ 0 := fun none => tested.1 (.inl none)
  exact toNat_pos known

/-- The whole model does not fit. -/
theorem TakesRamBalanced.usable_lt :
    (usableVram (normalizeResources resources)).toNat < wholeModel profile runtime := by
  have notOnGpu := tested.2.1
  have usableLt := (usableVram (normalizeResources resources)).toNat_lt
  unfold FitsGpu gpuNeed at notOnGpu
  rw [UInt64.le_iff_toNat_le, toNat_saturatingAdd] at notOnGpu
  unfold wholeModel
  omega

/-- The layers on the GPU in the RAM-balanced lane. -/
theorem TakesRamBalanced.toNat_gpuLayers :
    (planWithRuntime share profile resources runtime).gpuLayers.toNat =
      min (share profile.layers (usableVram (normalizeResources resources))
        profile.estimatedGpuMb).toNat (profile.layers.toNat - 1) := by
  have positive := tested.layers_pos
  have known : profile.layers ≠ 0 := fun none => tested.1 (.inl none)
  have one : (1 : UInt32) ≤ profile.layers := by
    rw [UInt32.le_iff_toNat_le]
    exact positive
  show (draft share profile (normalizeResources resources) runtime _
    (decision profile (normalizeResources resources) runtime)).gpuLayers.toNat = _
  rw [(decision_eq_ramBalanced profile resources runtime).mpr tested]
  show (min _ (if profile.layers = 0 then 0 else profile.layers - 1)).toNat = _
  rw [if_neg known, toNat_min, UInt32.toNat_sub_of_le _ _ one]
  rfl

/-- Some layer stays off the GPU. -/
theorem TakesRamBalanced.gpuLayers_lt :
    (planWithRuntime share profile resources runtime).gpuLayers < profile.layers := by
  have positive := tested.layers_pos
  rw [UInt32.lt_iff_toNat_lt, tested.toNat_gpuLayers share]
  omega

omit tested

variable (profile resources runtime)

/-- The layers of which the usable VRAM holds the share of the whole model. -/
def layersThatFit : Nat :=
  (usableVram (normalizeResources resources)).toNat * profile.layers.toNat /
    wholeModel profile runtime

/-- The split fits where the layers on the GPU are no more than fit. -/
theorem splitFits_iff_of_share :
    SplitFits resources profile runtime (planWithRuntime share profile resources runtime) ↔
      (TakesRamBalanced profile resources runtime →
        min (share profile.layers (usableVram (normalizeResources resources))
            profile.estimatedGpuMb).toNat (profile.layers.toNat - 1) ≤
          layersThatFit profile resources runtime) := by
  unfold SplitFits layersThatFit
  rw [planWithRuntime_lane_ramBalanced]
  refine imp_congr_right fun tested => ?_
  have positive : 0 < wholeModel profile runtime := Nat.zero_lt_of_lt tested.usable_lt
  rw [tested.toNat_gpuLayers share, Nat.le_div_iff_mul_le positive]
  exact and_iff_right (tested.gpuLayers_lt share)

/-- The split fits exactly where the lane is not taken, or all layers but one fit, or the ratio of
usable VRAM and estimate, which leaves the overhead out, is not rounded to one layer more than
fit. -/
theorem planWithRuntime_splitFits_iff :
    SplitFits resources profile runtime
        (planWithRuntime f64LayerShare profile resources runtime) ↔
      ¬ TakesRamBalanced profile resources runtime ∨
        profile.layers.toNat - 1 ≤ layersThatFit profile resources runtime ∨
        ¬ Reaches (ratioFor profile.layers (layersThatFit profile resources runtime + 1))
          (vramRatio (usableVram (normalizeResources resources)) profile.estimatedGpuMb) := by
  rw [splitFits_iff_of_share, imp_iff_not_or]
  by_cases full : profile.layers.toNat - 1 ≤ layersThatFit profile resources runtime
  · exact iff_of_true (.inr (min_le_of_right_le full)) (.inr (.inl full))
  · have few := profile.layers.toNat_lt
    have reached := le_f64LayerShare_iff profile.layers (usableVram (normalizeResources resources))
      profile.estimatedGpuMb (Nat.succ_pos (layersThatFit profile resources runtime)) (by omega)
      (by omega)
    rw [min_le_iff, or_iff_left full, or_iff_right full, ← reached, Nat.succ_le_iff, not_lt]

end Split

/-- A host with 640 MiB of usable VRAM. -/
def smallGpuHost : Resources where
  vramFreeMb := 640
  ramFreeMb := 8192
  ssdFreeMb := 100000
  vramReserveMb := 0
  ramReserveMb := 1000
  ssdReserveMb := 1000

/-- Ten layers of 100 MiB. -/
def tenLayerModel : ModelProfile where
  model := "m.gguf"
  fileSizeMb := 1000
  estimatedGpuMb := 1000
  estimatedRamMb := 1200
  layers := 10
  contextTokens := 512
  requestedContextTokens := 512

/-- Six of ten layers are put on the GPU, where four fit. -/
theorem smallGpuHost_plan_not_splitFits :
    (planWithRuntime f64LayerShare tenLayerModel smallGpuHost .default).gpuLayers = 6 ∧
      layersThatFit tenLayerModel smallGpuHost .default = 4 ∧
      ¬ SplitFits smallGpuHost tenLayerModel .default
        (planWithRuntime f64LayerShare tenLayerModel smallGpuHost .default) := by
  decide +kernel

end TriAI.Planner
