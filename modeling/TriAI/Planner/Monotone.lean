import TriAI.Planner.Safety

/-!
Contract: the planner is monotone. More free memory never gives a worse lane or
fewer GPU layers, and a heavier demand never gives a better lane.

Owns: the order of lanes, of resources and of runtime demands, the monotonicity
of every estimate and of the cascade of lanes.

Does not own: the planner, and the memory a plan may use (`Planner.Safety`). The
share of layers is taken in exact arithmetic (`exactLayerShare`).
-/

set_option autoImplicit false

namespace TriAI.Planner

open TriAI.Library.MachineInt

/-- Position in the order of preference; the smaller, the better the lane. -/
def Lane.rank : Lane → Nat
  | .gpuFast => 0
  | .ramBalanced => 1
  | .cpuSafe => 2
  | .reject => 3

/-- The same reserves and at least as much of every free capacity. -/
structure Resources.AtLeast (more fewer : Resources) : Prop where
  vramFree : fewer.vramFreeMb ≤ more.vramFreeMb
  ramFree : fewer.ramFreeMb ≤ more.ramFreeMb
  ssdFree : fewer.ssdFreeMb ≤ more.ssdFreeMb
  vramReserve : fewer.vramReserveMb = more.vramReserveMb
  ramReserve : fewer.ramReserveMb = more.ramReserveMb
  ssdReserve : fewer.ssdReserveMb = more.ssdReserveMb

/-- At least as many slots, bytes per token and MiB of overhead. -/
structure RuntimeMemoryConfig.AtLeast (heavier lighter : RuntimeMemoryConfig) : Prop where
  parallelSlots : lighter.parallelSlots ≤ heavier.parallelSlots
  kvBytesPerToken : lighter.kvBytesPerToken ≤ heavier.kvBytesPerToken
  computeOverhead : lighter.computeOverheadMb ≤ heavier.computeOverheadMb

/-- The profile with another requested context. -/
def ModelProfile.requesting (profile : ModelProfile) (tokens : UInt32) : ModelProfile :=
  { profile with requestedContextTokens := tokens }

/-! ## Resources -/

section Capacity

variable {fewer more : Resources}

theorem Resources.AtLeast.normalizeResources (atLeast : more.AtLeast fewer) :
    (normalizeResources more).AtLeast (normalizeResources fewer) where
  vramFree := roundDown_mono 64 atLeast.vramFree
  ramFree := roundDown_mono 64 atLeast.ramFree
  ssdFree := roundDown_mono 64 atLeast.ssdFree
  vramReserve := atLeast.vramReserve
  ramReserve := atLeast.ramReserve
  ssdReserve := atLeast.ssdReserve

theorem usableVram_mono (atLeast : more.AtLeast fewer) : usableVram fewer ≤ usableVram more := by
  unfold usableVram
  rw [atLeast.vramReserve]
  exact saturatingSub_mono _ atLeast.vramFree

theorem usableRam_mono (atLeast : more.AtLeast fewer) : usableRam fewer ≤ usableRam more := by
  unfold usableRam
  rw [atLeast.ramReserve]
  exact saturatingSub_mono _ atLeast.ramFree

theorem usableSsd_mono (atLeast : more.AtLeast fewer) : usableSsd fewer ≤ usableSsd more := by
  unfold usableSsd
  rw [atLeast.ssdReserve]
  exact saturatingSub_mono _ atLeast.ssdFree

end Capacity

/-! ## Demand -/

section Demand

variable (profile : ModelProfile) {requested requested' : UInt32}
  {lighter heavier : RuntimeMemoryConfig}

theorem ctxSize_requesting_mono (requestedLe : requested ≤ requested') :
    (ctxSize (profile.requesting requested)).toUInt64 ≤
      (ctxSize (profile.requesting requested')).toUInt64 := by
  have requestedLeNat := UInt32.le_iff_toNat_le.mp requestedLe
  rw [UInt64.le_iff_toNat_le, UInt32.toNat_toUInt64, UInt32.toNat_toUInt64]
  unfold ctxSize
  rw [toNat_max, toNat_max, toNat_min, toNat_min]
  simp only [ModelProfile.requesting]
  omega

theorem slots_mono (slotsLe : lighter.parallelSlots ≤ heavier.parallelSlots) :
    (max lighter.parallelSlots 1).toUInt64 ≤ (max heavier.parallelSlots 1).toUInt64 := by
  have slotsLeNat := UInt32.le_iff_toNat_le.mp slotsLe
  rw [UInt64.le_iff_toNat_le, UInt32.toNat_toUInt64, UInt32.toNat_toUInt64, toNat_max,
    toNat_max]
  omega

theorem kvOverhead_mono (requestedLe : requested ≤ requested')
    (atLeast : heavier.AtLeast lighter) :
    kvOverhead (profile.requesting requested) lighter ≤
      kvOverhead (profile.requesting requested') heavier := by
  have tokens := ctxSize_requesting_mono profile requestedLe
  have slots := slots_mono atLeast.parallelSlots
  have slotTokens := saturatingMul_mono tokens slots
  exact divCeil_mono (by decide) (saturatingMul_mono slotTokens atLeast.kvBytesPerToken)

theorem gpuNeed_mono (requestedLe : requested ≤ requested')
    (atLeast : heavier.AtLeast lighter) :
    gpuNeed (profile.requesting requested) lighter ≤
      gpuNeed (profile.requesting requested') heavier := by
  have kv := kvOverhead_mono profile requestedLe atLeast
  have overhead := saturatingAdd_mono kv atLeast.computeOverhead
  exact saturatingAdd_mono (UInt64.le_refl _) overhead

theorem ramNeed_mono (requestedLe : requested ≤ requested')
    (atLeast : heavier.AtLeast lighter) :
    ramNeed (profile.requesting requested) lighter ≤
      ramNeed (profile.requesting requested') heavier :=
  saturatingAdd_mono (UInt64.le_refl _) (kvOverhead_mono profile requestedLe atLeast)

end Demand

/-! ## The cascade -/

/-- The lane of a decision. -/
def Decision.lane : Decision → Lane
  | .unknownLayers => .reject
  | .gpuFast => .gpuFast
  | .ramBalanced => .ramBalanced
  | .cpuSafe => .cpuSafe
  | .noLane => .reject

theorem planWithRuntime_lane (share : LayerShare) (profile : ModelProfile)
    (resources : Resources) (runtime : RuntimeMemoryConfig) :
    (planWithRuntime share profile resources runtime).lane =
      (decision profile (normalizeResources resources) runtime).lane := by
  show (draft share profile (normalizeResources resources) runtime _
    (decision profile (normalizeResources resources) runtime)).lane = _
  cases decision profile (normalizeResources resources) runtime <;> rfl

theorem rank_lane_le (taken : Decision) : taken.lane.rank ≤ 3 := by
  cases taken <;> decide

section Cascade

variable {profile profile' : ModelProfile} {resources resources' : Resources}
  {runtime runtime' : RuntimeMemoryConfig}

/-- Every test one planning run passes, another of the same model passes too. -/
structure PassesMore (profile : ModelProfile) (resources : Resources)
    (runtime : RuntimeMemoryConfig) (profile' : ModelProfile) (resources' : Resources)
    (runtime' : RuntimeMemoryConfig) : Prop where
  known : UnknownLayers profile' → UnknownLayers profile
  onGpu : FitsGpu profile resources runtime → FitsGpu profile' resources' runtime'
  inRam : FitsRam profile resources runtime → FitsRam profile' resources' runtime'
  onSsd : FitsSsd profile resources → FitsSsd profile' resources'
  kvInRam : KvFitsRam profile resources runtime → KvFitsRam profile' resources' runtime'

/-- The cascade tries the better lanes first, so passing more tests gives no
worse lane. -/
theorem decision_rank_le
    (passes : PassesMore profile resources runtime profile' resources' runtime') :
    (decision profile' resources' runtime').lane.rank ≤
      (decision profile resources runtime).lane.rank := by
  have worst := rank_lane_le (decision profile' resources' runtime')
  rcases decision_cases profile resources runtime with
    ⟨taken, _⟩ | ⟨taken, known, onGpu⟩ | ⟨taken, known, _, inRam, onSsd⟩ |
    ⟨taken, known, _, _, onSsd, kvInRam⟩ | ⟨taken, _⟩
  · rw [taken]
    exact worst
  · have known' := mt passes.known known
    have onGpu' := passes.onGpu onGpu
    rw [taken]
    rcases decision_cases profile' resources' runtime' with
      ⟨_, unknown⟩ | ⟨taken', _⟩ | ⟨_, _, notOnGpu, _⟩ | ⟨_, _, notOnGpu, _⟩ |
      ⟨_, _, notOnGpu, _⟩
    · exact absurd unknown known'
    · rw [taken']
    · exact absurd onGpu' notOnGpu
    · exact absurd onGpu' notOnGpu
    · exact absurd onGpu' notOnGpu
  · have known' := mt passes.known known
    have inRam' := passes.inRam inRam
    have onSsd' := passes.onSsd onSsd
    rw [taken]
    unfold decision
    rw [if_neg (show ¬ (profile'.layers = 0 ∨ profile'.layers = 999) from known')]
    split
    · decide
    · rw [if_pos ⟨inRam', onSsd'⟩]
  · have known' := mt passes.known known
    have onSsd' := passes.onSsd onSsd
    have kvInRam' := passes.kvInRam kvInRam
    rw [taken]
    unfold decision
    rw [if_neg (show ¬ (profile'.layers = 0 ∨ profile'.layers = 999) from known')]
    split
    · decide
    split
    · decide
    · rw [if_pos ⟨onSsd', kvInRam'⟩]
  · rw [taken]
    exact worst

end Cascade

/-- More resources pass every test that fewer pass. -/
theorem passesMore_of_resources {fewer more : Resources} (profile : ModelProfile)
    (runtime : RuntimeMemoryConfig) (atLeast : more.AtLeast fewer) :
    PassesMore profile fewer runtime profile more runtime where
  known := id
  onGpu := fun fits => UInt64.le_trans fits (usableVram_mono atLeast)
  inRam := fun fits => UInt64.le_trans fits (usableRam_mono atLeast)
  onSsd := fun fits => UInt64.le_trans fits (usableSsd_mono atLeast)
  kvInRam := fun fits => UInt64.le_trans fits (usableRam_mono atLeast)

/-- A lighter demand passes every test that a heavier one passes. -/
theorem passesMore_of_demand {requested requested' : UInt32}
    {lighter heavier : RuntimeMemoryConfig} (profile : ModelProfile) (resources : Resources)
    (requestedLe : requested ≤ requested') (atLeast : heavier.AtLeast lighter) :
    PassesMore (profile.requesting requested') resources heavier
      (profile.requesting requested) resources lighter where
  known := id
  onGpu := fun fits => UInt64.le_trans (gpuNeed_mono profile requestedLe atLeast) fits
  inRam := fun fits => UInt64.le_trans (ramNeed_mono profile requestedLe atLeast) fits
  onSsd := id
  kvInRam := fun fits => UInt64.le_trans (kvOverhead_mono profile requestedLe atLeast) fits

/-! ## GPU layers -/

/-- More usable VRAM holds no fewer layers. -/
theorem exactLayerShare_mono (layers : UInt32) {usable usable' : UInt64}
    (estimatedGpu : UInt64) (usableLe : usable ≤ usable') :
    exactLayerShare layers usable estimatedGpu ≤
      exactLayerShare layers usable' estimatedGpu := by
  have products := Nat.mul_le_mul_left layers.toNat (UInt64.le_iff_toNat_le.mp usableLe)
  have shares := Nat.div_le_div_right (c := max estimatedGpu.toNat 1) products
  have saturated : ∀ share : Nat, min share (2 ^ 32 - 1) < UInt32.size := by
    intro share
    unfold UInt32.size
    omega
  unfold exactLayerShare
  rw [UInt32.le_iff_toNat_le, UInt32.toNat_ofNat_of_lt' (saturated _),
    UInt32.toNat_ofNat_of_lt' (saturated _)]
  omega

theorem planWithRuntime_gpuLayers (share : LayerShare) (profile : ModelProfile)
    (resources : Resources) (runtime : RuntimeMemoryConfig) :
    (planWithRuntime share profile resources runtime).gpuLayers =
      match decision profile (normalizeResources resources) runtime with
      | .gpuFast => profile.layers
      | .ramBalanced =>
          min (share profile.layers (usableVram (normalizeResources resources))
            profile.estimatedGpuMb) (if profile.layers = 0 then 0 else profile.layers - 1)
      | _ => 0 := by
  show (draft share profile (normalizeResources resources) runtime _
    (decision profile (normalizeResources resources) runtime)).gpuLayers = _
  cases decision profile (normalizeResources resources) runtime <;> rfl

private theorem saturatingPred_le (layers : UInt32) :
    (if layers = 0 then 0 else layers - 1) ≤ layers := by
  split
  · exact UInt32.zero_le
  · rename_i positive
    rw [UInt32.le_iff_toNat_le, UInt32.toNat_sub_of_le]
    · omega
    · rw [UInt32.le_iff_toNat_le, UInt32.toNat_one]
      have positiveNat := mt UInt32.toNat_inj.mp positive
      rw [UInt32.toNat_zero] at positiveNat
      omega

/-- On more resources the plan puts no fewer layers on the GPU. -/
theorem planWithRuntime_gpuLayers_mono {fewer more : Resources} (profile : ModelProfile)
    (runtime : RuntimeMemoryConfig) (atLeast : more.AtLeast fewer) :
    (planWithRuntime exactLayerShare profile fewer runtime).gpuLayers ≤
      (planWithRuntime exactLayerShare profile more runtime).gpuLayers := by
  have normalized := atLeast.normalizeResources
  have rankLe := decision_rank_le (passesMore_of_resources profile runtime normalized)
  have shareLe := exactLayerShare_mono profile.layers profile.estimatedGpuMb
    (usableVram_mono normalized)
  have predLe := saturatingPred_le profile.layers
  rw [planWithRuntime_gpuLayers, planWithRuntime_gpuLayers]
  rw [UInt32.le_iff_toNat_le] at shareLe predLe ⊢
  cases taken : decision profile (normalizeResources fewer) runtime with
  | unknownLayers => exact Nat.zero_le _
  | noLane => exact Nat.zero_le _
  | cpuSafe => exact Nat.zero_le _
  | gpuFast =>
      rw [taken] at rankLe
      cases taken' : decision profile (normalizeResources more) runtime <;>
        rw [taken'] at rankLe <;> first | exact Nat.le_refl _ | cases rankLe
  | ramBalanced =>
      rw [taken] at rankLe
      cases taken' : decision profile (normalizeResources more) runtime with
      | gpuFast =>
          simp only [toNat_min]
          omega
      | ramBalanced =>
          simp only [toNat_min]
          omega
      | cpuSafe => rw [taken'] at rankLe; exact absurd rankLe (by decide)
      | unknownLayers => rw [taken'] at rankLe; exact absurd rankLe (by decide)
      | noLane => rw [taken'] at rankLe; exact absurd rankLe (by decide)

/-- More free memory gives no worse lane and no fewer GPU layers; a heavier
demand gives no better lane. -/
theorem planWithRuntime_monotone :
    (∀ (profile : ModelProfile) (runtime : RuntimeMemoryConfig) (fewer more : Resources),
      more.AtLeast fewer →
        (planWithRuntime exactLayerShare profile more runtime).lane.rank ≤
            (planWithRuntime exactLayerShare profile fewer runtime).lane.rank ∧
          (planWithRuntime exactLayerShare profile fewer runtime).gpuLayers ≤
            (planWithRuntime exactLayerShare profile more runtime).gpuLayers) ∧
    (∀ (profile : ModelProfile) (resources : Resources) (requested requested' : UInt32)
        (lighter heavier : RuntimeMemoryConfig),
      requested ≤ requested' → heavier.AtLeast lighter →
        (planWithRuntime exactLayerShare (profile.requesting requested) resources
            lighter).lane.rank ≤
          (planWithRuntime exactLayerShare (profile.requesting requested') resources
            heavier).lane.rank) := by
  constructor
  · intro profile runtime fewer more atLeast
    constructor
    · rw [planWithRuntime_lane, planWithRuntime_lane]
      have normalized := atLeast.normalizeResources
      exact decision_rank_le (passesMore_of_resources profile runtime normalized)
    · exact planWithRuntime_gpuLayers_mono profile runtime atLeast
  · intro profile resources requested requested' lighter heavier requestedLe atLeast
    rw [planWithRuntime_lane, planWithRuntime_lane]
    exact decision_rank_le (passesMore_of_demand profile _ requestedLe atLeast)

/-- With 2048 MiB of VRAM the host without a GPU keeps its lane or a better one,
and two slots instead of one give no better lane. -/
theorem planWithRuntime_monotone_gpulessHost :
    ((planWithRuntime exactLayerShare sevenGigabyteModel
          { gpulessHost with vramFreeMb := 2048 } .default).lane.rank ≤
        (planWithRuntime exactLayerShare sevenGigabyteModel gpulessHost .default).lane.rank ∧
      (planWithRuntime exactLayerShare sevenGigabyteModel gpulessHost .default).gpuLayers ≤
        (planWithRuntime exactLayerShare sevenGigabyteModel
          { gpulessHost with vramFreeMb := 2048 } .default).gpuLayers) ∧
    (planWithRuntime exactLayerShare (sevenGigabyteModel.requesting 4096) gpulessHost
        .default).lane.rank ≤
      (planWithRuntime exactLayerShare (sevenGigabyteModel.requesting 8192) gpulessHost
        { RuntimeMemoryConfig.default with parallelSlots := 2 }).lane.rank :=
  ⟨planWithRuntime_monotone.1 sevenGigabyteModel .default gpulessHost
      { gpulessHost with vramFreeMb := 2048 }
      ⟨by decide, by decide, by decide, rfl, rfl, rfl⟩,
    planWithRuntime_monotone.2 sevenGigabyteModel gpulessHost 4096 8192 .default
      { RuntimeMemoryConfig.default with parallelSlots := 2 } (by decide)
      ⟨by decide, by decide, by decide⟩⟩

end TriAI.Planner
