import TriAI.Planner.Plan

/-!
Contract: which plans marked safe stay within the usable memory.

Owns: the inversion of the planner's decision, the memory bounds of every lane
and the exact inputs on which a safe plan is within both budgets.

Does not own: the planner.
-/

set_option autoImplicit false

namespace TriAI.Planner

open TriAI.Library.MachineInt

section Estimates

variable (profile : ModelProfile) (resources : Resources) (runtime : RuntimeMemoryConfig)

/-- The GPU lane's test. -/
def FitsGpu : Prop := gpuNeed profile runtime ≤ usableVram resources

/-- The RAM-balanced lane's tests. -/
def FitsRam : Prop := ramNeed profile runtime ≤ usableRam resources

def FitsSsd : Prop := profile.fileSizeMb ≤ usableSsd resources

/-- The CPU lane's test of the KV cache against the usable RAM. -/
def KvFitsRam : Prop := kvOverhead profile runtime ≤ usableRam resources

/-- A layer count the planner refuses. -/
def UnknownLayers : Prop := profile.layers = 0 ∨ profile.layers = 999

instance : Decidable (FitsGpu profile resources runtime) := by
  unfold FitsGpu
  infer_instance

instance : Decidable (FitsRam profile resources runtime) := by
  unfold FitsRam
  infer_instance

instance : Decidable (FitsSsd profile resources) := by
  unfold FitsSsd
  infer_instance

instance : Decidable (KvFitsRam profile resources runtime) := by
  unfold KvFitsRam
  infer_instance

end Estimates

variable {profile : ModelProfile} {resources : Resources} {runtime : RuntimeMemoryConfig}

/-- Inversion of the decision: each outcome with everything tested on its way. -/
theorem decision_cases (profile : ModelProfile) (resources : Resources)
    (runtime : RuntimeMemoryConfig) :
    (decision profile resources runtime = .unknownLayers ∧ UnknownLayers profile) ∨
    (decision profile resources runtime = .gpuFast ∧ ¬ UnknownLayers profile ∧
      FitsGpu profile resources runtime) ∨
    (decision profile resources runtime = .ramBalanced ∧ ¬ UnknownLayers profile ∧
      ¬ FitsGpu profile resources runtime ∧ FitsRam profile resources runtime ∧
      FitsSsd profile resources) ∨
    (decision profile resources runtime = .cpuSafe ∧ ¬ UnknownLayers profile ∧
      ¬ FitsGpu profile resources runtime ∧ ¬ FitsRam profile resources runtime ∧
      FitsSsd profile resources ∧ KvFitsRam profile resources runtime) ∨
    (decision profile resources runtime = .noLane ∧ ¬ UnknownLayers profile ∧
      ¬ FitsGpu profile resources runtime ∧
      ¬ (FitsSsd profile resources ∧ KvFitsRam profile resources runtime)) := by
  unfold decision UnknownLayers FitsGpu FitsRam FitsSsd KvFitsRam
  split
  · rename_i unknown
    exact .inl ⟨rfl, unknown⟩
  rename_i known
  split
  · rename_i onGpu
    exact .inr (.inl ⟨rfl, known, onGpu⟩)
  rename_i notOnGpu
  split
  · rename_i inRam
    exact .inr (.inr (.inl ⟨rfl, known, notOnGpu, inRam.1, inRam.2⟩))
  rename_i notInRam
  split
  · rename_i onCpu
    have ramTooSmall := fun fits => notInRam ⟨fits, onCpu.1⟩
    exact .inr (.inr (.inr (.inl ⟨rfl, known, notOnGpu, ramTooSmall, onCpu.1, onCpu.2⟩)))
  · rename_i nowhere
    exact .inr (.inr (.inr (.inr ⟨rfl, known, notOnGpu, nowhere⟩)))

/-- A plan marked safe needs no more memory than is usable. -/
def WithinBudget (resources : Resources) (plan : Plan) : Prop :=
  plan.safe = true →
    plan.estimatedVramMb ≤ usableVram (normalizeResources resources) ∧
      plan.estimatedRamMb ≤ usableRam (normalizeResources resources)

instance (resources : Resources) (plan : Plan) : Decidable (WithinBudget resources plan) := by
  unfold WithinBudget
  infer_instance

/-- Identifying a plan changes nothing but its identifier. -/
theorem withinBudget_identifiedPlan {generation : UInt64} {plan : Plan} :
    WithinBudget resources (identifiedPlan profile generation plan) ↔
      WithinBudget resources plan := Iff.rfl

private theorem min_word_le_left (left right : UInt64) : min left right ≤ left := by
  change (if left ≤ right then left else right) ≤ left
  split
  · exact UInt64.le_refl left
  · rename_i above
    exact UInt64.le_of_lt (UInt64.not_le.mp above)

/-- The inputs on which a safe plan respects both budgets: there is no lane to
take, or the RAM need fits although the GPU and CPU lanes never test it. -/
def RamTestedOrRejected (profile : ModelProfile) (resources : Resources)
    (runtime : RuntimeMemoryConfig) : Prop :=
  UnknownLayers profile ∨ FitsRam profile resources runtime ∨
    (¬ FitsGpu profile resources runtime ∧
      ¬ (FitsSsd profile resources ∧ KvFitsRam profile resources runtime))

/-- The planner's safe plans stay within the usable VRAM and RAM exactly when
the RAM need fits or every lane is refused. -/
theorem planWithRuntime_withinBudget_iff (share : LayerShare) (profile : ModelProfile)
    (resources : Resources) (runtime : RuntimeMemoryConfig) :
    WithinBudget resources (planWithRuntime share profile resources runtime) ↔
      RamTestedOrRejected profile (normalizeResources resources) runtime := by
  unfold planWithRuntime
  rw [withinBudget_identifiedPlan]
  rcases decision_cases profile (normalizeResources resources) runtime with
    ⟨taken, unknown⟩ | ⟨taken, known, onGpu⟩ | ⟨taken, known, notOnGpu, inRam, onSsd⟩ |
    ⟨taken, known, notOnGpu, notInRam, onSsd, kvInRam⟩ | ⟨taken, known, notOnGpu, nowhere⟩
  · rw [taken]
    exact ⟨fun _ => .inl unknown, fun _ isSafe => by cases isSafe⟩
  · rw [taken]
    constructor
    · intro within
      exact .inr (.inl (within rfl).2)
    · rintro (unknown | inRam | ⟨notOnGpu, _⟩)
      · exact absurd unknown known
      · exact fun _ => ⟨onGpu, inRam⟩
      · exact absurd onGpu notOnGpu
  · rw [taken]
    exact ⟨fun _ => .inr (.inl inRam), fun _ _ => ⟨min_word_le_left _ _, inRam⟩⟩
  · rw [taken]
    constructor
    · intro within
      exact absurd (within rfl).2 notInRam
    · rintro (unknown | inRam | ⟨_, nowhere⟩)
      · exact absurd unknown known
      · exact absurd inRam notInRam
      · exact absurd ⟨onSsd, kvInRam⟩ nowhere
  · rw [taken]
    exact ⟨fun _ => .inr (.inr ⟨notOnGpu, nowhere⟩),
      fun _ isSafe => by cases isSafe⟩

/-- A host without a GPU and with 4 GiB of free RAM. -/
def gpulessHost : Resources where
  vramFreeMb := 0
  ramFreeMb := 4096
  ssdFreeMb := 100000
  vramReserveMb := 0
  ramReserveMb := 1000
  ssdReserveMb := 1000

/-- A model whose RAM estimate is 7000 MiB. -/
def sevenGigabyteModel : ModelProfile where
  model := "m.gguf"
  fileSizeMb := 5000
  estimatedGpuMb := 6000
  estimatedRamMb := 7000
  layers := 32
  contextTokens := 8192
  requestedContextTokens := 4096

/-- The CPU lane is taken and marked safe with 7256 MiB of RAM needed, 3096 MiB
usable, and 256 MiB of VRAM on a host that has none. -/
theorem gpulessHost_plan_not_withinBudget :
    ¬ WithinBudget gpulessHost
      (planWithRuntime exactLayerShare sevenGigabyteModel gpulessHost .default) := by
  decide +kernel

end TriAI.Planner
