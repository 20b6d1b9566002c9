import TriAI.Kernel.Residency
import TriAI.Library.MachineInt

/-!
Contract: the pressure report of the memory manager.

Owns: `GpuMemoryInfo`, `MemoryPressure`, `memoryPressure`, and the states in which the
utilisation it reports is the exact one.

Does not own: the operations, and how the GPU is queried: the answer is an argument.
-/

set_option autoImplicit false

namespace TriAI.Kernel

open TriAI.Library.MachineInt
open TriAI.Library.Runs
open TriAI.Library.WeightedMap

structure GpuMemoryInfo where
  totalMb : UInt64
  usedMb : UInt64
  freeMb : UInt64
  gpuUtilPercent : UInt8
  memoryUtilPercent : UInt8
  performanceState : String
deriving DecidableEq

/-- What `memory_pressure` assumes of a GPU that does not answer. -/
def GpuMemoryInfo.unknown : GpuMemoryInfo where
  totalMb := 11264
  usedMb := 0
  freeMb := 11264
  gpuUtilPercent := 0
  memoryUtilPercent := 0
  performanceState := "unknown"

structure MemoryPressure where
  vramBytes : UInt64
  vramCount : Nat
  ramBytes : UInt64
  ramCount : Nat
  vramBudgetBytes : UInt64
  vramUtilPercent : UInt8
  gpuUtilPercent : UInt8
  vramPressure : Bool
  ramPressure : Bool
  overallPressure : Bool
deriving DecidableEq

namespace KernelWorker

variable (worker : KernelWorker)

/-- `ram.values().map(|p| p.size_bytes).sum()`, which wraps. -/
def ramBytes : UInt64 :=
  UInt64.ofNat (total (fun entry => entry.2.sizeBytes.toNat) worker.ramPages)

/-- `memory_pressure`; `query` is the answer of `GpuMemoryInfo::query`, if there is one. -/
def memoryPressure (query : Option GpuMemoryInfo) : MemoryPressure :=
  let gpuInfo := query.getD .unknown
  let ramCount := size worker.ramPages
  let vramPressure :=
    decide (worker.vramBudgetBytes ≤ worker.vramBytes ∨ 85 ≤ gpuInfo.memoryUtilPercent)
  let ramPressure := decide (50 < ramCount)
  { vramBytes := worker.vramBytes
    vramCount := size worker.vramPages
    ramBytes := worker.ramBytes
    ramCount
    vramBudgetBytes := worker.vramBudgetBytes
    vramUtilPercent :=
      if 0 < worker.vramBudgetBytes then
        (worker.vramBytes * 100 / worker.vramBudgetBytes).toUInt8
      else 0
    gpuUtilPercent := gpuInfo.memoryUtilPercent
    vramPressure
    ramPressure
    overallPressure := vramPressure || ramPressure }

end KernelWorker

/-! ## Percentages of words -/

/-- The percentage that words compute, as numbers: a hundred times the used bytes without
what is above the word, and of the quotient the lowest byte. -/
theorem toNat_percent (used budget : UInt64) :
    (used * 100 / budget).toUInt8.toNat = 100 * used.toNat % 2 ^ 64 / budget.toNat % 2 ^ 8 := by
  rw [UInt64.toNat_toUInt8, UInt64.toNat_div, UInt64.toNat_mul, Nat.mul_comm]
  rfl

/-- Where the product of a hundred and the used bytes is a word below 256 budgets; or where
the quotient has too many digits and its last byte is 255 all the same. -/
def PercentFits (used budget : Nat) : Prop :=
  (100 * used < 2 ^ 64 ∧ 100 * used < 256 * budget) ∨
    (256 * budget ≤ 100 * used ∧ 100 * used % 2 ^ 64 / budget % 256 = 255)

instance (used budget : Nat) : Decidable (PercentFits used budget) := by
  unfold PercentFits
  infer_instance

/-- A product that is no word loses at least one budget. -/
theorem percent_lost {product budget : Nat} (positive : 0 < budget) (budgetLt : budget < 2 ^ 64)
    (wraps : 2 ^ 64 ≤ product) : product % 2 ^ 64 / budget < product / budget := by
  have less : product % 2 ^ 64 + budget ≤ product := by omega
  calc product % 2 ^ 64 / budget
      < product % 2 ^ 64 / budget + 1 := Nat.lt_succ_self _
    _ = (product % 2 ^ 64 + budget) / budget := (Nat.add_div_right _ positive).symm
    _ ≤ product / budget := Nat.div_le_div_right less

theorem percent_eq_iff {used budget : Nat} (positive : 0 < budget) (budgetLt : budget < 2 ^ 64) :
    100 * used % 2 ^ 64 / budget % 2 ^ 8 = min 255 (100 * used / budget) ↔
      PercentFits used budget := by
  have below : 100 * used < 256 * budget ↔ 100 * used / budget < 256 :=
    (Nat.div_lt_iff_lt_mul positive).symm
  have above : 256 * budget ≤ 100 * used ↔ 256 ≤ 100 * used / budget :=
    (Nat.le_div_iff_mul_le positive).symm
  unfold PercentFits
  rw [below, above]
  by_cases wraps : 2 ^ 64 ≤ 100 * used
  · have lost := percent_lost positive budgetLt wraps
    generalize 100 * used % 2 ^ 64 / budget = low at lost ⊢
    generalize 100 * used / budget = percent at lost ⊢
    omega
  · rw [Nat.mod_eq_of_lt (by omega : 100 * used < 2 ^ 64)]
    generalize 100 * used / budget = percent
    omega

/-! ## Reports -/

/-- The report gives the used share of the budget in percent, at most 255; at least 100 where
the budget is used up. -/
structure ReportsUse (worker : KernelWorker) (pressure : MemoryPressure) : Prop where
  percent : pressure.vramUtilPercent.toNat =
    min 255 (100 * worker.vramTotal / worker.vramBudgetBytes.toNat)
  full : worker.vramBudgetBytes.toNat ≤ worker.vramTotal → 100 ≤ pressure.vramUtilPercent.toNat

theorem reportsUse_of_percent {worker : KernelWorker} {pressure : MemoryPressure}
    (positive : 0 < worker.vramBudgetBytes.toNat)
    (percent : pressure.vramUtilPercent.toNat =
      min 255 (100 * worker.vramTotal / worker.vramBudgetBytes.toNat)) :
    ReportsUse worker pressure where
  percent := percent
  full := by
    intro used
    have hundred : 100 ≤ 100 * worker.vramTotal / worker.vramBudgetBytes.toNat := by
      rw [Nat.le_div_iff_mul_le positive]
      omega
    omega

/-- What is reported where there is a budget. -/
theorem toNat_vramUtilPercent {worker : KernelWorker} (query : Option GpuMemoryInfo)
    (positive : 0 < worker.vramBudgetBytes.toNat) :
    (worker.memoryPressure query).vramUtilPercent.toNat =
      100 * worker.vramTotal % 2 ^ 64 / worker.vramBudgetBytes.toNat % 2 ^ 8 := by
  have counted : 0 < worker.vramBudgetBytes := UInt64.lt_iff_toNat_lt.mpr positive
  show (if 0 < worker.vramBudgetBytes then
    (worker.vramBytes * 100 / worker.vramBudgetBytes).toUInt8 else 0).toNat = _
  rw [if_pos counted, toNat_percent, KernelWorker.vramBytes, UInt64.toNat_ofNat', Nat.mul_mod_mod]

/-- While the loads fit a budget whose hundredfold is a word, the report is the exact one. -/
theorem memoryPressure_of_fittingLoads {vramBudgetMb : UInt64} {history : List Request}
    {last : KernelWorker} (run : Run FittingLoads (KernelWorker.new vramBudgetMb) history last)
    (budgeted : last.vramBudgetBytes ≠ 0) (small : 100 * last.vramBudgetBytes.toNat < 2 ^ 64)
    (query : Option GpuMemoryInfo) : ReportsUse last (last.memoryPressure query) := by
  have within := withinBudget_of_run run
  have positive := toNat_pos_word budgeted
  apply reportsUse_of_percent positive
  rw [toNat_vramUtilPercent query positive, percent_eq_iff positive last.vramBudgetBytes.toNat_lt]
  unfold WithinBudget at within
  unfold PercentFits
  omega

/-- Exactly where the percentage fits its words, the report is the exact one: whatever the
operations before, and whatever the GPU answers. -/
theorem memoryPressure_reportsUse_iff (worker : KernelWorker) (query : Option GpuMemoryInfo)
    (budgeted : worker.vramBudgetBytes ≠ 0) :
    ReportsUse worker (worker.memoryPressure query) ↔
      PercentFits worker.vramTotal worker.vramBudgetBytes.toNat := by
  have positive := toNat_pos_word budgeted
  rw [← percent_eq_iff positive worker.vramBudgetBytes.toNat_lt,
    ← toNat_vramUtilPercent query positive]
  exact ⟨fun reports => reports.percent, reportsUse_of_percent positive⟩

/-- A worker with one page. -/
def onePage (vramBudgetMb size : UInt64) : KernelWorker :=
  (Request.loadToVram "a" "t" size).perform (KernelWorker.new vramBudgetMb)

/-- A page that fills the budget is reported as 100 percent. -/
theorem onePage_reportsUse :
    ReportsUse (onePage 1 1048576) ((onePage 1 1048576).memoryPressure none) ↔
      PercentFits (onePage 1 1048576).vramTotal (onePage 1 1048576).vramBudgetBytes.toNat :=
  memoryPressure_reportsUse_iff (onePage 1 1048576) none (by decide)

/-- A page of three times the budget is reported as 44 percent. -/
theorem onePage_not_reportsUse :
    ((onePage 1 3145728).memoryPressure none).vramUtilPercent = 44 ∧
      ¬ ReportsUse (onePage 1 3145728) ((onePage 1 3145728).memoryPressure none) := by
  have reported : ((onePage 1 3145728).memoryPressure none).vramUtilPercent = 44 := by
    decide +kernel
  refine ⟨reported, ?_⟩
  intro reports
  have full := reports.full (by decide +kernel)
  rw [reported] at full
  exact absurd full (by decide)

end TriAI.Kernel
