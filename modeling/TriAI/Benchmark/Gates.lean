import Mathlib.Algebra.Order.BigOperators.Group.List
import TriAI.Library.Percentile

/-!
Contract: the quality gates of `benchmark.rs`.

Owns: `QualityGates` with `validate`, that the index of the percentile is in bounds, and which
gates let less than 95 percent of the measurements through their limits.

Does not own: how the measurements were made. Measurements and limits are exact rationals, in
which every value is finite.
-/

set_option autoImplicit false

namespace TriAI.Benchmark

open TriAI.Library.Percentile

structure BenchmarkResults where
  startupMs : List ℚ
  inferenceMs : List ℚ
  chunkLoadWarmMs : List ℚ
  chunkLoadColdMs : List ℚ
  warmupSeconds : List ℚ
  diskSavingsPercent : List ℚ
deriving DecidableEq

structure GateFailure where
  message : String
deriving DecidableEq

/-- What ends a validation early: a gate, or an index that is out of bounds. -/
inductive Stop where
  | failure (gate : GateFailure)
  | indexOutOfBounds
deriving DecidableEq

structure QualityGates where
  startupP95Ms : ℚ
  inferenceP95Ms : ℚ
  warmChunkP95Ms : ℚ
  coldChunkP95Ms : ℚ
  warmupP95Seconds : ℚ
  minDiskSavingsPercent : ℚ
  maxVariancePercent : ℚ

/-- `QualityGates::default()` -/
def QualityGates.default : QualityGates where
  startupP95Ms := 3000
  inferenceP95Ms := 4000
  warmChunkP95Ms := 50
  coldChunkP95Ms := 500
  warmupP95Seconds := 5
  minDiskSavingsPercent := 10
  maxVariancePercent := 10

/-- The format `:.2`. A tie goes to the even digit. -/
def twoDecimals (value : ℚ) : String :=
  let scaled := |value| * 100
  let below := ⌊scaled⌋.toNat
  let rest := scaled - below
  let hundredths := if rest < 1 / 2 ∨ rest = 1 / 2 ∧ below % 2 = 0 then below else below + 1
  let sign := if value < 0 then "-" else ""
  s!"{sign}{hundredths / 100}.{hundredths / 10 % 10}{hundredths % 10}"

def checkedP95 (name : String) (values : List ℚ) : Except Stop ℚ :=
  if values.length < 3 ∨ values.any (· < 0) then
    .error (.failure ⟨s!"{name} requires at least three finite non-negative measurements"⟩)
  else
    let sorted := values.insertionSort (· ≤ ·)
    let index := ⌈(sorted.length : ℚ) * (95 / 100)⌉.toNat - 1
    match sorted[index]? with
    | some p95 => .ok p95
    | none => .error .indexOutOfBounds

/-- The difference of the largest and the least measurement, in percent of the mean. -/
def variancePercent (values : List ℚ) : ℚ :=
  let min := values.min?.getD 0
  let max := values.max?.getD 0
  let mean := values.sum / values.length
  if mean = 0 then 0 else (max - min) / mean * 100

namespace QualityGates

variable (gates : QualityGates)

def variance (name : String) (values : List ℚ) : Except Stop Unit :=
  let variance := variancePercent values
  if gates.maxVariancePercent < variance then
    let limit := gates.maxVariancePercent
    .error (.failure
      ⟨s!"{name} variance {twoDecimals variance}% exceeds {twoDecimals limit}%"⟩)
  else
    .ok ()

def atMost (name : String) (values : List ℚ) (limit : ℚ) : Except Stop Unit := do
  let p95 ← checkedP95 name values
  if limit < p95 then
    throw (.failure ⟨s!"{name} p95 {twoDecimals p95} exceeds {twoDecimals limit}"⟩)
  gates.variance name values

def atLeast (name : String) (values : List ℚ) (limit : ℚ) : Except Stop Unit := do
  let p95 ← checkedP95 name values
  if p95 < limit then
    throw (.failure ⟨s!"{name} p95 {twoDecimals p95} below {twoDecimals limit}"⟩)
  gates.variance name values

def validate (results : BenchmarkResults) : Except Stop Unit := do
  gates.atMost "startup_p95_ms" results.startupMs gates.startupP95Ms
  gates.atMost "inference_p95_ms" results.inferenceMs gates.inferenceP95Ms
  gates.atMost "chunk_load_warm_ms" results.chunkLoadWarmMs gates.warmChunkP95Ms
  gates.atMost "chunk_load_cold_ms" results.chunkLoadColdMs gates.coldChunkP95Ms
  gates.atMost "warmup_seconds" results.warmupSeconds gates.warmupP95Seconds
  gates.atLeast "disk_savings_percent" results.diskSavingsPercent gates.minDiskSavingsPercent

end QualityGates

/-! ## What the checks let through -/

/-- At least three measurements, none negative. -/
structure Measured (values : List ℚ) : Prop where
  enough : 3 ≤ values.length
  nonnegative : ∀ value ∈ values, 0 ≤ value

/-- At least 95 percent of the measurements are within a limit. -/
def Mostly (within : ℚ → Bool) (values : List ℚ) : Prop :=
  95 * values.length ≤ 100 * values.countP within

/-- More than 5 percent of the measurements are within a limit. -/
def Sometimes (within : ℚ → Bool) (values : List ℚ) : Prop :=
  5 * values.length < 100 * values.countP within

instance (within : ℚ → Bool) (values : List ℚ) : Decidable (Mostly within values) :=
  Nat.decLe _ _

/-- The outcome of a check that lets exactly these inputs through. -/
structure Decides (outcome : Except Stop Unit) (passes : Prop) : Prop where
  inBounds : outcome ≠ .error .indexOutOfBounds
  ok_iff : outcome = .ok () ↔ passes

/-- One check after another. -/
theorem Decides.bind {first second : Except Stop Unit} {passesFirst passesSecond : Prop}
    (decidesFirst : Decides first passesFirst) (decidesSecond : Decides second passesSecond) :
    Decides (first >>= fun _ => second) (passesFirst ∧ passesSecond) := by
  cases first with
  | error stop =>
      have refused : ¬ passesFirst := fun passes => nomatch decidesFirst.ok_iff.mpr passes
      exact ⟨decidesFirst.inBounds, iff_of_false nofun fun passes => refused passes.1⟩
  | ok _ =>
      have passes : passesFirst := decidesFirst.ok_iff.mp rfl
      exact ⟨decidesSecond.inBounds, decidesSecond.ok_iff.trans (and_iff_right passes).symm⟩

section Checks

variable {values : List ℚ} {p95 : ℚ}

theorem not_refused_iff : ¬ (values.length < 3 ∨ values.any (· < 0)) ↔ Measured values := by
  simp only [not_or, not_lt, List.any_eq_true, decide_eq_true_eq, not_exists, not_and]
  exact ⟨fun admitted => ⟨admitted.1, admitted.2⟩, fun measured =>
    ⟨measured.enough, measured.nonnegative⟩⟩

theorem checkedP95_of_not_measured (name : String) (refused : ¬ Measured values) :
    ∃ failure, checkedP95 name values = .error (.failure failure) :=
  ⟨_, if_pos (not_not.mp fun admitted => refused (not_refused_iff.mp admitted))⟩

/-- The percentile is there, and it is the member of the nearest rank. -/
theorem checkedP95_of_measured (name : String) (measured : Measured values) :
    ∃ p95, checkedP95 name values = .ok p95 ∧
      (values.insertionSort (· ≤ ·))[nearestRank values.length (95 / 100)]? = some p95 := by
  have enough := measured.enough
  have filled : 0 < values.length := by omega
  obtain ⟨p95, found⟩ := percentile_found (95 / 100) filled (by norm_num)
  refine ⟨p95, ?_, found⟩
  unfold checkedP95
  rw [if_neg (not_refused_iff.mpr measured)]
  simp only [List.length_insertionSort]
  unfold nearestRank at found
  rw [found]

/-- The index of the percentile is in bounds, however many measurements there are. -/
theorem checkedP95_inBounds (name : String) (values : List ℚ) :
    checkedP95 name values ≠ .error .indexOutOfBounds := by
  by_cases measured : Measured values
  · obtain ⟨p95, checked, _⟩ := checkedP95_of_measured name measured
    rw [checked]
    exact nofun
  · obtain ⟨failure, refused⟩ := checkedP95_of_not_measured name measured
    rw [refused]
    exact nofun

variable (found : (values.insertionSort (· ≤ ·))[nearestRank values.length (95 / 100)]? = some p95)
  (limit : ℚ)

include found

theorem p95_le_iff : p95 ≤ limit ↔ Mostly (· ≤ limit) values := by
  rw [percentile_le_iff (by norm_num) found, Mostly, ← Nat.cast_le (α := ℚ)]
  push_cast
  constructor <;> intro bound <;> linarith

theorem le_p95_iff : limit ≤ p95 ↔ Sometimes (limit ≤ ·) values := by
  rw [le_percentile_iff (by norm_num) found, Sometimes, ← Nat.cast_lt (α := ℚ)]
  push_cast
  constructor <;> intro bound <;> linarith

end Checks

section Gates

variable (gates : QualityGates) (name : String) (values : List ℚ) (limit : ℚ)

/-- Any two measurements differ by no more than the allowed percentage of the mean. -/
structure Steady : Prop where
  allowed : 0 ≤ gates.maxVariancePercent
  close : ∀ first ∈ values, ∀ second ∈ values,
    (first - second) * 100 ≤ gates.maxVariancePercent * (values.sum / values.length)

variable {values} in
/-- Measurements whose mean is 0 are all 0. -/
theorem eq_zero_of_mean (measured : Measured values) (zero : values.sum / values.length = 0) :
    ∀ value ∈ values, value = 0 := by
  intro value member
  have enough := measured.enough
  have counted : (values.length : ℚ) ≠ 0 := by
    rw [Nat.cast_ne_zero]
    omega
  have sum : values.sum = 0 := (div_eq_zero_iff.mp zero).resolve_right counted
  exact List.all_zero_of_le_zero_le_of_sum_eq_zero measured.nonnegative sum member

variable {values} in
theorem mean_nonneg (measured : Measured values) : 0 ≤ values.sum / values.length :=
  div_nonneg (List.sum_nonneg measured.nonnegative) (Nat.cast_nonneg _)

variable {values} in
/-- There are a least measurement and a largest. -/
theorem extremes (measured : Measured values) :
    ∃ least ∈ values, ∃ largest ∈ values,
      (∀ value ∈ values, least ≤ value ∧ value ≤ largest) ∧
        variancePercent values =
          if values.sum / values.length = 0 then 0
          else (largest - least) / (values.sum / values.length) * 100 := by
  have enough := measured.enough
  have filled : values ≠ [] := by
    intro empty
    rw [empty] at enough
    exact absurd enough (by decide)
  obtain ⟨least, isLeast⟩ := Option.isSome_iff_exists.mp (List.isSome_min?_of_ne_nil filled)
  obtain ⟨largest, isLargest⟩ := Option.isSome_iff_exists.mp (List.isSome_max?_of_ne_nil filled)
  obtain ⟨leastMember, atLeast⟩ := List.min?_eq_some_iff.mp isLeast
  obtain ⟨largestMember, atMost⟩ := List.max?_eq_some_iff.mp isLargest
  refine ⟨least, leastMember, largest, largestMember, ?_, ?_⟩
  · exact fun value member => ⟨atLeast value member, atMost value member⟩
  · unfold variancePercent
    rw [isLeast, isLargest]
    rfl

variable {values} in
theorem variancePercent_le_iff (measured : Measured values) :
    variancePercent values ≤ gates.maxVariancePercent ↔ Steady gates values := by
  obtain ⟨least, leastMember, largest, largestMember, between, percent⟩ := extremes measured
  rw [percent]
  by_cases zero : values.sum / values.length = 0
  · have none := eq_zero_of_mean measured zero
    rw [if_pos zero]
    refine ⟨fun allowed => ⟨allowed, fun first isFirst second isSecond => ?_⟩, (·.allowed)⟩
    rw [none first isFirst, none second isSecond, zero, sub_zero, zero_mul, mul_zero]
  · have positive : 0 < values.sum / values.length := (mean_nonneg measured).lt_of_ne' zero
    rw [if_neg zero, div_mul_eq_mul_div, div_le_iff₀ positive]
    constructor
    · intro spread
      have ordered := (between least leastMember).2
      refine ⟨nonneg_of_mul_nonneg_left (by linarith) positive, ?_⟩
      intro first isFirst second isSecond
      have upper := (between first isFirst).2
      have lower := (between second isSecond).1
      linarith
    · exact fun steady => steady.close largest largestMember least leastMember

variable {values} in
theorem variance_decides (measured : Measured values) :
    Decides (gates.variance name values) (Steady gates values) := by
  rw [← variancePercent_le_iff gates measured]
  unfold QualityGates.variance
  by_cases steady : variancePercent values ≤ gates.maxVariancePercent
  · rw [if_neg (not_lt.mpr steady)]
    exact ⟨nofun, iff_of_true rfl steady⟩
  · rw [if_pos (not_le.mp steady)]
    exact ⟨nofun, iff_of_false nofun steady⟩

/-- A gate of the percentile, before the one of the variance. -/
theorem gate_decides {refuses : ℚ → Prop} [DecidablePred refuses] {passes : Prop}
    (message : ℚ → String)
    (admits : ∀ p95,
      (values.insertionSort (· ≤ ·))[nearestRank values.length (95 / 100)]? = some p95 →
        (¬ refuses p95 ↔ passes)) :
    Decides
      (do
        let p95 ← checkedP95 name values
        if refuses p95 then
          throw (.failure ⟨message p95⟩)
        gates.variance name values)
      (Measured values ∧ passes ∧ Steady gates values) := by
  by_cases measured : Measured values
  · obtain ⟨p95, checked, found⟩ := checkedP95_of_measured name measured
    have decides := variance_decides gates name measured
    rw [checked]
    by_cases refused : refuses p95
    · have fails : ¬ passes := fun passes => (admits p95 found).mpr passes refused
      show Decides (if refuses p95 then _ else _) _
      rw [if_pos refused]
      exact ⟨nofun, iff_of_false nofun fun all => fails all.2.1⟩
    · have passed := (admits p95 found).mp refused
      show Decides (if refuses p95 then _ else _) _
      rw [if_neg refused]
      refine ⟨decides.inBounds, decides.ok_iff.trans ?_⟩
      exact ⟨fun steady => ⟨measured, passed, steady⟩, fun all => all.2.2⟩
  · obtain ⟨failure, refused⟩ := checkedP95_of_not_measured name measured
    rw [refused]
    exact ⟨nofun, iff_of_false nofun fun all => measured all.1⟩

theorem atMost_decides :
    Decides (gates.atMost name values limit)
      (Measured values ∧ Mostly (· ≤ limit) values ∧ Steady gates values) :=
  gate_decides gates name values _ fun _ found => not_lt.trans (p95_le_iff found limit)

theorem atLeast_decides :
    Decides (gates.atLeast name values limit)
      (Measured values ∧ Sometimes (limit ≤ ·) values ∧ Steady gates values) :=
  gate_decides gates name values _ fun _ found => not_lt.trans (le_p95_iff found limit)

end Gates

/-! ## Validation -/

section Validation

variable (gates : QualityGates) (results : BenchmarkResults)

/-- The measurements of a metric pass a gate from above. -/
def PassesAtMost (values : List ℚ) (limit : ℚ) : Prop :=
  Measured values ∧ Mostly (· ≤ limit) values ∧ Steady gates values

/-- Everything that `validate` asks for, but for the percentile of the disk savings. -/
structure PassesTheRest : Prop where
  startup : PassesAtMost gates results.startupMs gates.startupP95Ms
  inference : PassesAtMost gates results.inferenceMs gates.inferenceP95Ms
  chunkLoadWarm : PassesAtMost gates results.chunkLoadWarmMs gates.warmChunkP95Ms
  chunkLoadCold : PassesAtMost gates results.chunkLoadColdMs gates.coldChunkP95Ms
  warmup : PassesAtMost gates results.warmupSeconds gates.warmupP95Seconds
  savingsMeasured : Measured results.diskSavingsPercent
  savingsSteady : Steady gates results.diskSavingsPercent

/-- Of every metric, at least 95 percent of the measurements are within its limit. -/
structure WithinLimits : Prop where
  startup : Mostly (· ≤ gates.startupP95Ms) results.startupMs
  inference : Mostly (· ≤ gates.inferenceP95Ms) results.inferenceMs
  chunkLoadWarm : Mostly (· ≤ gates.warmChunkP95Ms) results.chunkLoadWarmMs
  chunkLoadCold : Mostly (· ≤ gates.coldChunkP95Ms) results.chunkLoadColdMs
  warmup : Mostly (· ≤ gates.warmupP95Seconds) results.warmupSeconds
  diskSavings : Mostly (gates.minDiskSavingsPercent ≤ ·) results.diskSavingsPercent

/-- The percentile of the disk savings ignores the lower tail: all but the largest 5 percent may
be too small. -/
theorem validate_decides :
    Decides (gates.validate results)
      (PassesTheRest gates results ∧
        Sometimes (gates.minDiskSavingsPercent ≤ ·) results.diskSavingsPercent) := by
  have decides :=
    (atMost_decides gates "startup_p95_ms" results.startupMs gates.startupP95Ms).bind <|
    (atMost_decides gates "inference_p95_ms" results.inferenceMs gates.inferenceP95Ms).bind <|
    (atMost_decides gates "chunk_load_warm_ms" results.chunkLoadWarmMs gates.warmChunkP95Ms).bind <|
    (atMost_decides gates "chunk_load_cold_ms" results.chunkLoadColdMs gates.coldChunkP95Ms).bind <|
    (atMost_decides gates "warmup_seconds" results.warmupSeconds gates.warmupP95Seconds).bind <|
    atLeast_decides gates "disk_savings_percent" results.diskSavingsPercent
      gates.minDiskSavingsPercent
  refine ⟨decides.inBounds, decides.ok_iff.trans ?_⟩
  constructor
  · rintro ⟨startup, inference, warm, cold, warmup, measured, reached, steady⟩
    exact ⟨⟨startup, inference, warm, cold, warmup, measured, steady⟩, reached⟩
  · rintro ⟨⟨startup, inference, warm, cold, warmup, measured, steady⟩, reached⟩
    exact ⟨startup, inference, warm, cold, warmup, measured, reached, steady⟩

/-- Results that `validate` lets through keep their limits. -/
structure GatesHold : Prop where
  inBounds : ∀ name values, checkedP95 name values ≠ .error .indexOutOfBounds
  within : gates.validate results = .ok () → WithinLimits gates results

theorem withinLimits_iff (rest : PassesTheRest gates results) :
    WithinLimits gates results ↔
      Mostly (gates.minDiskSavingsPercent ≤ ·) results.diskSavingsPercent where
  mp within := within.diskSavings
  mpr savings :=
    { startup := rest.startup.2.1
      inference := rest.inference.2.1
      chunkLoadWarm := rest.chunkLoadWarm.2.1
      chunkLoadCold := rest.chunkLoadCold.2.1
      warmup := rest.warmup.2.1
      diskSavings := savings }

/-- The gates hold exactly where another check refuses the results, at most 5 percent of the disk
savings reach the minimum, or at least 95 percent do. -/
theorem validate_gatesHold_iff :
    GatesHold gates results ↔
      (PassesTheRest gates results →
        ¬ Sometimes (gates.minDiskSavingsPercent ≤ ·) results.diskSavingsPercent ∨
          Mostly (gates.minDiskSavingsPercent ≤ ·) results.diskSavingsPercent) := by
  have accepted := (validate_decides gates results).ok_iff
  constructor
  · intro hold rest
    by_cases reached : Sometimes (gates.minDiskSavingsPercent ≤ ·) results.diskSavingsPercent
    · exact .inr (hold.within (accepted.mpr ⟨rest, reached⟩)).diskSavings
    · exact .inl reached
  · intro condition
    refine ⟨checkedP95_inBounds, fun passed => ?_⟩
    have ⟨rest, reached⟩ := accepted.mp passed
    apply (withinLimits_iff gates results rest).mpr
    exact (condition rest).resolve_left (not_not.mpr reached)

end Validation

/-- The baseline of the tests with savings of which two in three are below the minimum. -/
def lowSavings : BenchmarkResults where
  startupMs := [2600, 2650, 2700]
  inferenceMs := [3100, 3150, 3200]
  chunkLoadWarmMs := [48, 49, 50]
  chunkLoadColdMs := [480, 490, 500]
  warmupSeconds := [49 / 10, 495 / 100, 5]
  diskSavingsPercent := [99 / 10, 99 / 10, 101 / 10]

theorem validate_not_gatesHold :
    QualityGates.default.validate lowSavings = .ok () ∧ ¬ GatesHold .default lowSavings := by
  have passed : QualityGates.default.validate lowSavings = .ok () := by decide +kernel
  refine ⟨passed, fun hold => ?_⟩
  exact absurd (hold.within passed).diskSavings (by decide +kernel)

end TriAI.Benchmark
