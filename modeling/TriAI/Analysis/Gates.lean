import TriAI.Library.MachineInt

/-!
Contract: the policy proposals of `analysis/policy.rs` and the gates of `analysis/gates.rs`
that promote them, hold them or roll them back.

Owns: `AggregateWindow`, `PolicyVersioner`, `PromotionGates`, and which measurements the gates
promote and roll back.

Does not own: the schedule of the analysis jobs. Measurements are exact rationals, in which
every value is finite.
-/

set_option autoImplicit false

namespace TriAI.Analysis

open TriAI.Library.MachineInt

structure AggregateWindow where
  startMs : UInt64
  endMs : UInt64
  observations : UInt64
  independentModelObservations : UInt32
  diskSavingsPercent : ℚ
  baselineDecodeP95Ms : UInt64
  candidateDecodeP95Ms : UInt64
  confidence : ℚ
deriving DecidableEq

def AggregateWindow.isValid (window : AggregateWindow) : Bool :=
  window.endMs > window.startMs && window.observations > 0 &&
    (0 ≤ window.confidence && window.confidence ≤ 1)

structure PolicyProposal where
  version : UInt64
  sourceWindowStartMs : UInt64
  sourceWindowEndMs : UInt64
  cacheBudgetMb : UInt32
  prefetchDepth : UInt32
  confidence : ℚ
  diskSavingsPercent : ℚ
  decodeChangePercent : ℚ
deriving DecidableEq

structure PolicyVersioner where
  lastVersion : UInt64
deriving DecidableEq

/-- How much slower the candidate decodes. A baseline of 0 counts as no change. -/
def decodeChangePercent (window : AggregateWindow) : ℚ :=
  if window.baselineDecodeP95Ms = 0 then
    0
  else
    ((window.candidateDecodeP95Ms.toNat : ℚ) / window.baselineDecodeP95Ms.toNat - 1) * 100

def PolicyVersioner.next (versioner : PolicyVersioner) (window : AggregateWindow) :
    PolicyProposal × PolicyVersioner :=
  let lastVersion := saturatingAdd versioner.lastVersion 1
  let proposal :=
    { version := lastVersion
      sourceWindowStartMs := window.startMs
      sourceWindowEndMs := window.endMs
      cacheBudgetMb := if 15 ≤ window.diskSavingsPercent then 512 else 256
      prefetchDepth := if decodeChangePercent window ≤ 0 then 2 else 1
      confidence := window.confidence
      diskSavingsPercent := window.diskSavingsPercent
      decodeChangePercent := decodeChangePercent window }
  (proposal, ⟨lastVersion⟩)

inductive PromotionDecision where
  | promote
  | hold (reason : String)
  | rollback (reason : String)
deriving DecidableEq

structure PromotionGates where
  minObservations : UInt64
  minIndependentModels : UInt32
  minConfidence : ℚ
  minDiskSavingsPercent : ℚ
  maxDecodeRegressionPercent : ℚ
  rollbackDecodeRegressionPercent : ℚ

namespace PromotionGates

/-- `PromotionGates::default()` -/
def default : PromotionGates where
  minObservations := 30
  minIndependentModels := 2
  minConfidence := 4 / 5
  minDiskSavingsPercent := 15
  maxDecodeRegressionPercent := 10
  rollbackDecodeRegressionPercent := 20

def evaluate (gates : PromotionGates) (window : AggregateWindow) (proposal : PolicyProposal) :
    PromotionDecision :=
  if gates.rollbackDecodeRegressionPercent ≤ proposal.decodeChangePercent then
    .rollback "decode regression exceeds rollback threshold"
  else if window.observations < gates.minObservations then
    .hold "insufficient observations"
  else if window.independentModelObservations < gates.minIndependentModels then
    .hold "insufficient independent observations"
  else if proposal.confidence < gates.minConfidence then
    .hold "confidence below promotion threshold"
  else if proposal.diskSavingsPercent < gates.minDiskSavingsPercent then
    .hold "disk savings below promotion threshold"
  else if gates.maxDecodeRegressionPercent < proposal.decodeChangePercent then
    .hold "decode regression exceeds promotion threshold"
  else
    .promote

end PromotionGates

/-! ## Decisions -/

section Decisions

variable (gates : PromotionGates) (window : AggregateWindow) (proposal : PolicyProposal)

/-- A change within a percentage, as a bound on the candidate. -/
theorem decodeChangePercent_le_iff (measured : window.baselineDecodeP95Ms ≠ 0) (percent : ℚ) :
    decodeChangePercent window ≤ percent ↔
      (window.candidateDecodeP95Ms.toNat : ℚ) ≤
        window.baselineDecodeP95Ms.toNat * (1 + percent / 100) := by
  have positive : (0 : ℚ) < window.baselineDecodeP95Ms.toNat :=
    Nat.cast_pos.mpr (toNat_pos_word measured)
  unfold decodeChangePercent
  rw [if_neg measured, ← le_div_iff₀ (by norm_num), sub_le_iff_le_add', div_le_iff₀ positive,
    mul_comm]

/-- A change of a percentage at least, as a bound on the candidate. -/
theorem le_decodeChangePercent_iff (measured : window.baselineDecodeP95Ms ≠ 0) (percent : ℚ) :
    percent ≤ decodeChangePercent window ↔
      window.baselineDecodeP95Ms.toNat * (1 + percent / 100) ≤
        (window.candidateDecodeP95Ms.toNat : ℚ) := by
  have positive : (0 : ℚ) < window.baselineDecodeP95Ms.toNat :=
    Nat.cast_pos.mpr (toNat_pos_word measured)
  unfold decodeChangePercent
  rw [if_neg measured, ← div_le_iff₀ (by norm_num), le_sub_iff_add_le', le_div_iff₀ positive,
    mul_comm]

variable {gates window proposal}

theorem evaluate_rollback
    (regressed : gates.rollbackDecodeRegressionPercent ≤ proposal.decodeChangePercent) :
    ∃ reason, gates.evaluate window proposal = .rollback reason :=
  ⟨_, if_pos regressed⟩

theorem change_le_of_promote (promoted : gates.evaluate window proposal = .promote) :
    proposal.decodeChangePercent ≤ gates.maxDecodeRegressionPercent := by
  by_contra slower
  unfold PromotionGates.evaluate at promoted
  rw [if_pos (not_le.mp slower)] at promoted
  split_ifs at promoted

variable (gates window)

/-- What the measurements of a window ask of a decision: a promoted candidate is slower by no
more than the largest regression, and a slower candidate that reaches the rollback threshold
is rolled back. -/
structure AgreesWith (decision : PromotionDecision) : Prop where
  promoted : decision = .promote →
    (window.candidateDecodeP95Ms.toNat : ℚ) ≤
      window.baselineDecodeP95Ms.toNat * (1 + gates.maxDecodeRegressionPercent / 100)
  rolledBack : window.baselineDecodeP95Ms.toNat *
      (1 + gates.rollbackDecodeRegressionPercent / 100) ≤
        (window.candidateDecodeP95Ms.toNat : ℚ) →
    window.baselineDecodeP95Ms < window.candidateDecodeP95Ms →
    ∃ reason, decision = .rollback reason

/-- The window with a candidate that took no time. -/
def AggregateWindow.unchanged (window : AggregateWindow) : AggregateWindow :=
  { window with candidateDecodeP95Ms := 0 }

variable (versioner : PolicyVersioner)

theorem agreesWith_measured (measured : window.baselineDecodeP95Ms ≠ 0) :
    AgreesWith gates window (gates.evaluate window (versioner.next window).1) where
  promoted := fun promoted =>
    (decodeChangePercent_le_iff window measured _).mp (change_le_of_promote promoted)
  rolledBack := fun regressed _ =>
    evaluate_rollback ((le_decodeChangePercent_iff window measured _).mpr regressed)

/-- The gates agree with a window that has a baseline or a candidate of 0. A window without a
baseline is decided like one whose candidate is 0. -/
theorem evaluate_next_agreesWith :
    (window.baselineDecodeP95Ms ≠ 0 ∨ window.candidateDecodeP95Ms = 0 →
        AgreesWith gates window (gates.evaluate window (versioner.next window).1)) ∧
      (window.baselineDecodeP95Ms = 0 →
        gates.evaluate window (versioner.next window).1 =
          gates.evaluate window.unchanged (versioner.next window.unchanged).1) := by
  constructor
  · intro comparable
    by_cases measured : window.baselineDecodeP95Ms = 0
    · have still : window.candidateDecodeP95Ms = 0 := comparable.resolve_left (not_not.mpr measured)
      constructor
      · intro _
        rw [measured, still]
        simp
      · intro _ slower
        rw [measured, still] at slower
        exact absurd slower (UInt64.lt_irrefl 0)
    · exact agreesWith_measured gates window versioner measured
  · intro unmeasured
    have same : decodeChangePercent window = decodeChangePercent window.unchanged := by
      unfold decodeChangePercent
      rw [if_pos unmeasured]
      exact (if_pos unmeasured).symm
    unfold PolicyVersioner.next
    rw [same]
    rfl

end Decisions

/-- A window of thirty observations of two models. -/
def measuredWindow (baseline candidate : UInt64) : AggregateWindow where
  startMs := 1
  endMs := 2
  observations := 30
  independentModelObservations := 2
  diskSavingsPercent := 20
  baselineDecodeP95Ms := baseline
  candidateDecodeP95Ms := candidate
  confidence := 9 / 10

/-- A candidate that is slower by a quarter is rolled back. -/
theorem evaluate_next_agreesWith_slower :
    AgreesWith .default (measuredWindow 100 125)
      (PromotionGates.default.evaluate (measuredWindow 100 125)
        ((⟨0⟩ : PolicyVersioner).next (measuredWindow 100 125)).1) :=
  (evaluate_next_agreesWith .default (measuredWindow 100 125) ⟨0⟩).1 (.inl (by decide))

/-- Without a baseline a candidate of 500 ms is promoted. -/
theorem evaluate_promotes_without_baseline :
    (measuredWindow 0 500).isValid = true ∧
      PromotionGates.default.evaluate (measuredWindow 0 500)
        ((⟨0⟩ : PolicyVersioner).next (measuredWindow 0 500)).1 = .promote ∧
      ¬ AgreesWith .default (measuredWindow 0 500)
        (PromotionGates.default.evaluate (measuredWindow 0 500)
          ((⟨0⟩ : PolicyVersioner).next (measuredWindow 0 500)).1) := by
  have promoted : PromotionGates.default.evaluate (measuredWindow 0 500)
      ((⟨0⟩ : PolicyVersioner).next (measuredWindow 0 500)).1 = .promote := by
    decide +kernel
  refine ⟨by decide +kernel, promoted, ?_⟩
  intro agrees
  have bounded := agrees.promoted promoted
  have none : (500 : UInt64).toNat = 0 := by
    norm_num [measuredWindow] at bounded
    exact bounded
  exact absurd none (by decide)

end TriAI.Analysis
