import TriAI.Library.Runs
import TriAI.Library.MachineInt

/-!
Contract: the trigger controller of `performance.rs`.

Owns: `TriggerController` with `new` and `evaluate`, its runs over windows, and when and how
often they evict.

Does not own: the windows' other measurements and `recommend_action`, which the controller
does not look at.
-/

set_option autoImplicit false

namespace TriAI.Performance

open TriAI.Library
open TriAI.Library.MachineInt

/-- The measurement of a window that the controller reads. -/
structure PipelineWindow where
  vramFreeMb : UInt64
deriving DecidableEq

inductive TransferAction where
  | keep
  | prefetchOneChunk
  | batchTransfers
  | evictColdRegion
  | disableSsdDuringDecode
  | protectKvCache
deriving DecidableEq

structure TriggerConfig where
  vramEnterMb : UInt64
  vramExitMb : UInt64
  cooldownMs : UInt64
deriving DecidableEq

/-- `TriggerConfig::default()` -/
def TriggerConfig.default : TriggerConfig where
  vramEnterMb := 768
  vramExitMb := 1024
  cooldownMs := 1000

structure TriggerDecision where
  action : TransferAction
  triggered : Bool
  reason : String
deriving DecidableEq

structure TriggerController where
  config : TriggerConfig
  evicting : Bool
  lastActionMs : Option UInt64
deriving DecidableEq

namespace TriggerController

/-- `new`, which panics where the thresholds are in the wrong order. -/
def new (config : TriggerConfig) : Option TriggerController :=
  if config.vramEnterMb ≤ config.vramExitMb then
    some { config, evicting := false, lastActionMs := none }
  else none

variable (controller : TriggerController) (window : PipelineWindow) (nowMs : UInt64)

/-- `evicting` after the two comparisons. -/
def evictingAt : Bool :=
  if window.vramFreeMb ≤ controller.config.vramEnterMb then true
  else if controller.config.vramExitMb ≤ window.vramFreeMb then false
  else controller.evicting

/-- `cooled`: no action yet, or the last one is a cooldown ago. -/
def cooled : Bool :=
  controller.lastActionMs.all fun last =>
    decide (controller.config.cooldownMs ≤ saturatingSub nowMs last)

def evaluate : TriggerDecision × TriggerController :=
  let evicting := controller.evictingAt window
  if evicting then
    if controller.cooled nowMs then
      (⟨.evictColdRegion, true, "vram_hysteresis_enter_or_repeat_after_cooldown"⟩,
        { controller with evicting, lastActionMs := some nowMs })
    else
      (⟨.keep, false, "vram_evict_cooldown"⟩, { controller with evicting })
  else
    (⟨.keep, false, "vram_inside_safe_hysteresis_band"⟩, { controller with evicting })

end TriggerController

/-! ## Runs -/

/-- A window and the time at which it is evaluated. -/
structure Observation where
  window : PipelineWindow
  nowMs : UInt64
deriving DecidableEq

/-- The controller after an evaluation. -/
def TriggerController.observe (controller : TriggerController) (observation : Observation) :
    TriggerController :=
  (controller.evaluate observation.window observation.nowMs).2

def TriggerController.observeAll (controller : TriggerController) (history : List Observation) :
    TriggerController :=
  history.foldl observe controller

/-- After the evaluations of a history the next one decides to evict. -/
def EvictsAfter (controller : TriggerController) (history : List Observation)
    (next : Observation) : Prop :=
  ((controller.observeAll history).evaluate next.window next.nowMs).1.action = .evictColdRegion

instance (controller : TriggerController) (history : List Observation) (next : Observation) :
    Decidable (EvictsAfter controller history next) :=
  inferInstanceAs (Decidable (_ = _))

/-- The free memory is down to the threshold that begins evictions. -/
def Enters (config : TriggerConfig) (observation : Observation) : Prop :=
  observation.window.vramFreeMb ≤ config.vramEnterMb

/-- The free memory is up to the threshold that ends evictions. -/
def Leaves (config : TriggerConfig) (observation : Observation) : Prop :=
  config.vramExitMb ≤ observation.window.vramFreeMb

instance (config : TriggerConfig) : DecidablePred (Enters config) :=
  fun _ => inferInstanceAs (Decidable (_ ≤ _))

instance (config : TriggerConfig) : DecidablePred (Leaves config) :=
  fun _ => inferInstanceAs (Decidable (_ ≤ _))

section Runs

variable {controller : TriggerController} {config : TriggerConfig} {history : List Observation}
  {next : Observation}

/-- What an evaluation does: it evicts now, or its last action stays the last one. -/
theorem evaluate_cases (controller : TriggerController) (window : PipelineWindow)
    (nowMs : UInt64) :
    (controller.evictingAt window = true ∧ controller.cooled nowMs = true ∧
      (controller.evaluate window nowMs).1.action = .evictColdRegion ∧
      (controller.evaluate window nowMs).2 =
        ⟨controller.config, controller.evictingAt window, some nowMs⟩) ∨
    ((controller.evaluate window nowMs).1.action = .keep ∧
      (controller.evaluate window nowMs).2 =
        ⟨controller.config, controller.evictingAt window, controller.lastActionMs⟩) := by
  unfold TriggerController.evaluate
  by_cases evicting : controller.evictingAt window = true
  · by_cases cooled : controller.cooled nowMs = true
    · exact .inl ⟨evicting, cooled, by simp [evicting, cooled], by simp [evicting, cooled]⟩
    · exact .inr ⟨by simp [evicting, cooled], by simp [evicting, cooled]⟩
  · exact .inr ⟨by simp [evicting], by simp [evicting]⟩

theorem observe_config (controller : TriggerController) (observation : Observation) :
    (controller.observe observation).config = controller.config := by
  unfold TriggerController.observe
  rcases evaluate_cases controller observation.window observation.nowMs with
    ⟨_, _, _, same⟩ | ⟨_, same⟩ <;> rw [same]

theorem observe_evicting (controller : TriggerController) (observation : Observation) :
    (controller.observe observation).evicting = controller.evictingAt observation.window := by
  unfold TriggerController.observe
  rcases evaluate_cases controller observation.window observation.nowMs with
    ⟨_, _, _, same⟩ | ⟨_, same⟩ <;> rw [same]

theorem observeAll_append_singleton (controller : TriggerController) (history : List Observation)
    (next : Observation) :
    controller.observeAll (history ++ [next]) = (controller.observeAll history).observe next := by
  unfold TriggerController.observeAll
  rw [List.foldl_append, List.foldl_cons, List.foldl_nil]

theorem observeAll_config (controller : TriggerController) (history : List Observation) :
    (controller.observeAll history).config = controller.config := by
  induction history using List.reverseRecOn with
  | nil => rfl
  | append_singleton history next inductionHypothesis =>
      rw [observeAll_append_singleton, observe_config, inductionHypothesis]

/-- A controller that is not evicting at first is a latch. -/
theorem observeAll_evicting (quiet : controller.evicting = false) :
    (controller.observeAll history).evicting =
      history.foldl (latch (Enters controller.config) (Leaves controller.config)) false := by
  induction history using List.reverseRecOn with
  | nil => exact quiet
  | append_singleton history next inductionHypothesis =>
      rw [observeAll_append_singleton, observe_evicting, List.foldl_append, List.foldl_cons,
        List.foldl_nil, ← inductionHypothesis]
      unfold TriggerController.evictingAt
      rw [observeAll_config]
      rfl

/-- What an eviction says of the controller. -/
theorem EvictsAfter.evicting (evicts : EvictsAfter controller history next) :
    (controller.observeAll (history ++ [next])).evicting = true ∧
      (controller.observeAll history).cooled next.nowMs = true ∧
      (controller.observeAll (history ++ [next])).lastActionMs = some next.nowMs := by
  rw [observeAll_append_singleton, observe_evicting]
  unfold TriggerController.observe
  rcases evaluate_cases (controller.observeAll history) next.window next.nowMs with
    ⟨evicting, cooled, _, after⟩ | ⟨keeps, _⟩
  · exact ⟨evicting, cooled, by rw [after]⟩
  · unfold EvictsAfter at evicts
    rw [keeps] at evicts
    cases evicts

/-- Step lemma: an evaluation is the last action, or leaves it. -/
theorem observe_lastActionMs (controller : TriggerController) (observation : Observation) :
    (controller.observe observation).lastActionMs = some observation.nowMs ∨
      (controller.observe observation).lastActionMs = controller.lastActionMs := by
  unfold TriggerController.observe
  rcases evaluate_cases controller observation.window observation.nowMs with
    ⟨_, _, _, same⟩ | ⟨_, same⟩ <;> rw [same]
  · exact .inl rfl
  · exact .inr rfl

/-- Run lemma: after an eviction the last action is the eviction or a later evaluation. -/
theorem EvictsAfter.lastActionMs {before : List Observation} {first : Observation}
    (evicts : EvictsAfter controller before first) (between : List Observation) :
    ∃ last ∈ first :: between,
      (controller.observeAll (before ++ first :: between)).lastActionMs = some last.nowMs := by
  induction between using List.reverseRecOn with
  | nil => exact ⟨first, List.mem_cons_self, evicts.evicting.2.2⟩
  | append_singleton between next inductionHypothesis =>
      rw [← List.cons_append, ← List.append_assoc, observeAll_append_singleton]
      rcases observe_lastActionMs (controller.observeAll (before ++ first :: between)) next with
        now | earlier
      · exact ⟨next, by simp, now⟩
      · obtain ⟨last, member, found⟩ := inductionHypothesis
        exact ⟨last, List.mem_append_left _ member, earlier.trans found⟩

/-- An eviction waits for the cooldown after the last action. -/
theorem EvictsAfter.cooldown_le (evicts : EvictsAfter controller history next) {last : UInt64}
    (acted : (controller.observeAll history).lastActionMs = some last)
    (earlier : last ≤ next.nowMs) :
    last.toNat + controller.config.cooldownMs.toNat ≤ next.nowMs.toNat := by
  have cooled := evicts.evicting.2.1
  unfold TriggerController.cooled at cooled
  rw [acted, observeAll_config, Option.all_some, decide_eq_true_eq, UInt64.le_iff_toNat_le,
    toNat_saturatingSub] at cooled
  rw [UInt64.le_iff_toNat_le] at earlier
  omega

end Runs

/-- The evictions of a run are a cooldown apart, and each follows a window that was down to the
first threshold, with none since that was up to the second. -/
structure EvictsSparingly (config : TriggerConfig) (controller : TriggerController)
    (history : List Observation) : Prop where
  apart : ∀ before first between second after,
    history = before ++ first :: (between ++ second :: after) →
    EvictsAfter controller before first →
    EvictsAfter controller (before ++ first :: between) second →
    first.nowMs.toNat + config.cooldownMs.toNat ≤ second.nowMs.toNat
  opened : ∀ before next after, history = before ++ next :: after →
    EvictsAfter controller before next →
    ∃ front opening rest, before ++ [next] = front ++ opening :: rest ∧
      opening.window.vramFreeMb ≤ config.vramEnterMb ∧
      ∀ later ∈ rest, ¬ later.window.vramFreeMb ≤ config.vramEnterMb ∧
        ¬ config.vramExitMb ≤ later.window.vramFreeMb

theorem new_eq_some {config : TriggerConfig} {controller : TriggerController}
    (accepted : TriggerController.new config = some controller) :
    controller = ⟨config, false, none⟩ := by
  unfold TriggerController.new at accepted
  split at accepted
  · exact (Option.some.inj accepted).symm
  · cases accepted

/-- Every accepted configuration evicts sparingly while the time does not go back. -/
theorem evaluate_evictsSparingly (config : TriggerConfig) (controller : TriggerController)
    (accepted : TriggerController.new config = some controller) (history : List Observation)
    (ordered : history.Pairwise fun earlier later => earlier.nowMs ≤ later.nowMs) :
    EvictsSparingly config controller history := by
  obtain rfl := new_eq_some accepted
  constructor
  · rintro before first between second after rfl evicts again
    obtain ⟨last, member, acted⟩ := evicts.lastActionMs between
    have tail := (List.pairwise_append.mp ordered).2.1
    rw [← List.cons_append] at tail
    have lastLe : last.nowMs ≤ second.nowMs :=
      (List.pairwise_append.mp tail).2.2 last member second List.mem_cons_self
    have firstLe : first.nowMs ≤ last.nowMs := by
      rcases List.mem_cons.mp member with rfl | later
      · exact UInt64.le_refl _
      · exact (List.pairwise_cons.mp (List.pairwise_append.mp tail).1).1 last later
    have waited := again.cooldown_le acted lastLe
    rw [UInt64.le_iff_toNat_le] at firstLe
    exact Nat.le_trans (Nat.add_le_add_right firstLe _) waited
  · rintro before next after rfl evicts
    have latched := evicts.evicting.1
    rw [observeAll_evicting rfl] at latched
    exact foldl_latch_iff.mp latched

/-- Thresholds of 700 and 1000 MiB and a cooldown of 100 ms. -/
def sampleConfig : TriggerConfig where
  vramEnterMb := 700
  vramExitMb := 1000
  cooldownMs := 100

/-- Windows of 650, 650 and 800 MiB, of which the first and the third evict. -/
def sampleHistory : List Observation := [⟨⟨650⟩, 0⟩, ⟨⟨650⟩, 50⟩, ⟨⟨800⟩, 100⟩]

theorem evaluate_evictsSparingly_sample :
    EvictsAfter ⟨sampleConfig, false, none⟩ (sampleHistory.take 2) ⟨⟨800⟩, 100⟩ ∧
      EvictsSparingly sampleConfig ⟨sampleConfig, false, none⟩ sampleHistory :=
  ⟨by decide, evaluate_evictsSparingly sampleConfig _ (by decide) sampleHistory (by decide)⟩

end TriAI.Performance
