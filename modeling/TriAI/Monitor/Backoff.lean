import TriAI.Library.History
import TriAI.Library.Runs
import TriAI.Monitor.Trigger

/-!
Contract: the cooldowns of the trigger engine over its runs.

Owns: the run of an engine with its firings, the cooldown as a number of backoffs, and the
runs in which a quiet trigger forgets its earlier backoff.

Does not own: the engine.
-/

set_option autoImplicit false

namespace TriAI.Monitor

open TriAI.Library.Arithmetic
open TriAI.Library.Interaction
open TriAI.Library.Runs

variable {F : Type}

/-! ## Runs -/

/-- A trigger that fired, when, and the cooldown in force from then on. -/
structure Firing where
  triggerType : String
  time : Instant
  cooldownMs : UInt64
deriving DecidableEq

/-- An engine and its firings so far. -/
structure MonitorRun (F : Type) where
  engine : TriggerEngine F
  fired : List Firing

/-- What is called on an engine. -/
inductive MonitorCall (F : Type) where
  | evaluate (snapshot : ResourceSnapshot) (now : Instant)
  | updateMoeHitRate (hitRate : F)
  | updatePrefetchAccuracy (accuracy : F)
  | updateContextUsage (usagePercent : F)

/-- The cooldown in force, or the one that the first firing starts from. -/
def HysteresisState.cooldown (hysteresis : HysteresisState F) (triggerType : String) : UInt64 :=
  (hysteresis.states.lookup triggerType).elim hysteresis.config.baseCooldownMs
    (·.currentCooldownMs)

section Calls

variable [Number F]

def MonitorRun.start (config : TriggerConfig F) : MonitorRun F := ⟨.new config, []⟩

/-- One trigger of an evaluation. -/
def MonitorRun.attempt (run : MonitorRun F) (now : Instant) (trigger : Trigger) : MonitorRun F :=
  if run.engine.fires now trigger then
    let engine := run.engine.record now trigger.triggerType
    ⟨engine, run.fired ++
      [⟨trigger.triggerType, now, engine.hysteresis.cooldown trigger.triggerType⟩]⟩
  else
    run

def MonitorRun.call (run : MonitorRun F) : MonitorCall F → MonitorRun F
  | .evaluate snapshot now =>
      (run.engine.triggers snapshot).foldl (fun run trigger => run.attempt now trigger) run
  | .updateMoeHitRate hitRate => { run with engine := run.engine.updateMoeHitRate hitRate }
  | .updatePrefetchAccuracy accuracy =>
      { run with engine := run.engine.updatePrefetchAccuracy accuracy }
  | .updateContextUsage usagePercent =>
      { run with engine := run.engine.updateContextUsage usagePercent }

/-- The engine of a run is the one that `evaluate` leaves. -/
theorem MonitorRun.call_evaluate_engine (run : MonitorRun F) (snapshot : ResourceSnapshot)
    (now : Instant) :
    (run.call (.evaluate snapshot now)).engine = (run.engine.evaluate snapshot now).2 := by
  have attempts : ∀ (triggers : List Trigger) (run : MonitorRun F) (actions : List TriggerAction),
      (triggers.foldl (fun run trigger => run.attempt now trigger) run).engine =
        (triggers.foldl
          (fun before trigger =>
            let after := before.2.attempt now trigger
            (before.1 ++ after.1, after.2))
          (actions, run.engine)).2 := by
    intro triggers
    induction triggers with
    | nil => exact fun _ _ => rfl
    | cons trigger rest inductionHypothesis =>
        intro run actions
        have same : (run.attempt now trigger).engine = (run.engine.attempt now trigger).2 := by
          unfold MonitorRun.attempt TriggerEngine.attempt
          split <;> rfl
        rw [List.foldl_cons, List.foldl_cons,
          inductionHypothesis _ (actions ++ (run.engine.attempt now trigger).1), same]
  exact attempts _ _ _

end Calls

/-! ## Quiet triggers -/

/-- The firings of a trigger so far. -/
def firingsOf (fired : List Firing) (triggerType : String) : List Firing :=
  fired.filter (·.triggerType = triggerType)

theorem firingsOf_append_same (fired : List Firing) (firing : Firing) :
    firingsOf (fired ++ [firing]) firing.triggerType =
      firingsOf fired firing.triggerType ++ [firing] := by
  simp [firingsOf]

theorem firingsOf_append_other (fired : List Firing) {firing : Firing} {triggerType : String}
    (differ : triggerType ≠ firing.triggerType) :
    firingsOf (fired ++ [firing]) triggerType = firingsOf fired triggerType := by
  simp [firingsOf, differ.symm]

/-- A trigger has not fired for the time after which its cooldown is to be reset. -/
def Quiet (config : CooldownConfig F) (fired : List Firing) (triggerType : String)
    (now : Instant) : Prop :=
  ∀ firing ∈ firingsOf fired triggerType, firing.time + fromMillis config.resetAfterMs ≤ now

instance (config : CooldownConfig F) (fired : List Firing) (triggerType : String)
    (now : Instant) : Decidable (Quiet config fired triggerType now) := by
  unfold Quiet
  infer_instance

variable [Number F]

/-- The cooldown in force after the first firing ever. -/
def firstCooldown (config : CooldownConfig F) (triggerType : String) (now : Instant) : UInt64 :=
  ((HysteresisState.new config).recordTrigger triggerType now).cooldown triggerType

/-- A quiet trigger fired, and its cooldown is not that of a first firing. -/
def Remembers (config : CooldownConfig F) (before : List Firing) (firing : Firing) : Prop :=
  Quiet config before firing.triggerType firing.time ∧
    firing.cooldownMs ≠ firstCooldown config firing.triggerType firing.time

/-- After every firing of a quiet trigger the cooldown is that of a first firing. -/
def ForgetsAfterQuiet (config : CooldownConfig F) (fired : List Firing) : Prop :=
  ¬ Somewhere (Remembers config) fired

/-- Backing off twice gives what backing off once gives. -/
def CooldownConfig.BacksOffOnce (config : CooldownConfig F) : Prop :=
  config.backOff (config.backOff config.baseCooldownMs) = config.backOff config.baseCooldownMs

instance (config : CooldownConfig F) : Decidable config.BacksOffOnce :=
  inferInstanceAs (Decidable (_ = _))

/-- Then backing off more often gives it too. -/
theorem CooldownConfig.BacksOffOnce.iterate {config : CooldownConfig F}
    (once : config.BacksOffOnce) (times : Nat) :
    config.backOff^[times + 1] config.baseCooldownMs = config.backOff config.baseCooldownMs := by
  rw [Function.iterate_succ_apply]
  exact Function.iterate_fixed once times

/-- Where the call makes a quiet trigger fire that fired before, backing off twice gives what
backing off once gives. -/
def MonitorRun.BacksOffAlike (run : MonitorRun F) : MonitorCall F → Prop
  | .evaluate snapshot now =>
      ∀ trigger ∈ run.engine.triggers snapshot, run.engine.fires now trigger = true →
        Quiet run.engine.hysteresis.config run.fired trigger.triggerType now →
        firingsOf run.fired trigger.triggerType = [] ∨
          run.engine.hysteresis.config.BacksOffOnce
  | _ => True

instance (run : MonitorRun F) : (call : MonitorCall F) → Decidable (run.BacksOffAlike call)
  | .evaluate snapshot now =>
      inferInstanceAs (Decidable (∀ trigger ∈ run.engine.triggers snapshot,
        run.engine.fires now trigger = true →
          Quiet run.engine.hysteresis.config run.fired trigger.triggerType now → _ ∨ _))
  | .updateMoeHitRate _ => inferInstanceAs (Decidable True)
  | .updatePrefetchAccuracy _ => inferInstanceAs (Decidable True)
  | .updateContextUsage _ => inferInstanceAs (Decidable True)

/-- The cooldowns count the firings, and quiet triggers forgot. -/
structure MonitorRun.Kept (config : CooldownConfig F) (run : MonitorRun F) : Prop where
  configured : run.engine.hysteresis.config = config
  cooldown : ∀ triggerType, run.engine.hysteresis.cooldown triggerType =
    config.backOff^[(firingsOf run.fired triggerType).length] config.baseCooldownMs
  forgets : ForgetsAfterQuiet config run.fired

/-! ## Firings -/

section Firings

variable {run : MonitorRun F} {config : CooldownConfig F} {now : Instant} {trigger : Trigger}

/-- A firing backs the cooldown off once. -/
theorem cooldown_recordTrigger (hysteresis : HysteresisState F) (triggerType : String)
    (now : Instant) :
    (hysteresis.recordTrigger triggerType now).cooldown triggerType =
      hysteresis.config.backOff (hysteresis.cooldown triggerType) := by
  unfold HysteresisState.recordTrigger HysteresisState.cooldown
  simp only [AList.lookup_insert, Option.elim_some]
  cases hysteresis.states.lookup triggerType <;> rfl

theorem firstCooldown_eq (triggerType : String) :
    firstCooldown config triggerType now = config.backOff config.baseCooldownMs :=
  cooldown_recordTrigger (.new config) triggerType now

/-- The state of another trigger is left alone. -/
theorem lookup_recordTrigger_of_ne (hysteresis : HysteresisState F) {triggerType other : String}
    (differ : other ≠ triggerType) :
    (hysteresis.recordTrigger triggerType now).states.lookup other =
      hysteresis.states.lookup other :=
  AList.lookup_insert_ne differ

/-- What a firing leaves of the run. -/
theorem attempt_of_fires (fires : run.engine.fires now trigger = true) :
    run.attempt now trigger = ⟨run.engine.record now trigger.triggerType, run.fired ++
      [⟨trigger.triggerType, now,
        run.engine.hysteresis.config.backOff
          (run.engine.hysteresis.cooldown trigger.triggerType)⟩]⟩ := by
  unfold MonitorRun.attempt
  rw [if_pos fires, ← cooldown_recordTrigger _ _ now]
  rfl

theorem attempt_of_not_fires (idle : run.engine.fires now trigger ≠ true) :
    run.attempt now trigger = run := if_neg idle

/-- An attempt leaves the other triggers alone. -/
theorem attempt_other {other : Trigger} (differ : other.triggerType ≠ trigger.triggerType) :
    (run.attempt now trigger).engine.fires now other = run.engine.fires now other ∧
      firingsOf (run.attempt now trigger).fired other.triggerType =
        firingsOf run.fired other.triggerType ∧
      (run.attempt now trigger).engine.hysteresis.config = run.engine.hysteresis.config := by
  by_cases fires : run.engine.fires now trigger = true
  · rw [attempt_of_fires fires]
    refine ⟨?_, ?_, rfl⟩
    · unfold TriggerEngine.fires HysteresisState.canTrigger TriggerEngine.record
      simp only [lookup_recordTrigger_of_ne run.engine.hysteresis differ]
    · exact firingsOf_append_other run.fired differ
  · rw [attempt_of_not_fires fires]
    exact ⟨rfl, rfl, rfl⟩

/-- Step lemma for one trigger. -/
theorem MonitorRun.Kept.attempt (kept : run.Kept config)
    (alike : run.engine.fires now trigger = true →
      Quiet config run.fired trigger.triggerType now →
      config.backOff^[(firingsOf run.fired trigger.triggerType).length + 1]
        config.baseCooldownMs = config.backOff config.baseCooldownMs) :
    (run.attempt now trigger).Kept config := by
  by_cases fires : run.engine.fires now trigger = true
  · have next : run.engine.hysteresis.config.backOff
        (run.engine.hysteresis.cooldown trigger.triggerType) =
          config.backOff^[(firingsOf run.fired trigger.triggerType).length + 1]
            config.baseCooldownMs := by
      rw [kept.configured, kept.cooldown, Function.iterate_succ_apply']
    rw [attempt_of_fires fires]
    refine ⟨kept.configured, ?_, ?_⟩
    · intro triggerType
      by_cases same : triggerType = trigger.triggerType
      · subst same
        show (run.engine.hysteresis.recordTrigger _ now).cooldown _ = _
        rw [cooldown_recordTrigger, next, firingsOf_append_same, List.length_append]
        rfl
      · have others : (run.engine.hysteresis.recordTrigger trigger.triggerType now).cooldown
            triggerType = run.engine.hysteresis.cooldown triggerType := by
          unfold HysteresisState.cooldown
          rw [lookup_recordTrigger_of_ne _ same]
          rfl
        show (run.engine.hysteresis.recordTrigger _ now).cooldown _ = _
        rw [others, kept.cooldown, firingsOf_append_other _ same]
    · unfold ForgetsAfterQuiet
      rw [somewhere_append_singleton]
      rintro (earlier | ⟨quiet, differs⟩)
      · exact kept.forgets earlier
      · rw [firstCooldown_eq, next] at differs
        exact differs (alike fires quiet)
  · rw [attempt_of_not_fires fires]
    exact kept

/-- An evaluation, trigger by trigger. -/
theorem MonitorRun.Kept.attempts (triggers : List Trigger)
    (distinct : (triggers.map (·.triggerType)).Nodup) (kept : run.Kept config)
    (alike : ∀ trigger ∈ triggers, run.engine.fires now trigger = true →
      Quiet config run.fired trigger.triggerType now →
      config.backOff^[(firingsOf run.fired trigger.triggerType).length + 1]
        config.baseCooldownMs = config.backOff config.baseCooldownMs) :
    (triggers.foldl (fun run trigger => run.attempt now trigger) run).Kept config := by
  induction triggers generalizing run with
  | nil => exact kept
  | cons trigger rest inductionHypothesis =>
      rw [List.map_cons, List.nodup_cons] at distinct
      apply inductionHypothesis distinct.2
      · exact kept.attempt (alike trigger List.mem_cons_self)
      · intro other member
        have differ : other.triggerType ≠ trigger.triggerType := by
          intro same
          exact distinct.1 (List.mem_map.mpr ⟨other, member, same⟩)
        unfold Quiet
        rw [(attempt_other differ).1, (attempt_other differ).2.1]
        exact alike other (List.mem_cons_of_mem _ member)

theorem triggers_distinct (engine : TriggerEngine F) (snapshot : ResourceSnapshot) :
    ((engine.triggers snapshot).map (·.triggerType)).Nodup := by
  show ["vram_critical", "vram_falling", "kv_growing", "moe_low_hit", "prefetch_inaccurate",
    "queue_high", "ssd_in_decode", "context_full"].Nodup
  decide

end Firings

/-- In every run in which quiet triggers back off alike, they forget their earlier backoff. -/
theorem run_forgetsAfterQuiet (config : TriggerConfig F) (calls : List (MonitorCall F))
    (alike : Along MonitorRun.call MonitorRun.BacksOffAlike (.start config) calls) :
    ForgetsAfterQuiet config.cooldownConfig
      (calls.foldl MonitorRun.call (.start config)).fired := by
  have initially : (MonitorRun.start config).Kept config.cooldownConfig :=
    ⟨rfl, fun _ => rfl, somewhere_nil⟩
  have kept : (calls.foldl MonitorRun.call (.start config)).Kept config.cooldownConfig := by
    refine alike.invariant (MonitorRun.Kept config.cooldownConfig) ?_ initially
    intro run call kept meets
    cases call with
    | evaluate snapshot now =>
        apply kept.attempts _ (triggers_distinct run.engine snapshot)
        intro trigger member
        have here := meets trigger member
        rw [kept.configured] at here
        intro fires quiet
        rcases here fires quiet with first | once
        · rw [first]
          rfl
        · exact once.iterate _
    | updateMoeHitRate hitRate => exact ⟨kept.configured, kept.cooldown, kept.forgets⟩
    | updatePrefetchAccuracy accuracy => exact ⟨kept.configured, kept.cooldown, kept.forgets⟩
    | updateContextUsage usagePercent => exact ⟨kept.configured, kept.cooldown, kept.forgets⟩
  exact kept.forgets

/-! ## Two evaluations, five minutes apart -/

/-- A host with 10800 of its 11264 MiB of VRAM in use. -/
def fullVram : ResourceSnapshot where
  vramUsedMb := 10800
  vramTotalMb := 11264
  kvCacheMb := 0
  queueDepth := 0
  decodeInProgress := false

def fiveMinutesApart : List (MonitorCall Float) :=
  [.evaluate fullVram 0, .evaluate fullVram (fromMillis 300000)]

/-- The default configuration with a base cooldown that is the largest one. -/
def exhaustedConfig : TriggerConfig Float :=
  { TriggerConfig.default with
    cooldownConfig := { CooldownConfig.default with baseCooldownMs := 60000 } }

/-- A trigger whose cooldown cannot grow fires twice. -/
theorem run_forgetsAfterQuiet_exhausted :
    ForgetsAfterQuiet exhaustedConfig.cooldownConfig
      (fiveMinutesApart.foldl MonitorRun.call (.start exhaustedConfig)).fired :=
  run_forgetsAfterQuiet exhaustedConfig fiveMinutesApart
    ⟨by decide +kernel, by decide +kernel, trivial⟩

/-- The second firing leaves a cooldown of 20 seconds instead of 10. -/
theorem run_remembers_default :
    (fiveMinutesApart.foldl MonitorRun.call (.start .default)).fired =
        [⟨"vram_critical", 0, 10000⟩, ⟨"vram_critical", fromMillis 300000, 20000⟩] ∧
      ¬ ForgetsAfterQuiet (CooldownConfig.default : CooldownConfig Float)
        (fiveMinutesApart.foldl MonitorRun.call (.start .default)).fired := by
  have firings : (fiveMinutesApart.foldl MonitorRun.call (.start .default)).fired =
      [⟨"vram_critical", 0, 10000⟩, ⟨"vram_critical", fromMillis 300000, 20000⟩] := by
    decide +kernel
  refine ⟨firings, ?_⟩
  rw [firings]
  intro forgets
  apply forgets
  refine ⟨[⟨"vram_critical", 0, 10000⟩], _, [], rfl, ?_, ?_⟩
  · decide +kernel
  · decide +kernel

end TriAI.Monitor
