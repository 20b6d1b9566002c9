import Mathlib.Data.List.AList
import TriAI.Library.Arithmetic

/-!
Contract: the triggers of `monitor/trigger.rs` and their cooldowns, `monitor/hysteresis.rs`.

Owns: `HysteresisState` with its three operations, and `TriggerEngine` with the eight triggers.

Does not own: how a snapshot is captured. An instant is a number of nanoseconds; the number
type of thresholds and measurements is a parameter.
-/

set_option autoImplicit false

namespace TriAI.Monitor

open TriAI.Library.Arithmetic

/-- `std::time::Instant` in nanoseconds -/
abbrev Instant : Type := Nat

/-- `Duration::from_millis` in nanoseconds -/
def fromMillis (milliseconds : UInt64) : Nat := milliseconds.toNat * 1000000

/-! ## Hysteresis -/

structure CooldownConfig (F : Type) where
  baseCooldownMs : UInt64
  maxCooldownMs : UInt64
  backoffMultiplier : F
  resetAfterMs : UInt64

structure TriggerState where
  lastTriggered : Instant
  consecutiveTriggers : UInt32
  currentCooldownMs : UInt64

structure HysteresisState (F : Type) where
  config : CooldownConfig F
  states : AList (fun _ : String => TriggerState)

variable {F : Type}

/-- The next cooldown: the current one times the multiplier, at most the largest. -/
def CooldownConfig.backOff [Number F] (config : CooldownConfig F) (cooldown : UInt64) : UInt64 :=
  min (Number.toUInt64 (Number.ofUInt64 cooldown * config.backoffMultiplier))
    config.maxCooldownMs

def HysteresisState.new (config : CooldownConfig F) : HysteresisState F where
  config := config
  states := ∅

namespace HysteresisState

variable (hysteresis : HysteresisState F) (triggerType : String) (now : Instant)

def canTrigger : Bool :=
  match hysteresis.states.lookup triggerType with
  | some state => fromMillis state.currentCooldownMs ≤ now - state.lastTriggered
  | none => true

/-- Not called outside the tests of the source. -/
def resetIfStale : HysteresisState F :=
  match hysteresis.states.lookup triggerType with
  | some state =>
      if fromMillis hysteresis.config.resetAfterMs ≤ now - state.lastTriggered then
        { hysteresis with
          states := hysteresis.states.insert triggerType
            { state with
              consecutiveTriggers := 0
              currentCooldownMs := hysteresis.config.baseCooldownMs } }
      else
        hysteresis
  | none => hysteresis

variable [Number F]

def recordTrigger : HysteresisState F :=
  let state := (hysteresis.states.lookup triggerType).getD
    ⟨now, 0, hysteresis.config.baseCooldownMs⟩
  { hysteresis with
    states := hysteresis.states.insert triggerType
      { lastTriggered := now
        consecutiveTriggers := state.consecutiveTriggers + 1
        currentCooldownMs := hysteresis.config.backOff state.currentCooldownMs } }

end HysteresisState

/-! ## Triggers -/

inductive TriggerAction where
  | stopPrefetch
  | reducePrefetch
  | evictColdRegion
  | replanResidency
  | budgetKV
  | evictOptionalCache
  | loadPredictedExperts
  | disableSpeculativePrefetch
  | batchTransfers
  | abortSSDRead
  | compressContext
deriving DecidableEq

structure TriggerConfig (F : Type) where
  vramCriticalThreshold : F
  vramFallingThreshold : F
  kvCacheThresholdMb : UInt32
  moeHitRateThreshold : F
  queueDepthThreshold : UInt32
  contextFullThresholdPercent : F
  cooldownConfig : CooldownConfig F

/-- The fields of a snapshot that the triggers read. -/
structure ResourceSnapshot where
  vramUsedMb : UInt32
  vramTotalMb : UInt32
  kvCacheMb : UInt32
  queueDepth : UInt32
  decodeInProgress : Bool

structure TriggerEngine (F : Type) where
  config : TriggerConfig F
  hysteresis : HysteresisState F
  moeHitRate : F
  prefetchAccuracy : F
  contextUsagePercent : F

section Defaults

variable [Number F]

/-- `CooldownConfig::default()` -/
def CooldownConfig.default : CooldownConfig F where
  baseCooldownMs := 5000
  maxCooldownMs := 60000
  backoffMultiplier := 2.0
  resetAfterMs := 300000

/-- `TriggerConfig::default()` -/
def TriggerConfig.default : TriggerConfig F where
  vramCriticalThreshold := 0.95
  vramFallingThreshold := 0.85
  kvCacheThresholdMb := 4096
  moeHitRateThreshold := 0.6
  queueDepthThreshold := 10
  contextFullThresholdPercent := 0.9
  cooldownConfig := .default

def ResourceSnapshot.vramRatio (snapshot : ResourceSnapshot) : F :=
  if snapshot.vramTotalMb = 0 then
    0.0
  else
    Number.ofUInt64 snapshot.vramUsedMb.toUInt64 / Number.ofUInt64 snapshot.vramTotalMb.toUInt64

end Defaults

/-- A trigger of `evaluate`: its type, whether its threshold is passed, and its actions. -/
structure Trigger where
  triggerType : String
  passed : Bool
  actions : List TriggerAction

namespace TriggerEngine

def new [Number F] (config : TriggerConfig F) : TriggerEngine F where
  config := config
  hysteresis := .new config.cooldownConfig
  moeHitRate := 1.0
  prefetchAccuracy := 1.0
  contextUsagePercent := 0.0

variable (engine : TriggerEngine F)

def updateMoeHitRate (hitRate : F) : TriggerEngine F := { engine with moeHitRate := hitRate }

def updatePrefetchAccuracy (accuracy : F) : TriggerEngine F :=
  { engine with prefetchAccuracy := accuracy }

def updateContextUsage (usagePercent : F) : TriggerEngine F :=
  { engine with contextUsagePercent := usagePercent }

/-- No read of the disk is ever reported. -/
def detectSsdReadInDecode (_snapshot : ResourceSnapshot) : Bool := false

variable [Number F]

/-- The triggers in the order in which they are tried. The second one is left out of
account where the first one's threshold is passed. -/
def triggers (snapshot : ResourceSnapshot) : List Trigger :=
  let critical := Number.less engine.config.vramCriticalThreshold snapshot.vramRatio
  let falling := Number.less engine.config.vramFallingThreshold snapshot.vramRatio
  [⟨"vram_critical", critical, [.stopPrefetch, .evictColdRegion]⟩,
    ⟨"vram_falling", !critical && falling, [.reducePrefetch, .replanResidency]⟩,
    ⟨"kv_growing", engine.config.kvCacheThresholdMb < snapshot.kvCacheMb,
      [.budgetKV, .evictOptionalCache]⟩,
    ⟨"moe_low_hit", Number.less engine.moeHitRate engine.config.moeHitRateThreshold,
      [.loadPredictedExperts]⟩,
    ⟨"prefetch_inaccurate", Number.less engine.prefetchAccuracy 0.5,
      [.disableSpeculativePrefetch]⟩,
    ⟨"queue_high", engine.config.queueDepthThreshold < snapshot.queueDepth, [.batchTransfers]⟩,
    ⟨"ssd_in_decode", snapshot.decodeInProgress && detectSsdReadInDecode snapshot,
      [.abortSSDRead]⟩,
    ⟨"context_full",
      Number.less engine.config.contextFullThresholdPercent engine.contextUsagePercent,
      [.compressContext]⟩]

/-- A trigger fires where its threshold is passed and its cooldown is over. -/
def fires (now : Instant) (trigger : Trigger) : Bool :=
  trigger.passed && engine.hysteresis.canTrigger trigger.triggerType now

def record (now : Instant) (triggerType : String) : TriggerEngine F :=
  { engine with hysteresis := engine.hysteresis.recordTrigger triggerType now }

/-- The actions of one trigger, and the engine after it. -/
def attempt (now : Instant) (trigger : Trigger) : List TriggerAction × TriggerEngine F :=
  if engine.fires now trigger then
    (trigger.actions, engine.record now trigger.triggerType)
  else
    ([], engine)

def evaluate (snapshot : ResourceSnapshot) (now : Instant) :
    List TriggerAction × TriggerEngine F :=
  (engine.triggers snapshot).foldl
    (fun before trigger =>
      let after := before.2.attempt now trigger
      (before.1 ++ after.1, after.2))
    ([], engine)

end TriggerEngine

end TriAI.Monitor
