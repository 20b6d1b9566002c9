import TriAI.Monitor.Backoff

/-!
Contract: the time between two firings of a trigger.

Owns: that consecutive firings of a trigger are a cooldown apart and that the cooldown grows up
to the largest one, over every run in which the time does not go back.

Does not own: the engine and its runs (`Monitor.Backoff`). The multiplier is an exact rational.
-/

set_option autoImplicit false

namespace TriAI.Monitor

open TriAI.Library.Arithmetic

variable {F : Type}

/-- The times of the evaluations. -/
def timesOf (calls : List (MonitorCall F)) : List Instant :=
  calls.filterMap fun call =>
    match call with
    | .evaluate _ now => some now
    | _ => none

/-- Consecutive firings of a trigger are at least the cooldown apart that the earlier one left,
the cooldown does not become less, and none is more than the largest. -/
structure SpacedFirings (config : CooldownConfig F) (fired : List Firing) : Prop where
  apart : ∀ triggerType, (firingsOf fired triggerType).IsChain fun earlier later =>
    earlier.time + fromMillis earlier.cooldownMs ≤ later.time
  grows : ∀ triggerType, (firingsOf fired triggerType).IsChain fun earlier later =>
    earlier.cooldownMs ≤ later.cooldownMs
  capped : ∀ firing ∈ fired, firing.cooldownMs ≤ config.maxCooldownMs

/-- The state of a trigger is what its last firing left. -/
structure MonitorRun.Paced (config : CooldownConfig F) (run : MonitorRun F) : Prop where
  configured : run.engine.hysteresis.config = config
  state : ∀ triggerType,
    (run.engine.hysteresis.states.lookup triggerType).map
        (fun state => (state.lastTriggered, state.currentCooldownMs)) =
      (firingsOf run.fired triggerType).getLast?.map fun firing => (firing.time, firing.cooldownMs)
  spaced : SpacedFirings config run.fired

/-- No cooldown up to the largest becomes less by backing off. -/
def CooldownConfig.Growing [Number F] (config : CooldownConfig F) : Prop :=
  ∀ cooldown ≤ config.maxCooldownMs, cooldown ≤ config.backOff cooldown

section Steps

variable {run : MonitorRun F} {config : CooldownConfig F} {now : Instant} {trigger : Trigger}

/-- A relation between the consecutive firings of each trigger, with one more firing. -/
theorem isChain_firingsOf_append {R : Firing → Firing → Prop} {fired : List Firing}
    {firing : Firing} (chain : ∀ triggerType, (firingsOf fired triggerType).IsChain R)
    (follows : ∀ last ∈ (firingsOf fired firing.triggerType).getLast?, R last firing)
    (triggerType : String) : (firingsOf (fired ++ [firing]) triggerType).IsChain R := by
  by_cases same : triggerType = firing.triggerType
  · subst same
    rw [firingsOf_append_same, List.isChain_append]
    refine ⟨chain _, .singleton _, ?_⟩
    intro last isLast next isNext
    obtain rfl : firing = next := by simpa using isNext
    exact follows last isLast
  · rw [firingsOf_append_other fired same]
    exact chain triggerType

/-- One more firing, seen from the last one of its trigger. -/
theorem SpacedFirings.append {fired : List Firing} {firing : Firing}
    (spaced : SpacedFirings config fired) (capped : firing.cooldownMs ≤ config.maxCooldownMs)
    (follows : ∀ last ∈ (firingsOf fired firing.triggerType).getLast?,
      last.time + fromMillis last.cooldownMs ≤ firing.time ∧ last.cooldownMs ≤ firing.cooldownMs) :
    SpacedFirings config (fired ++ [firing]) where
  apart := isChain_firingsOf_append spaced.apart fun last isLast => (follows last isLast).1
  grows := isChain_firingsOf_append spaced.grows fun last isLast => (follows last isLast).2
  capped := by
    intro other member
    rcases List.mem_append.mp member with earlier | last
    · exact spaced.capped other earlier
    · rw [List.mem_singleton.mp last]
      exact capped

variable [Number F]

/-- The state that a firing leaves. -/
theorem lookup_recordTrigger (hysteresis : HysteresisState F) (triggerType : String) :
    ((hysteresis.recordTrigger triggerType now).states.lookup triggerType).map
        (fun state => (state.lastTriggered, state.currentCooldownMs)) =
      some (now, hysteresis.config.backOff (hysteresis.cooldown triggerType)) := by
  unfold HysteresisState.recordTrigger HysteresisState.cooldown
  simp only [AList.lookup_insert, Option.map_some]
  cases hysteresis.states.lookup triggerType <;> rfl

/-- What the last firing of a trigger says of its next one. -/
theorem MonitorRun.Paced.follows (paced : run.Paced config) (growing : config.Growing)
    (past : ∀ firing ∈ run.fired, firing.time ≤ now)
    (fires : run.engine.fires now trigger = true) :
    ∀ last ∈ (firingsOf run.fired trigger.triggerType).getLast?,
      last.time + fromMillis last.cooldownMs ≤ now ∧
        last.cooldownMs ≤
          config.backOff (run.engine.hysteresis.cooldown trigger.triggerType) := by
  intro last isLast
  have fired : last ∈ run.fired :=
    List.mem_of_mem_filter (List.mem_of_mem_getLast? isLast)
  have states := paced.state trigger.triggerType
  rw [isLast, Option.map_some, Option.map_eq_some_iff] at states
  obtain ⟨state, found, same⟩ := states
  obtain ⟨timeSame, cooldownSame⟩ := Prod.mk.inj same
  unfold TriggerEngine.fires at fires
  have cooled := (Bool.and_eq_true_iff.mp fires).2
  unfold HysteresisState.canTrigger at cooled
  rw [found] at cooled
  simp only [decide_eq_true_eq] at cooled
  rw [timeSame, cooldownSame] at cooled
  have inForce : run.engine.hysteresis.cooldown trigger.triggerType = last.cooldownMs := by
    unfold HysteresisState.cooldown
    rw [found]
    exact cooldownSame
  rw [inForce]
  have earlier := past last fired
  have apart : last.time + fromMillis last.cooldownMs ≤ now :=
    (Nat.le_sub_iff_add_le' earlier).mp cooled
  exact ⟨apart, growing _ (paced.spaced.capped last fired)⟩

/-- Step lemma for one trigger. -/
theorem MonitorRun.Paced.attempt (trigger : Trigger) (paced : run.Paced config)
    (growing : config.Growing)
    (past : ∀ firing ∈ run.fired, firing.time ≤ now) :
    (run.attempt now trigger).Paced config ∧
      ∀ firing ∈ (run.attempt now trigger).fired, firing.time ≤ now := by
  by_cases fires : run.engine.fires now trigger = true
  · have follows := paced.follows growing past fires
    rw [attempt_of_fires fires, paced.configured]
    refine ⟨⟨paced.configured, ?_, ?_⟩, ?_⟩
    · intro triggerType
      show ((run.engine.hysteresis.recordTrigger trigger.triggerType now).states.lookup
        triggerType).map _ = _
      by_cases same : triggerType = trigger.triggerType
      · subst same
        rw [lookup_recordTrigger, paced.configured, firingsOf_append_same, List.getLast?_concat]
        rfl
      · rw [lookup_recordTrigger_of_ne _ same, paced.state, firingsOf_append_other _ same]
    · exact paced.spaced.append Std.min_le_right follows
    · intro firing member
      rcases List.mem_append.mp member with earlier | last
      · exact past firing earlier
      · rw [List.mem_singleton.mp last]
  · rw [attempt_of_not_fires fires]
    exact ⟨paced, past⟩

/-- An evaluation, trigger by trigger. -/
theorem MonitorRun.Paced.attempts (triggers : List Trigger) (paced : run.Paced config)
    (growing : config.Growing) (past : ∀ firing ∈ run.fired, firing.time ≤ now) :
    (triggers.foldl (fun run trigger => run.attempt now trigger) run).Paced config ∧
      ∀ firing ∈ (triggers.foldl (fun run trigger => run.attempt now trigger) run).fired,
        firing.time ≤ now := by
  induction triggers generalizing run with
  | nil => exact ⟨paced, past⟩
  | cons trigger rest inductionHypothesis =>
      obtain ⟨pacedNext, pastNext⟩ := paced.attempt trigger growing past
      exact inductionHypothesis pacedNext pastNext

/-- Run lemma. -/
theorem MonitorRun.Paced.calls (calls : List (MonitorCall F)) (paced : run.Paced config)
    (growing : config.Growing) (ordered : (timesOf calls).Pairwise (· ≤ ·))
    (past : ∀ firing ∈ run.fired, ∀ time ∈ timesOf calls, firing.time ≤ time) :
    (calls.foldl MonitorRun.call run).Paced config := by
  induction calls generalizing run with
  | nil => exact paced
  | cons call rest inductionHypothesis =>
      cases call with
      | evaluate snapshot now =>
          have order := List.pairwise_cons.mp ordered
          obtain ⟨pacedNext, pastNext⟩ := paced.attempts (run.engine.triggers snapshot) growing
            fun firing fired => past firing fired now List.mem_cons_self
          refine inductionHypothesis pacedNext order.2 fun firing fired time member => ?_
          exact Nat.le_trans (pastNext firing fired) (order.1 time member)
      | updateMoeHitRate hitRate =>
          exact inductionHypothesis ⟨paced.configured, paced.state, paced.spaced⟩ ordered past
      | updatePrefetchAccuracy accuracy =>
          exact inductionHypothesis ⟨paced.configured, paced.state, paced.spaced⟩ ordered past
      | updateContextUsage usagePercent =>
          exact inductionHypothesis ⟨paced.configured, paced.state, paced.spaced⟩ ordered past

theorem MonitorRun.paced_start (config : TriggerConfig F) :
    (MonitorRun.start config).Paced config.cooldownConfig where
  configured := rfl
  state := fun _ => rfl
  spaced :=
    { apart := fun _ => .nil
      grows := fun _ => .nil
      capped := fun _ member => absurd member List.not_mem_nil }

end Steps

/-! ## Exact multipliers -/

/-- Backing off by at least 1 grows. -/
theorem growing_of_one_le {config : CooldownConfig Exact}
    (atLeastOne : 1 ≤ config.backoffMultiplier.value) : config.Growing := by
  intro cooldown capped
  exact Std.le_min_iff.mpr ⟨le_toUInt64_mul cooldown atLeastOne, capped⟩

/-- Every multiplier of at least 1 spaces the firings, while the time does not go back. -/
theorem run_spacedFirings (config : TriggerConfig Exact) (calls : List (MonitorCall Exact))
    (atLeastOne : 1 ≤ config.cooldownConfig.backoffMultiplier.value)
    (ordered : (timesOf calls).Pairwise (· ≤ ·)) :
    SpacedFirings config.cooldownConfig (calls.foldl MonitorRun.call (.start config)).fired :=
  ((MonitorRun.paced_start config).calls calls (growing_of_one_le atLeastOne) ordered
    fun _ member => absurd member List.not_mem_nil).spaced

/-- A full host, evaluated twice, ten seconds apart. -/
def tenSecondsApart : List (MonitorCall Exact) :=
  [.evaluate fullVram 0, .evaluate fullVram (fromMillis 10000)]

/-- The second evaluation fires as soon as the cooldown is over, and doubles it. -/
theorem run_spacedFirings_default :
    (tenSecondsApart.foldl MonitorRun.call (.start .default)).fired =
        [⟨"vram_critical", 0, 10000⟩, ⟨"vram_critical", fromMillis 10000, 20000⟩] ∧
      SpacedFirings (CooldownConfig.default : CooldownConfig Exact)
        (tenSecondsApart.foldl MonitorRun.call (.start .default)).fired :=
  ⟨by decide +kernel, run_spacedFirings .default tenSecondsApart (by decide +kernel)
    (by decide +kernel)⟩

end TriAI.Monitor
