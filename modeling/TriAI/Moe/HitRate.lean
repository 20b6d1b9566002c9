import TriAI.Moe.Residency

/-!
Contract: the hit rate of experts.

Owns: `hitRate` and `stats`; the accesses that the rate counts, and the events for which it is a
rate.

Does not own: the residency. A rate is an exact rational; sums of counters wrap.
-/

set_option autoImplicit false

namespace TriAI.Moe

open TriAI.Kernel (ExpertEvent)

namespace ExpertResidency

variable (residency : ExpertResidency)

/-- `hot_events` of `hit_rate`. -/
def hotEvents : UInt64 :=
  UInt64.ofNat
    ((residency.experts.entries.filter fun entry => entry.2.isHot).map fun entry =>
      entry.2.accessCount.toNat).sum

def hitRate : ℚ :=
  if residency.totalEvents = 0 then 0
  else (residency.hotEvents.toNat : ℚ) / residency.totalEvents.toNat

/-- `pinned_experts` -/
def pinnedExperts : List ExpertKey :=
  (residency.experts.entries.filter fun entry => entry.2.isPinned).map fun entry => entry.2.key

end ExpertResidency

structure ExpertStats where
  totalExperts : Nat
  hotCount : Nat
  coldCount : Nat
  pinnedCount : Nat
  totalEvents : UInt64
  hitRate : ℚ
deriving DecidableEq

def ExpertResidency.stats (residency : ExpertResidency) : ExpertStats where
  totalExperts := residency.experts.entries.length
  hotCount := residency.hotSet.card
  coldCount := residency.coldSet.card
  pinnedCount := residency.pinnedExperts.length
  totalEvents := residency.totalEvents
  hitRate := residency.hitRate

/-! ## Counters -/

theorem totalEvents_recordAccesses (residency : ExpertResidency) (keys : List ExpertKey) :
    (keys.foldl ExpertResidency.recordAccess residency).totalEvents = residency.totalEvents := by
  induction keys generalizing residency with
  | nil => rfl
  | cons key rest inductionHypothesis =>
      rw [List.foldl_cons, inductionHypothesis, recordAccess_eq]
      split
      · rfl
      · rfl

theorem totalEvents_recordEvents (residency : ExpertResidency) (events : List ExpertEvent) :
    (residency.recordEvents events).totalEvents =
      residency.totalEvents + UInt64.ofNat events.length := by
  unfold ExpertResidency.recordEvents
  induction events generalizing residency with
  | nil => exact (UInt64.add_zero _).symm
  | cons event rest inductionHypothesis =>
      rw [List.foldl_cons, inductionHypothesis, ExpertResidency.recordEvent,
        totalEvents_recordAccesses, List.length_cons, Nat.add_comm, UInt64.ofNat_add,
        ← UInt64.add_assoc]
      rfl

/-- The accesses, without what is above the word, of the experts that reached the threshold. -/
def hotAccesses (threshold : UInt64) (seen : List ExpertKey) : Nat :=
  ∑ key ∈ seen.toFinset with threshold ≤ countOf seen key, seen.count key % 2 ^ 64

section Counters

variable {threshold : UInt64} {residency : ExpertResidency} {seen : List ExpertKey}

theorem Describes.keys_toFinset (describes : Describes threshold residency seen) :
    residency.experts.keys.toFinset = seen.toFinset := by
  ext key
  rw [List.mem_toFinset, List.mem_toFinset, ← describes.tracked, AList.mem_keys]

/-- The rate counts the accesses of the experts that reached the threshold. -/
theorem Describes.hotEvents_eq (describes : Describes threshold residency seen) :
    residency.hotEvents = UInt64.ofNat (hotAccesses threshold seen) := by
  have byKey : ((residency.experts.entries.filter fun entry => entry.2.isHot).map fun entry =>
      entry.2.accessCount.toNat) =
      (residency.experts.keys.filter fun key => decide (threshold ≤ countOf seen key)).map
        fun key => seen.count key % 2 ^ 64 := by
    have flags : residency.experts.entries.filter (fun entry => entry.2.isHot) =
        residency.experts.entries.filter fun entry =>
          decide (threshold ≤ countOf seen entry.1) := by
      apply List.filter_congr
      intro entry member
      exact (describes.counted entry.1 entry.2 (AList.mem_lookup_iff.mpr member)).2.2
    show _ = ((residency.experts.entries.map Sigma.fst).filter _).map _
    rw [flags, List.filter_map, List.map_map]
    apply List.map_congr_left
    intro entry member
    have found := AList.mem_lookup_iff.mpr (List.mem_of_mem_filter member)
    rw [(describes.counted entry.1 entry.2 found).2.1, countOf, UInt64.toNat_ofNat']
    rfl
  have distinct : (residency.experts.keys.filter fun key =>
      decide (threshold ≤ countOf seen key)).Nodup := residency.experts.keys_nodup.filter _
  unfold ExpertResidency.hotEvents hotAccesses
  rw [byKey, ← List.sum_toFinset _ distinct, List.toFinset_filter, describes.keys_toFinset]
  simp only [decide_eq_true_eq]

/-- No more accesses are counted than there were. -/
theorem hotAccesses_le (threshold : UInt64) (seen : List ExpertKey) :
    hotAccesses threshold seen ≤ seen.length :=
  calc hotAccesses threshold seen
      ≤ ∑ key ∈ seen.toFinset with threshold ≤ countOf seen key, seen.count key :=
        Finset.sum_le_sum fun _ _ => Nat.mod_le _ _
    _ ≤ ∑ key ∈ seen.toFinset, seen.count key :=
        Finset.sum_le_sum_of_subset (Finset.filter_subset _ _)
    _ = seen.length := List.sum_toFinset_count_eq_length seen

end Counters

/-! ## Rates -/

/-- There is no event, or the counted accesses are no more than the events, as words. -/
def HitsFit (threshold : UInt64) (events : List ExpertEvent) : Prop :=
  events.length % 2 ^ 64 = 0 ∨
    hotAccesses threshold (accesses events) % 2 ^ 64 ≤ events.length % 2 ^ 64

theorem length_accesses_le {events : List ExpertEvent}
    (single : ∀ event ∈ events, event.expertIds.length ≤ 1) :
    (accesses events).length ≤ events.length := by
  unfold accesses
  induction events with
  | nil => exact Nat.le_refl _
  | cons event rest inductionHypothesis =>
      have here := single event List.mem_cons_self
      have later := inductionHypothesis fun other member =>
        single other (List.mem_cons_of_mem _ member)
      rw [List.flatMap_cons, List.length_append, List.length_cons, ExpertResidency.keysOf,
        List.length_map]
      omega

/-- Events of at most one expert each fit. -/
theorem hitsFit_of_single (threshold : UInt64) {events : List ExpertEvent}
    (single : ∀ event ∈ events, event.expertIds.length ≤ 1) (few : events.length < 2 ^ 64) :
    HitsFit threshold events := by
  have counted := hotAccesses_le threshold (accesses events)
  have made := length_accesses_le single
  right
  rw [Nat.mod_eq_of_lt few, Nat.mod_eq_of_lt (by omega)]
  omega

theorem hitRate_nonneg (residency : ExpertResidency) : 0 ≤ residency.hitRate := by
  unfold ExpertResidency.hitRate
  split
  · exact le_refl 0
  · positivity

theorem hitRate_le_one_iff (residency : ExpertResidency) :
    residency.hitRate ≤ 1 ↔
      residency.totalEvents.toNat = 0 ∨
        residency.hotEvents.toNat ≤ residency.totalEvents.toNat := by
  have zero : residency.totalEvents = 0 ↔ residency.totalEvents.toNat = 0 := by
    rw [← UInt64.toNat_inj]
    rfl
  unfold ExpertResidency.hitRate
  by_cases none : residency.totalEvents = 0
  · rw [if_pos none]
    exact iff_of_true zero_le_one (.inl (zero.mp none))
  · have some : residency.totalEvents.toNat ≠ 0 := mt zero.mpr none
    have positive : (0 : ℚ) < residency.totalEvents.toNat := by
      exact_mod_cast Nat.pos_of_ne_zero some
    rw [if_neg none, div_le_one positive, Nat.cast_le, or_iff_right some]

/-- Exactly where the hits fit, the hit rate is between 0 and 1. -/
theorem hitRate_isRate_iff (threshold : UInt64) (events : List ExpertEvent) :
    (0 ≤ ((ExpertResidency.withThreshold threshold).recordEvents events).hitRate ∧
      ((ExpertResidency.withThreshold threshold).recordEvents events).hitRate ≤ 1) ↔
      HitsFit threshold events := by
  have describes := describes_recordEvents threshold events
  have counted :
      ((ExpertResidency.withThreshold threshold).recordEvents events).totalEvents =
        UInt64.ofNat events.length := by
    rw [totalEvents_recordEvents]
    exact UInt64.zero_add _
  rw [and_iff_right (hitRate_nonneg _), hitRate_le_one_iff, counted, describes.hotEvents_eq,
    UInt64.toNat_ofNat', UInt64.toNat_ofNat']
  rfl

/-- One event of two experts is a hit rate of 2. -/
theorem hitRate_twoExperts :
    ((ExpertResidency.withThreshold 1).recordEvents [⟨0, [1, 2]⟩]).hitRate = 2 ∧
      ¬ (0 ≤ ((ExpertResidency.withThreshold 1).recordEvents [⟨0, [1, 2]⟩]).hitRate ∧
        ((ExpertResidency.withThreshold 1).recordEvents [⟨0, [1, 2]⟩]).hitRate ≤ 1) := by
  have rate : ((ExpertResidency.withThreshold 1).recordEvents [⟨0, [1, 2]⟩]).hitRate = 2 := by
    decide +kernel
  refine ⟨rate, ?_⟩
  rw [rate]
  norm_num

/-! ## Statistics -/

/-- The statistics count every expert once, as hot or as cold. -/
theorem stats_recordEvents (threshold : UInt64) (events : List ExpertEvent) :
    let stats := ((ExpertResidency.withThreshold threshold).recordEvents events).stats
    stats.hotCount + stats.coldCount = stats.totalExperts := by
  have describes := describes_recordEvents threshold events
  have partitioned := describes.partitioned
  show Finset.card _ + Finset.card _ = List.length _
  rw [← Finset.card_union_of_disjoint partitioned.disjoint, partitioned.together,
    ← describes.keys_toFinset, List.toFinset_card_of_nodup (AList.keys_nodup _)]
  exact List.length_map _

end TriAI.Moe
