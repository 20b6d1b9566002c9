import TriAI.Kernel.Worker

/-!
Contract: the residency of experts of `moe/mod.rs`.

Owns: `ExpertResidency` with its operations; that its counts, flags and sets describe the
accesses so far.

Does not own: the rate of its hits (`Moe.HitRate`), and where the events come from. Instants
are left out: nothing modelled reads them. Counters wrap, as in a build without overflow checks.
-/

set_option autoImplicit false

namespace TriAI.Moe

open TriAI.Kernel (ExpertEvent)

structure ExpertKey where
  layerId : UInt32
  expertId : UInt32
deriving DecidableEq

structure ExpertInfo where
  key : ExpertKey
  accessCount : UInt64
  isHot : Bool
  isPinned : Bool
deriving DecidableEq

structure ExpertResidency where
  experts : AList fun _ : ExpertKey => ExpertInfo
  hotSet : Finset ExpertKey
  coldSet : Finset ExpertKey
  accessThreshold : UInt64
  totalEvents : UInt64

namespace ExpertResidency

def withThreshold (threshold : UInt64) : ExpertResidency where
  experts := ∅
  hotSet := ∅
  coldSet := ∅
  accessThreshold := threshold
  totalEvents := 0

/-- `new` -/
def new : ExpertResidency := withThreshold 5

variable (residency : ExpertResidency)

/-- The experts with one changed by `f`, if it is there: `get_mut`. -/
def modify (key : ExpertKey) (f : ExpertInfo → ExpertInfo) :
    AList fun _ : ExpertKey => ExpertInfo :=
  match residency.experts.lookup key with
  | some info => residency.experts.insert key (f info)
  | none => residency.experts

def reclassify (key : ExpertKey) : ExpertResidency :=
  let count := (residency.experts.lookup key).elim 0 ExpertInfo.accessCount
  if residency.accessThreshold ≤ count then
    { residency with
      hotSet := insert key residency.hotSet
      coldSet := residency.coldSet.erase key
      experts := residency.modify key fun info => { info with isHot := true } }
  else
    { residency with
      coldSet := insert key residency.coldSet
      hotSet := residency.hotSet.erase key
      experts := residency.modify key fun info => { info with isHot := false } }

/-- One round of the loop of `record_event`. -/
def recordAccess (key : ExpertKey) : ExpertResidency :=
  let info := (residency.experts.lookup key).getD ⟨key, 0, false, false⟩
  { residency with
    experts :=
      residency.experts.insert key
        { info with accessCount := info.accessCount + 1 } }.reclassify key

/-- The experts of an event, in its layer. -/
def keysOf (event : ExpertEvent) : List ExpertKey :=
  event.expertIds.map fun expertId => ⟨event.layerId, expertId⟩

def recordEvent (event : ExpertEvent) : ExpertResidency :=
  (keysOf event).foldl recordAccess { residency with totalEvents := residency.totalEvents + 1 }

def recordEvents (events : List ExpertEvent) : ExpertResidency :=
  events.foldl recordEvent residency

/-- `is_hot` -/
def isHot (key : ExpertKey) : Bool := decide (key ∈ residency.hotSet)

def pinExpert (key : ExpertKey) : ExpertResidency :=
  { residency with experts := residency.modify key fun info => { info with isPinned := true } }

def unpinExpert (key : ExpertKey) : ExpertResidency :=
  { residency with experts := residency.modify key fun info => { info with isPinned := false } }

end ExpertResidency

/-- The accesses of a sequence of events, in their order. -/
def accesses (events : List ExpertEvent) : List ExpertKey :=
  events.flatMap ExpertResidency.keysOf

/-- A counter that was increased once for each occurrence. -/
def countOf (seen : List ExpertKey) (key : ExpertKey) : UInt64 := UInt64.ofNat (seen.count key)

theorem countOf_append_self (seen : List ExpertKey) (key : ExpertKey) :
    countOf (seen ++ [key]) key = countOf seen key + 1 := by
  unfold countOf
  rw [List.count_append, List.count_singleton_self, UInt64.ofNat_add]
  rfl

theorem countOf_append_of_ne (seen : List ExpertKey) {key other : ExpertKey}
    (differ : other ≠ key) : countOf (seen ++ [key]) other = countOf seen other := by
  unfold countOf
  rw [List.count_append, List.count_singleton, beq_eq_false_iff_ne.mpr differ.symm]
  simp

/-! ## Accesses -/

/-- What the residency holds of an expert, if it has seen it. -/
def infoOf (residency : ExpertResidency) (key : ExpertKey) : ExpertInfo :=
  (residency.experts.lookup key).getD ⟨key, 0, false, false⟩

/-- What an access leaves. -/
theorem recordAccess_eq (residency : ExpertResidency) (key : ExpertKey) :
    residency.recordAccess key =
      if residency.accessThreshold ≤ (infoOf residency key).accessCount + 1 then
        { residency with
          experts := residency.experts.insert key
            { infoOf residency key with
              accessCount := (infoOf residency key).accessCount + 1
              isHot := true }
          hotSet := insert key residency.hotSet
          coldSet := residency.coldSet.erase key }
      else
        { residency with
          experts := residency.experts.insert key
            { infoOf residency key with
              accessCount := (infoOf residency key).accessCount + 1
              isHot := false }
          coldSet := insert key residency.coldSet
          hotSet := residency.hotSet.erase key } := by
  unfold ExpertResidency.recordAccess ExpertResidency.reclassify ExpertResidency.modify
  simp only [AList.lookup_insert, AList.insert_insert, Option.elim_some]
  rfl

/-- The residency describes the accesses that were made. -/
structure Describes (threshold : UInt64) (residency : ExpertResidency) (seen : List ExpertKey) :
    Prop where
  configured : residency.accessThreshold = threshold
  tracked : ∀ key, key ∈ residency.experts ↔ key ∈ seen
  counted : ∀ key info, residency.experts.lookup key = some info →
    info.key = key ∧ info.accessCount = countOf seen key ∧
      info.isHot = decide (threshold ≤ countOf seen key)
  hot : ∀ key, key ∈ residency.hotSet ↔ key ∈ seen ∧ threshold ≤ countOf seen key
  cold : ∀ key, key ∈ residency.coldSet ↔ key ∈ seen ∧ ¬ threshold ≤ countOf seen key

section Accesses

variable {threshold : UInt64} {residency : ExpertResidency} {seen : List ExpertKey}

theorem Describes.infoOf_count (describes : Describes threshold residency seen)
    (key : ExpertKey) :
    (infoOf residency key).key = key ∧ (infoOf residency key).accessCount = countOf seen key := by
  unfold infoOf
  cases found : residency.experts.lookup key with
  | none =>
      have unseen : key ∉ seen := by
        rw [← describes.tracked]
        exact AList.lookup_eq_none.mp found
      refine ⟨rfl, ?_⟩
      unfold countOf
      rw [List.count_eq_zero_of_not_mem unseen]
      rfl
  | some info =>
      have known := describes.counted key info found
      exact ⟨known.1, known.2.1⟩

/-- What an access leaves of the experts: the one accessed is counted and classified. -/
theorem Describes.experts_recordAccess (describes : Describes threshold residency seen)
    (key : ExpertKey) :
    ∃ info, (residency.recordAccess key).experts = residency.experts.insert key info ∧
      info.key = key ∧ info.accessCount = countOf (seen ++ [key]) key ∧
      info.isHot = decide (threshold ≤ countOf (seen ++ [key]) key) := by
  have known := describes.infoOf_count key
  rw [countOf_append_self, ← known.2, recordAccess_eq, describes.configured]
  split
  · rename_i hot
    exact ⟨_, rfl, known.1, rfl, (decide_eq_true hot).symm⟩
  · rename_i cold
    exact ⟨_, rfl, known.1, rfl, (decide_eq_false cold).symm⟩

/-- What an access leaves of the sets: the expert accessed is in the one its count says, and the
others stay where they are. -/
theorem Describes.sets_recordAccess (describes : Describes threshold residency seen)
    (key other : ExpertKey) :
    (other ∈ (residency.recordAccess key).hotSet ↔
      if other = key then threshold ≤ countOf (seen ++ [key]) key
      else other ∈ residency.hotSet) ∧
    (other ∈ (residency.recordAccess key).coldSet ↔
      if other = key then ¬ threshold ≤ countOf (seen ++ [key]) key
      else other ∈ residency.coldSet) := by
  rw [countOf_append_self, ← (describes.infoOf_count key).2, recordAccess_eq,
    describes.configured]
  by_cases same : other = key
  · subst same
    split
    · rename_i hot
      simp [hot]
    · rename_i cold
      simp [cold]
  · split
    · simp [same]
    · simp [same]

theorem accessThreshold_recordAccess (residency : ExpertResidency) (key : ExpertKey) :
    (residency.recordAccess key).accessThreshold = residency.accessThreshold := by
  rw [recordAccess_eq]
  split
  · rfl
  · rfl

theorem mem_append_singleton (key other : ExpertKey) :
    other ∈ seen ++ [key] ↔ other = key ∨ other ∈ seen := by
  rw [List.mem_append, List.mem_singleton, or_comm]

/-- Step lemma. -/
theorem Describes.recordAccess (describes : Describes threshold residency seen)
    (key : ExpertKey) :
    Describes threshold (residency.recordAccess key) (seen ++ [key]) := by
  obtain ⟨info, experts, accessed⟩ := describes.experts_recordAccess key
  constructor
  · rw [accessThreshold_recordAccess, describes.configured]
  · intro other
    rw [experts, AList.mem_insert, mem_append_singleton, describes.tracked]
  · intro other found lookup
    rw [experts] at lookup
    by_cases same : other = key
    · subst same
      rw [AList.lookup_insert, Option.some.injEq] at lookup
      subst lookup
      exact accessed
    · rw [AList.lookup_insert_ne same] at lookup
      rw [countOf_append_of_ne seen same]
      exact describes.counted other found lookup
  · intro other
    rw [(describes.sets_recordAccess key other).1, mem_append_singleton]
    by_cases same : other = key
    · subst same
      simp
    · rw [countOf_append_of_ne seen same]
      simp [same, describes.hot]
  · intro other
    rw [(describes.sets_recordAccess key other).2, mem_append_singleton]
    by_cases same : other = key
    · subst same
      simp
    · rw [countOf_append_of_ne seen same]
      simp [same, describes.cold]

theorem Describes.recordAccesses (describes : Describes threshold residency seen)
    (keys : List ExpertKey) :
    Describes threshold (keys.foldl ExpertResidency.recordAccess residency) (seen ++ keys) := by
  induction keys generalizing residency seen with
  | nil => rwa [List.append_nil]
  | cons key rest inductionHypothesis =>
      have later := inductionHypothesis (describes.recordAccess key)
      rwa [List.append_assoc] at later

/-- Run lemma. -/
theorem Describes.recordEvents (describes : Describes threshold residency seen)
    (events : List ExpertEvent) :
    Describes threshold (residency.recordEvents events) (seen ++ accesses events) := by
  induction events generalizing residency seen with
  | nil => rwa [accesses, List.flatMap_nil, List.append_nil]
  | cons event rest inductionHypothesis =>
      have counted :
          Describes threshold { residency with totalEvents := residency.totalEvents + 1 } seen :=
        ⟨describes.configured, describes.tracked, describes.counted, describes.hot, describes.cold⟩
      have later := inductionHypothesis (counted.recordAccesses (ExpertResidency.keysOf event))
      rwa [List.append_assoc] at later

/-- A change of an expert that leaves its count and its flag alone. -/
theorem Describes.modify (describes : Describes threshold residency seen) (key : ExpertKey)
    {f : ExpertInfo → ExpertInfo}
    (keeps : ∀ info, (f info).key = info.key ∧ (f info).accessCount = info.accessCount ∧
      (f info).isHot = info.isHot) :
    Describes threshold { residency with experts := residency.modify key f } seen := by
  cases found : residency.experts.lookup key with
  | none =>
      unfold ExpertResidency.modify
      rw [found]
      exact describes
  | some info =>
      have present : key ∈ residency.experts := AList.lookup_isSome.mp (by simp [found])
      unfold ExpertResidency.modify
      rw [found]
      refine ⟨describes.configured, ?_, ?_, describes.hot, describes.cold⟩
      · intro other
        rw [← describes.tracked, AList.mem_insert]
        constructor
        · rintro (rfl | earlier)
          · exact present
          · exact earlier
        · exact .inr
      · intro other after lookup
        by_cases same : other = key
        · subst same
          rw [AList.lookup_insert, Option.some.injEq] at lookup
          subst lookup
          rw [(keeps info).1, (keeps info).2.1, (keeps info).2.2]
          exact describes.counted other info found
        · rw [AList.lookup_insert_ne same] at lookup
          exact describes.counted other after lookup

theorem Describes.pinExpert (describes : Describes threshold residency seen) (key : ExpertKey) :
    Describes threshold (residency.pinExpert key) seen :=
  describes.modify key fun _ => ⟨rfl, rfl, rfl⟩

theorem Describes.unpinExpert (describes : Describes threshold residency seen)
    (key : ExpertKey) : Describes threshold (residency.unpinExpert key) seen :=
  describes.modify key fun _ => ⟨rfl, rfl, rfl⟩

end Accesses

theorem describes_recordEvents (threshold : UInt64) (events : List ExpertEvent) :
    Describes threshold ((ExpertResidency.withThreshold threshold).recordEvents events)
      (accesses events) := by
  have initially : Describes threshold (.withThreshold threshold) [] := by
    constructor <;> simp [ExpertResidency.withThreshold]
  exact initially.recordEvents events

/-! ## The partition -/

/-- The hot and the cold set have no expert in common and have those that were seen; an expert is
hot from the threshold on, as its count and its flag say. -/
structure Partitioned (threshold : UInt64) (residency : ExpertResidency)
    (seen : List ExpertKey) : Prop where
  disjoint : Disjoint residency.hotSet residency.coldSet
  together : residency.hotSet ∪ residency.coldSet = seen.toFinset
  tracked : ∀ key, key ∈ residency.experts ↔ key ∈ seen
  hot_iff : ∀ key info, residency.experts.lookup key = some info →
    (key ∈ residency.hotSet ↔ threshold ≤ info.accessCount)
  flag_iff : ∀ key info, residency.experts.lookup key = some info →
    (info.isHot = true ↔ key ∈ residency.hotSet)

theorem Describes.partitioned {threshold : UInt64} {residency : ExpertResidency}
    {seen : List ExpertKey} (describes : Describes threshold residency seen) :
    Partitioned threshold residency seen where
  disjoint := by
    rw [Finset.disjoint_left]
    intro key hot cold
    exact ((describes.cold key).mp cold).2 ((describes.hot key).mp hot).2
  together := by
    ext key
    rw [Finset.mem_union, describes.hot, describes.cold, List.mem_toFinset, ← and_or_left]
    simp only [em, and_true]
  tracked := describes.tracked
  hot_iff := by
    intro key info found
    have present : key ∈ residency.experts := AList.lookup_isSome.mp (by simp [found])
    rw [describes.hot, (describes.counted key info found).2.1]
    exact and_iff_right ((describes.tracked key).mp present)
  flag_iff := by
    intro key info found
    have present : key ∈ residency.experts := AList.lookup_isSome.mp (by simp [found])
    rw [describes.hot, (describes.counted key info found).2.2, decide_eq_true_eq]
    exact (and_iff_right ((describes.tracked key).mp present)).symm

/-- Each count is the number of accesses of its expert. -/
def CountsExactly (residency : ExpertResidency) (seen : List ExpertKey) : Prop :=
  ∀ key info, residency.experts.lookup key = some info →
    info.accessCount.toNat = seen.count key

/-- Each count is the number of accesses of its expert without what is above the word. -/
def CountsInWords (residency : ExpertResidency) (seen : List ExpertKey) : Prop :=
  ∀ key info, residency.experts.lookup key = some info →
    info.accessCount.toNat = seen.count key % 2 ^ 64

/-- Every sequence of events is partitioned and counted in words. -/
theorem recordEvents_partitioned (threshold : UInt64) (events : List ExpertEvent) :
    Partitioned threshold ((ExpertResidency.withThreshold threshold).recordEvents events)
        (accesses events) ∧
      CountsInWords ((ExpertResidency.withThreshold threshold).recordEvents events)
        (accesses events) := by
  have describes := describes_recordEvents threshold events
  refine ⟨describes.partitioned, ?_⟩
  intro key info found
  rw [(describes.counted key info found).2.1, countOf, UInt64.toNat_ofNat']

/-- An event of a single expert. -/
def oneExpert : ExpertEvent := ⟨0, [1]⟩

theorem accesses_replicate (times : Nat) :
    accesses (List.replicate times oneExpert) = List.replicate times ⟨0, 1⟩ := by
  unfold accesses
  rw [List.flatMap_replicate]
  simp [ExpertResidency.keysOf, oneExpert]

/-- No word counts that many accesses. -/
private theorem not_countsExactly_replicate (threshold : UInt64) {times : Nat}
    (many : 2 ^ 64 ≤ times) :
    ¬ CountsExactly
      ((ExpertResidency.withThreshold threshold).recordEvents (List.replicate times oneExpert))
      (accesses (List.replicate times oneExpert)) := by
  intro exactly
  have describes := describes_recordEvents threshold (List.replicate times oneExpert)
  rw [accesses_replicate] at describes exactly
  have present := (describes.tracked ⟨0, 1⟩).mpr (List.mem_replicate.mpr ⟨by omega, rfl⟩)
  obtain ⟨info, found⟩ := Option.isSome_iff_exists.mp (AList.lookup_isSome.mpr present)
  have counted := exactly ⟨0, 1⟩ info found
  rw [List.count_replicate_self] at counted
  have small := info.accessCount.toNat_lt
  omega

/-- After 2^64 events of one expert its count is 0 again. -/
theorem recordEvents_miscounts :
    ¬ (Partitioned 1
        ((ExpertResidency.withThreshold 1).recordEvents (List.replicate (2 ^ 64) oneExpert))
        (accesses (List.replicate (2 ^ 64) oneExpert)) ∧
      CountsExactly
        ((ExpertResidency.withThreshold 1).recordEvents (List.replicate (2 ^ 64) oneExpert))
        (accesses (List.replicate (2 ^ 64) oneExpert))) :=
  fun holds => not_countsExactly_replicate 1 (Nat.le_refl _) holds.2

end TriAI.Moe
