import Mathlib.Data.List.Sort
import Mathlib.Data.Rat.Floor
import Mathlib.Tactic.Linarith

/-!
Contract: percentiles by the nearest rank.

Owns: `nearestRank`, the place of a percentile in a sorted list, and the limits that the member
there keeps, as numbers of members that keep them.

Does not own: percentiles between two members.
-/

set_option autoImplicit false

namespace TriAI.Library.Percentile

/-- The first place with the share of the members at or before it. -/
def nearestRank (count : Nat) (share : ℚ) : Nat := ⌈(count : ℚ) * share⌉.toNat - 1

section Place

variable {count : Nat} {share : ℚ}

theorem nearestRank_lt (filled : 0 < count) (atMostAll : share ≤ 1) :
    nearestRank count share < count := by
  have ceiling : ⌈(count : ℚ) * share⌉ ≤ count :=
    Int.ceil_le.mpr (mul_le_of_le_one_right (Nat.cast_nonneg count) atMostAll)
  unfold nearestRank
  omega

variable (filled : 0 < count) (positive : 0 < share) (members : Nat)

include filled positive

theorem ceil_pos : 0 < ⌈(count : ℚ) * share⌉ :=
  Int.ceil_pos.mpr (mul_pos (Nat.cast_pos.mpr filled) positive)

theorem nearestRank_lt_iff : nearestRank count share < members ↔ count * share ≤ members := by
  have ceiling := ceil_pos filled positive
  have integral : ⌈(count : ℚ) * share⌉ ≤ members ↔ count * share ≤ (members : ℚ) := Int.ceil_le
  rw [← integral]
  unfold nearestRank
  omega

theorem sub_nearestRank_le_iff :
    count - nearestRank count share ≤ members ↔ count * (1 - share) < members := by
  have ceiling := ceil_pos filled positive
  have integral : (count - members : Int) < ⌈(count : ℚ) * share⌉ ↔
      ((count - members : Int) : ℚ) < count * share := Int.lt_ceil
  have rearranged : count * (1 - share) < members ↔
      ((count - members : Int) : ℚ) < count * share := by
    push_cast
    constructor <;> intro less <;> linarith
  rw [rearranged, ← integral]
  unfold nearestRank
  omega

end Place

/-! ## Members of a sorted list -/

section Sorted

variable {α : Type} {index : Nat}

/-- Where a property passes to earlier members, those that have it come first. -/
theorem getElem_iff_lt_countP {holds : α → Bool} {members : List α}
    (earlier : members.Pairwise fun first second => holds second = true → holds first = true)
    (inside : index < members.length) :
    holds members[index] = true ↔ index < members.countP holds := by
  induction members generalizing index with
  | nil => exact absurd inside (Nat.not_lt_zero index)
  | cons head rest inductionHypothesis =>
      have ⟨ofHead, ofRest⟩ := List.pairwise_cons.mp earlier
      by_cases first : holds head = true
      · rw [List.countP_cons_of_pos first]
        cases index with
        | zero => exact iff_of_true first (Nat.succ_pos _)
        | succ index =>
            rw [List.getElem_cons_succ, inductionHypothesis ofRest]
            omega
      · have none : (head :: rest).countP holds = 0 := by
          rw [List.countP_eq_zero]
          intro member among
          cases among with
          | head => exact first
          | tail _ later => exact fun has => first (ofHead member later has)
        have all := List.countP_eq_zero.mp none _ (List.getElem_mem inside)
        rw [none]
        exact iff_of_false all (Nat.not_lt_zero index)

variable [LinearOrder α] {members : List α} (sorted : members.Pairwise (· ≤ ·))
  (inside : index < members.length) (limit : α)

include sorted

theorem getElem_le_iff :
    members[index] ≤ limit ↔ index < members.countP fun member => decide (member ≤ limit) := by
  rw [← getElem_iff_lt_countP (sorted.imp fun ordered => ?_) inside, decide_eq_true_iff]
  rw [decide_eq_true_iff, decide_eq_true_iff]
  exact ordered.trans

theorem le_getElem_iff :
    limit ≤ members[index] ↔
      members.length - index ≤ members.countP fun member => decide (limit ≤ member) := by
  have below : members[index] < limit ↔
      index < members.countP fun member => decide (member < limit) := by
    rw [← getElem_iff_lt_countP (sorted.imp fun ordered => ?_) inside, decide_eq_true_iff]
    rw [decide_eq_true_iff, decide_eq_true_iff]
    exact ordered.trans_lt
  have complement := members.length_eq_countP_add_countP fun member => decide (member < limit)
  simp only [decide_eq_true_eq, not_lt] at complement
  rw [← not_lt, below]
  omega

end Sorted

/-! ## Percentiles -/

section Percentiles

variable {α : Type} [LinearOrder α] {values : List α} {share : ℚ} {percentile : α}
  (positive : 0 < share)
  (found : (values.insertionSort (· ≤ ·))[nearestRank values.length share]? = some percentile)
  (limit : α)

theorem percentile_found (share : ℚ) (filled : 0 < values.length) (atMostAll : share ≤ 1) :
    ∃ percentile,
      (values.insertionSort (· ≤ ·))[nearestRank values.length share]? = some percentile := by
  have inside : nearestRank values.length share <
      (values.insertionSort (· ≤ ·)).length := by
    rw [List.length_insertionSort]
    exact nearestRank_lt filled atMostAll
  exact ⟨_, List.getElem?_eq_getElem inside⟩

include positive found

/-- A percentile is within an upper limit where its share of the values is. -/
theorem percentile_le_iff :
    percentile ≤ limit ↔
      values.length * share ≤ values.countP fun value => decide (value ≤ limit) := by
  obtain ⟨inside, rfl⟩ := List.getElem?_eq_some_iff.mp found
  have filled : 0 < values.length := by
    rw [List.length_insertionSort] at inside
    omega
  rw [getElem_le_iff (List.pairwise_insertionSort _ _) inside,
    (List.perm_insertionSort (· ≤ ·) values).countP_eq, nearestRank_lt_iff filled positive]

/-- A percentile is within a lower limit where more than the rest of the values is. -/
theorem le_percentile_iff :
    limit ≤ percentile ↔
      values.length * (1 - share) < values.countP fun value => decide (limit ≤ value) := by
  obtain ⟨inside, rfl⟩ := List.getElem?_eq_some_iff.mp found
  have filled : 0 < values.length := by
    rw [List.length_insertionSort] at inside
    omega
  rw [le_getElem_iff (List.pairwise_insertionSort _ _) inside,
    (List.perm_insertionSort (· ≤ ·) values).countP_eq, List.length_insertionSort,
    sub_nearestRank_le_iff filled positive]

end Percentiles

end TriAI.Library.Percentile
