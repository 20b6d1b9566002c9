import Mathlib

/-!
Contract: the checked, saturating and rounding operations on unsigned 64-bit
words.

Owns: `checkedAdd`, `checkedSub`, `saturatingAdd`, `saturatingSub`,
`saturatingMul`, `divCeil` and `alignUp`, each with one lemma that states its
value through `UInt64.toNat`, and the order they keep.

Does not own: wrapping arithmetic, which is the word type's own.
-/

set_option autoImplicit false

namespace TriAI.Library.MachineInt

/-- The largest word. -/
def maxWord : UInt64 := UInt64.ofNat (2 ^ 64 - 1)

@[simp] theorem toNat_maxWord : maxWord.toNat = 2 ^ 64 - 1 := rfl

/-- The exact sum, if it is a word. -/
def checkedAdd (left right : UInt64) : Option UInt64 :=
  if left.toNat + right.toNat < 2 ^ 64 then some (left + right) else none

/-- The exact difference, if it is a word. -/
def checkedSub (left right : UInt64) : Option UInt64 :=
  if right ≤ left then some (left - right) else none

/-- The exact sum, or the largest word. -/
def saturatingAdd (left right : UInt64) : UInt64 :=
  if left.toNat + right.toNat < 2 ^ 64 then left + right else maxWord

/-- The exact difference, or zero. -/
def saturatingSub (left right : UInt64) : UInt64 :=
  if right ≤ left then left - right else 0

/-- The exact product, or the largest word. -/
def saturatingMul (left right : UInt64) : UInt64 :=
  if left.toNat * right.toNat < 2 ^ 64 then left * right else maxWord

/-- Division rounded up, by truncating division and a remainder test. -/
def divCeil (value divisor : UInt64) : UInt64 :=
  if value % divisor = 0 then value / divisor else value / divisor + 1

/-- Round up to a multiple of `alignment`, by adding `alignment - 1` first. -/
def alignUp (value alignment : UInt64) : Option UInt64 :=
  (checkedAdd value (alignment - 1)).map fun padded => padded / alignment * alignment

/-! ## Values -/

theorem toNat_add_of_lt {left right : UInt64}
    (fits : left.toNat + right.toNat < 2 ^ 64) :
    (left + right).toNat = left.toNat + right.toNat := by
  rw [UInt64.toNat_add, Nat.mod_eq_of_lt fits]

theorem toNat_sub_of_le {left right : UInt64} (below : right.toNat ≤ left.toNat) :
    (left - right).toNat = left.toNat - right.toNat :=
  UInt64.toNat_sub_of_le left right (UInt64.le_iff_toNat_le.mpr below)

theorem checkedAdd_eq_some {left right sum : UInt64} :
    checkedAdd left right = some sum ↔ sum.toNat = left.toNat + right.toNat := by
  unfold checkedAdd
  have sumLt := sum.toNat_lt
  by_cases fits : left.toNat + right.toNat < 2 ^ 64
  · rw [if_pos fits, Option.some.injEq, ← UInt64.toNat_inj, toNat_add_of_lt fits]
    exact eq_comm
  · rw [if_neg fits]
    constructor
    · intro impossible
      cases impossible
    · intro exact
      omega

theorem checkedSub_eq_some {left right difference : UInt64} :
    checkedSub left right = some difference ↔
      left.toNat = right.toNat + difference.toNat := by
  unfold checkedSub
  by_cases below : right ≤ left
  · have belowNat := UInt64.le_iff_toNat_le.mp below
    rw [if_pos below, Option.some.injEq, ← UInt64.toNat_inj, toNat_sub_of_le belowNat]
    omega
  · have aboveNat : left.toNat < right.toNat :=
      UInt64.lt_iff_toNat_lt.mp (UInt64.not_le.mp below)
    rw [if_neg below]
    constructor
    · intro impossible
      cases impossible
    · intro exact
      omega

theorem toNat_saturatingAdd (left right : UInt64) :
    (saturatingAdd left right).toNat = min (left.toNat + right.toNat) (2 ^ 64 - 1) := by
  unfold saturatingAdd
  split
  · rename_i fits
    rw [toNat_add_of_lt fits]
    omega
  · rw [toNat_maxWord]
    omega

theorem toNat_saturatingSub (left right : UInt64) :
    (saturatingSub left right).toNat = left.toNat - right.toNat := by
  unfold saturatingSub
  split
  · rename_i below
    exact toNat_sub_of_le (UInt64.le_iff_toNat_le.mp below)
  · rename_i above
    have aboveNat := UInt64.lt_iff_toNat_lt.mp (UInt64.not_le.mp above)
    rw [UInt64.toNat_zero]
    omega

theorem toNat_saturatingMul (left right : UInt64) :
    (saturatingMul left right).toNat = min (left.toNat * right.toNat) (2 ^ 64 - 1) := by
  unfold saturatingMul
  split
  · rename_i fits
    rw [UInt64.toNat_mul, Nat.mod_eq_of_lt fits]
    omega
  · rw [toNat_maxWord]
    omega

theorem toNat_divCeil (value divisor : UInt64) (positive : 0 < divisor.toNat) :
    (divCeil value divisor).toNat = (value.toNat + (divisor.toNat - 1)) / divisor.toNat := by
  have valueLt := value.toNat_lt
  have split := Nat.div_add_mod value.toNat divisor.toNat
  have remainderLt := Nat.mod_lt value.toNat positive
  have exactIff : value % divisor = 0 ↔ value.toNat % divisor.toNat = 0 := by
    rw [← UInt64.toNat_inj, UInt64.toNat_mod, UInt64.toNat_zero]
  unfold divCeil
  by_cases exact : value.toNat % divisor.toNat = 0
  · rw [if_pos (exactIff.mpr exact), UInt64.toNat_div]
    symm
    rw [Nat.div_eq_iff positive]
    constructor
    · rw [Nat.mul_comm]
      omega
    · rw [Nat.mul_comm]
      omega
  · have quotientLt : value.toNat / divisor.toNat + 1 < 2 ^ 64 := by
      have quotientLe := Nat.div_le_self value.toNat divisor.toNat
      by_cases unit : divisor.toNat = 1
      · rw [unit, Nat.mod_one] at exact
        exact absurd rfl exact
      · have halved : value.toNat / divisor.toNat ≤ value.toNat / 2 :=
          Nat.div_le_div_left (by omega) (by decide)
        omega
    rw [if_neg (mt exactIff.mp exact), toNat_add_of_lt, UInt64.toNat_div, UInt64.toNat_one]
    · symm
      rw [Nat.div_eq_iff positive, Nat.add_mul, Nat.one_mul, Nat.mul_comm]
      constructor <;> omega
    · rw [UInt64.toNat_div, UInt64.toNat_one]
      exact quotientLt

/-- `alignUp` succeeds exactly when the padded value is a word, and then it is
the least multiple of `alignment` from `value` on. -/
theorem alignUp_eq_some {value alignment aligned : UInt64} (positive : 0 < alignment.toNat) :
    alignUp value alignment = some aligned ↔
      value.toNat + (alignment.toNat - 1) < 2 ^ 64 ∧
        aligned.toNat =
          (value.toNat + (alignment.toNat - 1)) / alignment.toNat * alignment.toNat := by
  have lessOne : (alignment - 1).toNat = alignment.toNat - 1 :=
    toNat_sub_of_le (by rw [UInt64.toNat_one]; omega)
  unfold alignUp
  rw [Option.map_eq_some_iff]
  constructor
  · rintro ⟨padded, added, rfl⟩
    have paddedNat := checkedAdd_eq_some.mp added
    have paddedLt := padded.toNat_lt
    rw [lessOne] at paddedNat
    have roundedLe := Nat.div_mul_le_self padded.toNat alignment.toNat
    refine ⟨by omega, ?_⟩
    rw [UInt64.toNat_mul, UInt64.toNat_div, Nat.mod_eq_of_lt (by omega), paddedNat]
  · rintro ⟨fits, alignedNat⟩
    have added : checkedAdd value (alignment - 1) = some (value + (alignment - 1)) :=
      if_pos (by rw [lessOne]; exact fits)
    have paddedNat := checkedAdd_eq_some.mp added
    rw [lessOne] at paddedNat
    have roundedLe := Nat.div_mul_le_self (value + (alignment - 1)).toNat alignment.toNat
    refine ⟨_, added, ?_⟩
    rw [← UInt64.toNat_inj, UInt64.toNat_mul, UInt64.toNat_div,
      Nat.mod_eq_of_lt (by omega), alignedNat, paddedNat]

/-! ## Order

Every rounding and saturating operation keeps the order of its operands. -/

theorem saturatingAdd_mono {left left' right right' : UInt64} (leftLe : left ≤ left')
    (rightLe : right ≤ right') : saturatingAdd left right ≤ saturatingAdd left' right' := by
  rw [UInt64.le_iff_toNat_le] at *
  rw [toNat_saturatingAdd, toNat_saturatingAdd]
  omega

theorem saturatingSub_mono {left left' : UInt64} (right : UInt64) (leftLe : left ≤ left') :
    saturatingSub left right ≤ saturatingSub left' right := by
  rw [UInt64.le_iff_toNat_le] at *
  rw [toNat_saturatingSub, toNat_saturatingSub]
  omega

theorem saturatingMul_mono {left left' right right' : UInt64} (leftLe : left ≤ left')
    (rightLe : right ≤ right') : saturatingMul left right ≤ saturatingMul left' right' := by
  rw [UInt64.le_iff_toNat_le] at *
  have products := Nat.mul_le_mul leftLe rightLe
  rw [toNat_saturatingMul, toNat_saturatingMul]
  omega

theorem divCeil_mono {value value' divisor : UInt64} (positive : 0 < divisor.toNat)
    (valueLe : value ≤ value') : divCeil value divisor ≤ divCeil value' divisor := by
  rw [UInt64.le_iff_toNat_le] at *
  rw [toNat_divCeil _ _ positive, toNat_divCeil _ _ positive]
  exact Nat.div_le_div_right (by omega)

/-- Rounding down to a multiple. -/
theorem roundDown_mono {value value' : UInt64} (divisor : UInt64) (valueLe : value ≤ value') :
    value / divisor * divisor ≤ value' / divisor * divisor := by
  rw [UInt64.le_iff_toNat_le] at *
  have floorLe := Nat.div_mul_le_self value.toNat divisor.toNat
  have floorLe' := Nat.div_mul_le_self value'.toNat divisor.toNat
  have valueLt := value.toNat_lt
  have valueLt' := value'.toNat_lt
  simp only [UInt64.toNat_mul, UInt64.toNat_div]
  rw [Nat.mod_eq_of_lt (by omega), Nat.mod_eq_of_lt (by omega)]
  exact Nat.mul_le_mul_right _ (Nat.div_le_div_right valueLe)

/-! ## Positive words -/

theorem toNat_pos_word {word : UInt64} (nonzero : word ≠ 0) : 0 < word.toNat :=
  Nat.pos_of_ne_zero fun zero => nonzero (UInt64.toNat_inj.mp zero)

theorem toNat_pos {word : UInt32} (nonzero : word ≠ 0) : 0 < word.toNat :=
  Nat.pos_of_ne_zero fun zero => nonzero (UInt32.toNat_inj.mp zero)

/-! ## Minimum and maximum -/

theorem toNat_min_word (left right : UInt64) :
    (min left right).toNat = min left.toNat right.toNat := by
  change (if left ≤ right then left else right).toNat = _
  simp only [UInt64.le_iff_toNat_le]
  split <;> omega

theorem toNat_max_word (left right : UInt64) :
    (max left right).toNat = max left.toNat right.toNat := by
  change (if left ≤ right then right else left).toNat = _
  simp only [UInt64.le_iff_toNat_le]
  split <;> omega

theorem toNat_min (left right : UInt32) :
    (min left right).toNat = min left.toNat right.toNat := by
  change (if left ≤ right then left else right).toNat = _
  simp only [UInt32.le_iff_toNat_le]
  split <;> omega

theorem toNat_max (left right : UInt32) :
    (max left right).toNat = max left.toNat right.toNat := by
  change (if left ≤ right then right else left).toNat = _
  simp only [UInt32.le_iff_toNat_le]
  split <;> omega

end TriAI.Library.MachineInt
