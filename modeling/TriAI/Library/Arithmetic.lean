import Mathlib

/-!
Contract: the arithmetic that a program does with its measurements.

Owns: `Number`, the operations of a number type, its binary64 instance, and the exact rationals
with the truncated product of a word; and `nearest`, which rounds a rational to 53 bits, with
the rationals from which on it reaches a bound.

Does not own: the binary64 operations.
-/

set_option autoImplicit false

namespace TriAI.Library.Arithmetic

/-- A number type with a comparison, products, quotients, literals, and casts from and to
words. -/
class Number (F : Type) extends Mul F, Div F, OfScientific F where
  less : F → F → Bool
  ofUInt64 : UInt64 → F
  toUInt64 : F → UInt64

/-- Binary64. The cast to words cuts the fraction off and saturates. -/
instance binary64 : Number Float where
  less := Float.lt
  ofUInt64 := UInt64.toFloat
  toUInt64 := Float.toUInt64

/-- A rational in place of a float. -/
structure Exact where
  value : ℚ
deriving DecidableEq

/-- Exact arithmetic. The cast to words cuts the fraction off and saturates. -/
instance exactRationals : Number Exact where
  mul left right := ⟨left.value * right.value⟩
  div left right := ⟨left.value / right.value⟩
  ofScientific mantissa negative exponent := ⟨OfScientific.ofScientific mantissa negative exponent⟩
  less left right := decide (left.value < right.value)
  ofUInt64 word := ⟨word.toNat⟩
  toUInt64 number := UInt64.ofNat (min ⌊number.value⌋.toNat (2 ^ 64 - 1))

/-- A word times at least 1, cut off, is no less than the word. -/
theorem le_toUInt64_mul (word : UInt64) {factor : Exact} (atLeastOne : 1 ≤ factor.value) :
    word ≤ Number.toUInt64 (Number.ofUInt64 word * factor) := by
  have grown : (word.toNat : ℚ) ≤ word.toNat * factor.value :=
    le_mul_of_one_le_right (Nat.cast_nonneg _) atLeastOne
  have floored : (word.toNat : Int) ≤ ⌊(word.toNat : ℚ) * factor.value⌋ :=
    Int.le_floor.mpr (by exact_mod_cast grown)
  have bound := word.toNat_lt
  show word ≤ UInt64.ofNat (min ⌊(word.toNat : ℚ) * factor.value⌋.toNat (2 ^ 64 - 1))
  rw [UInt64.le_iff_toNat_le, UInt64.toNat_ofNat']
  omega

/-! ## Rounding to integers -/

/-- The nearest integer, of two the even one. -/
def roundEven (value : ℚ) : ℤ :=
  if Int.fract value < 1 / 2 then ⌊value⌋
  else if 1 / 2 < Int.fract value then ⌊value⌋ + 1
  else if Even ⌊value⌋ then ⌊value⌋ else ⌊value⌋ + 1

/-- No integer is nearer, and of two as near the even one is taken. -/
theorem roundEven_spec (value : ℚ) :
    ((roundEven value : ℚ) - 1 / 2 < value ∨
        (roundEven value : ℚ) - 1 / 2 = value ∧ Even (roundEven value)) ∧
      (value < (roundEven value : ℚ) + 1 / 2 ∨
        value = (roundEven value : ℚ) + 1 / 2 ∧ Even (roundEven value)) := by
  have parts := Int.floor_add_fract value
  have nonneg := Int.fract_nonneg value
  have small := Int.fract_lt_one value
  unfold roundEven
  split_ifs with below above even
  · exact ⟨.inl (by linarith), .inl (by linarith)⟩
  · push_cast
    exact ⟨.inl (by linarith), .inl (by linarith)⟩
  · exact ⟨.inl (by linarith), .inr ⟨by linarith, even⟩⟩
  · have next : Even (⌊value⌋ + 1) := Int.even_add_one.mpr even
    push_cast
    exact ⟨.inr ⟨by linarith, next⟩, .inl (by linarith)⟩

/-- An integer is reached from half a unit below it on, at the half if it is even. -/
theorem le_roundEven_iff {bound : ℤ} {value : ℚ} :
    bound ≤ roundEven value ↔
      (bound : ℚ) - 1 / 2 < value ∨ (bound : ℚ) - 1 / 2 = value ∧ Even bound := by
  obtain ⟨lower, upper⟩ := roundEven_spec value
  generalize roundEven value = rounded at lower upper ⊢
  rcases lt_trichotomy bound rounded with less | rfl | greater
  · have apart : (bound : ℚ) + 1 ≤ rounded := by exact_mod_cast less
    refine iff_of_true less.le (.inl ?_)
    rcases lower with lower | ⟨same, -⟩ <;> linarith
  · exact iff_of_true le_rfl lower
  · have apart : (rounded : ℚ) + 1 ≤ bound := by exact_mod_cast greater
    refine iff_of_false greater.not_ge ?_
    rintro (reached | ⟨same, even⟩)
    · rcases upper with upper | ⟨upper, -⟩ <;> linarith
    · rcases upper with upper | ⟨upper, evenRounded⟩
      · linarith
      · -- two neighbours are not both even
        have next : (bound : ℚ) = rounded + 1 := by linarith
        have isNext : bound = rounded + 1 := by exact_mod_cast next
        rw [isNext, Int.even_add_one] at even
        exact even evenRounded

theorem roundEven_mono {left right : ℚ} (le : left ≤ right) : roundEven left ≤ roundEven right := by
  rw [le_roundEven_iff]
  rcases le_roundEven_iff.mp (le_refl (roundEven left)) with below | ⟨half, even⟩
  · exact .inl (below.trans_le le)
  · rcases le.lt_or_eq with less | rfl
    · exact .inl (half.trans_lt less)
    · exact .inr ⟨half, even⟩

@[simp] theorem roundEven_intCast (value : ℤ) : roundEven (value : ℚ) = value := by
  simp [roundEven]

/-! ## Rounding to 53 bits -/

/-- The weight of the last of 53 bits. -/
def ulp (value : ℚ) : ℚ := 2 ^ (Int.log 2 value - 52)

/-- The nearest number of 53 bits, of two the one whose last bit is 0. -/
def nearest (value : ℚ) : ℚ := roundEven (value / ulp value) * ulp value

theorem ulp_pos (value : ℚ) : 0 < ulp value := zpow_pos two_pos _

@[simp] theorem nearest_zero : nearest 0 = 0 := by simp [nearest, roundEven]

/-! A number has 53 bits above its last one, and rounding leaves it so many or carries once. -/

theorem div_ulp_lt (value : ℚ) : value / ulp value < 2 ^ 53 := by
  rw [div_lt_iff₀ (ulp_pos value), ulp, ← zpow_natCast, ← zpow_add₀ two_ne_zero]
  have bound := Int.lt_zpow_succ_log_self one_lt_two value
  norm_num at bound ⊢
  ring_nf at bound ⊢
  exact bound

theorem lt_two_pow_mul_ulp (value : ℚ) : value < 2 ^ 53 * ulp value :=
  (div_lt_iff₀ (ulp_pos value)).mp (div_ulp_lt value)

theorem nearest_le_two_pow_mul_ulp (value : ℚ) : nearest value ≤ 2 ^ 53 * ulp value := by
  have rounded : roundEven (value / ulp value) ≤ 2 ^ 53 := by
    rw [← roundEven_intCast (2 ^ 53)]
    exact roundEven_mono (by exact_mod_cast (div_ulp_lt value).le)
  have cast : (roundEven (value / ulp value) : ℚ) ≤ 2 ^ 53 := by exact_mod_cast rounded
  exact mul_le_mul_of_nonneg_right cast (ulp_pos value).le

section Positive

variable {value : ℚ} (positive : 0 < value)

include positive

theorem two_pow_le_div_ulp : (2 : ℚ) ^ 52 ≤ value / ulp value := by
  rw [le_div_iff₀ (ulp_pos value), ulp, ← zpow_natCast, ← zpow_add₀ two_ne_zero]
  have bound := Int.zpow_log_le_self one_lt_two positive
  norm_num at bound ⊢
  exact bound

theorem two_pow_mul_ulp_le : 2 ^ 52 * ulp value ≤ value :=
  (le_div_iff₀ (ulp_pos value)).mp (two_pow_le_div_ulp positive)

theorem two_pow_le_roundEven : 2 ^ 52 ≤ roundEven (value / ulp value) := by
  rw [← roundEven_intCast (2 ^ 52)]
  exact roundEven_mono (by exact_mod_cast two_pow_le_div_ulp positive)

theorem two_pow_mul_ulp_le_nearest : 2 ^ 52 * ulp value ≤ nearest value := by
  have cast : ((2 : ℚ) ^ 52) ≤ roundEven (value / ulp value) := by
    exact_mod_cast two_pow_le_roundEven positive
  exact mul_le_mul_of_nonneg_right cast (ulp_pos value).le

end Positive

theorem nearest_nonneg {value : ℚ} (nonneg : 0 ≤ value) : 0 ≤ nearest value := by
  rcases nonneg.eq_or_lt with rfl | positive
  · exact nearest_zero.ge
  · have weight := ulp_pos value
    have kept := two_pow_mul_ulp_le_nearest positive
    linarith

/-- The unit of a number that is written with 53 bits. -/
theorem ulp_eq {rest : ℚ} {exponent : ℤ} (lower : 2 ^ 52 ≤ rest) (upper : rest < 2 ^ 53) :
    ulp (rest * 2 ^ exponent) = 2 ^ exponent := by
  have weight : (0 : ℚ) < 2 ^ exponent := zpow_pos two_pos _
  have positive : 0 < rest * 2 ^ exponent := mul_pos (by linarith) weight
  have low : Int.log 2 (rest * 2 ^ exponent) = 52 + exponent := by
    apply le_antisymm
    · rw [← Int.lt_add_one_iff, ← Int.lt_zpow_iff_log_lt one_lt_two positive]
      rw [show 52 + exponent + 1 = 53 + exponent by ring, Nat.cast_ofNat, zpow_add₀ two_ne_zero,
        zpow_ofNat]
      exact mul_lt_mul_of_pos_right upper weight
    · rw [← Int.zpow_le_iff_le_log one_lt_two positive, Nat.cast_ofNat, zpow_add₀ two_ne_zero,
        zpow_ofNat]
      exact mul_le_mul_of_nonneg_right lower weight.le
  rw [ulp, low, add_sub_cancel_left]

theorem nearest_eq {rest : ℚ} {exponent : ℤ} (lower : 2 ^ 52 ≤ rest) (upper : rest < 2 ^ 53) :
    nearest (rest * 2 ^ exponent) = roundEven rest * 2 ^ exponent := by
  rw [nearest, ulp_eq lower upper, mul_div_cancel_right₀ _ (zpow_pos two_pos _).ne']

/-! ## From where on a bound is reached -/

/-- The least number of 53 bits that is no less than a bound, in units of its last bit. -/
def units (bound : ℚ) : ℤ := ⌈bound / ulp bound⌉

/-- Halfway from that number to the one below it, which is nearer below a power of two. -/
def halfBelow (bound : ℚ) : ℚ :=
  if units bound = 2 ^ 52 then (2 ^ 52 - 1 / 4) * ulp bound
  else (units bound - 1 / 2) * ulp bound

/-- A value is rounded to the bound or above: it lies beyond the half, or on it where the number
above ends in 0. -/
def Reaches (bound value : ℚ) : Prop :=
  halfBelow bound < value ∨ halfBelow bound = value ∧ Even (units bound)

instance (bound value : ℚ) : Decidable (Reaches bound value) := by
  unfold Reaches
  infer_instance

section Reaches

variable {bound value : ℚ}

theorem two_pow_le_units (positive : 0 < bound) : 2 ^ 52 ≤ units bound := by
  have lower := (two_pow_le_div_ulp positive).trans (Int.le_ceil _)
  exact_mod_cast lower

theorem units_le_two_pow : units bound ≤ 2 ^ 53 := by
  refine Int.ceil_le.mpr ?_
  push_cast
  exact (div_ulp_lt bound).le

/-- Only the powers of two stand at the low end of their units. -/
theorem units_eq_iff (positive : 0 < bound) :
    units bound = 2 ^ 52 ↔ bound ≤ 2 ^ 52 * ulp bound := by
  have lower := two_pow_le_units positive
  have upper : units bound ≤ 2 ^ 52 ↔ bound ≤ 2 ^ 52 * ulp bound := by
    unfold units
    rw [Int.ceil_le, div_le_iff₀ (ulp_pos bound)]
    push_cast
    rfl
  rw [← upper]
  exact ⟨le_of_eq, fun le => le_antisymm le lower⟩

theorem halfBelow_lt (bound : ℚ) : halfBelow bound < 2 ^ 53 * ulp bound := by
  have upper : (units bound : ℚ) ≤ 2 ^ 53 := by exact_mod_cast units_le_two_pow
  unfold halfBelow
  split_ifs with least
  · exact mul_lt_mul_of_pos_right (by linarith) (ulp_pos bound)
  · exact mul_lt_mul_of_pos_right (by linarith) (ulp_pos bound)

/-- Above a power of two, the half below lies above it too. -/
theorem lt_halfBelow (positive : 0 < bound) (above : units bound ≠ 2 ^ 52) :
    2 ^ 52 * ulp bound < halfBelow bound := by
  have next : 2 ^ 52 + 1 ≤ units bound :=
    Int.add_one_le_iff.mpr (lt_of_le_of_ne (two_pow_le_units positive) above.symm)
  have cast : (2 : ℚ) ^ 52 + 1 ≤ units bound := by exact_mod_cast next
  unfold halfBelow
  rw [if_neg above]
  exact mul_lt_mul_of_pos_right (by linarith) (ulp_pos bound)

theorem le_halfBelow (positive : 0 < bound) :
    (2 ^ 52 - 1 / 4) * ulp bound ≤ halfBelow bound := by
  by_cases least : units bound = 2 ^ 52
  · exact (if_pos least).ge
  · have weight := ulp_pos bound
    have above := lt_halfBelow positive least
    linarith

theorem halfBelow_pos (positive : 0 < bound) : 0 < halfBelow bound := by
  have weight := ulp_pos bound
  have above := le_halfBelow positive
  linarith

/-- Where the last bit of the value weighs more, the bound is reached. -/
theorem reaches_of_larger (larger : 0 < value) (more : 2 * ulp bound ≤ ulp value) :
    bound ≤ nearest value ∧ Reaches bound value := by
  have boundUpper := lt_two_pow_mul_ulp bound
  have halfUpper := halfBelow_lt bound
  have valueLower := two_pow_mul_ulp_le larger
  have nearestLower := two_pow_mul_ulp_le_nearest larger
  exact ⟨by linarith, .inl (by linarith)⟩

/-- Where the last bits weigh the same, the units are rounded to. -/
theorem le_nearest_iff_of_same (larger : 0 < value) (same : ulp value = ulp bound) :
    bound ≤ nearest value ↔ Reaches bound value := by
  have weight := ulp_pos bound
  have reached : bound ≤ nearest value ↔ units bound ≤ roundEven (value / ulp value) := by
    unfold nearest units
    rw [Int.ceil_le, same, div_le_iff₀ weight]
  rw [reached]
  unfold Reaches halfBelow
  by_cases least : units bound = 2 ^ 52
  · have valueLower := two_pow_mul_ulp_le larger
    rw [same] at valueLower
    refine iff_of_true (least ▸ two_pow_le_roundEven larger) (.inl ?_)
    rw [if_pos least]
    linarith
  · rw [if_neg least, le_roundEven_iff, same, lt_div_iff₀ weight, eq_div_iff weight.ne']

/-- Where the last bit of the bound weighs twice as much, only a power of two may be reached. -/
theorem le_nearest_iff_of_half (positive : 0 < bound) (half : ulp bound = 2 * ulp value) :
    bound ≤ nearest value ↔ Reaches bound value := by
  have weight := ulp_pos value
  have valueUpper := lt_two_pow_mul_ulp value
  have nearestUpper := nearest_le_two_pow_mul_ulp value
  have boundLower := two_pow_mul_ulp_le positive
  by_cases least : units bound = 2 ^ 52
  · have boundUpper := (units_eq_iff positive).mp least
    have isPower : bound = ((2 ^ 53 : ℤ) : ℚ) * ulp value := by
      push_cast
      linarith
    have even : Even (2 ^ 53 : ℤ) := by decide
    have evenUnits : Even (units bound) := by
      rw [least]
      decide
    unfold nearest Reaches halfBelow
    rw [if_pos least, half, and_iff_left evenUnits, isPower, mul_le_mul_iff_left₀ weight,
      Int.cast_le, le_roundEven_iff, lt_div_iff₀ weight, eq_div_iff weight.ne', and_iff_left even]
    have same : (((2 ^ 53 : ℤ) : ℚ) - 1 / 2) * ulp value =
        (2 ^ 52 - 1 / 4) * (2 * ulp value) := by
      push_cast
      ring
    rw [same]
  · have above := lt_halfBelow positive least
    have boundAbove := not_le.mp fun within => least ((units_eq_iff positive).mpr within)
    refine iff_of_false (by linarith) ?_
    rintro (reached | ⟨same, -⟩) <;> linarith

/-- Where it weighs four times as much, the bound is out of reach. -/
theorem not_reaches_of_smaller (positive : 0 < bound) (less : 4 * ulp value ≤ ulp bound) :
    ¬ bound ≤ nearest value ∧ ¬ Reaches bound value := by
  have weight := ulp_pos value
  have valueUpper := lt_two_pow_mul_ulp value
  have nearestUpper := nearest_le_two_pow_mul_ulp value
  have boundLower := two_pow_mul_ulp_le positive
  have halfLower := le_halfBelow positive
  refine ⟨by linarith, ?_⟩
  rintro (reached | ⟨same, -⟩) <;> linarith

private theorem le_nearest_iff_of_pos (positive : 0 < bound) (larger : 0 < value) :
    bound ≤ nearest value ↔ Reaches bound value := by
  have weight : ∀ steps : ℕ, ∀ low high : ℤ, low + steps ≤ high →
      (2 : ℚ) ^ steps * 2 ^ (low - 52) ≤ 2 ^ (high - 52) := by
    intro steps low high le
    rw [← zpow_natCast, ← zpow_add₀ two_ne_zero]
    exact zpow_le_zpow_right₀ one_le_two (by omega)
  rcases lt_trichotomy (Int.log 2 value) (Int.log 2 bound) with less | same | more
  · rcases (show Int.log 2 value + 1 ≤ Int.log 2 bound from less).eq_or_lt with next | less
    · apply le_nearest_iff_of_half positive
      rw [ulp, ulp, ← next, show Int.log 2 value + 1 - 52 = Int.log 2 value - 52 + 1 by ring,
        zpow_add_one₀ two_ne_zero, mul_comm]
    · have four := weight 2 (Int.log 2 value) (Int.log 2 bound) (by omega)
      have outOfReach : ¬ bound ≤ nearest value ∧ ¬ Reaches bound value :=
        not_reaches_of_smaller positive (by norm_num at four; exact four)
      exact iff_of_false outOfReach.1 outOfReach.2
  · exact le_nearest_iff_of_same larger (by rw [ulp, ulp, same])
  · have two := weight 1 _ _ more
    have reached : bound ≤ nearest value ∧ Reaches bound value :=
      reaches_of_larger larger (by rwa [pow_one] at two)
    exact iff_of_true reached.1 reached.2

/-- A bound is reached by rounding exactly from its half below on. -/
theorem le_nearest_iff (positive : 0 < bound) (nonneg : 0 ≤ value) :
    bound ≤ nearest value ↔ Reaches bound value := by
  rcases nonneg.eq_or_lt with rfl | larger
  · have above := halfBelow_pos positive
    refine iff_of_false (by rw [nearest_zero]; linarith) ?_
    rintro (reached | ⟨same, -⟩) <;> linarith
  · exact le_nearest_iff_of_pos positive larger

end Reaches

/-! ## Whole numbers -/

/-- A whole number is written with 53 bits. -/
theorem exists_places {number : ℕ} (positive : 0 < number) (short : number < 2 ^ 53) :
    ∃ places : ℕ, (number : ℚ) = (number * 2 ^ places : ℕ) * 2 ^ (-places : ℤ) ∧
      2 ^ 52 ≤ number * 2 ^ places ∧ number * 2 ^ places < 2 ^ 53 := by
  have least := Nat.log2_self_le positive.ne'
  have next := Nat.lt_log2_self (n := number)
  have small : number.log2 < 53 := (Nat.log2_lt positive.ne').mpr short
  obtain ⟨places, isPlaces⟩ := Nat.exists_eq_add_of_le (Nat.lt_succ_iff.mp small)
  refine ⟨places, ?_, ?_, ?_⟩
  · push_cast
    rw [zpow_neg, zpow_natCast]
    field_simp
  · calc 2 ^ 52 = 2 ^ number.log2 * 2 ^ places := by rw [← pow_add, ← isPlaces]
      _ ≤ number * 2 ^ places := Nat.mul_le_mul_right _ least
  · calc number * 2 ^ places < 2 ^ (number.log2 + 1) * 2 ^ places :=
          Nat.mul_lt_mul_of_pos_right next (by positivity)
      _ = 2 ^ 53 := by
          rw [← pow_add]
          congr 1
          omega

@[simp] theorem roundEven_natCast (number : ℕ) : roundEven (number : ℚ) = number := by
  exact_mod_cast roundEven_intCast number

/-- Whole numbers below 2^53 are kept. -/
theorem nearest_natCast {number : ℕ} (short : number < 2 ^ 53) : nearest number = number := by
  rcases Nat.eq_zero_or_pos number with rfl | positive
  · exact nearest_zero
  · obtain ⟨places, isNumber, lower, upper⟩ := exists_places positive short
    conv_rhs => rw [isNumber]
    rw [isNumber, nearest_eq (by exact_mod_cast lower) (by exact_mod_cast upper),
      roundEven_natCast]
    push_cast
    rfl

/-- A whole number below 2^52 ends in 0. -/
theorem even_units_natCast {number : ℕ} (positive : 0 < number) (short : number < 2 ^ 52) :
    Even (units number) := by
  obtain ⟨places, isNumber, lower, upper⟩ := exists_places positive (short.trans (by decide))
  have isUnits : units number = (number * 2 ^ places : ℕ) := by
    unfold units
    rw [isNumber, ulp_eq (by exact_mod_cast lower) (by exact_mod_cast upper),
      mul_div_cancel_right₀ _ (zpow_pos two_pos _).ne', Int.ceil_natCast]
  have some : places ≠ 0 := by
    rintro rfl
    omega
  rw [isUnits, Int.even_coe_nat]
  exact ((even_two.pow_of_ne_zero some)).mul_left _

end TriAI.Library.Arithmetic
