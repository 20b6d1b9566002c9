import TriAI.Library.Arithmetic

/-!
Contract: what the binary64 operations of Lean's floats compute.

Owns: `Stands`, the rational that a float is; and that a cast of a word, a product and a quotient
of floats in range are rounded to the nearest, and a cast back cuts off and saturates.

Does not own: negative numbers, and what is not a number, infinite or subnormal.
-/

set_option autoImplicit false

namespace TriAI.Library.Binary64

open TriAI.Library.Arithmetic

/-! ## The numbers of a machine -/

open Float.Model
open Float.Model.UnpackedFloat

/-- The mantissa is the number cut off, and its two bits tell where the rest lies. -/
structure Approximates (extended : ExtendedMantissa) (value : ℚ) : Prop where
  least : (extended.mantissa : ℚ) ≤ value
  next : value < extended.mantissa + 1
  half : extended.roundBit = true ↔ (extended.mantissa : ℚ) + 1 / 2 ≤ value
  sticky : extended.stickyBit = true ↔
    value ≠ extended.mantissa ∧ value ≠ extended.mantissa + 1 / 2

section Approximates

variable {extended : ExtendedMantissa} {value : ℚ}

/-- A bit is set exactly if something was cut off. -/
theorem Approximates.inexact_iff (approximates : Approximates extended value) :
    (extended.roundBit || extended.stickyBit) = true ↔ value ≠ extended.mantissa := by
  rw [Bool.or_eq_true, approximates.half, approximates.sticky]
  constructor
  · rintro (half | ⟨cut, -⟩) same
    · linarith
    · exact cut same
  · intro cut
    by_cases atHalf : value = extended.mantissa + 1 / 2
    · exact .inl atHalf.ge
    · exact .inr ⟨cut, atHalf⟩

theorem Approximates.shiftRightOne (approximates : Approximates extended value) :
    Approximates extended.shiftRightOne (value / 2) := by
  have inexact := approximates.inexact_iff
  obtain ⟨mantissa, roundBit, stickyBit⟩ := extended
  obtain ⟨least, next, -, -⟩ := approximates
  dsimp only at least next inexact
  unfold ExtendedMantissa.shiftRightOne
  rcases Nat.even_or_odd' mantissa with ⟨front, even | odd⟩
  · have isFront : mantissa / 2 = front := by omega
    have last : (mantissa % 2 != 0) = false := by
      rw [even, Nat.mul_mod_right]
      rfl
    have cast : (mantissa : ℚ) = 2 * front := by exact_mod_cast even
    rw [isFront, last]
    refine ⟨?_, ?_, ?_, inexact.trans ?_⟩
    · dsimp only
      linarith
    · dsimp only
      linarith
    · dsimp only
      exact iff_of_false Bool.false_ne_true (by linarith)
    · dsimp only
      constructor
      · intro cut
        exact ⟨fun same => cut (by linarith), fun same => by linarith⟩
      · rintro ⟨cut, -⟩ same
        exact cut (by linarith)
  · have isFront : mantissa / 2 = front := by omega
    have last : (mantissa % 2 != 0) = true := by
      rw [odd, Nat.mul_add_mod]
      rfl
    have cast : (mantissa : ℚ) = 2 * front + 1 := by exact_mod_cast odd
    rw [isFront, last]
    refine ⟨?_, ?_, ?_, inexact.trans ?_⟩
    · dsimp only
      linarith
    · dsimp only
      linarith
    · dsimp only
      exact iff_of_true rfl (by linarith)
    · dsimp only
      constructor
      · intro cut
        exact ⟨fun same => by linarith, fun same => cut (by linarith)⟩
      · rintro ⟨-, cut⟩ same
        exact cut (by linarith)

theorem Approximates.shiftRight (approximates : Approximates extended value) (count : ℕ) :
    Approximates (extended >>> count) (value / 2 ^ count) := by
  induction count with
  | zero =>
      rw [pow_zero, div_one]
      exact approximates
  | succ count inductionHypothesis =>
      rw [pow_succ, ← div_div]
      exact inductionHypothesis.shiftRightOne

theorem Approximates.floor_eq (approximates : Approximates extended value) :
    ⌊value⌋ = extended.mantissa := by
  rw [Int.floor_eq_iff, Int.cast_natCast]
  exact ⟨approximates.least, approximates.next⟩

theorem Approximates.roundedMantissa (approximates : Approximates extended value) :
    (extended.roundedMantissa : ℤ) = roundEven value := by
  have floor := approximates.floor_eq
  have rest : Int.fract value = value - extended.mantissa := by
    rw [Int.fract, floor, Int.cast_natCast]
  obtain ⟨mantissa, roundBit, stickyBit⟩ := extended
  obtain ⟨least, next, half, sticky⟩ := approximates
  dsimp only at floor rest least next half sticky
  unfold roundEven
  rw [floor, rest]
  cases roundBit with
  | false =>
      have below : value - mantissa < 1 / 2 := by
        by_contra above
        exact Bool.false_ne_true (half.mpr (by linarith))
      rw [if_pos below]
      cases stickyBit <;> rfl
  | true =>
      have above : (mantissa : ℚ) + 1 / 2 ≤ value := half.mp rfl
      rw [if_neg (by linarith)]
      cases stickyBit with
      | true =>
          have different := (sticky.mp rfl).2
          have beyond : 1 / 2 < value - mantissa := by
            have := lt_of_le_of_ne above different.symm
            linarith
          rw [if_pos beyond]
          rfl
      | false =>
          have same : value = mantissa + 1 / 2 := by
            by_contra different
            have cut : value ≠ mantissa := by
              intro same
              linarith
            exact Bool.false_ne_true (sticky.mpr ⟨cut, different⟩)
          rw [if_neg (by linarith)]
          show ((mantissa + mantissa % 2 : ℕ) : ℤ) = _
          rcases Nat.even_or_odd mantissa with even | odd
          · rw [if_pos ((Int.even_coe_nat mantissa).mpr even), Nat.even_iff.mp even, Nat.add_zero]
          · rw [if_neg (by rwa [Int.even_coe_nat, Nat.not_even_iff_odd]), Nat.odd_iff.mp odd]
            rfl

end Approximates

/-- A number of the machine that is 0, or positive with 53 bits. -/
inductive Denotes : UnpackedFloat → ℚ → Prop where
  | zero : Denotes (.zero .positive) 0
  | finite {mantissa : ℕ} {exponent : ℤ} (positive : 0 < mantissa) (long : 2 ^ 52 ≤ mantissa)
      (short : mantissa < 2 ^ 53) :
      Denotes (.finite .positive mantissa exponent positive) (mantissa * 2 ^ exponent)

section Rounding

variable {mantissa : ℕ} {exponent : ℤ} {accuracy : Accuracy} {value : ℚ}

theorem le_log2 (long : 2 ^ 52 ≤ mantissa) : 52 ≤ mantissa.log2 :=
  (Nat.le_log2 (by omega)).mpr long

theorem log2_eq (long : 2 ^ 52 ≤ mantissa) (short : mantissa < 2 ^ 53) : mantissa.log2 = 52 :=
  le_antisymm (Nat.lt_succ_iff.mp ((Nat.log2_lt (by omega)).mpr short)) (le_log2 long)

/-- A long mantissa is shifted to 53 bits. -/
theorem shiftToTargetExponent_eq (long : 2 ^ 52 ≤ mantissa)
    (normal : -1022 ≤ exponent + mantissa.log2) :
    shiftToTargetExponent Format.binary64 mantissa exponent accuracy =
      (ExtendedMantissa.ofMantissaAndAccuracy mantissa accuracy >>> (mantissa.log2 - 52),
        exponent + (mantissa.log2 - 52 : ℕ)) := by
  have enough := le_log2 long
  have target : Format.binary64.targetExponent (totalExponent mantissa exponent) =
      exponent + (mantissa.log2 - 52 : ℕ) := by
    show max ((mantissa.log2 : ℤ) + 1 + exponent - 53) (-1074) = _
    omega
  have count : (exponent + ((mantissa.log2 - 52 : ℕ) : ℤ) - exponent).toNat =
      mantissa.log2 - 52 := by omega
  unfold shiftToTargetExponent shiftToExponent
  dsimp only
  rw [target, count]

/-- What was rounded may have carried into another bit. -/
theorem denotes_carried (exponent : ℤ) (long : 2 ^ 52 ≤ mantissa) (short : mantissa ≤ 2 ^ 53)
    (normal : -1074 ≤ exponent) :
    ∃ (last : ℕ) (place : ℤ) (positive : 0 < last),
      (shiftToTargetExponent Format.binary64 mantissa exponent .exact).1.mantissa = last ∧
      (shiftToTargetExponent Format.binary64 mantissa exponent .exact).2 = place ∧
      Denotes (.finite .positive last place positive) (mantissa * 2 ^ exponent) := by
  have enough := le_log2 long
  rw [shiftToTargetExponent_eq long (by omega)]
  rcases short.lt_or_eq with less | rfl
  · rw [log2_eq long less]
    refine ⟨mantissa, exponent, by omega, rfl, ?_, .finite _ long less⟩
    show exponent + ((0 : ℕ) : ℤ) = exponent
    omega
  · have isLog : (2 ^ 53).log2 = 53 := Nat.log2_two_pow
    have value : ((2 ^ 53 : ℕ) : ℚ) * 2 ^ exponent = ((2 ^ 52 : ℕ) : ℚ) * 2 ^ (exponent + 1) := by
      rw [zpow_add_one₀ two_ne_zero]
      push_cast
      ring
    rw [isLog, value]
    exact ⟨2 ^ 52, exponent + 1, by decide, rfl, rfl, .finite _ le_rfl (by decide)⟩

theorem mantissa_ofMantissaAndAccuracy (mantissa : ℕ) (accuracy : Accuracy) :
    (ExtendedMantissa.ofMantissaAndAccuracy mantissa accuracy).mantissa = mantissa := by
  unfold ExtendedMantissa.ofMantissaAndAccuracy
  split <;> rfl

/-- What a long mantissa approximates lies in the unit above it. -/
theorem Approximates.bounds
    (approximates : Approximates (.ofMantissaAndAccuracy mantissa accuracy) value) :
    (mantissa : ℚ) ≤ value ∧ value < mantissa + 1 := by
  have least := approximates.least
  have next := approximates.next
  rw [mantissa_ofMantissaAndAccuracy] at least next
  exact ⟨least, next⟩

/-- The bits above the 53rd are shifted away. -/
theorem shifted_bounds {count : ℕ} (isLog : mantissa.log2 = 52 + count)
    (nonzero : mantissa ≠ 0) (least : (mantissa : ℚ) ≤ value) (next : value < mantissa + 1) :
    2 ^ 52 ≤ value / 2 ^ count ∧ value / 2 ^ count < 2 ^ 53 := by
  have weight : (0 : ℚ) < 2 ^ count := pow_pos two_pos _
  have lowest : 2 ^ (52 + count) ≤ mantissa := isLog ▸ Nat.log2_self_le nonzero
  have highest : mantissa + 1 ≤ 2 ^ (52 + count + 1) := isLog ▸ Nat.lt_log2_self
  have lowestCast : (2 : ℚ) ^ (52 + count) ≤ mantissa := by exact_mod_cast lowest
  have highestCast : (mantissa : ℚ) + 1 ≤ 2 ^ (52 + count + 1) := by exact_mod_cast highest
  constructor
  · rw [le_div_iff₀ weight, ← pow_add]
    linarith
  · rw [div_lt_iff₀ weight, ← pow_add, show 53 + count = 52 + count + 1 by omega]
    linarith

/-- A long mantissa with its accuracy is rounded to the nearest number. -/
theorem denotes_roundWithAccuracy
    (approximates : Approximates (.ofMantissaAndAccuracy mantissa accuracy) value)
    (long : 2 ^ 52 ≤ mantissa) (normal : -1022 ≤ exponent + mantissa.log2) :
    Denotes (roundWithAccuracy Format.binary64 .positive mantissa exponent accuracy)
      (nearest (value * 2 ^ exponent)) := by
  obtain ⟨count, isLog⟩ := Nat.exists_eq_add_of_le (le_log2 long)
  have isCount : mantissa.log2 - 52 = count := by omega
  obtain ⟨least, next⟩ := approximates.bounds
  obtain ⟨lower, upper⟩ := shifted_bounds isLog (by omega) least next
  have rounded := (approximates.shiftRight count).roundedMantissa
  have longRounded : 2 ^ 52 ≤ roundEven (value / 2 ^ count) := by
    rw [← roundEven_intCast (2 ^ 52)]
    exact roundEven_mono (by exact_mod_cast lower)
  have shortRounded : roundEven (value / 2 ^ count) ≤ 2 ^ 53 := by
    rw [← roundEven_intCast (2 ^ 53)]
    exact roundEven_mono (by exact_mod_cast upper.le)
  have moved : value * 2 ^ exponent = value / 2 ^ count * 2 ^ (exponent + count) := by
    rw [zpow_add₀ two_ne_zero, zpow_natCast]
    field_simp
  have isNearest : nearest (value * 2 ^ exponent) =
      ((ExtendedMantissa.ofMantissaAndAccuracy mantissa accuracy >>> count).roundedMantissa : ℚ) *
        2 ^ (exponent + count) := by
    rw [moved, nearest_eq lower upper, ← rounded, Int.cast_natCast]
  rw [← rounded] at longRounded shortRounded
  obtain ⟨_, _, positive, rfl, rfl, denotes⟩ := denotes_carried (exponent + count)
    (by exact_mod_cast longRounded) (by exact_mod_cast shortRounded) (by omega)
  unfold roundWithAccuracy
  rw [shiftToTargetExponent_eq long normal, isCount, isNearest]
  dsimp only
  rw [dif_neg positive.ne']
  exact denotes

/-- An exact mantissa. -/
theorem approximates_exact (mantissa : ℕ) :
    Approximates (.ofMantissaAndAccuracy mantissa .exact) mantissa where
  least := le_rfl
  next := lt_add_one _
  half := iff_of_false Bool.false_ne_true (by simp [ExtendedMantissa.ofMantissaAndAccuracy])
  sticky := iff_of_false Bool.false_ne_true (by simp [ExtendedMantissa.ofMantissaAndAccuracy])

/-- A mantissa with a part that was cut off, compared with a half. -/
theorem approximates_inexact {front : ℕ} {part : ℚ} {order : Ordering} (above : 0 < part)
    (below : part < 1) (isLess : order = .lt ↔ part < 1 / 2) (isHalf : order = .eq ↔ part = 1 / 2) :
    Approximates (.ofMantissaAndAccuracy front (.inexact order)) (front + part) := by
  have least : (front : ℚ) ≤ front + part := by linarith
  have next : (front + part : ℚ) < front + 1 := by linarith
  have cut : (front + part : ℚ) ≠ front := by linarith
  have atHalf : (front + part : ℚ) = front + 1 / 2 ↔ part = 1 / 2 := add_right_inj _
  have fromHalf : (front + 1 / 2 : ℚ) ≤ front + part ↔ 1 / 2 ≤ part := add_le_add_iff_left _
  cases order with
  | lt =>
      have less := isLess.mp rfl
      exact ⟨least, next,
        iff_of_false Bool.false_ne_true (fromHalf.not.mpr less.not_ge),
        iff_of_true rfl ⟨cut, atHalf.not.mpr less.ne⟩⟩
  | eq =>
      have half := isHalf.mp rfl
      exact ⟨least, next, iff_of_true rfl (fromHalf.mpr half.ge),
        iff_of_false Bool.false_ne_true fun both => both.2 (atHalf.mpr half)⟩
  | gt =>
      have notLess : ¬ part < 1 / 2 := fun less => Ordering.noConfusion (isLess.mpr less)
      have notHalf : ¬ part = 1 / 2 := fun half => Ordering.noConfusion (isHalf.mpr half)
      exact ⟨least, next, iff_of_true rfl (fromHalf.mpr (not_lt.mp notLess)),
        iff_of_true rfl ⟨cut, atHalf.not.mpr notHalf⟩⟩

/-- A fraction, cut off. -/
theorem approximates_fraction {divisor : ℕ} (nonzero : 0 < divisor) (dividend : ℕ) :
    Approximates (.ofMantissaAndAccuracy (dividend / divisor)
      (accuracyOfFraction (dividend % divisor) divisor)) (dividend / divisor : ℚ) := by
  have weight : (0 : ℚ) < divisor := by exact_mod_cast nonzero
  have parts : (dividend : ℚ) = divisor * (dividend / divisor : ℕ) + (dividend % divisor : ℕ) := by
    exact_mod_cast (Nat.div_add_mod dividend divisor).symm
  have small : ((dividend % divisor : ℕ) : ℚ) < divisor := by
    exact_mod_cast Nat.mod_lt dividend nonzero
  have isValue : (dividend / divisor : ℚ) =
      (dividend / divisor : ℕ) + (dividend % divisor : ℕ) / divisor := by
    rw [parts]
    field_simp
  rw [isValue]
  generalize dividend / divisor = front
  generalize dividend % divisor = rest at small ⊢
  unfold accuracyOfFraction
  split
  · rename_i none
    rw [none, Nat.cast_zero, zero_div, add_zero]
    exact approximates_exact front
  · rename_i some
    have positive : (0 : ℚ) < rest := by exact_mod_cast Nat.pos_of_ne_zero some
    refine approximates_inexact (div_pos positive weight) ((div_lt_one weight).mpr small) ?_ ?_
    · rw [compare_lt_iff_lt, div_lt_iff₀ weight, ← Nat.cast_lt (α := ℚ)]
      push_cast
      constructor <;> intro less <;> linarith
    · rw [compare_eq_iff_eq, div_eq_iff weight.ne', ← Nat.cast_inj (R := ℚ)]
      push_cast
      constructor <;> intro same <;> linarith

end Rounding

section Packing

@[simp] theorem unpackSign_packComponents {spec : Format} {sign : Sign}
    {exponent : BitVec spec.exponentBits} {mantissa : BitVec spec.mantissaBitsWithoutImplicit} :
    unpackSign (packComponents spec sign exponent mantissa) = sign.toBitVec := by
  ext i hi
  obtain rfl : i = 0 := by omega
  simp [unpackSign, packComponents, BitVec.getLsbD_append, BitVec.getElem_append]

theorem unpack_pack_zero : (Float.Model.pack (.zero .positive)).unpack = .zero .positive := by
  rfl

/-- What is in range is packed without loss. -/
theorem unpack_pack_finite {mantissa : ℕ} {exponent : ℤ} (positive : 0 < mantissa)
    (long : 2 ^ 52 ≤ mantissa) (short : mantissa < 2 ^ 53) (lower : -1074 ≤ exponent)
    (upper : exponent ≤ 971) :
    (Float.Model.pack (.finite .positive mantissa exponent positive)).unpack =
      .finite .positive mantissa exponent positive := by
  obtain ⟨biased, isBiased⟩ := Int.eq_ofNat_of_zero_le (show 0 ≤ exponent + 1075 by omega)
  have isLog : mantissa.log2 + 1 = 53 := by rw [log2_eq long short]
  have isExponent : (exponent + 1023 + 52).toNat = biased := by omega
  have inRange : ¬ 2 ^ 11 ≤ biased + 1 := by omega
  have isWord : (BitVec.ofNat 11 biased).toNat = biased := by
    rw [BitVec.toNat_ofNat, Nat.mod_eq_of_lt (by omega)]
  have notFull : BitVec.ofNat 11 biased ≠ -1#11 := by
    intro full
    have := congrArg BitVec.toNat full
    rw [isWord] at this
    have last : (-1#11 : BitVec 11).toNat = 2047 := by rfl
    omega
  have notEmpty : BitVec.ofNat 11 biased ≠ 0#11 := by
    intro empty
    have := congrArg BitVec.toNat empty
    rw [isWord] at this
    have last : (0#11 : BitVec 11).toNat = 0 := by rfl
    omega
  have isMantissa : (1#1 ++ BitVec.ofNat 52 mantissa).toNat = mantissa := by
    rw [BitVec.toNat_append, ← Nat.shiftLeft_add_eq_or_of_lt (BitVec.isLt _), BitVec.toNat_ofNat]
    show 2 ^ 52 + mantissa % 2 ^ 52 = mantissa
    omega
  unfold Float.Model.unpack Float.Model.pack
  show UnpackedFloat.unpack Format.binary64 (UnpackedFloat.pack Format.binary64 _) = _
  have packed : UnpackedFloat.pack Format.binary64 (.finite .positive mantissa exponent positive) =
      packComponents Format.binary64 .positive (BitVec.ofNat 11 biased)
        (BitVec.ofNat 52 mantissa) := by
    show (if 2 ^ 11 ≤ (exponent + 1023 + 52).toNat + 1 then _
      else if mantissa.log2 + 1 = 53 then packComponents Format.binary64 .positive
        (BitVec.ofNat 11 (exponent + 1023 + 52).toNat) (BitVec.ofNat 52 mantissa)
      else _) = _
    rw [isExponent, if_neg inRange, if_pos isLog]
  rw [packed]
  unfold UnpackedFloat.unpack
  simp only [unpackMantissa_packComponents, unpackExponent_packComponents,
    unpackSign_packComponents, if_neg notFull, if_neg notEmpty, isWord, isMantissa]
  have isPlace : (biased : ℤ) - (1023 + 52) = exponent := by omega
  exact congrArg (fun place => UnpackedFloat.finite .positive mantissa place positive) isPlace

end Packing

section Operations

variable {left right value : ℚ}

theorem two_pow_le_nearest {place : ℤ} (le : 2 ^ place ≤ value) : 2 ^ place ≤ nearest value := by
  have positive : 0 < value := (zpow_pos two_pos place).trans_le le
  have isLog := (Int.zpow_le_iff_le_log (R := ℚ) one_lt_two positive).mp (by exact_mod_cast le)
  calc (2 : ℚ) ^ place ≤ 2 ^ (52 + (Int.log 2 value - 52)) :=
        zpow_le_zpow_right₀ one_le_two (by omega)
    _ = 2 ^ 52 * ulp value := by rw [zpow_add₀ two_ne_zero, zpow_ofNat, ulp]
    _ ≤ nearest value := two_pow_mul_ulp_le_nearest positive

theorem nearest_le_two_pow (positive : 0 < value) {place : ℤ} (le : value ≤ 2 ^ place) :
    nearest value ≤ 2 ^ place := by
  rcases le.lt_or_eq with less | rfl
  · have isLog := (Int.lt_zpow_iff_log_lt (R := ℚ) one_lt_two positive).mp (by exact_mod_cast less)
    calc nearest value ≤ 2 ^ 53 * ulp value := nearest_le_two_pow_mul_ulp value
      _ = 2 ^ (53 + (Int.log 2 value - 52)) := by rw [zpow_add₀ two_ne_zero, zpow_ofNat, ulp]
      _ ≤ 2 ^ place := zpow_le_zpow_right₀ one_le_two (by omega)
  · have parts : (2 : ℚ) ^ place = 2 ^ 52 * 2 ^ (place - 52) := by
      rw [← zpow_ofNat, ← zpow_add₀ two_ne_zero, add_sub_cancel]
    have whole : (2 : ℚ) ^ 52 = ((2 ^ 52 : ℤ) : ℚ) := by norm_num
    rw [parts, nearest_eq le_rfl (by norm_num), whole, roundEven_intCast]

/-- Values that no operation here brings near the ends of the range. -/
def InRange (value : ℚ) : Prop := value = 0 ∨ 2 ^ (-1000 : ℤ) ≤ value ∧ value ≤ 2 ^ (1000 : ℤ)

theorem InRange.nearest (inRange : InRange value) : InRange (nearest value) := by
  rcases inRange with rfl | ⟨lower, upper⟩
  · exact .inl nearest_zero
  · have positive : 0 < value := (zpow_pos two_pos _).trans_le lower
    exact .inr ⟨two_pow_le_nearest lower, nearest_le_two_pow positive upper⟩

theorem InRange.above (inRange : InRange value) (positive : 0 < value) :
    2 ^ (-1000 : ℤ) ≤ value := by
  rcases inRange with zero | ⟨above, -⟩
  · exact absurd zero positive.ne'
  · exact above

theorem InRange.below (inRange : InRange value) : value ≤ 2 ^ (1000 : ℤ) := by
  rcases inRange with rfl | ⟨-, below⟩
  · exact (zpow_pos two_pos _).le
  · exact below

/-- The place of the highest bit. -/
theorem place_bounds {mantissa : ℕ} (exponent : ℤ) (long : 2 ^ 52 ≤ mantissa)
    (short : mantissa < 2 ^ 53) :
    (2 : ℚ) ^ (52 + exponent) ≤ mantissa * 2 ^ exponent ∧
      (mantissa * 2 ^ exponent : ℚ) < 2 ^ (53 + exponent) := by
  have weight : (0 : ℚ) < 2 ^ exponent := zpow_pos two_pos _
  rw [zpow_add₀ two_ne_zero, zpow_add₀ two_ne_zero, zpow_ofNat, zpow_ofNat]
  exact ⟨mul_le_mul_of_nonneg_right (by exact_mod_cast long) weight.le,
    mul_lt_mul_of_pos_right (by exact_mod_cast short) weight⟩

theorem lt_of_two_pow {low high : ℤ} (lower : (2 : ℚ) ^ low ≤ value) (upper : value < 2 ^ high) :
    low < high :=
  (zpow_lt_zpow_iff_right₀ one_lt_two).mp (lower.trans_lt upper)

theorem le_of_two_pow {low high : ℤ} (lower : (2 : ℚ) ^ low ≤ value) (upper : value ≤ 2 ^ high) :
    low ≤ high :=
  (zpow_le_zpow_iff_right₀ one_lt_two).mp (lower.trans upper)

/-- Packing keeps what is in range. -/
theorem Denotes.unpack_pack {number : UnpackedFloat} (denotes : Denotes number value)
    (inRange : InRange value) : (Float.Model.pack number).unpack = number := by
  cases denotes with
  | zero => exact unpack_pack_zero
  | @finite mantissa exponent positive long short =>
      obtain ⟨lower, upper⟩ := place_bounds exponent long short
      have low := lt_of_two_pow (inRange.above ((zpow_pos two_pos _).trans_le lower)) upper
      have high := le_of_two_pow lower inRange.below
      exact unpack_pack_finite positive long short (by omega) (by omega)

/-- A long mantissa is rounded to the nearest number in range. -/
theorem denotes_rounded {mantissa : ℕ} {exponent : ℤ} {accuracy : Accuracy}
    (approximates : Approximates (.ofMantissaAndAccuracy mantissa accuracy) value)
    (long : 2 ^ 52 ≤ mantissa) (inRange : InRange (value * 2 ^ exponent)) :
    Denotes (roundWithAccuracy Format.binary64 .positive mantissa exponent accuracy)
      (nearest (value * 2 ^ exponent)) := by
  have weight : (0 : ℚ) < 2 ^ exponent := zpow_pos two_pos _
  obtain ⟨least, next⟩ := approximates.bounds
  have positive : (0 : ℚ) < mantissa := by
    exact_mod_cast Nat.lt_of_lt_of_le (by decide) long
  have above := inRange.above (mul_pos (positive.trans_le least) weight)
  have below : value * 2 ^ exponent < 2 ^ ((mantissa.log2 + 1 : ℕ) + exponent) := by
    have top : (mantissa + 1 : ℚ) ≤ 2 ^ (mantissa.log2 + 1) := by
      exact_mod_cast Nat.lt_log2_self
    rw [zpow_add₀ two_ne_zero, zpow_natCast]
    exact mul_lt_mul_of_pos_right (next.trans_le top) weight
  have low := lt_of_two_pow above below
  exact denotes_roundWithAccuracy approximates long (by omega)

theorem Denotes.mul {first second : UnpackedFloat} (isLeft : Denotes first left)
    (isRight : Denotes second right) (inRange : InRange (left * right)) :
    Denotes (UnpackedFloat.mul Format.binary64 first second) (nearest (left * right)) := by
  cases isLeft with
  | zero =>
      rw [zero_mul, nearest_zero]
      cases isRight with
      | zero => exact .zero
      | finite => exact .zero
  | @finite mantissa exponent positive long short =>
      cases isRight with
      | zero =>
          rw [mul_zero, nearest_zero]
          exact .zero
      | @finite factor place factorPositive factorLong factorShort =>
          have product : (mantissa * 2 ^ exponent * (factor * 2 ^ place) : ℚ) =
              (mantissa * factor : ℕ) * 2 ^ (exponent + place) := by
            rw [zpow_add₀ two_ne_zero]
            push_cast
            ring
          rw [product] at inRange ⊢
          exact denotes_rounded (approximates_exact _)
            (Nat.le_trans long (Nat.le_mul_of_pos_right _ factorPositive)) inRange

/-- The quotient of two mantissas of 53 bits is computed to at least as many. -/
theorem divCore_eq {mantissa divisor : ℕ} {exponent place : ℤ} (long : 2 ^ 52 ≤ mantissa)
    (short : mantissa < 2 ^ 53) (divisorLong : 2 ^ 52 ≤ divisor) (divisorShort : divisor < 2 ^ 53)
    (normal : -1021 ≤ exponent - place) :
    divCore Format.binary64 mantissa exponent divisor place =
      (mantissa * 2 ^ 53 / divisor, exponent - place - 53,
        accuracyOfFraction (mantissa * 2 ^ 53 % divisor) divisor) := by
  have isTarget : min (exponent - place) (Format.binary64.targetExponent
      (totalExponent mantissa exponent - totalExponent divisor place)) =
        exponent - place - 53 := by
    show min (exponent - place) (max (mantissa.log2 + 1 + exponent -
      (divisor.log2 + 1 + place) - 53) (-1074)) = _
    rw [log2_eq long short, log2_eq divisorLong divisorShort]
    omega
  have count : (exponent - place - (exponent - place - 53)).toNat = 53 := by omega
  unfold divCore
  dsimp only
  rw [isTarget, count, Nat.shiftLeft_eq]

/-- Where the quotient is in range, the exponents are not far apart. -/
theorem exponents_of_inRange {mantissa divisor : ℕ} {exponent place : ℤ} (long : 2 ^ 52 ≤ mantissa)
    (short : mantissa < 2 ^ 53) (divisorLong : 2 ^ 52 ≤ divisor) (divisorShort : divisor < 2 ^ 53)
    (inRange : InRange (mantissa * 2 ^ exponent / (divisor * 2 ^ place))) :
    -1021 ≤ exponent - place := by
  obtain ⟨lower, upper⟩ := place_bounds exponent long short
  obtain ⟨divisorLower, -⟩ := place_bounds place divisorLong divisorShort
  have power : ∀ exponent : ℤ, (0 : ℚ) < 2 ^ exponent := fun _ => zpow_pos two_pos _
  have positive := (power _).trans_le lower
  have divisorPositive := (power _).trans_le divisorLower
  have above := inRange.above (div_pos positive divisorPositive)
  have below : (mantissa * 2 ^ exponent / (divisor * 2 ^ place) : ℚ) <
      2 ^ (53 + exponent - (52 + place)) := by
    rw [zpow_sub₀ two_ne_zero]
    exact div_lt_div₀ upper divisorLower (power _).le (power _)
  have low := lt_of_two_pow above below
  omega

/-- The quotient, with the mantissa moved up by 53 bits. -/
theorem quotient_eq (mantissa divisor : ℕ) (exponent place : ℤ) :
    (mantissa * 2 ^ exponent / (divisor * 2 ^ place) : ℚ) =
      ((mantissa * 2 ^ 53 : ℕ) / divisor : ℚ) * 2 ^ (exponent - place - 53) := by
  rw [zpow_sub₀ two_ne_zero, zpow_sub₀ two_ne_zero, zpow_ofNat]
  push_cast
  field_simp
  norm_num

theorem Denotes.div {first second : UnpackedFloat} (isLeft : Denotes first left)
    (isRight : Denotes second right) (nonzero : right ≠ 0) (inRange : InRange (left / right)) :
    Denotes (UnpackedFloat.div Format.binary64 first second) (nearest (left / right)) := by
  cases isRight with
  | zero => exact absurd rfl nonzero
  | @finite divisor place divisorPositive divisorLong divisorShort =>
      cases isLeft with
      | zero =>
          rw [zero_div, nearest_zero]
          exact .zero
      | @finite mantissa exponent positive long short =>
          have normal := exponents_of_inRange long short divisorLong divisorShort inRange
          have core : divCore Format.binary64 mantissa exponent divisor place = _ :=
            divCore_eq long short divisorLong divisorShort normal
          have longQuotient : 2 ^ 52 ≤ mantissa * 2 ^ 53 / divisor := by
            rw [Nat.le_div_iff_mul_le divisorPositive]
            omega
          rw [quotient_eq] at inRange ⊢
          show Denotes (roundWithAccuracy Format.binary64 .positive
            (divCore Format.binary64 mantissa exponent divisor place).1
            (divCore Format.binary64 mantissa exponent divisor place).2.1
            (divCore Format.binary64 mantissa exponent divisor place).2.2) _
          rw [core]
          exact denotes_rounded (approximates_fraction divisorPositive _) longQuotient inRange

/-- A value between two powers of two. -/
def Between (low high : ℤ) (value : ℚ) : Prop := 2 ^ low ≤ value ∧ value ≤ 2 ^ high

section Between

variable {low high lowest highest : ℤ}

theorem Between.pos (between : Between low high value) : 0 < value :=
  (zpow_pos two_pos _).trans_le between.1

theorem Between.nearest (between : Between low high value) :
    Between low high (Arithmetic.nearest value) :=
  ⟨two_pow_le_nearest between.1, nearest_le_two_pow between.pos between.2⟩

theorem Between.mul (isLeft : Between low high left) (isRight : Between lowest highest right) :
    Between (low + lowest) (high + highest) (left * right) := by
  unfold Between
  rw [zpow_add₀ two_ne_zero, zpow_add₀ two_ne_zero]
  exact ⟨mul_le_mul isLeft.1 isRight.1 (zpow_pos two_pos _).le isLeft.pos.le,
    mul_le_mul isLeft.2 isRight.2 isRight.pos.le (zpow_pos two_pos _).le⟩

theorem Between.div (isLeft : Between low high left) (isRight : Between lowest highest right) :
    Between (low - highest) (high - lowest) (left / right) := by
  unfold Between
  rw [zpow_sub₀ two_ne_zero, zpow_sub₀ two_ne_zero]
  exact ⟨div_le_div₀ isLeft.pos.le isLeft.1 isRight.pos isRight.2,
    div_le_div₀ (zpow_pos two_pos _).le isLeft.2 (zpow_pos two_pos _) isRight.1⟩

theorem Between.inRange (between : Between low high value) (above : -1000 ≤ low)
    (below : high ≤ 1000) : InRange value :=
  .inr ⟨(zpow_le_zpow_right₀ one_le_two above).trans between.1,
    between.2.trans (zpow_le_zpow_right₀ one_le_two below)⟩

theorem between_natCast {number : ℕ} (positive : 0 < number) (small : number ≤ 2 ^ 64) :
    Between 0 64 (number : ℚ) := by
  unfold Between
  rw [zpow_zero, zpow_ofNat]
  exact ⟨by exact_mod_cast positive, by exact_mod_cast small⟩

theorem inRange_natCast {number : ℕ} (small : number ≤ 2 ^ 64) : InRange (number : ℚ) := by
  rcases Nat.eq_zero_or_pos number with rfl | positive
  · exact .inl Nat.cast_zero
  · exact (between_natCast positive small).inRange (by decide) (by decide)

end Between

/-- A natural number that is not 0 is shifted up to 53 bits, where it has fewer. -/
theorem ofNat_eq {number : ℕ} (positive : 0 < number) :
    UnpackedFloat.ofNat Format.binary64 number =
      roundWithAccuracy Format.binary64 .positive (number * 2 ^ (52 - number.log2))
        (-(52 - number.log2 : ℕ)) .exact := by
  have compared : compare (number : ℤ) 0 = .gt := compare_gt_iff_gt.mpr (by omega)
  have isTarget : Format.binary64.targetExponent (totalExponent number 0) =
      (number.log2 : ℤ) - 52 := by
    show max ((number.log2 : ℤ) + 1 + 0 - 53) (-1074) = _
    omega
  have count : (0 - ((number.log2 : ℤ) - 52)).toNat = 52 - number.log2 := by omega
  unfold UnpackedFloat.ofNat UnpackedFloat.ofInt UnpackedFloat.normalize
  rw [compared]
  dsimp only
  unfold UnpackedFloat.round decreaseExponent
  dsimp only
  rw [Int.toNat_natCast, isTarget, count, Nat.shiftLeft_eq, zero_sub]

/-- A cast of a natural number. -/
theorem denotes_ofNat {number : ℕ} (small : number ≤ 2 ^ 64) :
    Denotes (UnpackedFloat.ofNat Format.binary64 number) (nearest number) := by
  rcases Nat.eq_zero_or_pos number with rfl | positive
  · rw [Nat.cast_zero, nearest_zero]
    exact .zero
  · have inRange := inRange_natCast small
    have long : 2 ^ 52 ≤ number * 2 ^ (52 - number.log2) := by
      calc 2 ^ 52 ≤ 2 ^ (number.log2 + (52 - number.log2)) :=
            Nat.pow_le_pow_right two_pos (by omega)
        _ = 2 ^ number.log2 * 2 ^ (52 - number.log2) := pow_add ..
        _ ≤ number * 2 ^ (52 - number.log2) :=
            Nat.mul_le_mul_right _ (Nat.log2_self_le positive.ne')
    rw [ofNat_eq positive]
    generalize 52 - number.log2 = count at long ⊢
    have isValue : (number : ℚ) = (number * 2 ^ count : ℕ) * 2 ^ (-count : ℤ) := by
      push_cast
      rw [zpow_neg, zpow_natCast]
      field_simp
    rw [isValue] at inRange ⊢
    exact denotes_rounded (approximates_exact _) long inRange

/-- A cast to an integer cuts the fraction off. -/
theorem Denotes.toInt_eq {number : UnpackedFloat} (denotes : Denotes number value)
    (lowest highest : ℤ) : number.toInt lowest highest = ⌊value⌋ := by
  cases denotes with
  | zero => simp [UnpackedFloat.toInt]
  | @finite mantissa exponent positive long short =>
      have isValue : (mantissa * 2 ^ exponent : ℚ) =
          (mantissa <<< (exponent - 0).toNat : ℕ) /
            2 ^ (0 - (exponent - (exponent - 0).toNat)).toNat := by
        obtain ⟨places, rfl | rfl⟩ := exponent.eq_nat_or_neg
        · have left : ((places : ℤ) - 0).toNat = places := by omega
          have right : (0 - ((places : ℤ) - places)).toNat = 0 := by omega
          rw [left, right, Nat.shiftLeft_eq, pow_zero, div_one, zpow_natCast]
          push_cast
          rfl
        · have left : (-(places : ℤ) - 0).toNat = 0 := by omega
          have right : (0 - (-(places : ℤ) - (0 : ℕ))).toNat = places := by omega
          rw [left, right, Nat.shiftLeft_zero, zpow_neg, zpow_natCast, div_eq_mul_inv]
      have shifted := (approximates_exact (mantissa <<< (exponent - 0).toNat)).shiftRight
        (0 - (exponent - (exponent - 0).toNat)).toNat
      rw [isValue, shifted.floor_eq]
      rfl

end Operations

/-! ## Floats -/

/-- A float is a value. -/
def Stands (number : Float) (value : ℚ) : Prop := Denotes number.toModel.unpack value

section Stands

variable {left right value : ℚ} {first second number : Float}

theorem Stands.mul (isLeft : Stands first left) (isRight : Stands second right)
    (inRange : InRange (left * right)) : Stands (first * second) (nearest (left * right)) := by
  have product := Denotes.mul isLeft isRight inRange
  show Denotes (Float.Model.pack _).unpack _
  rw [product.unpack_pack inRange.nearest]
  exact product

theorem Stands.div (isLeft : Stands first left) (isRight : Stands second right)
    (nonzero : right ≠ 0) (inRange : InRange (left / right)) :
    Stands (first / second) (nearest (left / right)) := by
  have quotient := Denotes.div isLeft isRight nonzero inRange
  show Denotes (Float.Model.pack _).unpack _
  rw [quotient.unpack_pack inRange.nearest]
  exact quotient

theorem stands_natCast {whole : ℕ} (small : whole ≤ 2 ^ 64) :
    Stands (.ofModel (.ofNat whole)) (nearest whole) := by
  have denotes := denotes_ofNat small
  show Denotes (Float.Model.pack _).unpack _
  rw [denotes.unpack_pack (inRange_natCast small).nearest]
  exact denotes

theorem stands_uint64 (word : UInt64) : Stands word.toFloat (nearest word.toNat) :=
  stands_natCast word.toNat_lt.le

theorem stands_uint32 (word : UInt32) : Stands word.toFloat (nearest word.toNat) :=
  stands_natCast (word.toNat_lt.le.trans (by decide))

/-- The cast to a word cuts the fraction off and saturates. -/
theorem Stands.toNat_toUInt32 (stands : Stands number value) :
    number.toUInt32.toNat = min ⌊value⌋₊ (2 ^ 32 - 1) := by
  have whole := Denotes.toInt_eq stands 0 (UInt32.size - 1)
  show (UInt32.ofNatClamp (number.toModel.unpack.toInt 0 (UInt32.size - 1)).toNat).toNat = _
  rw [whole]
  have isSize : UInt32.size = 2 ^ 32 := rfl
  have isFloor : ⌊value⌋.toNat = ⌊value⌋₊ := Int.floor_toNat value
  unfold UInt32.ofNatClamp
  split
  · rw [UInt32.toNat_ofNatLT]
    omega
  · rw [UInt32.toNat_ofNatLT]
    omega

end Stands

end TriAI.Library.Binary64
