/-
What lies around a number is read as the number. Halfway to the neighbours on either side the
interval of a number ends, and whatever decimal lies in the interval is rounded to the number
itself; the ends belong to it where the significand is even.
-/

import Mathlib.Algebra.Order.Archimedean.Basic
import Mathlib.Algebra.Order.Field.Power
import Mathlib.Data.Nat.Digits.Defs
import Mathlib.Data.Rat.Cast.Order
import Mathlib.Tactic.FieldSimp
import Mathlib.Tactic.Linarith
import Mathlib.Tactic.NormNum
import Mathlib.Tactic.Positivity
import Mathlib.Tactic.Ring
import Metering.Numeral.Rounding
import Metering.Numeral.Shortest

namespace Metering

/-! ### Fractions -/

/-- The number that a decimal means. -/
def Decimal.toRat (decimal : Decimal) : ℚ := decimal.digits * 10 ^ decimal.exponent

namespace Decimal

theorem lt_pow_digitCount (number : Nat) : number < 10 ^ digitCount number :=
  (Nat.length_toDigits_le_iff (by decide) (List.length_pos_iff.mpr Nat.toDigits_ne_nil)).mp le_rfl

theorem pow_digitCount_le {number : Nat} (notZero : number ≠ 0) :
    10 ^ (digitCount number - 1) ≤ number := by
  by_contra less
  rw [not_le] at less
  by_cases single : digitCount number - 1 = 0
  · rw [single] at less
    omega
  · have := (Nat.length_toDigits_le_iff (by decide) (Nat.pos_of_ne_zero single)).mpr less
    rw [digitCount] at single this
    omega

/-- The power of ten above a decimal. -/
theorem toRat_lt (decimal : Decimal) :
    decimal.toRat < 10 ^ (decimal.exponent + digitCount decimal.digits) := by
  have less : (decimal.digits : ℚ) < 10 ^ digitCount decimal.digits := by
    exact_mod_cast lt_pow_digitCount decimal.digits
  rw [toRat, add_comm, zpow_add₀ (by norm_num), zpow_natCast]
  exact mul_lt_mul_of_pos_right less (by positivity)

/-- The power of ten that a decimal reaches. -/
theorem le_toRat {decimal : Decimal} (notZero : decimal.digits ≠ 0) :
    10 ^ (decimal.exponent + digitCount decimal.digits - 1) ≤ decimal.toRat := by
  have some : 0 < digitCount decimal.digits := List.length_pos_iff.mpr Nat.toDigits_ne_nil
  have reached : (10 : ℚ) ^ (digitCount decimal.digits - 1) ≤ decimal.digits := by
    exact_mod_cast pow_digitCount_le notZero
  have isPower : decimal.exponent + digitCount decimal.digits - 1 =
      ((digitCount decimal.digits - 1 : Nat) : Int) + decimal.exponent := by omega
  rw [toRat, isPower, zpow_add₀ (by norm_num), zpow_natCast]
  exact mul_le_mul_of_nonneg_right reached (by positivity)

end Decimal

/-- That a value lies between two ends, which count or not. -/
def Enclosed (closed : Bool) (low high value : ℚ) : Prop :=
  if closed then low ≤ value ∧ value ≤ high else low < value ∧ value < high

namespace Enclosed

variable {closed : Bool} {low high value : ℚ}

theorem of_lt (above : low < value) (below : value < high) : Enclosed closed low high value := by
  cases closed
  · exact ⟨above, below⟩
  · exact ⟨above.le, below.le⟩

theorem low_le (enclosed : Enclosed closed low high value) : low ≤ value := by
  cases closed
  · exact enclosed.1.le
  · exact enclosed.1

theorem le_high (enclosed : Enclosed closed low high value) : value ≤ high := by
  cases closed
  · exact enclosed.2.le
  · exact enclosed.2

theorem mono {lower higher : ℚ} (enclosed : Enclosed closed low high value) (below : lower ≤ low)
    (above : high ≤ higher) : Enclosed closed lower higher value := by
  cases closed
  · exact ⟨below.trans_lt enclosed.1, enclosed.2.trans_le above⟩
  · exact ⟨below.trans enclosed.1, enclosed.2.trans above⟩

theorem mul_iff {factor : ℚ} (positive : 0 < factor) :
    Enclosed closed (low * factor) (high * factor) (value * factor) ↔
      Enclosed closed low high value := by
  cases closed
  · exact and_congr (mul_lt_mul_iff_left₀ positive) (mul_lt_mul_iff_left₀ positive)
  · exact and_congr (mul_le_mul_iff_left₀ positive) (mul_le_mul_iff_left₀ positive)

end Enclosed

/-- That a number lies in an interval. -/
def Decimal.Interval.Contains (interval : Decimal.Interval) (value : ℚ) : Prop :=
  Enclosed interval.closed interval.low interval.high (value * interval.denominator)

theorem zpow_eq_div {base : ℚ} (power : ℤ) :
    base ^ power = base ^ power.toNat / base ^ (-power).toNat := by
  cases power with
  | ofNat count => simp
  | negSucc count => simp [zpow_negSucc]

/-! ### Rounding to a whole number -/

/-- A fraction is its whole part and a rest, and where it is rounded to depends on whether the
rest is a half, or on which side of a half it is. -/
theorem exists_rest (numerator : Nat) {denominator : Nat} (positive : 0 < denominator) :
    ∃ rest : ℚ, (numerator / denominator : ℚ) = (numerator / denominator : Nat) + rest ∧
      0 ≤ rest ∧ rest < 1 ∧
      (2 * (numerator % denominator) < denominator ↔ rest < 1 / 2) ∧
      (denominator < 2 * (numerator % denominator) ↔ 1 / 2 < rest) := by
  have positiveRat : (0 : ℚ) < denominator := by exact_mod_cast positive
  have split : (denominator * (numerator / denominator : Nat) +
      (numerator % denominator : Nat) : ℚ) = numerator := by
    exact_mod_cast Nat.div_add_mod numerator denominator
  refine ⟨(numerator % denominator : Nat) / denominator, ?_, by positivity, ?_, ?_, ?_⟩
  · rw [← split]
    field_simp
  · rw [div_lt_one positiveRat]
    exact_mod_cast Nat.mod_lt numerator positive
  · rw [div_lt_div_iff₀ positiveRat two_pos, one_mul, mul_comm]
    norm_cast
  · rw [div_lt_div_iff₀ two_pos positiveRat, one_mul, mul_comm]
    norm_cast

/-- A fraction within half of a whole number is rounded to it, and one half away where the whole
number is even. -/
theorem roundHalfEven_eq {numerator denominator whole : Nat} (positive : 0 < denominator)
    (near : Enclosed (whole % 2 = 0) (whole - 1 / 2) (whole + 1 / 2)
      (numerator / denominator : ℚ)) :
    roundHalfEven numerator denominator = whole := by
  obtain ⟨rest, isSum, nonneg, small, isBelow, isAbove⟩ := exists_rest numerator positive
  have low := near.low_le
  have high := near.le_high
  rw [isSum] at low high near
  rw [roundHalfEven]
  generalize numerator / denominator = quotient at low high near
  split
  · next below =>
    have below := isBelow.mp below
    have notAbove : quotient < whole + 1 := by
      exact_mod_cast (by linarith : (quotient : ℚ) < whole + 1)
    have notBelow : whole < quotient + 1 := by
      exact_mod_cast (by linarith : (whole : ℚ) < quotient + 1)
    omega
  split
  · next above =>
    have above := isAbove.mp above
    have notAbove : quotient < whole := by
      exact_mod_cast (by linarith : (quotient : ℚ) < whole)
    have notBelow : whole < quotient + 2 := by
      exact_mod_cast (by linarith : (whole : ℚ) < quotient + 2)
    omega
  · next notBelow notAbove =>
    have half : rest = 1 / 2 :=
      le_antisymm (not_lt.mp (mt isAbove.mpr notAbove)) (not_lt.mp (mt isBelow.mpr notBelow))
    rw [half] at low high near
    have quotientLe : quotient ≤ whole := by
      exact_mod_cast (by linarith : (quotient : ℚ) ≤ whole)
    have wholeLe : whole ≤ quotient + 1 := by
      exact_mod_cast (by linarith : (whole : ℚ) ≤ quotient + 1)
    have even : whole % 2 = 0 := by
      by_contra odd
      rw [decide_eq_false odd] at near
      have above : quotient < whole := by
        exact_mod_cast (by linarith [near.2] : (quotient : ℚ) < whole)
      have below : whole < quotient + 1 := by
        exact_mod_cast (by linarith [near.1] : (whole : ℚ) < quotient + 1)
      omega
    omega

namespace Binary64

/-! ### The parts of a number -/

variable {number : Binary64}

/-- The magnitude of a number is made of its scale and its significand. -/
theorem magnitude_eq (number : Binary64) :
    number.bits.toNat % 2 ^ 63 = (number.scale + 1074).toNat * 2 ^ 52 + number.significand := by
  by_cases field : number.exponentField = 0
  · rw [scale, significand, if_pos field, if_pos field]
    simp only [exponentField, fraction, Nat.pow_eq] at field ⊢
    omega
  · rw [scale, significand, if_neg field, if_neg field]
    simp only [exponentField, fraction, Nat.pow_eq] at field ⊢
    omega

theorem magnitude_lt (finite : number.isFinite = true) :
    number.bits.toNat % 2 ^ 63 < infinityBits := by
  simp only [isFinite, exponentField, Nat.pow_eq, bne_iff_ne] at finite
  simp only [infinityBits, Nat.pow_eq]
  omega

theorem ofSigned_magnitude (number : Binary64) :
    ofSigned number.negative (number.bits.toNat % 2 ^ 63) = number := by
  have bound := number.bits.toNat_lt
  have isBits : (if number.negative then Nat.pow 2 63 + number.bits.toNat % 2 ^ 63
      else number.bits.toNat % 2 ^ 63) = number.bits.toNat := by
    simp only [negative, Nat.pow_eq, decide_eq_true_eq]
    split <;> omega
  rw [ofSigned, isBits, UInt64.ofNat_toNat]

theorem significand_lt (number : Binary64) : number.significand < 2 ^ 53 := by
  simp only [significand, fraction, Nat.pow_eq]
  split <;> omega

theorem significand_pos (notZero : number.isZero = false) : 0 < number.significand := by
  simp only [isZero, Nat.pow_eq, beq_eq_false_iff_ne] at notZero
  by_cases field : number.exponentField = 0
  · rw [significand, if_pos field]
    simp only [exponentField, fraction, Nat.pow_eq] at field ⊢
    omega
  · rw [significand, if_neg field]
    exact Nat.add_pos_right _ (by decide)

theorem le_scale (number : Binary64) : -1074 ≤ number.scale := by
  rw [scale]
  split <;> omega

theorem scale_le (finite : number.isFinite = true) : number.scale ≤ 971 := by
  have field : number.exponentField < 2 ^ 11 := by
    rw [exponentField]
    exact Nat.mod_lt _ (by decide)
  simp only [isFinite, Nat.pow_eq, bne_iff_ne] at finite
  rw [scale]
  split <;> omega

/-- How far the interval of a number reaches down, in quarters of the last place. -/
def reachBelow (number : Binary64) : Nat :=
  if number.fraction = 0 ∧ 1 < number.exponentField then 1 else 2

/-- Where the interval reaches down less far, the number is a power of two. -/
theorem reachBelow_cases (number : Binary64) :
    (number.reachBelow = 1 ∧ number.significand = 2 ^ 52 ∧ -1074 < number.scale) ∨
      (number.reachBelow = 2 ∧ (2 ^ 52 < number.significand ∨ number.scale = -1074)) := by
  simp only [reachBelow, significand, scale, Nat.pow_eq]
  split
  · next narrow =>
    left
    rw [if_neg (by omega), if_neg (by omega)]
    omega
  · next wide =>
    right
    split <;> omega

theorem reachBelow_le (number : Binary64) : (number.reachBelow / 4 : ℚ) ≤ 1 / 2 := by
  rcases number.reachBelow_cases with ⟨isReach, _⟩ | ⟨isReach, _⟩ <;> rw [isReach] <;> norm_num

theorem le_reachBelow (number : Binary64) : (1 / 4 : ℚ) ≤ number.reachBelow / 4 := by
  rcases number.reachBelow_cases with ⟨isReach, _⟩ | ⟨isReach, _⟩ <;> rw [isReach] <;> norm_num

/-! ### The scale of a fraction -/

variable {numerator denominator : Nat}

/-- Of two scales between which a number lies, the one of the lower end is not greater. -/
theorem scale_le_scale {value : ℚ} {first second : Int} (low : 2 ^ 52 * 2 ^ first ≤ value)
    (high : value < 2 ^ 53 * 2 ^ second) : first ≤ second := by
  have less : (2 : ℚ) ^ (52 + first) < 2 ^ (53 + second) := by
    rw [zpow_add₀ two_ne_zero, zpow_add₀ two_ne_zero]
    exact_mod_cast low.trans_lt high
  have := (zpow_lt_zpow_iff_right₀ one_lt_two).mp less
  omega

/-- Every positive number has a scale. -/
theorem exists_scale {value : ℚ} (positive : 0 < value) :
    ∃ scale : Int, 2 ^ 52 * 2 ^ scale ≤ value ∧ value < 2 ^ 53 * 2 ^ scale := by
  obtain ⟨power, low, high⟩ := exists_mem_Ico_zpow positive one_lt_two
  refine ⟨power - 52, le_of_eq_of_le ?_ low, high.trans_eq ?_⟩
  · rw [← zpow_natCast, ← zpow_add₀ two_ne_zero]
    congr 1
    omega
  · rw [← zpow_natCast, ← zpow_add₀ two_ne_zero]
    congr 1
    omega

theorem log2_bounds (above : 0 < numerator) (below : 0 < denominator) :
    (2 : ℚ) ^ ((numerator.log2 : Int) - denominator.log2 - 1) < numerator / denominator ∧
      (numerator / denominator : ℚ) < 2 ^ ((numerator.log2 : Int) - denominator.log2 + 1) := by
  have numeratorLow : (2 : ℚ) ^ numerator.log2 ≤ numerator := by
    exact_mod_cast Nat.log2_self_le above.ne'
  have numeratorHigh : (numerator : ℚ) < 2 ^ (numerator.log2 + 1) := by
    exact_mod_cast Nat.lt_log2_self
  have denominatorLow : (2 : ℚ) ^ denominator.log2 ≤ denominator := by
    exact_mod_cast Nat.log2_self_le below.ne'
  have denominatorHigh : (denominator : ℚ) < 2 ^ (denominator.log2 + 1) := by
    exact_mod_cast Nat.lt_log2_self
  constructor
  · have isQuotient : (2 : ℚ) ^ ((numerator.log2 : Int) - denominator.log2 - 1) =
        2 ^ numerator.log2 / 2 ^ (denominator.log2 + 1) := by
      rw [← zpow_natCast, ← zpow_natCast, ← zpow_sub₀ two_ne_zero]
      push_cast
      ring_nf
    rw [isQuotient]
    exact div_lt_div₀' numeratorLow denominatorHigh (by positivity) (by positivity)
  · have isQuotient : (2 : ℚ) ^ ((numerator.log2 : Int) - denominator.log2 + 1) =
        2 ^ (numerator.log2 + 1) / 2 ^ denominator.log2 := by
      rw [← zpow_natCast, ← zpow_natCast, ← zpow_sub₀ two_ne_zero]
      push_cast
      ring_nf
    rw [isQuotient]
    exact div_lt_div₀ numeratorHigh denominatorLow (by positivity) (by positivity)

/-- What a fraction is over a power of two, as it is computed. -/
theorem scaled_eq (numerator denominator : Nat) (scale : Int) :
    ((numerator * Nat.pow 2 (-scale).toNat : Nat) : ℚ) /
      (denominator * Nat.pow 2 scale.toNat : Nat) = numerator / denominator / 2 ^ scale := by
  rw [zpow_eq_div scale]
  simp only [Nat.pow_eq]
  push_cast
  field_simp

theorem fits_iff (below : 0 < denominator) (scale : Int) :
    Nat.pow 2 52 * (denominator * Nat.pow 2 scale.toNat) ≤ numerator * Nat.pow 2 (-scale).toNat ↔
      (2 : ℚ) ^ 52 * 2 ^ scale ≤ numerator / denominator := by
  have positive : 0 < denominator * Nat.pow 2 scale.toNat :=
    Nat.mul_pos below (Nat.pow_pos (by decide))
  have positiveRat : (0 : ℚ) < (denominator * Nat.pow 2 scale.toNat : Nat) := by
    exact_mod_cast positive
  rw [← le_div_iff₀ (zpow_pos two_pos scale), ← scaled_eq, le_div_iff₀ positiveRat]
  simp only [Nat.pow_eq]
  norm_cast

/-- The number nearest to a fraction, once its scale is known. -/
theorem nearestMagnitude_eq {scale : Int} (above : 0 < numerator) (below : 0 < denominator)
    (low : (2 : ℚ) ^ 52 * 2 ^ scale ≤ numerator / denominator)
    (high : (numerator / denominator : ℚ) < 2 ^ 53 * 2 ^ scale) :
    nearestMagnitude numerator denominator =
      min infinityBits ((max (-1074) scale + 1074).toNat * 2 ^ 52 +
        roundHalfEven (numerator * Nat.pow 2 (-max (-1074) scale).toNat)
          (denominator * Nat.pow 2 (max (-1074) scale).toNat)) := by
  have bounds := log2_bounds above below
  have chosen : (if Nat.pow 2 52 * (denominator *
        Nat.pow 2 ((numerator.log2 : Int) - denominator.log2 - 52).toNat) ≤
          numerator * Nat.pow 2 (-((numerator.log2 : Int) - denominator.log2 - 52)).toNat
      then (numerator.log2 : Int) - denominator.log2 - 52
      else (numerator.log2 : Int) - denominator.log2 - 52 - 1) = scale := by
    generalize isEstimate : (numerator.log2 : Int) - denominator.log2 - 52 = estimate
    have upper : (numerator / denominator : ℚ) < 2 ^ 53 * 2 ^ estimate := by
      refine bounds.2.trans_eq ?_
      rw [← zpow_natCast, ← zpow_add₀ two_ne_zero]
      congr 1
      omega
    have lower : (2 : ℚ) ^ 52 * 2 ^ (estimate - 1) ≤ numerator / denominator := by
      refine le_of_eq_of_le ?_ bounds.1.le
      rw [← zpow_natCast, ← zpow_add₀ two_ne_zero]
      congr 1
      omega
    split
    · next fits =>
      exact le_antisymm (scale_le_scale ((fits_iff below estimate).mp fits) high)
        (scale_le_scale low upper)
    · next misses =>
      refine le_antisymm (scale_le_scale lower high) ?_
      have smaller : (numerator / denominator : ℚ) < 2 ^ 53 * 2 ^ (estimate - 1) := by
        rw [fits_iff below estimate, not_le] at misses
        refine misses.trans_eq ?_
        rw [zpow_sub_one₀ two_ne_zero]
        ring
      exact scale_le_scale low smaller
  simp only [nearestMagnitude, decide_eq_true_eq, chosen]
  rfl

/-- The number nearest to a fraction, once the whole number is known to which the fraction is
rounded on its scale. -/
theorem nearestMagnitude_of_enclosed {scale : Int} {whole : Nat} (above : 0 < numerator)
    (below : 0 < denominator)
    (low : (2 : ℚ) ^ 52 * 2 ^ scale ≤ numerator / denominator)
    (high : (numerator / denominator : ℚ) < 2 ^ 53 * 2 ^ scale)
    (near : Enclosed (whole % 2 = 0) ((whole - 1 / 2) * 2 ^ max (-1074) scale)
      ((whole + 1 / 2) * 2 ^ max (-1074) scale) (numerator / denominator)) :
    nearestMagnitude numerator denominator =
      min infinityBits ((max (-1074) scale + 1074).toNat * 2 ^ 52 + whole) := by
  rw [nearestMagnitude_eq above below low high]
  congr 2
  refine roundHalfEven_eq (Nat.mul_pos below (Nat.pow_pos (by decide))) ?_
  rw [scaled_eq]
  refine (Enclosed.mul_iff (zpow_pos two_pos (max (-1074) scale))).mp ?_
  rwa [div_mul_cancel₀ _ (zpow_ne_zero _ two_ne_zero)]

/-! ### The interval of a number -/

/-- Quarters of the last place, as they are counted in the interval. -/
theorem quarters_eq (number : Binary64) (quarters : ℚ) :
    quarters * 2 ^ (number.scale - 2).toNat / 2 ^ (-(number.scale - 2)).toNat =
      quarters / 4 * 2 ^ number.scale := by
  have split : (2 : ℚ) ^ number.scale = 2 ^ (number.scale - 2) * 4 := by
    rw [zpow_sub₀ two_ne_zero]
    norm_num
  rw [split, zpow_eq_div (number.scale - 2)]
  ring

theorem interval_denominator_pos (number : Binary64) : 0 < number.interval.denominator :=
  Nat.pow_pos (by decide)

theorem interval_value (number : Binary64) :
    (number.interval.value / number.interval.denominator : ℚ) =
      number.significand * 2 ^ number.scale := by
  simp only [interval, Nat.pow_eq]
  push_cast
  rw [quarters_eq, mul_div_cancel_left₀ _ four_ne_zero]

theorem interval_low (notZero : number.isZero = false) :
    (number.interval.low / number.interval.denominator : ℚ) =
      (number.significand - number.reachBelow / 4) * 2 ^ number.scale := by
  have some := significand_pos notZero
  have isLow : (number.interval.low : ℚ) =
      (4 * number.significand - number.reachBelow) * 2 ^ (number.scale - 2).toNat := by
    simp only [interval, reachBelow, Nat.pow_eq]
    split
    · push_cast [Nat.cast_sub (show 1 ≤ 4 * number.significand by omega)]
      rfl
    · push_cast [Nat.cast_sub (show 2 ≤ 4 * number.significand by omega)]
      rfl
  rw [isLow]
  simp only [interval, Nat.pow_eq]
  push_cast
  rw [quarters_eq, sub_div, mul_div_cancel_left₀ _ four_ne_zero]

theorem interval_high (number : Binary64) :
    (number.interval.high / number.interval.denominator : ℚ) =
      (number.significand + 1 / 2) * 2 ^ number.scale := by
  simp only [interval, Nat.pow_eq]
  push_cast
  rw [quarters_eq, add_div, mul_div_cancel_left₀ _ four_ne_zero]
  norm_num

theorem contains_iff (notZero : number.isZero = false) {value : ℚ} :
    number.interval.Contains value ↔
      Enclosed (number.significand % 2 = 0)
        ((number.significand - number.reachBelow / 4) * 2 ^ number.scale)
        ((number.significand + 1 / 2) * 2 ^ number.scale) value := by
  have positive : (0 : ℚ) < number.interval.denominator := by
    exact_mod_cast number.interval_denominator_pos
  rw [← interval_low notZero, ← interval_high, ← Enclosed.mul_iff positive,
    div_mul_cancel₀ _ positive.ne', div_mul_cancel₀ _ positive.ne']
  rfl

/-- What lies in the interval of a number is less than half of a last place away from it. -/
theorem near_of_contains (notZero : number.isZero = false) {value : ℚ}
    (contains : number.interval.Contains value) :
    Enclosed (number.significand % 2 = 0) ((number.significand - 1 / 2) * 2 ^ number.scale)
        ((number.significand + 1 / 2) * 2 ^ number.scale) value ∧
      value < 2 ^ 53 * 2 ^ number.scale := by
  rw [contains_iff notZero] at contains
  have power : (0 : ℚ) < 2 ^ number.scale := zpow_pos two_pos _
  have small : (number.significand + 1 : ℚ) ≤ 2 ^ 53 := by exact_mod_cast number.significand_lt
  have reach := number.reachBelow_le
  refine ⟨contains.mono (mul_le_mul_of_nonneg_right (by linarith) power.le) le_rfl, ?_⟩
  exact contains.le_high.trans_lt (mul_lt_mul_of_pos_right (by linarith) power)

theorem min_magnitude (finite : number.isFinite = true) :
    min infinityBits ((number.scale + 1074).toNat * 2 ^ 52 + number.significand) =
      number.bits.toNat % 2 ^ 63 := by
  rw [← magnitude_eq]
  exact min_eq_right (magnitude_lt finite).le

/-- What lies just below a power of two is rounded on a smaller scale, and the significand that
comes out has a bit too many; the carry makes it the power of two. -/
theorem nearestMagnitude_below_power (finite : number.isFinite = true)
    (isPower : number.significand = 2 ^ 52) (notLeast : -1074 < number.scale)
    (above : 0 < numerator) (below : 0 < denominator)
    (low : ((2 ^ 52 - 1 / 4) * 2 ^ number.scale : ℚ) ≤ numerator / denominator)
    (high : (numerator / denominator : ℚ) < 2 ^ 52 * 2 ^ number.scale) :
    nearestMagnitude numerator denominator = number.bits.toNat % 2 ^ 63 := by
  have half : (2 : ℚ) ^ number.scale = 2 ^ (number.scale - 1) * 2 := by
    rw [zpow_sub_one₀ two_ne_zero]
    field_simp
  have isScale : max (-1074) (number.scale - 1) = number.scale - 1 := max_eq_right (by omega)
  have halfPower : (0 : ℚ) < 2 ^ (number.scale - 1) := zpow_pos two_pos _
  rw [half] at low high
  have even : Enclosed (2 ^ 53 % 2 = 0) (((2 ^ 53 : Nat) - 1 / 2) * 2 ^ (number.scale - 1))
      (((2 ^ 53 : Nat) + 1 / 2) * 2 ^ (number.scale - 1)) (numerator / denominator : ℚ) := by
    push_cast
    exact ⟨by linarith, by linarith⟩
  have carried : (number.scale - 1 + 1074).toNat * 2 ^ 52 + 2 ^ 53 =
      (number.scale + 1074).toNat * 2 ^ 52 + 2 ^ 52 := by omega
  rw [nearestMagnitude_of_enclosed above below (by linarith) (by linarith) (isScale.symm ▸ even),
    isScale, carried, ← min_magnitude finite, isPower]

/-- Every fraction in the interval of a number is rounded to the number. -/
theorem nearestMagnitude_of_contains (finite : number.isFinite = true)
    (notZero : number.isZero = false) (above : 0 < numerator) (below : 0 < denominator)
    (contains : number.interval.Contains (numerator / denominator)) :
    nearestMagnitude numerator denominator = number.bits.toNat % 2 ^ 63 := by
  obtain ⟨near, high⟩ := near_of_contains notZero contains
  have positive : (0 : ℚ) < numerator / denominator :=
    div_pos (by exact_mod_cast above) (by exact_mod_cast below)
  obtain ⟨scale, isLow, isHigh⟩ := exists_scale positive
  have notLarger : scale ≤ number.scale := scale_le_scale isLow high
  -- The scale that is chosen is that of the number, unless the fraction lies below a power of two.
  by_cases isScale : max (-1074) scale = number.scale
  · rw [nearestMagnitude_of_enclosed above below isLow isHigh (isScale.symm ▸ near), isScale,
      min_magnitude finite]
  have smaller : (numerator / denominator : ℚ) < 2 ^ 52 * 2 ^ number.scale := by
    by_contra notSmaller
    have := scale_le_scale (not_lt.mp notSmaller) isHigh
    have := number.le_scale
    omega
  have low := ((contains_iff notZero).mp contains).low_le
  rcases number.reachBelow_cases with ⟨isReach, isPower, notLeast⟩ | ⟨isReach, large | least⟩
  · rw [isPower, isReach] at low
    push_cast at low
    exact nearestMagnitude_below_power finite isPower notLeast above below low smaller
  · have larger : (2 ^ 52 + 1 : ℚ) ≤ number.significand := by exact_mod_cast large
    have power : (0 : ℚ) < 2 ^ number.scale := zpow_pos two_pos _
    rw [isReach] at low
    nlinarith
  · omega

/-- The numbers that are rounded to a finite number lie in the range of finite numbers. -/
theorem bounds_of_contains (finite : number.isFinite = true) (notZero : number.isZero = false)
    {value : ℚ} (contains : number.interval.Contains value) :
    (2 : ℚ) ^ (-1075 : Int) ≤ value ∧ value < 2 ^ (1024 : Int) := by
  rw [contains_iff notZero] at contains
  have some : (1 : ℚ) ≤ number.significand := by exact_mod_cast significand_pos notZero
  have small : (number.significand + 1 : ℚ) ≤ 2 ^ 53 := by exact_mod_cast number.significand_lt
  have reach := number.reachBelow_le
  have power : (0 : ℚ) < 2 ^ number.scale := zpow_pos two_pos _
  have least : (2 : ℚ) ^ (-1074 : Int) ≤ 2 ^ number.scale :=
    zpow_le_zpow_right₀ one_le_two number.le_scale
  have greatest : (2 : ℚ) ^ number.scale ≤ 2 ^ (971 : Int) :=
    zpow_le_zpow_right₀ one_le_two (scale_le finite)
  constructor
  · calc (2 : ℚ) ^ (-1075 : Int) = 1 / 2 * 2 ^ (-1074 : Int) := by
          rw [show (-1075 : Int) = -1074 - 1 by norm_num, zpow_sub_one₀ two_ne_zero]
          ring
      _ ≤ (number.significand - number.reachBelow / 4) * 2 ^ number.scale :=
          mul_le_mul (by linarith) least (by positivity) (by linarith)
      _ ≤ value := contains.low_le
  · calc value ≤ (number.significand + 1 / 2) * 2 ^ number.scale := contains.le_high
      _ < 2 ^ 53 * 2 ^ number.scale := mul_lt_mul_of_pos_right (by linarith) power
      _ ≤ 2 ^ 53 * 2 ^ (971 : Int) := mul_le_mul_of_nonneg_left greatest (by positivity)
      _ = 2 ^ (1024 : Int) := by
          rw [← zpow_natCast, ← zpow_add₀ two_ne_zero]
          norm_num

/-- The powers of ten between which what is rounded to a finite number lies. -/
theorem ten_bounds_of_contains (finite : number.isFinite = true) (notZero : number.isZero = false)
    {value : ℚ} (contains : number.interval.Contains value) :
    (10 : ℚ) ^ (-359 : Int) ≤ value ∧ value < 10 ^ (342 : Int) := by
  obtain ⟨low, high⟩ := bounds_of_contains finite notZero contains
  have eight (power : Nat) : (2 : ℚ) ^ (3 * power : Int) ≤ 10 ^ (power : Int) := by
    rw [zpow_mul, zpow_natCast, zpow_natCast]
    exact pow_le_pow_left₀ (by norm_num) (by norm_num) power
  constructor
  · refine le_trans ?_ low
    have inverse := inv_anti₀ (zpow_pos two_pos _) (eight 359)
    rw [← zpow_neg, ← zpow_neg] at inverse
    exact inverse.trans (zpow_le_zpow_right₀ one_le_two (by norm_num))
  · refine high.trans_le (le_trans ?_ (eight 342))
    exact zpow_le_zpow_right₀ one_le_two (by norm_num)

/-- The powers of ten of a decimal that is rounded to a finite number. -/
theorem top_of_contains (finite : number.isFinite = true) (notZero : number.isZero = false)
    {decimal : Decimal} (contains : number.interval.Contains decimal.toRat) :
    decimal.digits ≠ 0 ∧
      -359 < decimal.exponent + Decimal.digitCount decimal.digits ∧
      decimal.exponent + Decimal.digitCount decimal.digits ≤ 342 := by
  obtain ⟨low, high⟩ := ten_bounds_of_contains finite notZero contains
  have some : decimal.digits ≠ 0 := by
    intro zero
    rw [Decimal.toRat, zero, Nat.cast_zero, zero_mul] at low
    exact absurd low (not_le.mpr (zpow_pos (by norm_num) _))
  have notSmall : -359 < decimal.exponent + Decimal.digitCount decimal.digits :=
    (zpow_lt_zpow_iff_right₀ (by norm_num)).mp (low.trans_lt decimal.toRat_lt)
  have notLarge : decimal.exponent + Decimal.digitCount decimal.digits - 1 < 342 :=
    (zpow_lt_zpow_iff_right₀ (by norm_num)).mp ((Decimal.le_toRat some).trans_lt high)
  exact ⟨some, notSmall, by omega⟩

/-- Every decimal in the interval of a number is read as the number. -/
theorem ofDecimal_of_contains (finite : number.isFinite = true) (notZero : number.isZero = false)
    {decimal : Decimal} (contains : number.interval.Contains decimal.toRat) :
    ofDecimal decimal = number.bits.toNat % 2 ^ 63 := by
  obtain ⟨some, notSmall, notLarge⟩ := top_of_contains finite notZero contains
  have isFraction : ((decimal.digits * Nat.pow 10 decimal.exponent.toNat : Nat) : ℚ) /
      (Nat.pow 10 (-decimal.exponent).toNat : Nat) = decimal.toRat := by
    rw [Decimal.toRat, zpow_eq_div decimal.exponent]
    simp only [Nat.pow_eq]
    push_cast
    field_simp
  rw [ofDecimal, if_neg some]
  dsimp only
  rw [if_neg (by omega), if_neg (by omega)]
  exact nearestMagnitude_of_contains finite notZero
    (Nat.mul_pos (Nat.pos_of_ne_zero some) (Nat.pow_pos (by decide))) (Nat.pow_pos (by decide))
    (isFraction.symm ▸ contains)

end Binary64

end Metering
