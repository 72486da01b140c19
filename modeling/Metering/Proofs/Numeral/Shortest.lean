/-
The shortest decimal of a number lies in its interval. A grid is as fine as its exponent says,
and a whole number is taken from it only where it lies in the interval; where none of the grids
has such a number, the last of them is so fine that the number below is one. So what is written
for a number is read as the number, and it has few digits.
-/

import Mathlib.Data.Nat.Cast.Order.Field
import Metering.Proofs.Numeral.Rounding

namespace Metering

namespace Decimal

/-! ### The leading power of ten -/

/-- A fraction lies between its leading power of ten and the next. -/
theorem leadingPower_bounds {numerator denominator : Nat} (above : 0 < numerator)
    (below : 0 < denominator) :
    (10 : ℚ) ^ leadingPower numerator denominator ≤ numerator / denominator ∧
      (numerator / denominator : ℚ) < 10 ^ (leadingPower numerator denominator + 1) := by
  have numeratorPos : (0 : ℚ) < numerator := by exact_mod_cast above
  have denominatorPos : (0 : ℚ) < denominator := by exact_mod_cast below
  rw [leadingPower]
  split
  · next large =>
    have some : numerator / denominator ≠ 0 := (Nat.div_pos large below).ne'
    have low := Nat.mul_le_of_le_div _ _ _ (pow_digitCount_le some)
    have high := (Nat.div_lt_iff_lt_mul below).mp (lt_pow_digitCount (numerator / denominator))
    have digit : 0 < digitCount (numerator / denominator) :=
      List.length_pos_iff.mpr Nat.toDigits_ne_nil
    generalize digitCount (numerator / denominator) = count at low high digit
    have isCount : (count : Int) - 1 = (count - 1 : Nat) := by omega
    rw [sub_add_cancel, isCount, zpow_natCast, zpow_natCast, le_div_iff₀ denominatorPos,
      div_lt_iff₀ denominatorPos]
    exact ⟨by exact_mod_cast low, by exact_mod_cast high⟩
  · next small =>
    have some : (denominator - 1) / numerator ≠ 0 :=
      (Nat.div_pos (by omega) above).ne'
    have low := Nat.mul_le_of_le_div _ _ _ (pow_digitCount_le some)
    have high :=
      (Nat.div_lt_iff_lt_mul above).mp (lt_pow_digitCount ((denominator - 1) / numerator))
    have digit : 0 < digitCount ((denominator - 1) / numerator) :=
      List.length_pos_iff.mpr Nat.toDigits_ne_nil
    generalize digitCount ((denominator - 1) / numerator) = count at low high digit
    have isCount : -(count : Int) + 1 = -(count - 1 : Nat) := by omega
    rw [isCount, zpow_neg, zpow_neg, zpow_natCast, zpow_natCast, le_div_iff₀ denominatorPos,
      div_lt_iff₀ denominatorPos, inv_mul_le_iff₀ (by positivity), lt_inv_mul_iff₀ (by positivity)]
    constructor
    · exact_mod_cast (show denominator ≤ 10 ^ count * numerator by omega)
    · exact_mod_cast (show 10 ^ (count - 1) * numerator < denominator by omega)

/-! ### Grids -/

namespace Interval

variable (interval : Interval)

theorem onGrid_eq (exponent : Int) :
    interval.onGrid exponent =
      ⟨interval.value * 10 ^ (-exponent).toNat, interval.low * 10 ^ (-exponent).toNat,
        interval.high * 10 ^ (-exponent).toNat, interval.denominator * 10 ^ exponent.toNat,
        interval.closed⟩ := by
  rw [onGrid]
  split
  · next whole =>
    rw [show (-exponent).toNat = 0 by omega]
    simp only [pow_zero, mul_one]
    rfl
  · next fraction =>
    rw [show exponent.toNat = 0 by omega]
    simp only [pow_zero, mul_one]
    rfl

theorem holds_iff (candidate : Nat) :
    interval.holds candidate = true ↔
      Enclosed interval.closed interval.low interval.high
        (candidate * interval.denominator : Nat) := by
  rw [holds, Enclosed]
  split
  · simp only [Bool.and_eq_true, decide_eq_true_eq, Nat.cast_le]
  · simp only [Bool.and_eq_true, decide_eq_true_eq, Nat.cast_lt]

/-- What a grid holds lies in the interval. -/
theorem holds_onGrid (exponent : Int) (candidate : Nat) :
    (interval.onGrid exponent).holds candidate = true ↔
      interval.Contains (toRat ⟨candidate, exponent⟩) := by
  rw [holds_iff, onGrid_eq, Contains]
  have positive : (0 : ℚ) < 10 ^ (-exponent).toNat := by positivity
  refine Iff.trans (iff_of_eq ?_) (Enclosed.mul_iff positive)
  push_cast
  congr 1
  rw [toRat, zpow_eq_div exponent]
  field_simp

theorem holds_of_nearestWhole? {digits : Nat} (nearest : interval.nearestWhole? = some digits) :
    interval.holds digits = true := by
  unfold nearestWhole? at nearest
  dsimp only at nearest
  split at nearest
  · next below above =>
    rw [← Option.some.inj nearest]
    split
    · exact below
    · exact above
  · next below _ => rwa [← Option.some.inj nearest]
  · next _ above => rwa [← Option.some.inj nearest]
  · cases nearest

/-- The number below on a grid. -/
def belowOnGrid (exponent : Int) : Decimal :=
  ⟨(interval.onGrid exponent).value / (interval.onGrid exponent).denominator, exponent⟩

/-- Where the number below on the last grid lies in the interval, so does the first grid point,
and it lies on one of the grids. -/
theorem firstGridPoint_contains (finer : Nat) (exponent : Int)
    (last : interval.Contains (interval.belowOnGrid (exponent - finer)).toRat) :
    interval.Contains (interval.firstGridPoint finer exponent).toRat ∧
      exponent - finer ≤ (interval.firstGridPoint finer exponent).exponent := by
  induction finer generalizing exponent with
  | zero =>
    rw [Nat.cast_zero, sub_zero] at last ⊢
    exact ⟨last, le_rfl⟩
  | succ finer inductionHypothesis =>
    rw [firstGridPoint]
    split
    · next digits nearest =>
      exact ⟨(interval.holds_onGrid exponent digits).mp (holds_of_nearestWhole? _ nearest),
        by dsimp only; omega⟩
    · have sameLast : exponent - 1 - finer = exponent - (finer + 1 : Nat) := by omega
      obtain ⟨contains, onGrid⟩ := inductionHypothesis (exponent - 1) (sameLast ▸ last)
      exact ⟨contains, sameLast ▸ onGrid⟩

/-- The number below on a grid is less than a grid step away. -/
theorem belowOnGrid_bounds (positive : 0 < interval.denominator) (exponent : Int) :
    (interval.belowOnGrid exponent).toRat ≤ interval.value / interval.denominator ∧
      (interval.value / interval.denominator : ℚ) <
        (interval.belowOnGrid exponent).toRat + 10 ^ exponent := by
  have gridPositive : 0 < interval.denominator * 10 ^ exponent.toNat :=
    Nat.mul_pos positive (Nat.pow_pos (by decide))
  have step : (0 : ℚ) < 10 ^ exponent := by positivity
  have onGrid : (interval.value / interval.denominator : ℚ) =
      ((interval.value * 10 ^ (-exponent).toNat : Nat) : ℚ) /
        (interval.denominator * 10 ^ exponent.toNat : Nat) * 10 ^ exponent := by
    rw [zpow_eq_div exponent]
    push_cast
    have : (0 : ℚ) < interval.denominator := by exact_mod_cast positive
    field_simp
  rw [belowOnGrid, onGrid_eq, toRat, onGrid]
  dsimp only
  generalize interval.value * 10 ^ (-exponent).toNat = value
  generalize interval.denominator * 10 ^ exponent.toNat = denominator at gridPositive
  have gridRat : (0 : ℚ) < denominator := by exact_mod_cast gridPositive
  constructor
  · exact mul_le_mul_of_nonneg_right Nat.cast_div_le step.le
  · rw [← add_one_mul]
    refine mul_lt_mul_of_pos_right ?_ step
    rw [div_lt_iff₀ gridRat]
    exact_mod_cast Nat.lt_mul_of_div_lt (Nat.lt_succ_self (value / denominator)) gridPositive

end Interval

/-! ### Zeros at the end -/

theorem go_toRat (count digits : Nat) (exponent : Int) :
    (normalise.go count digits exponent).toRat = toRat ⟨digits, exponent⟩ := by
  induction count generalizing digits exponent with
  | zero => rfl
  | succ count inductionHypothesis =>
    rw [normalise.go]
    split
    · next ends =>
      rw [inductionHypothesis, toRat, toRat, zpow_add_one₀ (by norm_num), mul_comm (10 ^ exponent),
        ← mul_assoc]
      have isDigits : ((digits / 10 : Nat) : ℚ) * 10 = digits := by
        exact_mod_cast Nat.div_mul_cancel (Nat.dvd_of_mod_eq_zero ends)
      rw [isDigits]
    · rfl

theorem go_digits_le (count digits : Nat) (exponent : Int) :
    (normalise.go count digits exponent).digits ≤ digits := by
  induction count generalizing digits exponent with
  | zero => exact le_rfl
  | succ count inductionHypothesis =>
    rw [normalise.go]
    split
    · exact (inductionHypothesis _ _).trans (Nat.div_le_self _ _)
    · exact le_rfl

/-- Zeros at the end do not change what is meant. -/
theorem toRat_normalise (decimal : Decimal) : decimal.normalise.toRat = decimal.toRat := by
  rw [normalise]
  split
  · next zero => simp only [toRat, zero, Nat.cast_zero, zero_mul]
  · exact go_toRat _ _ _

theorem digitCount_mono {small large : Nat} (less : small ≤ large) :
    digitCount small ≤ digitCount large :=
  (Nat.length_toDigits_le_iff (by decide) (List.length_pos_iff.mpr Nat.toDigits_ne_nil)).mpr
    (less.trans_lt (lt_pow_digitCount large))

theorem digits_normalise_le (decimal : Decimal) : decimal.normalise.digits ≤ decimal.digits := by
  rw [normalise]
  split
  · exact Nat.zero_le _
  · exact go_digits_le _ _ _

end Decimal

namespace Binary64

variable {number : Binary64}

theorem interval_value_pos (notZero : number.isZero = false) : 0 < number.interval.value :=
  Nat.mul_pos (Nat.mul_pos (by decide) (significand_pos notZero)) (Nat.pow_pos (by decide))

/-- The grid seventeen steps below the leading power of ten is finer than the interval. -/
theorem contains_belowOnGrid (notZero : number.isZero = false) :
    number.interval.Contains (number.interval.belowOnGrid
      (Decimal.leadingPower number.interval.value number.interval.denominator - 17)).toRat := by
  have leading := (Decimal.leadingPower_bounds (interval_value_pos notZero)
    number.interval_denominator_pos).1
  generalize Decimal.leadingPower number.interval.value number.interval.denominator = power
    at leading
  obtain ⟨low, high⟩ := number.interval.belowOnGrid_bounds number.interval_denominator_pos
    (power - 17)
  rw [interval_value] at leading low high
  have isStep : (10 : ℚ) ^ power = 10 ^ (power - 17) * 10 ^ 17 := by
    rw [← zpow_natCast, ← zpow_add₀ (by norm_num)]
    norm_num
  have scale : (0 : ℚ) < 2 ^ number.scale := zpow_pos two_pos _
  have small : (number.significand : ℚ) < 2 ^ 53 := by exact_mod_cast number.significand_lt
  have reach := number.le_reachBelow
  have fine : (10 : ℚ) ^ (power - 17) < 1 / 4 * 2 ^ number.scale := by
    have bound := leading.trans_lt (mul_lt_mul_of_pos_right small scale)
    rw [isStep] at bound
    linarith
  have gap : 1 / 4 * (2 : ℚ) ^ number.scale ≤ number.reachBelow / 4 * 2 ^ number.scale :=
    mul_le_mul_of_nonneg_right reach scale.le
  rw [contains_iff notZero]
  refine Enclosed.of_lt ?_ ?_
  · linarith
  · linarith

/-- A number lies in its own interval. -/
theorem contains_self (notZero : number.isZero = false) :
    number.interval.Contains (number.interval.value / number.interval.denominator) := by
  have scale : (0 : ℚ) < 2 ^ number.scale := zpow_pos two_pos _
  have reach := number.le_reachBelow
  rw [contains_iff notZero, interval_value]
  exact Enclosed.of_lt (mul_lt_mul_of_pos_right (by linarith) scale)
    (mul_lt_mul_of_pos_right (by linarith) scale)

/-- The shortest decimal of a number lies in its interval. -/
theorem contains_shortest (notZero : number.isZero = false) :
    number.interval.Contains number.shortest.toRat := by
  rw [shortest, if_neg (Bool.eq_false_iff.mp notZero), Decimal.toRat_normalise]
  exact (number.interval.firstGridPoint_contains 17 _ (contains_belowOnGrid notZero)).1

/-- A decimal that means the same as the shortest one of a number is read as the number. -/
theorem ofDecimal_of_shortest (finite : number.isFinite = true) {decimal : Decimal}
    (same : decimal.toRat = number.shortest.toRat) :
    ofDecimal decimal = number.bits.toNat % 2 ^ 63 := by
  cases zero : number.isZero with
  | false => exact ofDecimal_of_contains finite zero (same ▸ contains_shortest zero)
  | true =>
    rw [shortest, if_pos zero, Decimal.toRat, Decimal.toRat, Nat.cast_zero, zero_mul,
      mul_eq_zero_iff_right (by positivity), Nat.cast_eq_zero] at same
    rw [ofDecimal, if_pos same]
    exact (beq_iff_eq.mp zero).symm

/-- How many digits the shortest decimal of a number has, and how far its power of ten is from
zero; more exact bounds are not needed. -/
theorem digitCount_shortest (finite : number.isFinite = true) :
    Decimal.digitCount number.shortest.digits ≤ 720 ∧
      -360 ≤ number.shortest.exponent + Decimal.digitCount number.shortest.digits - 1 ∧
      number.shortest.exponent + Decimal.digitCount number.shortest.digits - 1 ≤ 342 := by
  cases zero : number.isZero with
  | true =>
    rw [shortest, if_pos zero]
    decide
  | false =>
    have isShortest : number.shortest = (number.interval.firstGridPoint 17
        (Decimal.leadingPower number.interval.value number.interval.denominator)).normalise := by
      rw [shortest, if_neg (Bool.eq_false_iff.mp zero)]
    obtain ⟨contains, onGrid⟩ :=
      number.interval.firstGridPoint_contains 17 _ (contains_belowOnGrid zero)
    have leading : -359 <
        Decimal.leadingPower number.interval.value number.interval.denominator + 1 :=
      (zpow_lt_zpow_iff_right₀ (by norm_num)).mp
        ((ten_bounds_of_contains finite zero (contains_self zero)).1.trans_lt
          (Decimal.leadingPower_bounds (interval_value_pos zero)
            number.interval_denominator_pos).2)
    obtain ⟨_, notSmall, notLarge⟩ := top_of_contains finite zero (contains_shortest zero)
    obtain ⟨_, _, pointNotLarge⟩ := top_of_contains finite zero contains
    have fewer := Decimal.digitCount_mono (Decimal.digits_normalise_le
      (number.interval.firstGridPoint 17
        (Decimal.leadingPower number.interval.value number.interval.denominator)))
    rw [← isShortest] at fewer
    omega

end Binary64

end Metering
