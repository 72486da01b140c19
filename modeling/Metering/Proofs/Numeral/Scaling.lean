/-
Where reading by scaling is exact. A number depends only on the fraction that it is nearest to, and
a fraction with a significand of fifty-three bits is a number. So a literal with few digits and a
small power of ten is rounded only once, when its digits have been multiplied with the power or
divided by it, and comes to the double nearest to it.
-/

import Mathlib.Algebra.Order.Floor.Semifield
import Metering.Numeral.Scaling
import Metering.Proofs.Numeral.Notation

namespace Metering

/-! ### Equal fractions -/

theorem roundHalfEven_congr {numerator denominator otherNumerator otherDenominator : Nat}
    (positive : 0 < denominator) (otherPositive : 0 < otherDenominator)
    (same : (numerator / denominator : ℚ) = otherNumerator / otherDenominator) :
    roundHalfEven numerator denominator = roundHalfEven otherNumerator otherDenominator := by
  have quotient : numerator / denominator = otherNumerator / otherDenominator := by
    have isFloor : ⌊(numerator / denominator : ℚ)⌋₊ = numerator / denominator :=
      Nat.floor_div_eq_div numerator denominator
    have isOtherFloor :
        ⌊(otherNumerator / otherDenominator : ℚ)⌋₊ = otherNumerator / otherDenominator :=
      Nat.floor_div_eq_div otherNumerator otherDenominator
    rw [← isFloor, same, isOtherFloor]
  obtain ⟨rest, isSum, _, _, isBelow, isAbove⟩ := exists_rest numerator positive
  obtain ⟨otherRest, isOtherSum, _, _, isOtherBelow, isOtherAbove⟩ :=
    exists_rest otherNumerator otherPositive
  have rests : rest = otherRest := by
    rw [same, isOtherSum, quotient] at isSum
    exact (add_left_cancel isSum).symm
  simp only [roundHalfEven, isBelow, isAbove, isOtherBelow, isOtherAbove, quotient, rests]

namespace Binary64

section Fractions

variable {numerator denominator otherNumerator otherDenominator : Nat}

theorem nearestMagnitude_congr (above : 0 < numerator) (below : 0 < denominator)
    (otherAbove : 0 < otherNumerator) (otherBelow : 0 < otherDenominator)
    (same : (numerator / denominator : ℚ) = otherNumerator / otherDenominator) :
    nearestMagnitude numerator denominator =
      nearestMagnitude otherNumerator otherDenominator := by
  have positive : (0 : ℚ) < numerator / denominator :=
    div_pos (by exact_mod_cast above) (by exact_mod_cast below)
  obtain ⟨scale, low, high⟩ := exists_scale positive
  rw [nearestMagnitude_eq above below low high,
    nearestMagnitude_eq otherAbove otherBelow (same ▸ low) (same ▸ high)]
  congr 2
  refine roundHalfEven_congr (Nat.mul_pos below (Nat.pow_pos (by decide)))
    (Nat.mul_pos otherBelow (Nat.pow_pos (by decide))) ?_
  rw [scaled_eq, scaled_eq, same]

/-- Equal fractions are nearest to one number. -/
theorem nearest_congr (below : 0 < denominator) (otherBelow : 0 < otherDenominator)
    (same : (numerator / denominator : ℚ) = otherNumerator / otherDenominator) :
    nearest numerator denominator = nearest otherNumerator otherDenominator := by
  have zeros : numerator = 0 ↔ otherNumerator = 0 := by
    have isZero {upper lower : Nat} (positive : 0 < lower) :
        (upper / lower : ℚ) = 0 ↔ upper = 0 := by
      rw [div_eq_zero_iff, or_iff_left (by exact_mod_cast positive.ne'), Nat.cast_eq_zero]
    rw [← isZero below, same, isZero otherBelow]
  rw [nearest, nearest]
  by_cases zero : numerator = 0
  · rw [if_pos zero, if_pos (zeros.mp zero)]
  · have otherZero := mt zeros.mpr zero
    rw [if_neg zero, if_neg otherZero, nearestMagnitude_congr (Nat.pos_of_ne_zero zero) below
      (Nat.pos_of_ne_zero otherZero) otherBelow same]

end Fractions

/-! ### Exact numbers -/

/-- What a finite number means, its sign aside. -/
def toRat (number : Binary64) : ℚ := number.significand * 2 ^ number.scale

/-- A number is made of a significand and its scale. -/
theorem toRat_ofSigned {scale : Int} {whole : Nat} (least : -1074 ≤ scale) (most : scale ≤ 971)
    (small : whole < 2 ^ 53) (normal : 2 ^ 52 ≤ whole ∨ scale = -1074) :
    (ofSigned false ((scale + 1074).toNat * 2 ^ 52 + whole)).toRat = whole * 2 ^ scale := by
  obtain ⟨field, rfl⟩ : ∃ field : Nat, scale = field - 1074 := ⟨(scale + 1074).toNat, by omega⟩
  have isField : ((field : Int) - 1074 + 1074).toNat = field := by omega
  have isBits : (ofSigned false (field * 2 ^ 52 + whole)).bits.toNat = field * 2 ^ 52 + whole := by
    rw [ofSigned, if_neg Bool.false_ne_true, UInt64.toNat_ofNat']
    omega
  rw [isField, toRat, significand, Binary64.scale, exponentField, fraction, isBits]
  simp only [Nat.pow_eq]
  rcases normal with normal | isLeast
  · have isExponent : (field * 2 ^ 52 + whole) / 2 ^ 52 % 2 ^ 11 = field + 1 := by omega
    have isFraction : (field * 2 ^ 52 + whole) % 2 ^ 52 + 2 ^ 52 = whole := by omega
    rw [isExponent, if_neg (Nat.succ_ne_zero field), if_neg (Nat.succ_ne_zero field), isFraction,
      show ((field + 1 : Nat) : Int) - 1075 = field - 1074 by omega]
  · obtain rfl : field = 0 := by omega
    by_cases isNormal : 2 ^ 52 ≤ whole
    · have isExponent : (0 * 2 ^ 52 + whole) / 2 ^ 52 % 2 ^ 11 = 1 := by omega
      have isFraction : (0 * 2 ^ 52 + whole) % 2 ^ 52 + 2 ^ 52 = whole := by omega
      rw [isExponent, if_neg one_ne_zero, if_neg one_ne_zero, isFraction]
      rfl
    · have isExponent : (0 * 2 ^ 52 + whole) / 2 ^ 52 % 2 ^ 11 = 0 := by omega
      have isFraction : (0 * 2 ^ 52 + whole) % 2 ^ 52 = whole := by omega
      rw [isExponent, if_pos rfl, if_pos rfl, isFraction]
      rfl

/-- A fraction with a significand of fifty-three bits is itself the number nearest to it. -/
theorem toRat_nearest {numerator denominator whole : Nat} {power : Int} (below : 0 < denominator)
    (isValue : (numerator / denominator : ℚ) = whole * 2 ^ power) (small : whole < 2 ^ 53)
    (least : -1074 ≤ power) (most : power ≤ 971) :
    (nearest numerator denominator).toRat = numerator / denominator := by
  rw [nearest]
  split
  · next zero =>
    rw [zero, Nat.cast_zero, zero_div, toRat]
    exact mul_eq_zero_of_left rfl _
  · next some =>
    have above := Nat.pos_of_ne_zero some
    have positive : (0 : ℚ) < numerator / denominator :=
      div_pos (by exact_mod_cast above) (by exact_mod_cast below)
    have power_pos (power : Int) : (0 : ℚ) < 2 ^ power := zpow_pos two_pos power
    obtain ⟨scale, low, high⟩ := exists_scale positive
    have bound : (numerator / denominator : ℚ) < 2 ^ 53 * 2 ^ power := by
      rw [isValue]
      exact mul_lt_mul_of_pos_right (by exact_mod_cast small) (power_pos power)
    have scale_le : max (-1074) scale ≤ power := max_le least (scale_le_scale low bound)
    -- on its scale the fraction is a whole number
    obtain ⟨steps, isPower⟩ : ∃ steps : Nat, power = max (-1074) scale + steps :=
      ⟨(power - max (-1074) scale).toNat, by omega⟩
    have isWhole : (numerator / denominator : ℚ) =
        (whole * 2 ^ steps : Nat) * 2 ^ max (-1074) scale := by
      rw [isValue, isPower, zpow_add₀ two_ne_zero, zpow_natCast]
      push_cast
      ring
    generalize whole * 2 ^ steps = onScale at isWhole
    have small : onScale < 2 ^ 53 := by
      have : (onScale * 2 ^ max (-1074) scale : ℚ) < 2 ^ 53 * 2 ^ max (-1074) scale :=
        isWhole ▸ high.trans_le (mul_le_mul_of_nonneg_left
          (zpow_le_zpow_right₀ one_le_two (le_max_right _ _)) (by positivity))
      exact_mod_cast lt_of_mul_lt_mul_right this (power_pos _).le
    have normal : 2 ^ 52 ≤ onScale ∨ max (-1074) scale = -1074 := by
      rcases max_choice (-1074) scale with isLeast | isScale
      · exact Or.inr isLeast
      · rw [isWhole, isScale] at low
        exact Or.inl (by exact_mod_cast le_of_mul_le_mul_right low (power_pos scale))
    have near : Enclosed (onScale % 2 = 0) ((onScale - 1 / 2) * 2 ^ max (-1074) scale)
        ((onScale + 1 / 2) * 2 ^ max (-1074) scale) (numerator / denominator : ℚ) := by
      rw [isWhole]
      exact Enclosed.of_lt (mul_lt_mul_of_pos_right (by linarith) (power_pos _))
        (mul_lt_mul_of_pos_right (by linarith) (power_pos _))
    have finite : (max (-1074) scale + 1074).toNat * 2 ^ 52 + onScale ≤ infinityBits := by
      simp only [infinityBits, Nat.pow_eq]
      omega
    rw [nearestMagnitude_of_enclosed above below low high near, min_eq_right finite,
      toRat_ofSigned (le_max_left _ _) (by omega) small normal, isWhole]

theorem toRat_tenTo {power : Nat} (small : power ≤ 22) : (tenTo power).toRat = 10 ^ power := by
  have isValue : ((Nat.pow 10 power : Nat) / (1 : Nat) : ℚ) =
      (5 ^ power : Nat) * 2 ^ (power : Int) := by
    rw [Nat.pow_eq, zpow_natCast]
    push_cast
    rw [div_one, ← mul_pow]
    norm_num
  have fewBits : 5 ^ power < 2 ^ 53 :=
    (Nat.pow_le_pow_right (by decide) small).trans_lt (by decide)
  rw [tenTo, toRat_nearest one_pos isValue fewBits (by omega) (by omega), Nat.pow_eq]
  push_cast
  rw [div_one]

theorem toRat_nearest_one {digits : Nat} (small : digits < 2 ^ 53) :
    (nearest digits 1).toRat = digits := by
  have isValue : (digits / (1 : Nat) : ℚ) = digits * 2 ^ (0 : Int) := by
    rw [Nat.cast_one, div_one, zpow_zero, mul_one]
  rw [toRat_nearest one_pos isValue small (by decide) (by decide), Nat.cast_one, div_one]

/-! ### One rounding -/

/-- A product is the number nearest to the product of what its factors mean. -/
theorem times_eq {left right : Binary64} {numerator denominator : Nat} (below : 0 < denominator)
    (isProduct : left.toRat * right.toRat = numerator / denominator) :
    left.times right = nearest numerator denominator := by
  refine nearest_congr (Nat.pow_pos (by decide)) below ?_
  rw [← isProduct, toRat, toRat, mul_mul_mul_comm, ← zpow_add₀ two_ne_zero,
    zpow_eq_div (left.scale + right.scale)]
  simp only [Nat.pow_eq]
  push_cast
  ring

/-- A quotient is the number nearest to the quotient of what its parts mean. -/
theorem dividedBy_eq {left right : Binary64} {numerator denominator : Nat} (below : 0 < denominator)
    (some : right.significand ≠ 0)
    (isQuotient : left.toRat / right.toRat = numerator / denominator) :
    left.dividedBy right = nearest numerator denominator := by
  refine nearest_congr (Nat.mul_pos (Nat.pos_of_ne_zero some) (Nat.pow_pos (by decide))) below ?_
  rw [← isQuotient, toRat, toRat, mul_div_mul_comm, ← zpow_sub₀ two_ne_zero,
    zpow_eq_div (left.scale - right.scale)]
  simp only [Nat.pow_eq]
  push_cast
  ring

/-- A decimal of few digits around a small power of ten is read as the number nearest to it. -/
theorem ofDecimal_eq_nearest {decimal : Decimal} (small : decimal.digits < 2 ^ 53)
    (near : decimal.exponent.natAbs ≤ 22) :
    ofSigned false (ofDecimal decimal) =
      nearest (decimal.digits * Nat.pow 10 decimal.exponent.toNat)
        (Nat.pow 10 (-decimal.exponent).toNat) := by
  have few : Decimal.digitCount decimal.digits ≤ 16 :=
    (Nat.length_toDigits_le_iff (by decide) (by decide)).mpr (small.trans (by decide))
  rw [ofDecimal, nearest]
  by_cases zero : decimal.digits = 0
  · rw [if_pos zero, zero, Nat.zero_mul, if_pos rfl]
  · have some : decimal.digits * Nat.pow 10 decimal.exponent.toNat ≠ 0 :=
      Nat.mul_ne_zero zero (Nat.pow_pos (by decide)).ne'
    dsimp only
    rw [if_neg zero, if_neg (by omega), if_neg (by omega), if_neg some]

/-- Few digits are scaled by a small power of ten with one rounding. -/
theorem scaleBy?_of_small {decimal : Decimal} (small : decimal.digits < 2 ^ 53)
    (near : decimal.exponent.natAbs ≤ 22)
    (finite : (ofSigned false (ofDecimal decimal)).isFinite = true) :
    (nearest decimal.digits 1).scaleBy? decimal.exponent =
      some (ofSigned false (ofDecimal decimal)) := by
  obtain ⟨digits, exponent⟩ := decimal
  rw [ofDecimal_eq_nearest small near] at finite ⊢
  dsimp only at *
  rw [scaleBy?]
  split
  · next negative =>
    obtain ⟨power, rfl⟩ : ∃ power : Nat, exponent = -power := ⟨exponent.natAbs, by omega⟩
    have once : ((-(power : Int)).natAbs - 1) / largestPower = 0 :=
      Nat.div_eq_of_lt (by rw [largestPower]; omega)
    have isTen : (tenTo power).toRat = 10 ^ power := toRat_tenTo (by omega)
    have some : (tenTo power).significand ≠ 0 := by
      intro zero
      rw [toRat, zero, Nat.cast_zero, zero_mul] at isTen
      exact absurd isTen.symm (by positivity)
    have lowered : lower 0 (nearest digits 1) = nearest digits 1 := rfl
    rw [once]
    dsimp only
    rw [lowered, Nat.zero_mul, Nat.sub_zero, show (-(power : Int)).natAbs = power by omega]
    refine congrArg Option.some (dividedBy_eq (Nat.pow_pos (by decide)) some ?_)
    rw [toRat_nearest_one small, isTen, show (-(power : Int)).toNat = 0 by omega,
      show (- -(power : Int)).toNat = power by omega]
    simp only [Nat.pow_eq]
    push_cast
    rw [mul_one]
  · next notNegative =>
    obtain ⟨power, rfl⟩ : ∃ power : Nat, exponent = power := ⟨exponent.toNat, by omega⟩
    have scaled : (nearest digits 1).times (tenTo power) =
        nearest (digits * Nat.pow 10 (power : Int).toNat) (Nat.pow 10 (-(power : Int)).toNat) := by
      refine times_eq (Nat.pow_pos (by decide)) ?_
      rw [toRat_nearest_one small, toRat_tenTo (by omega), Int.toNat_natCast,
        show (-(power : Int)).toNat = 0 by omega]
      simp only [Nat.pow_eq]
      push_cast
      rw [div_one]
    rw [if_pos (by rw [largestPower]; omega), Int.toNat_natCast, scaled]
    exact if_pos finite

end Binary64

/-! ### Literals of few digits -/

namespace Decimal

theorem ofDigits_cons (digit : Char) (rest : List Char) :
    ofDigits (digit :: rest) = (digit.toNat - 48) * 10 ^ rest.length + ofDigits rest := by
  have single : ofDigits [digit] = digit.toNat - 48 := Nat.zero_add _
  rw [← List.singleton_append, ofDigits_append, single]

theorem ofDigits_lt {digits : List Char} (isDigits : ∀ digit ∈ digits, digit.isDigit = true) :
    ofDigits digits < 10 ^ digits.length := by
  induction digits with
  | nil => exact Nat.one_pos
  | cons digit rest inductionHypothesis =>
    obtain ⟨isDigit, restDigits⟩ := List.forall_mem_cons.mp isDigits
    have small := (toNat_of_isDigit isDigit).2
    have others := inductionHypothesis restDigits
    rw [ofDigits_cons, List.length_cons, pow_succ']
    have := Nat.mul_le_mul_right (10 ^ rest.length) (show digit.toNat - 48 ≤ 9 by omega)
    omega

/-- Digits that come to a number of 64 bits are all taken up. -/
theorem takeUp_of_lt {number : Nat} {digits : List Char}
    (small : number * 10 ^ digits.length + ofDigits digits < 2 ^ 64) :
    takeUp number digits = (number * 10 ^ digits.length + ofDigits digits, []) := by
  induction digits generalizing number with
  | nil =>
    rw [List.length_nil, pow_zero, mul_one]
    rfl
  | cons digit rest inductionHypothesis =>
    have isTotal : number * 10 ^ (digit :: rest).length + ofDigits (digit :: rest) =
        (10 * number + (digit.toNat - 48)) * 10 ^ rest.length + ofDigits rest := by
      rw [ofDigits_cons, List.length_cons, pow_succ]
      ring
    rw [isTotal] at small ⊢
    have next : 10 * number + (digit.toNat - 48) < Nat.pow 2 64 := by
      have := Nat.le_mul_of_pos_right (10 * number + (digit.toNat - 48))
        (Nat.pow_pos (n := rest.length) (show 0 < 10 by decide))
      exact (this.trans (Nat.le_add_right _ _)).trans_lt small
    rw [takeUp]
    exact (if_pos next).trans (inductionHypothesis small)

theorem takenUp_of_lt {whole fraction : List Char} (power : Int)
    (small : ofDigits (whole ++ fraction) < 2 ^ 64) :
    takenUp whole fraction power = ⟨ofDigits (whole ++ fraction), power - fraction.length⟩ := by
  rw [ofDigits_append] at small ⊢
  have front : takeUp 0 whole = (ofDigits whole, []) := by
    have := Nat.le_mul_of_pos_right (ofDigits whole)
      (Nat.pow_pos (n := fraction.length) (show 0 < 10 by decide))
    rw [takeUp_of_lt (by omega), Nat.zero_mul, Nat.zero_add]
  rw [takenUp, front]
  dsimp only
  rw [takeUp_of_lt small]
  dsimp only
  rw [List.length_nil, Nat.sub_zero, Nat.cast_zero, add_zero]

end Decimal

namespace Binary64

theorem ofDecimal_le (decimal : Decimal) : ofDecimal decimal ≤ infinityBits := by
  rw [ofDecimal]
  dsimp only
  split
  · exact Nat.zero_le _
  split
  · exact le_rfl
  split
  · exact Nat.zero_le _
  · exact min_le_left _ _

/-- The sign does not make a number infinite. -/
theorem isFinite_ofSigned (isNegative : Bool) {magnitude : Nat} (small : magnitude < 2 ^ 63) :
    (ofSigned isNegative magnitude).isFinite = (ofSigned false magnitude).isFinite := by
  cases isNegative with
  | false => rfl
  | true =>
    have signed : (ofSigned true magnitude).bits.toNat = 2 ^ 63 + magnitude := by
      rw [ofSigned, if_pos rfl, UInt64.toNat_ofNat', Nat.pow_eq]
      omega
    have unsigned : (ofSigned false magnitude).bits.toNat = magnitude := by
      rw [ofSigned, if_neg Bool.false_ne_true, UInt64.toNat_ofNat']
      omega
    have sameField : (ofSigned true magnitude).exponentField =
        (ofSigned false magnitude).exponentField := by
      rw [exponentField, exponentField, signed, unsigned]
      simp only [Nat.pow_eq]
      omega
    rw [isFinite, isFinite, sameField]

end Binary64

namespace Numeral

variable {numeral : Numeral} (proper : numeral.Proper)

include proper

/-- The digits and the power of ten of a number are scaled, and it has its sign. -/
theorem readScaled?_characters {decimal : Decimal} {number : Binary64}
    (isDecimal : Decimal.takenUp numeral.whole numeral.fraction
      (numeral.decimal.exponent + numeral.fraction.length) = decimal)
    (isNumber : (Binary64.nearest decimal.digits 1).scaleBy? decimal.exponent = some number) :
    Binary64.readScaled? numeral.characters =
      some (Binary64.ofSigned numeral.minus number.bits.toNat) := by
  obtain ⟨first, rest, isWhole⟩ : ∃ first rest, numeral.whole = first :: rest := by
    rcases proper.start with zero | ⟨first, rest, isWhole, _⟩
    · exact ⟨'0', [], zero⟩
    · exact ⟨first, rest, isWhole⟩
  obtain ⟨_, _, noMinus, _⟩ :=
    digit_starts_number (proper.whole first (isWhole ▸ List.mem_cons_self))
  have parts := split?_unsigned proper
  have scaled (isNegative : Bool) : Binary64.scaled? isNegative
      (numeral.whole ++ (numeral.fractionText ++ numeral.powerText)) =
        some (Binary64.ofSigned isNegative number.bits.toNat) := by
    simp only [Binary64.scaled?, parts, Option.bind_eq_bind, Option.bind_some, isDecimal, isNumber]
    rfl
  rw [characters, List.append_assoc, List.append_assoc, signText]
  cases numeral.minus with
  | true => exact scaled true
  | false =>
    have unsigned := scaled false
    rw [isWhole] at unsigned ⊢
    rw [← unsigned, if_neg Bool.false_ne_true, List.nil_append, List.cons_append,
      Binary64.readScaled?]
    exact fun characters same => noMinus (List.cons.inj same).1

/-- A literal of few digits and with a small power of ten comes to the number nearest to it. -/
theorem readScaled?_of_small (small : numeral.decimal.digits < 2 ^ 53)
    (near : numeral.decimal.exponent.natAbs ≤ 22) {number : Binary64}
    (finite : number.isFinite = true)
    (isNearest : Binary64.readChars numeral.characters = .ok number) :
    Binary64.readScaled? numeral.characters = some number := by
  rw [readChars_characters proper] at isNearest
  obtain rfl := Except.ok.inj isNearest
  have fewBits : Binary64.ofDecimal numeral.decimal < 2 ^ 63 :=
    (Binary64.ofDecimal_le _).trans_lt (by decide)
  have isBits : (Binary64.ofSigned false (Binary64.ofDecimal numeral.decimal)).bits.toNat =
      Binary64.ofDecimal numeral.decimal := by
    rw [Binary64.ofSigned, if_neg Bool.false_ne_true, UInt64.toNat_ofNat']
    omega
  have isDecimal : Decimal.takenUp numeral.whole numeral.fraction
      (numeral.decimal.exponent + numeral.fraction.length) = numeral.decimal := by
    rw [Decimal.takenUp_of_lt _ (lt_trans small (by decide)), add_sub_cancel_right]
    rfl
  rw [Binary64.isFinite_ofSigned _ fewBits] at finite
  rw [readScaled?_characters proper isDecimal (Binary64.scaleBy?_of_small small near finite),
    isBits]

end Numeral

/-- What is written for a finite reading in at most fifteen characters, and without a power of ten,
comes to the reading by scaling. -/
theorem Layout.readScaled?_writeFinite (layout : Layout) {reading : Binary64}
    (finite : reading.isFinite = true) (short : (layout.writeFinite reading).length ≤ 15)
    (noPower : 'e' ∉ layout.writeFinite reading) :
    Binary64.readScaled? (layout.writeFinite reading) = some reading := by
  have isNearest := layout.readChars_writeFinite finite
  obtain ⟨numeral, proper, isLiteral, _, _⟩ := layout.exists_numeral_writeFinite reading
  rw [← isLiteral] at short noPower isNearest ⊢
  have powerless : numeral.power = none := by
    cases isPower : numeral.power with
    | none => rfl
    | some signed =>
      refine absurd (List.mem_append_right _ ?_) noPower
      rw [Numeral.powerText, isPower]
      exact List.mem_cons_self
  have few : (numeral.whole ++ numeral.fraction).length ≤ 15 := by
    refine le_trans ?_ short
    simp only [Numeral.characters, List.length_append, Numeral.fractionText]
    split
    · next empty =>
      rw [List.isEmpty_iff.mp empty]
      simp only [List.length_nil]
      omega
    · simp only [List.length_cons]
      omega
  have isDigits : ∀ digit ∈ numeral.whole ++ numeral.fraction, digit.isDigit = true :=
    fun digit member => (List.mem_append.mp member).elim (proper.whole digit)
      (proper.fraction digit)
  have small : numeral.decimal.digits < 2 ^ 53 :=
    (Decimal.ofDigits_lt isDigits).trans
      ((Nat.pow_le_pow_right (by decide) few).trans_lt (by decide))
  have near : numeral.decimal.exponent.natAbs ≤ 22 := by
    rw [List.length_append] at few
    rw [Numeral.decimal, powerless]
    dsimp only
    omega
  exact Numeral.readScaled?_of_small proper small near finite isNearest

end Metering
