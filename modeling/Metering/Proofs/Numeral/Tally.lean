/-
Exact and wrapping sums of counters. A checked sum is the exact one; a wrapping sum is congruent
to it, and in the range of counters that is enough to tell numbers apart.
-/

import Mathlib.Data.Int.ModEq
import Metering.Numeral.Tally

namespace Metering.Tally

/-! ### Exact sums -/

theorem exactSum_nil : exactSum [] = 0 := rfl

theorem exactSum_singleton (number : Int64) : exactSum [number] = number.toInt := Int.add_zero _

theorem exactSum_append (earlier later : List Int64) :
    exactSum (earlier ++ later) = exactSum earlier + exactSum later := by
  induction earlier with
  | nil => exact (Int.zero_add _).symm
  | cons number rest inductionHypothesis =>
    show number.toInt + exactSum (rest ++ later) = number.toInt + exactSum rest + exactSum later
    rw [inductionHypothesis, Int.add_assoc]

/-- The order of summands makes no difference. -/
theorem exactSum_perm {numbers others : List Int64} (perm : numbers.Perm others) :
    exactSum numbers = exactSum others := by
  induction perm with
  | nil => rfl
  | cons number _ inductionHypothesis =>
    exact congrArg (number.toInt + ·) inductionHypothesis
  | swap first second rest => exact Int.add_left_comm _ _ _
  | trans _ _ earlier later => exact earlier.trans later

theorem toInt_of_checkedAdd? {left right sum : Int64} (added : checkedAdd? left right = some sum) :
    sum.toInt = left.toInt + right.toInt := by
  unfold checkedAdd? ofInt? at added
  split at added
  · next inRange =>
    rw [← Option.some.inj added]
    exact Int64.toInt_ofInt_of_le inRange.1 (Int.lt_of_le_sub_one inRange.2)
  · cases added

/-- Whether a whole number is a counter. -/
def IsCounter (number : Int) : Prop := least ≤ number ∧ number ≤ greatest

theorem isCounter_toInt (number : Int64) : IsCounter number.toInt :=
  ⟨number.le_toInt, Int.le_sub_one_of_lt number.toInt_lt⟩

theorem checkedAdd?_of_isCounter {left right : Int64}
    (inRange : IsCounter (left.toInt + right.toInt)) :
    ∃ sum, checkedAdd? left right = some sum := by
  unfold IsCounter at inRange
  exact ⟨_, if_pos inRange⟩

theorem checkedAdd?_eq_none_iff (left right : Int64) :
    checkedAdd? left right = none ↔ ¬ IsCounter (left.toInt + right.toInt) := by
  unfold checkedAdd? ofInt? IsCounter
  split
  · next inRange => simp [inRange]
  · next outside => simp [outside]

theorem checkedAdd?_zero (number : Int64) : checkedAdd? 0 number = some number := by
  have inRange : IsCounter ((0 : Int64).toInt + number.toInt) := by
    rw [Int64.toInt_zero, Int.zero_add]
    exact isCounter_toInt number
  obtain ⟨sum, added⟩ := checkedAdd?_of_isCounter inRange
  have isSum := toInt_of_checkedAdd? added
  rw [Int64.toInt_zero, Int.zero_add] at isSum
  rw [added, Int64.toInt_inj.mp isSum]

/-! ### Wrapping sums -/

theorem toInt_add_modEq (left right : Int64) :
    (left + right).toInt ≡ left.toInt + right.toInt [ZMOD 2 ^ 64] := by
  rw [Int64.toInt_add]
  exact Int.bmod_emod

theorem toInt_sub_modEq (left right : Int64) :
    (left - right).toInt ≡ left.toInt - right.toInt [ZMOD 2 ^ 64] := by
  rw [Int64.toInt_sub]
  exact Int.bmod_emod

/-- Totals that are equal as far as wrapping tells are equal. -/
theorem eq_of_toInt_modEq {left right : Int64}
    (congruent : left.toInt ≡ right.toInt [ZMOD 2 ^ 64]) : left = right := by
  have leftAbove := left.le_toInt
  have leftBelow := left.toInt_lt
  have rightAbove := right.le_toInt
  have rightBelow := right.toInt_lt
  unfold Int.ModEq at congruent
  exact Int64.toInt_inj.mp (by omega)

/-- A change that wraps around leads back to its total just if it does not have to wrap. -/
theorem isCounter_add_sub_iff (earlier total : Int64) :
    IsCounter (earlier.toInt + (total - earlier).toInt) ↔
      IsCounter (total.toInt - earlier.toInt) := by
  have congruent := toInt_sub_modEq total earlier
  have totalInRange := isCounter_toInt total
  have changeInRange := isCounter_toInt (total - earlier)
  have isLeast : least = -2 ^ 63 := rfl
  have isGreatest : greatest = 2 ^ 63 - 1 := rfl
  unfold Int.ModEq at congruent
  unfold IsCounter at *
  omega

end Metering.Tally
