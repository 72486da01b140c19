/-
What it means that two readings agree: both are numbers, and they are the same bits once the sign
of a zero is dropped.
-/

import Metering.Numeral.Binary64

namespace Metering.Binary64

theorem isNaN_of_isFinite {number : Binary64} (finite : number.isFinite = true) :
    number.isNaN = false := by
  rw [isNaN, finite]
  rfl

theorem isFinite_of_isZero {number : Binary64} (zero : number.isZero = true) :
    number.isFinite = true := by
  have bound := number.bits.toNat_lt
  simp only [isZero, Nat.pow_eq, beq_iff_eq] at zero
  simp only [isFinite, exponentField, Nat.pow_eq, bne_iff_ne]
  omega

theorem isNaN_unsignedZero (number : Binary64) : number.unsignedZero.isNaN = number.isNaN := by
  unfold unsignedZero
  split
  · next zero => rw [isNaN_of_isFinite (isFinite_of_isZero zero)]; rfl
  · rfl

theorem unsignedZero_of_isZero {number : Binary64} (zero : number.isZero = true) :
    number.unsignedZero = ⟨0⟩ := if_pos zero

theorem isZero_unsignedZero (number : Binary64) : number.unsignedZero.isZero = number.isZero := by
  unfold unsignedZero
  split
  · next zero => rw [zero]; rfl
  · rfl

theorem unsignedZero_unsignedZero (number : Binary64) :
    number.unsignedZero.unsignedZero = number.unsignedZero := by
  by_cases zero : number.isZero = true
  · rw [unsignedZero_of_isZero zero]
    rfl
  · rw [unsignedZero, if_neg (isZero_unsignedZero number ▸ zero)]

/-- Readings agree when both are numbers and differ at most in the sign of a zero. -/
theorem agrees_iff (left right : Binary64) :
    left.agrees right = true ↔
      left.isNaN = false ∧ right.isNaN = false ∧ left.unsignedZero = right.unsignedZero := by
  simp only [agrees, Bool.and_eq_true, Bool.not_eq_true', Bool.or_eq_true, beq_iff_eq, and_assoc]
  refine and_congr_right fun _ => and_congr_right fun _ => ?_
  constructor
  · rintro (⟨leftZero, rightZero⟩ | same)
    · rw [unsignedZero_of_isZero leftZero, unsignedZero_of_isZero rightZero]
    · have equal : left = right := by cases left; cases right; exact congrArg _ same
      rw [equal]
  · intro same
    by_cases zero : left.isZero = true
    · left
      rw [← isZero_unsignedZero right, ← same, isZero_unsignedZero]
      exact ⟨zero, zero⟩
    · right
      have notZero : ¬ right.isZero = true := by
        rwa [← isZero_unsignedZero right, ← same, isZero_unsignedZero]
      rw [unsignedZero, unsignedZero, if_neg zero, if_neg notZero] at same
      rw [same]

theorem agrees_self {number : Binary64} (isNumber : number.isNaN = false) :
    number.agrees number = true :=
  (agrees_iff number number).mpr ⟨isNumber, isNumber, rfl⟩

theorem agrees_symm {left right : Binary64} (agree : left.agrees right = true) :
    right.agrees left = true := by
  obtain ⟨leftNumber, rightNumber, same⟩ := (agrees_iff left right).mp agree
  exact (agrees_iff right left).mpr ⟨rightNumber, leftNumber, same.symm⟩

theorem agrees_trans {first second third : Binary64} (earlier : first.agrees second = true)
    (later : second.agrees third = true) : first.agrees third = true := by
  obtain ⟨firstNumber, _, same⟩ := (agrees_iff first second).mp earlier
  obtain ⟨_, thirdNumber, alike⟩ := (agrees_iff second third).mp later
  exact (agrees_iff first third).mpr ⟨firstNumber, thirdNumber, same.trans alike⟩

/-- Dropping the sign of a zero does not change what a reading agrees with. -/
theorem agrees_unsignedZero (left right : Binary64) :
    left.unsignedZero.agrees right = left.agrees right := by
  rw [Bool.eq_iff_iff, agrees_iff, agrees_iff, isNaN_unsignedZero, unsignedZero_unsignedZero]

end Metering.Binary64
