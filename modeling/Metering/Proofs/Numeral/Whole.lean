/-
Whole numbers read back. The digits of a number, taken one by one, give the number again, and no
step on the way leaves a range that holds both the number and zero.
-/

import Mathlib.Data.Nat.Digits.Defs
import Metering.Numeral.Tally
import Metering.Numeral.Whole

namespace Metering

/-! ### The text of a counter -/

theorem toDigits_start {number : Nat} (notZero : number ≠ 0) :
    ∃ first rest, Nat.toDigits 10 number = first :: rest ∧ first ≠ '0' := by
  induction number using Nat.strongRecOn with
  | ind number inductionHypothesis =>
    by_cases single : number < 10
    · refine ⟨number.digitChar, [], Nat.toDigits_of_lt_base single, ?_⟩
      have digits : ∀ digit < 10, digit ≠ 0 → digit.digitChar ≠ '0' := by decide
      exact digits number single notZero
    · obtain ⟨first, rest, isStart, notZeroChar⟩ :=
        inductionHypothesis (number / 10) (by omega) (by omega)
      refine ⟨first, rest ++ [(number % 10).digitChar], ?_, notZeroChar⟩
      rw [Nat.toDigits_of_base_le (by decide) (by omega), isStart, List.cons_append]

/-- A whole number is written as its digits, behind a minus if it is negative. -/
theorem toList_toString (number : Int) :
    (toString number).toList =
      (if number < 0 then ['-'] else []) ++ Nat.toDigits 10 number.natAbs := by
  cases number with
  | ofNat count =>
    rw [if_neg (by simp)]
    exact Nat.toList_repr
  | negSucc count =>
    rw [if_pos (Int.negSucc_lt_zero count)]
    show ("-" ++ (count + 1).repr).toList = _
    rw [String.toList_append, Nat.toList_repr]
    rfl

namespace Tally

theorem toList_text (total : Int64) :
    (text total).toList =
      (if total.toInt < 0 then ['-'] else []) ++ Nat.toDigits 10 total.toInt.natAbs :=
  toList_toString total.toInt

end Tally

namespace Whole

/-! ### One digit after the other -/

/-- A number with a sign. -/
def signed (negative : Bool) (size : Nat) : Int := if negative then -(size : Int) else size

theorem extend_append (range : Range) (negative : Bool) (total : Int) (digits more : List Char) :
    extend range negative total (digits ++ more) =
      (extend range negative total digits).bind fun reached =>
        extend range negative reached more := by
  induction digits generalizing total with
  | nil => rfl
  | cons digit rest inductionHypothesis =>
    rw [List.cons_append, extend, extend]
    cases digit? digit with
    | none => rfl
    | some value =>
      dsimp only
      by_cases above : range.high < if negative then 10 * total - value else 10 * total + value
      · rw [if_pos above, if_pos above]
        rfl
      · rw [if_neg above, if_neg above]
        by_cases below : (if negative then 10 * total - value else 10 * total + value) < range.low
        · rw [if_pos below, if_pos below]
          rfl
        · rw [if_neg below, if_neg below, inductionHypothesis]

theorem digit?_digitChar {digit : Nat} (small : digit < 10) :
    digit? digit.digitChar = some digit := by
  revert digit
  decide

/-- A digit more keeps the sign. -/
theorem extend_digit {range : Range} {negative : Bool} (size : Nat) {digit : Nat}
    (small : digit < 10)
    (low : range.low ≤ signed negative (10 * size + digit))
    (high : signed negative (10 * size + digit) ≤ range.high) :
    extend range negative (signed negative size) [digit.digitChar] =
      .ok (signed negative (10 * size + digit)) := by
  have next : (if negative then 10 * signed negative size - (digit : Int)
      else 10 * signed negative size + digit) = signed negative (10 * size + digit) := by
    cases negative <;> simp only [signed, if_true, Bool.false_eq_true, if_false] <;> omega
  rw [extend, digit?_digitChar small]
  dsimp only
  rw [next, if_neg (Int.not_lt.mpr high), if_neg (Int.not_lt.mpr low)]
  rfl

/-- The digits of a number are read as the number. -/
theorem extend_toDigits (range : Range) (lowZero : range.low ≤ 0) (highZero : 0 ≤ range.high)
    (negative : Bool) {size : Nat} (low : range.low ≤ signed negative size)
    (high : signed negative size ≤ range.high) :
    extend range negative 0 (Nat.toDigits 10 size) = .ok (signed negative size) := by
  have start : (0 : Int) = signed negative 0 := by cases negative <;> rfl
  induction size using Nat.strongRecOn with
  | ind size inductionHypothesis =>
    by_cases single : size < 10
    · have whole : 10 * 0 + size = size := Nat.zero_add size
      rw [Nat.toDigits_of_lt_base single, start,
        extend_digit 0 single (by rwa [whole]) (by rwa [whole]), whole]
    · have split : 10 * (size / 10) + size % 10 = size := by omega
      have between : range.low ≤ signed negative (size / 10) ∧
          signed negative (size / 10) ≤ range.high := by
        cases negative <;> simp only [signed, if_true, Bool.false_eq_true, if_false] at * <;> omega
      rw [Nat.toDigits_of_base_le (by decide) (by omega), extend_append,
        inductionHypothesis (size / 10) (by omega) between.1 between.2]
      show extend range negative (signed negative (size / 10)) [(size % 10).digitChar] = _
      rw [extend_digit _ (by omega) (by rwa [split]) (by rwa [split]), split]

/-! ### Counters -/

theorem readChars_digits {range : Range} {digits : List Char} (some : digits ≠ [])
    (isDigits : ∀ digit ∈ digits, digit.isDigit = true) :
    readChars range digits = extend range false 0 digits := by
  cases digits with
  | nil => exact absurd rfl some
  | cons first rest =>
    have isDigit := isDigits first List.mem_cons_self
    have noPlus : first ≠ '+' := fun same => by rw [same] at isDigit; cases isDigit
    have noMinus : first ≠ '-' := fun same => by rw [same] at isDigit; cases isDigit
    have plus (later : List Char) : first :: rest ≠ '+' :: later :=
      fun same => noPlus (List.cons.inj same).1
    have minus (later : List Char) : first :: rest ≠ '-' :: later :=
      fun same => noMinus (List.cons.inj same).1
    rw [readChars]
    · exact some
    · exact plus []
    · exact minus []
    · exact plus
    · exact minus

theorem readChars_minus {range : Range} (below : range.low < 0) {digits : List Char}
    (some : digits ≠ []) : readChars range ('-' :: digits) = extend range true 0 digits := by
  cases digits with
  | nil => exact absurd rfl some
  | cons first rest => exact if_pos below

/-- The text of a counter is read as the counter. -/
theorem readChars_text (total : Int64) :
    readChars Range.signed64 (Tally.text total).toList = .ok total.toInt := by
  have low : Range.signed64.low ≤ total.toInt := total.le_toInt
  have high : total.toInt ≤ Range.signed64.high := Int.le_sub_one_of_lt total.toInt_lt
  have size : signed (decide (total.toInt < 0)) total.toInt.natAbs = total.toInt := by
    by_cases negative : total.toInt < 0
    · rw [decide_eq_true negative, signed, if_pos rfl]
      omega
    · rw [decide_eq_false negative, signed, if_neg Bool.false_ne_true]
      omega
  have reads := extend_toDigits Range.signed64 (by decide) (by decide)
    (decide (total.toInt < 0)) (size.symm ▸ low) (size.symm ▸ high)
  have some : Nat.toDigits 10 total.toInt.natAbs ≠ [] := Nat.toDigits_ne_nil
  rw [size] at reads
  rw [Tally.toList_text]
  by_cases negative : total.toInt < 0
  · rw [decide_eq_true negative] at reads
    rw [if_pos negative, List.singleton_append, readChars_minus (by decide) some, reads]
  · rw [decide_eq_false negative] at reads
    rw [if_neg negative, List.nil_append, readChars_digits some
      (fun digit member => Nat.isDigit_of_mem_toDigits (by decide) (by decide) member), reads]

/-- No counter is written as a negative zero. -/
theorem text_ne_negative_zero (total : Int64) : (Tally.text total).toList ≠ ['-', '0'] := by
  intro same
  rw [Tally.toList_text] at same
  by_cases negative : total.toInt < 0
  · obtain ⟨first, rest, isStart, notZero⟩ :=
      toDigits_start (show total.toInt.natAbs ≠ 0 by omega)
    rw [if_pos negative, isStart, List.singleton_append] at same
    exact notZero (List.cons.inj (List.cons.inj same).2).1
  · rw [if_neg negative, List.nil_append] at same
    have isDigit : '-'.isDigit = true := Nat.isDigit_of_mem_toDigits (b := 10) (by decide)
      (by decide) (same ▸ List.mem_cons_self)
    cases isDigit

end Whole

end Metering
