/-
The shortest decimal of a double: the fewest digits that still read back as the same number,
and of the decimals with that many digits the nearest. The numbers that read back as `m * 2^q`
form an interval, from halfway to the number below up to halfway to the number above; the ends
belong to it when `m` is even. For one digit, two digits and so on, the two neighbours of the
number on the grid of that many digits are tested against the interval in exact arithmetic.
-/

import Metering.Numeral.Binary64

namespace Metering

/-- The decimal `digits * 10^exponent`. -/
structure Decimal where
  digits : Nat
  exponent : Int
  deriving DecidableEq, Repr, Inhabited

namespace Decimal

/-- The count of decimal digits of a number, one for zero. -/
def digitCount (number : Nat) : Nat := (Nat.toDigits 10 number).length

/-- The largest power of ten that is at most a positive fraction. -/
def leadingPower (numerator denominator : Nat) : Int :=
  if denominator ≤ numerator then (digitCount (numerator / denominator) : Int) - 1
  else -(digitCount ((denominator - 1) / numerator) : Int)

/-- Positive numbers that share one denominator: a number and the ends of the interval around
it, which belong to the interval or not. -/
structure Interval where
  value : Nat
  low : Nat
  high : Nat
  denominator : Nat
  closed : Bool

namespace Interval

/-- Multiplies everything by ten to a power, so the grid of that exponent becomes the whole
numbers. -/
def onGrid (interval : Interval) (exponent : Int) : Interval :=
  if 0 ≤ exponent then
    { interval with denominator := interval.denominator * Nat.pow 10 exponent.toNat }
  else
    let factor := Nat.pow 10 (-exponent).toNat
    { interval with
      value := interval.value * factor
      low := interval.low * factor
      high := interval.high * factor }

/-- Whether a whole number lies in the interval. -/
def holds (interval : Interval) (candidate : Nat) : Bool :=
  let scaled := candidate * interval.denominator
  if interval.closed then interval.low ≤ scaled && scaled ≤ interval.high
  else interval.low < scaled && scaled < interval.high

/-- The whole number in the interval that is nearest to its number, if one of the two
neighbours lies in it. The lower one wins a tie. -/
def nearestWhole? (interval : Interval) : Option Nat :=
  let below := interval.value / interval.denominator
  let above := below + 1
  match interval.holds below, interval.holds above with
  | true, true =>
    let gapBelow := interval.value - below * interval.denominator
    let gapAbove := above * interval.denominator - interval.value
    some (if gapBelow ≤ gapAbove then below else above)
  | true, false => some below
  | false, true => some above
  | false, false => none

/-- The first grid point in the interval, on finer and finer grids from an exponent down. -/
def firstGridPoint (interval : Interval) : Nat → Int → Decimal
  | 0, exponent => ⟨(interval.onGrid exponent).value / (interval.onGrid exponent).denominator,
      exponent⟩
  | finer + 1, exponent =>
    match (interval.onGrid exponent).nearestWhole? with
    | some digits => ⟨digits, exponent⟩
    | none => firstGridPoint interval finer (exponent - 1)

end Interval

/-- Drops zeros at the end of the digits. -/
def normalise (decimal : Decimal) : Decimal :=
  if decimal.digits = 0 then ⟨0, 0⟩ else go decimal.digits decimal.digits decimal.exponent
where
  /-- Drops up to a number of zeros. -/
  go : Nat → Nat → Int → Decimal
    | 0, digits, exponent => ⟨digits, exponent⟩
    | count + 1, digits, exponent =>
      if digits % 10 = 0 then go count (digits / 10) (exponent + 1) else ⟨digits, exponent⟩

end Decimal

namespace Binary64

/-- The finite numbers around a positive one: a quarter of its last place is the unit, and the
gap below a power of two is half as wide as the gap above. -/
def interval (number : Binary64) : Decimal.Interval :=
  let narrow := number.fraction = 0 ∧ 1 < number.exponentField
  let value := 4 * number.significand
  let low := if narrow then value - 1 else value - 2
  let unit := number.scale - 2
  let factor := Nat.pow 2 unit.toNat
  { value := value * factor
    low := low * factor
    high := (value + 2) * factor
    denominator := Nat.pow 2 (-unit).toNat
    closed := number.significand % 2 = 0 }

/-- The shortest decimal of the magnitude of a finite number. -/
def shortest (number : Binary64) : Decimal :=
  if number.isZero then ⟨0, 0⟩
  else
    let around := number.interval
    let leading := Decimal.leadingPower around.value around.denominator
    (around.firstGridPoint 17 leading).normalise

end Binary64

end Metering
