/-
Reading decimals as doubles by scaling, as it is done for the numbers of JSON documents. The
digits are taken up in a whole number of 64 bits; from the first digit on that it has no room for,
those before the point only count, and those behind the point are left out. The number is rounded
to a double, and that is multiplied with or divided by a power of ten, which is a double as well.
Every step rounds, so what comes out may be a neighbour of the double nearest to the decimal.
-/

import Metering.Numeral.Rounding

namespace Metering

namespace Decimal

/-- Appends digits to a number as long as it has 64 bits, and gives what is left of them. -/
def takeUp : Nat → List Char → Nat × List Char
  | number, [] => (number, [])
  | number, digit :: rest =>
    let next := 10 * number + (digit.toNat - 48)
    if next < Nat.pow 2 64 then takeUp next rest else (number, digit :: rest)

/-- The decimal of the digits around a point and a power of ten, with as many of the digits as
are taken up. -/
def takenUp (whole fraction : List Char) (power : Int) : Decimal :=
  let (front, counted) := takeUp 0 whole
  let (digits, ignored) := takeUp front fraction
  ⟨digits, power + counted.length - (fraction.length - ignored.length : Nat)⟩

end Decimal

namespace Binary64

/-- The double nearest to a fraction. -/
def nearest (numerator denominator : Nat) : Binary64 :=
  ofSigned false (if numerator = 0 then 0 else nearestMagnitude numerator denominator)

/-- The product of two finite numbers without signs. -/
def times (left right : Binary64) : Binary64 :=
  let scale := left.scale + right.scale
  nearest (left.significand * right.significand * Nat.pow 2 scale.toNat)
    (Nat.pow 2 (-scale).toNat)

/-- The quotient of two finite numbers without signs. -/
def dividedBy (left right : Binary64) : Binary64 :=
  let scale := left.scale - right.scale
  nearest (left.significand * Nat.pow 2 scale.toNat)
    (right.significand * Nat.pow 2 (-scale).toNat)

/-- The power of ten. -/
def tenTo (power : Nat) : Binary64 := nearest (Nat.pow 10 power) 1

/-- The largest power of ten that is finite. -/
def largestPower : Nat := 308

/-- Divides by the largest power of ten again and again, as long as something is left. -/
def lower : Nat → Binary64 → Binary64
  | 0, number => number
  | count + 1, number =>
    if number.isZero then number else lower count (number.dividedBy (tenTo largestPower))

/-- The number times a power of ten; there is none beyond the finite ones. -/
def scaleBy? (number : Binary64) (exponent : Int) : Option Binary64 :=
  if exponent < 0 then
    let count := (exponent.natAbs - 1) / largestPower
    some ((lower count number).dividedBy (tenTo (exponent.natAbs - count * largestPower)))
  else if exponent ≤ largestPower then
    some (number.times (tenTo exponent.toNat)) |>.filter isFinite
  else if number.isZero then some number
  else none

/-- The number that a sign and unsigned characters come to. -/
def scaled? (isNegative : Bool) (characters : List Char) : Option Binary64 := do
  let (whole, fraction, power) ← Decimal.split? characters
  let decimal := Decimal.takenUp whole fraction power
  let number ← (nearest decimal.digits 1).scaleBy? decimal.exponent
  return ofSigned isNegative number.bits.toNat

/-- The number that the characters of a JSON number come to. -/
def readScaled? : List Char → Option Binary64
  | '-' :: characters => scaled? true characters
  | characters => scaled? false characters

end Binary64

end Metering
