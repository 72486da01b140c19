/-
How a decimal is written: digit by digit around a point while the power of ten of its first
digit stays in a range, otherwise as one digit, a fraction and a power of ten. Which range that
is, and whether a whole number keeps a point and a zero, are the two decisions of a layout.
-/

import Metering.Numeral.Shortest

namespace Metering

/-- The decisions of a decimal notation. -/
structure Layout where
  /-- Smallest and largest power of ten of the first digit written without an exponent, or
  nothing for all of them. -/
  positional : Option (Int × Int)
  /-- Whether a whole number ends in a point and a zero. -/
  keepsPoint : Bool

namespace Layout

/-- Texts of measurements for people: never an exponent, and no point in whole numbers. -/
def plain : Layout := ⟨none, false⟩

/-- Numbers in JSON documents: positional from `0.00001` up to fifteen places after the first
digit, whole numbers with a point and a zero. -/
def json : Layout := ⟨some (-5, 15), true⟩

/-- Digits around a point; `power` is the power of ten of the first digit. -/
def writePositional (layout : Layout) (digits : List Char) (power : Int) : List Char :=
  let whole := (power + 1).toNat
  if power < 0 then '0' :: '.' :: List.replicate (-power - 1).toNat '0' ++ digits
  else if digits.length ≤ whole then
    digits ++ List.replicate (whole - digits.length) '0' ++
      (if layout.keepsPoint then ['.', '0'] else [])
  else digits.take whole ++ '.' :: digits.drop whole

/-- One digit, the other digits behind a point, and the power of ten with its sign. -/
def writeScientific (digits : List Char) (power : Int) : List Char :=
  let mantissa :=
    match digits with
    | first :: second :: rest => first :: '.' :: second :: rest
    | short => short
  mantissa ++ 'e' :: (if power < 0 then '-' else '+') :: Nat.toDigits 10 power.natAbs

/-- The digits of a decimal in the notation. -/
def writeDecimal (layout : Layout) (decimal : Decimal) : List Char :=
  let digits := Nat.toDigits 10 decimal.digits
  let power := decimal.exponent + digits.length - 1
  match layout.positional with
  | none => layout.writePositional digits power
  | some (low, high) =>
    if low ≤ power ∧ power ≤ high then layout.writePositional digits power
    else writeScientific digits power

/-- A finite number in the notation. -/
def writeFinite (layout : Layout) (number : Binary64) : List Char :=
  (if number.negative then ['-'] else []) ++ layout.writeDecimal number.shortest

end Layout

/-- The text of any number for people. -/
def Binary64.display (number : Binary64) : String :=
  if number.isNaN then "NaN"
  else if number.isFinite then String.ofList (Layout.plain.writeFinite number)
  else if number.negative then "-inf" else "inf"

end Metering
