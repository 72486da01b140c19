/-
Reading decimals as doubles, correctly rounded: the double nearest to the decimal, the one
with the even significand when two are equally near, infinity beyond the largest, and zero
below half of the smallest. The text may have a sign, digits with a point among, before or
behind them, and a power of ten; or it is one of the words `inf`, `infinity` and `nan` in any
letter case.
-/

import Metering.Numeral.Shortest

namespace Metering

/-- The whole number nearest to a fraction; of two the even one. -/
def roundHalfEven (numerator denominator : Nat) : Nat :=
  let quotient := numerator / denominator
  let twice := 2 * (numerator % denominator)
  if twice < denominator then quotient
  else if denominator < twice then quotient + 1
  else quotient + quotient % 2

namespace Binary64

/-- The magnitude bits of the double nearest to a positive fraction. -/
def nearestMagnitude (numerator denominator : Nat) : Nat :=
  let estimate : Int := (numerator.log2 : Int) - denominator.log2 - 52
  let split (scale : Int) : Nat × Nat :=
    (numerator * Nat.pow 2 (-scale).toNat, denominator * Nat.pow 2 scale.toNat)
  let fits (scale : Int) : Bool :=
    let (upper, lower) := split scale
    Nat.pow 2 52 * lower ≤ upper
  let scale := max (-1074) (if fits estimate then estimate else estimate - 1)
  let (upper, lower) := split scale
  let significand := roundHalfEven upper lower
  let fieldless := (scale + 1074).toNat
  min infinityBits (fieldless * Nat.pow 2 52 + significand)

/-- The magnitude bits of the double nearest to a decimal. Powers far outside the range are
settled without computing them. -/
def ofDecimal (decimal : Decimal) : Nat :=
  if decimal.digits = 0 then 0
  else
    let top := decimal.exponent + Decimal.digitCount decimal.digits
    if 400 < top then infinityBits
    else if top < -400 then 0
    else
      nearestMagnitude (decimal.digits * Nat.pow 10 decimal.exponent.toNat)
        (Nat.pow 10 (-decimal.exponent).toNat)

end Binary64

namespace Decimal

/-- The number that decimal digits write. -/
def ofDigits (digits : List Char) : Nat :=
  digits.foldl (fun total digit => 10 * total + (digit.toNat - 48)) 0

/-- The signed power of ten at the end of a decimal text; no text is the power zero. -/
def readPower? : List Char → Option Int
  | [] => some 0
  | 'e' :: power | 'E' :: power =>
    let (isNegative, digits) :=
      match power with
      | '+' :: digits => (false, digits)
      | '-' :: digits => (true, digits)
      | digits => (false, digits)
    if digits.isEmpty || !digits.all Char.isDigit then none
    else
      let size : Int := ofDigits digits
      some (if isNegative then -size else size)
  | _ => none

/-- The digits before the point and behind it, and the power of ten, that unsigned characters
write. -/
def split? (characters : List Char) : Option (List Char × List Char × Int) :=
  let whole := characters.takeWhile Char.isDigit
  let afterWhole := characters.dropWhile Char.isDigit
  let (fraction, rest) :=
    match afterWhole with
    | '.' :: more => (more.takeWhile Char.isDigit, more.dropWhile Char.isDigit)
    | other => ([], other)
  if whole.isEmpty && fraction.isEmpty then none
  else (readPower? rest).map fun power => (whole, fraction, power)

/-- The decimal that unsigned characters write. -/
def readChars? (characters : List Char) : Option Decimal :=
  (split? characters).map fun (whole, fraction, power) =>
    ⟨ofDigits (whole ++ fraction), power - fraction.length⟩

end Decimal

namespace Binary64

/-- Why a text is not a number. -/
inductive Fault
  | empty
  | invalid
  deriving DecidableEq, Repr

/-- The text of a fault. -/
def Fault.message : Fault → String
  | .empty => "cannot parse float from empty string"
  | .invalid => "invalid float literal"

/-- The bits of what is not a number. -/
def quietNaNBits : Nat := infinityBits + Nat.pow 2 51

/-- The magnitude that unsigned characters write. -/
def readMagnitude? (characters : List Char) : Option Nat :=
  let word := characters.map Char.toLower
  if word = ['i', 'n', 'f'] ∨ word = ['i', 'n', 'f', 'i', 'n', 'i', 't', 'y'] then
    some infinityBits
  else if word = ['n', 'a', 'n'] then some quietNaNBits
  else (Decimal.readChars? characters).map ofDecimal

/-- The number that the characters write. -/
def readChars (characters : List Char) : Except Fault Binary64 :=
  let (isNegative, unsigned) :=
    match characters with
    | '-' :: rest => (true, rest)
    | '+' :: rest => (false, rest)
    | rest => (false, rest)
  if characters.isEmpty then .error .empty
  else
    match readMagnitude? unsigned with
    | some magnitude => .ok (ofSigned isNegative magnitude)
    | none => .error .invalid

/-- The number that a text writes. -/
def read (text : String) : Except Fault Binary64 := readChars text.toList

end Binary64

end Metering
