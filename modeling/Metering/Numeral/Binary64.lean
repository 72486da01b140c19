/-
Gauge readings are IEEE 754 double-precision numbers, held by their 64 bits: a sign, eleven
bits of exponent and fifty-two of fraction. Nothing here computes with them; they are stored,
compared, tested for being finite, and taken apart into a significand and a power of two.
-/

namespace Metering

/-- A double-precision number as its bits. -/
structure Binary64 where
  bits : UInt64
  deriving DecidableEq, Repr, Inhabited

namespace Binary64

/-- Whether the sign bit is set. -/
def negative (number : Binary64) : Bool := Nat.pow 2 63 ≤ number.bits.toNat

/-- The eleven bits of exponent. -/
def exponentField (number : Binary64) : Nat :=
  number.bits.toNat / Nat.pow 2 52 % Nat.pow 2 11

/-- The fifty-two bits of fraction. -/
def fraction (number : Binary64) : Nat := number.bits.toNat % Nat.pow 2 52

/-- Neither infinite nor not a number. -/
def isFinite (number : Binary64) : Bool := number.exponentField != Nat.pow 2 11 - 1

/-- Not a number. -/
def isNaN (number : Binary64) : Bool := !number.isFinite && number.fraction != 0

/-- One of the two zeros. -/
def isZero (number : Binary64) : Bool := number.bits.toNat % Nat.pow 2 63 == 0

/-- Equality of the numbers meant: the zeros are equal, and what is not a number is equal to
nothing. -/
def agrees (left right : Binary64) : Bool :=
  !left.isNaN && !right.isNaN && ((left.isZero && right.isZero) || left.bits == right.bits)

/-- The number with the sign of a zero dropped. -/
def unsignedZero (number : Binary64) : Binary64 := if number.isZero then ⟨0⟩ else number

/-- The whole significand of a finite number. -/
def significand (number : Binary64) : Nat :=
  if number.exponentField = 0 then number.fraction else number.fraction + Nat.pow 2 52

/-- The power of two that the significand of a finite number counts. -/
def scale (number : Binary64) : Int :=
  if number.exponentField = 0 then -1074 else (number.exponentField : Int) - 1075

/-- The bits of the infinities, without the sign. -/
def infinityBits : Nat := (Nat.pow 2 11 - 1) * Nat.pow 2 52

/-- The number with a sign and the other sixty-three bits. -/
def ofSigned (isNegative : Bool) (magnitude : Nat) : Binary64 :=
  ⟨UInt64.ofNat (if isNegative then Nat.pow 2 63 + magnitude else magnitude)⟩

end Binary64

end Metering
