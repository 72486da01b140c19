/-
Variable-length whole numbers of the binary message format: seven bits a byte, the low ones
first, with the high bit set in every byte but the last. Ten bytes hold 64 bits, so the tenth
byte is at most one. Signed numbers are folded onto the unsigned ones, small magnitudes first.
-/

import Metering.Bytes

namespace Metering.Varint

/-- The bytes of a number, with at most so many bytes before the last one. -/
def encodeWithin : Nat → Nat → Bytes
  | 0, number => [UInt8.ofNat number]
  | more + 1, number =>
    if number < 128 then [UInt8.ofNat number]
    else UInt8.ofNat (128 + number % 128) :: encodeWithin more (number / 128)

/-- The bytes of a number below `2^64`. -/
def encode (number : Nat) : Bytes := encodeWithin 9 number

/-- The number at the front and the input behind it, with at most so many bytes before the
last one. -/
def readWithin? : Nat → Bytes → Option (Nat × Bytes)
  | _, [] => none
  | 0, byte :: rest => if byte.toNat ≤ 1 then some (byte.toNat, rest) else none
  | more + 1, byte :: rest =>
    if byte.toNat < 128 then some (byte.toNat, rest)
    else (readWithin? more rest).map fun (high, after) =>
      (byte.toNat - 128 + 128 * high, after)

/-- The number at the front and the input behind it. -/
def read? (input : Bytes) : Option (Nat × Bytes) := readWithin? 9 input

/-- The unsigned number of a signed one: even for the natural numbers, odd for the others. -/
def foldSign (number : Int) : Nat :=
  if 0 ≤ number then 2 * number.toNat else 2 * (-number).toNat - 1

/-- The signed number of an unsigned one. -/
def unfoldSign (number : Nat) : Int :=
  if number % 2 = 0 then (number / 2 : Nat) else -((number / 2 : Nat) : Int) - 1

theorem unfoldSign_foldSign (number : Int) : unfoldSign (foldSign number) = number := by
  unfold unfoldSign foldSign
  split <;> split <;> omega

end Metering.Varint
