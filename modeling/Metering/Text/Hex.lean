/-
Hexadecimal text of bytes: two lower-case digits a byte, the high half first. Reading takes
either letter case and names what is wrong: an odd count of digits before anything else, then
the first byte that is no digit, with its position.
-/

import Metering.Bytes

namespace Metering.Hex

/-- The digit of a half byte. -/
def digit (half : Nat) : Char :=
  if half < 10 then Char.ofNat (48 + half) else Char.ofNat (87 + half)

/-- The half byte of an ASCII digit in either letter case. -/
def half? (byte : UInt8) : Option Nat :=
  let code := byte.toNat
  if 48 ≤ code ∧ code ≤ 57 then some (code - 48)
  else if 97 ≤ code ∧ code ≤ 102 then some (code - 87)
  else if 65 ≤ code ∧ code ≤ 70 then some (code - 55)
  else none

/-- The text of bytes. -/
def encode (bytes : Bytes) : String :=
  String.ofList (bytes.flatMap fun byte => [digit (byte.toNat / 16), digit (byte.toNat % 16)])

/-- Why a text is not the hexadecimal text of bytes. -/
inductive Fault
  | oddLength
  | invalidDigit (byte : UInt8) (position : Nat)
  deriving DecidableEq, Repr

/-- Number in hexadecimal digits, without leading zeros. -/
def ofNat (number : Nat) : String := String.ofList (Nat.toDigits 16 number)

/-- A byte shown as its Latin-1 character between apostrophes. Characters without a picture of
their own, the apostrophe and the backslash are escaped. -/
def shown (byte : UInt8) : String :=
  let code := byte.toNat
  let inner :=
    if code = 0 then "\\0"
    else if code = 9 then "\\t"
    else if code = 10 then "\\n"
    else if code = 13 then "\\r"
    else if code = 39 then "\\'"
    else if code = 92 then "\\\\"
    else if code < 32 ∨ (127 ≤ code ∧ code ≤ 160) ∨ code = 173 then
      "\\u\x7b" ++ ofNat code ++ "\x7d"
    else String.singleton (Char.ofNat code)
  "'" ++ inner ++ "'"

/-- The text of a fault. -/
def Fault.message : Fault → String
  | .oddLength => "Odd number of digits"
  | .invalidDigit byte position =>
    "Invalid character " ++ shown byte ++ " at position " ++ toString position

/-- The bytes of an even count of digits. -/
def decodePairs (position : Nat) : Bytes → Except Fault Bytes
  | high :: low :: rest =>
    match half? high, half? low with
    | none, _ => .error (.invalidDigit high position)
    | some _, none => .error (.invalidDigit low (position + 1))
    | some front, some back => do
      let others ← decodePairs (position + 2) rest
      return UInt8.ofNat (16 * front + back) :: others
  | _ => .ok []

/-- The bytes of a hexadecimal text, given as its own bytes. -/
def decode (text : Bytes) : Except Fault Bytes :=
  if text.length % 2 = 1 then .error .oddLength else decodePairs 0 text

end Metering.Hex
