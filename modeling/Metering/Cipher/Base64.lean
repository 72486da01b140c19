/-
Base64 text of bytes (RFC 4648): four characters for three bytes, six bits each. Reading wants
the padding, and wants the bits that the padding stands for to be zero, so bytes have only one
text.
-/

import Metering.Bytes

namespace Metering.Base64

/-- The six bits of a character. -/
def sextet? (character : UInt8) : Option Nat :=
  let code := character.toNat
  if 65 ≤ code ∧ code ≤ 90 then some (code - 65)
  else if 97 ≤ code ∧ code ≤ 122 then some (code - 71)
  else if 48 ≤ code ∧ code ≤ 57 then some (code + 4)
  else if code = 43 then some 62
  else if code = 47 then some 63
  else none

/-- The padding character. -/
def padding : UInt8 := 61

/-- The bytes of the last four characters, which may hold padding. -/
def decodeLast? (first second third fourth : UInt8) : Option Bytes := do
  let high := 64 * (← sextet? first) + (← sextet? second)
  if third = padding then
    if fourth = padding ∧ high % 16 = 0 then some (Bytes.bigEndian 1 (high / 16)) else none
  else
    let middle := 64 * high + (← sextet? third)
    if fourth = padding then
      if middle % 4 = 0 then some (Bytes.bigEndian 2 (middle / 4)) else none
    else some (Bytes.bigEndian 3 (64 * middle + (← sextet? fourth)))

/-- The bytes of a text. -/
def decode? : Bytes → Option Bytes
  | [] => some []
  | [first, second, third, fourth] => decodeLast? first second third fourth
  | first :: second :: third :: fourth :: rest => do
    let high := 64 * (← sextet? first) + (← sextet? second)
    let low := 64 * (← sextet? third) + (← sextet? fourth)
    return Bytes.bigEndian 3 (4096 * high + low) ++ (← decode? rest)
  | _ => none

end Metering.Base64
