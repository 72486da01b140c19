/-
Bytes read bit by bit, the low bit of a byte first.
-/

import Metering.Bytes

namespace Metering.Gzip

/-- What is left of an input: some bits of a byte that is under way, and whole bytes. -/
structure Bits where
  current : Nat
  left : Nat
  rest : Bytes

namespace Bits

/-- An input before its first bit. -/
def ofBytes (bytes : Bytes) : Bits := ⟨0, 0, bytes⟩

/-- The next bit as a number. -/
def bit? (bits : Bits) : Option (Nat × Bits) :=
  if bits.left = 0 then
    match bits.rest with
    | [] => none
    | byte :: rest => some (byte.toNat % 2, ⟨byte.toNat / 2, 7, rest⟩)
  else some (bits.current % 2, ⟨bits.current / 2, bits.left - 1, bits.rest⟩)

/-- The number of the next bits, the lowest first. -/
def take? : Nat → Bits → Option (Nat × Bits)
  | 0, bits => some (0, bits)
  | count + 1, bits => do
    let (low, behind) ← bits.bit?
    let (high, after) ← take? count behind
    return (low + 2 * high, after)

/-- The whole bytes behind the byte that is under way. -/
def aligned (bits : Bits) : Bytes := bits.rest

/-- The count of bits left. -/
def size (bits : Bits) : Nat := bits.left + 8 * bits.rest.length

end Bits

end Metering.Gzip
