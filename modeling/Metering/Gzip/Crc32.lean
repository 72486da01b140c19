/-
The 32-bit cyclic redundancy check of gzip: division by a fixed polynomial with the bits of
every byte taken from the low end, started from all ones and inverted at the end. A table of
the remainders of single bytes takes a byte in one step.
-/

import Metering.Bytes

namespace Metering.Crc32

/-- One step of the division: shifts a bit out and subtracts the polynomial if it was set. -/
def shift (remainder : UInt32) : UInt32 :=
  if remainder &&& 1 = 1 then (remainder >>> 1) ^^^ 0xedb88320 else remainder >>> 1

/-- Eight steps. -/
def shiftByte (remainder : UInt32) : UInt32 :=
  shift (shift (shift (shift (shift (shift (shift (shift remainder)))))))

/-- The remainders of the single bytes. -/
def table : Array UInt32 := Array.ofFn fun index : Fin 256 => shiftByte index.val.toUInt32

/-- Takes one more byte into a remainder. -/
def update (remainder : UInt32) (byte : UInt8) : UInt32 :=
  table.getD ((remainder ^^^ byte.toUInt32) &&& 0xff).toNat 0 ^^^ (remainder >>> 8)

/-- The check of a sequence of bytes. -/
def ofBytes (bytes : Bytes) : UInt32 := bytes.foldl update 0xffffffff ^^^ 0xffffffff

end Metering.Crc32
