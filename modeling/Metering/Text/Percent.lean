/-
Percent escapes: a percent sign and two hexadecimal digits stand for a byte. A percent sign
that no two digits follow stands for itself.
-/

import Metering.Text.Hex

namespace Metering.Percent

/-- The bytes with every escape replaced by the byte that it stands for. -/
def decode : Bytes → Bytes
  | 37 :: high :: low :: rest =>
    match Hex.half? high, Hex.half? low with
    | some front, some back => UInt8.ofNat (16 * front + back) :: decode rest
    | _, _ => 37 :: decode (high :: low :: rest)
  | byte :: rest => byte :: decode rest
  | [] => []

end Metering.Percent
