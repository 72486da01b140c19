/-
Internet addresses of both versions, their numbers, and their text: four decimal numbers
between dots, or eight hexadecimal groups between colons with the first longest run of two or
more zero groups left out (RFC 5952). An address of version 6 that stands for one of version 4
ends in the dotted form.
-/

import Metering.Bytes
import Metering.Text.Hex

namespace Metering

/-- An internet address. -/
inductive Ip
  | v4 (octets : Vector UInt8 4)
  | v6 (groups : Vector UInt16 8)
  deriving DecidableEq, Repr

namespace Ip

/-! ### Numbers -/

/-- The bits of an address. -/
def width : Ip → Nat
  | .v4 _ => 32
  | .v6 _ => 128

/-- The number whose binary digits are the bits of the address. -/
def number : Ip → Nat
  | .v4 octets => octets.toList.foldl (fun total octet => 256 * total + octet.toNat) 0
  | .v6 groups => groups.toList.foldl (fun total group => 65536 * total + group.toNat) 0

/-- Whether two addresses are of one version and agree in so many leading bits. -/
def agreesFor (bits : Nat) (left right : Ip) : Bool :=
  left.width == right.width &&
    left.number / Nat.pow 2 (left.width - bits) ==
      right.number / Nat.pow 2 (right.width - bits)

/-! ### Text -/

/-- The four decimal numbers between dots. -/
def dotted (octets : List UInt8) : String :=
  String.intercalate "." (octets.map fun octet => toString octet.toNat)

/-- The hexadecimal groups between colons. -/
def colons (groups : List UInt16) : String :=
  String.intercalate ":" (groups.map fun group => Hex.ofNat group.toNat)

/-- The length of the run of zeros at the front. -/
def zeroRun (groups : List UInt16) : Nat := (groups.takeWhile (· == 0)).length

/-- The start and the length of the first longest run of zeros behind a position. -/
def longestRun : Nat → List UInt16 → Nat × Nat
  | position, [] => (position, 0)
  | position, group :: rest =>
    let later := longestRun (position + 1) rest
    let here := zeroRun (group :: rest)
    if later.2 ≤ here then (position, here) else later

/-- The address of version 4 that the groups stand for. -/
def mapped? : List UInt16 → Option (List UInt8)
  | [0, 0, 0, 0, 0, 0xffff, high, low] =>
    some [UInt8.ofNat (high.toNat / 256), UInt8.ofNat high.toNat,
      UInt8.ofNat (low.toNat / 256), UInt8.ofNat low.toNat]
  | _ => none

/-- The text of eight groups. -/
def groupsText (groups : List UInt16) : String :=
  match mapped? groups with
  | some octets => "::ffff:" ++ dotted octets
  | none =>
    let (start, length) := longestRun 0 groups
    if length < 2 then colons groups
    else colons (groups.take start) ++ "::" ++ colons (groups.drop (start + length))

/-- The text of an address. -/
def text : Ip → String
  | .v4 octets => dotted octets.toList
  | .v6 groups => groupsText groups.toList

end Ip

end Metering
