/-
Internet addresses read from text. Eight groups of at most four hexadecimal digits may leave
out a run of zero groups once, at a pair of colons, and may end in a dotted address in place of
two groups. What differs between the places where addresses stand is told by a form: whether a
decimal number may begin with a zero, and whether the pair of colons may leave out nothing.
-/

import Metering.Address.Ip

namespace Metering.Ip

/-- What the text of an address may look like. -/
structure Form where
  leadingZeros : Bool
  emptyGap : Bool

/-- Addresses on their own: no number begins with a needless zero, and a gap stands for at
least one group. -/
def Form.strict : Form := ⟨false, false⟩

/-- Addresses of networks. -/
def Form.network : Form := ⟨true, true⟩

/-! ### Numbers -/

/-- The value of a digit in a base of at most sixteen. -/
def digitOf? (base : Nat) (character : Char) : Option Nat :=
  if character.toNat < 128 then
    (Hex.half? (UInt8.ofNat character.toNat)).filter fun value => value < base
  else none

/-- The number that digits write. -/
def numberOf (base : Nat) (digits : List Char) : Nat :=
  digits.foldl (fun total digit => base * total + (digitOf? base digit).getD 0) 0

/-- The number at the front, of at most so many digits and below a limit, and what follows
its last digit. -/
def readNumber? (base most limit : Nat) (leadingZeros : Bool) (input : List Char) :
    Option (Nat × List Char) :=
  let digits := input.takeWhile fun character => (digitOf? base character).isSome
  let number := numberOf base digits
  if digits.isEmpty ∨ most < digits.length ∨ limit ≤ number then none
  else if !leadingZeros ∧ digits.head? = some '0' ∧ 1 < digits.length then none
  else some (number, input.drop digits.length)

/-- What follows a character at the front. -/
def readMark? (mark : Char) : List Char → Option (List Char)
  | [] => none
  | character :: rest => if character = mark then some rest else none

/-- What follows a separator at the front; none is wanted before the first of a row. -/
def readBetween? (mark : Char) (first : Bool) (input : List Char) : Option (List Char) :=
  if first then some input else readMark? mark input

/-! ### Version 4 -/

/-- The octet at the front. -/
def readOctet? (form : Form) (input : List Char) : Option (UInt8 × List Char) := do
  let (number, rest) ← readNumber? 10 3 256 form.leadingZeros input
  return (UInt8.ofNat number, rest)

/-- The dotted address at the front. -/
def readDotted? (form : Form) (input : List Char) : Option (Vector UInt8 4 × List Char) := do
  let (first, rest) ← readOctet? form input
  let (second, rest) ← readOctet? form (← readMark? '.' rest)
  let (third, rest) ← readOctet? form (← readMark? '.' rest)
  let (fourth, rest) ← readOctet? form (← readMark? '.' rest)
  return (#v[first, second, third, fourth], rest)

/-! ### Version 6 -/

/-- The two groups that a dotted address takes. -/
def groupsOfDotted (octets : Vector UInt8 4) : List UInt16 :=
  [UInt16.ofNat (256 * octets[0].toNat + octets[1].toNat),
    UInt16.ofNat (256 * octets[2].toNat + octets[3].toNat)]

/-- Groups between colons at the front of an input. -/
structure GroupRow where
  groups : List UInt16
  endsDotted : Bool
  rest : List Char

/-- The row of groups at the front, of at most so many groups; a dotted address ends it. -/
def readGroups (form : Form) : Bool → Nat → List Char → GroupRow
  | _, 0, input => ⟨[], false, input⟩
  | first, room + 1, input =>
    match (readBetween? ':' first input).bind fun rest =>
        if room = 0 then none else readDotted? form rest with
    | some (octets, rest) => ⟨groupsOfDotted octets, true, rest⟩
    | none =>
      match (readBetween? ':' first input).bind (readNumber? 16 4 65536 true) with
      | some (number, rest) =>
        let row := readGroups form false room rest
        { row with groups := UInt16.ofNat number :: row.groups }
      | none => ⟨[], false, input⟩

/-- Eight groups, zeros between the first and the last ones. -/
def fillGroups? (front back : List UInt16) : Option (Vector UInt16 8) :=
  let groups := front ++ List.replicate (8 - front.length - back.length) 0 ++ back
  if full : groups.toArray.size = 8 then some ⟨groups.toArray, full⟩ else none

/-- The eight groups at the front. -/
def readColons? (form : Form) (input : List Char) : Option (Vector UInt16 8 × List Char) :=
  let front := readGroups form true 8 input
  if front.groups.length = 8 then
    (fillGroups? front.groups []).map fun groups => (groups, front.rest)
  else if front.endsDotted then none
  else do
    let rest ← readMark? ':' (← readMark? ':' front.rest)
    let room := 8 - front.groups.length
    let back := readGroups form true (if form.emptyGap then room else room - 1) rest
    return (← fillGroups? front.groups back.groups, back.rest)

/-! ### Addresses -/

/-- The address that is a whole text. -/
def ofText? (text : String) : Option Ip :=
  let input := text.toList
  match readDotted? Form.strict input with
  | some (octets, []) => some (.v4 octets)
  | some _ => none
  | none =>
    match readColons? Form.strict input with
    | some (groups, []) => some (.v6 groups)
    | _ => none

end Metering.Ip
