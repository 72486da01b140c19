/-
Elements in the distinguished encoding of ASN.1: one byte of tag, a length in its shortest
form, and as many bytes of content.
-/

import Metering.Bytes

namespace Metering.Der

/-- An element with the byte of its tag. -/
structure Element where
  tag : UInt8
  content : Bytes
  deriving DecidableEq, Repr

/-! ### Tags -/

/-- The tag of whole numbers. -/
def integerTag : UInt8 := 0x02

/-- The tag of bit strings. -/
def bitsTag : UInt8 := 0x03

/-- The tag of byte strings. -/
def octetsTag : UInt8 := 0x04

/-- The tag of nothing. -/
def nullTag : UInt8 := 0x05

/-- The tag of object identifiers. -/
def identifierTag : UInt8 := 0x06

/-- The tag of sequences. -/
def sequenceTag : UInt8 := 0x30

/-! ### Reading -/

/-- The length at the front and what follows it. -/
def readLength? : Bytes → Option (Nat × Bytes)
  | [] => none
  | first :: rest =>
    if first < 0x80 then some (first.toNat, rest)
    else do
      let count := first.toNat - 0x80
      let (digits, behind) ← Bytes.cut? count rest
      let length := Bytes.ofBigEndian digits
      if 1 ≤ count ∧ count ≤ 4 ∧ 0x80 ≤ length ∧ Nat.pow 256 (count - 1) ≤ length then
        some (length, behind)
      else none

/-- The element at the front and what follows it. -/
def readElement? : Bytes → Option (Element × Bytes)
  | [] => none
  | tag :: rest => do
    if tag % 32 = 31 then none
    else
      let (length, behind) ← readLength? rest
      let (content, others) ← Bytes.cut? length behind
      return (⟨tag, content⟩, others)

/-- The elements that fill the input, at most so many. -/
def readElements? : Nat → Bytes → Option (List Element)
  | _, [] => some []
  | 0, _ => none
  | most + 1, input => do
    let (element, rest) ← readElement? input
    return element :: (← readElements? most rest)

/-- The elements that fill the input. -/
def readAll? (input : Bytes) : Option (List Element) := readElements? input.length input

/-- The only element of the input, if it has a tag. -/
def readOnly? (tag : UInt8) (input : Bytes) : Option Bytes := do
  match ← readAll? input with
  | [element] => if element.tag = tag then some element.content else none
  | _ => none

/-- The elements of the sequence that is the input. -/
def readSequence? (input : Bytes) : Option (List Element) := do
  readAll? (← readOnly? sequenceTag input)

/-- The number of an element that holds one without a sign, in its shortest form. -/
def Element.natural? (element : Element) : Option Nat :=
  if element.tag ≠ integerTag then none
  else
    match element.content with
    | [] => none
    | [byte] => if byte < 0x80 then some byte.toNat else none
    | first :: second :: rest =>
      if first < 0x80 ∧ (first ≠ 0 ∨ 0x80 ≤ second) then
        some (Bytes.ofBigEndian (first :: second :: rest))
      else none

end Metering.Der
