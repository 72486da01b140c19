/-
Whole numbers read from decimal text into a range. A sign may stand in front, a minus only
where the range has negative numbers; leading zeros are allowed. The digits are taken one by
one, so a text that leaves the range before its first bad character is out of range.
-/

namespace Metering.Whole

/-- Why a text is not a whole number of the range. -/
inductive Fault
  | empty
  | invalidDigit
  | tooLarge
  | tooSmall
  deriving DecidableEq, Repr

/-- The text of a fault. -/
def Fault.message : Fault → String
  | .empty => "cannot parse integer from empty string"
  | .invalidDigit => "invalid digit found in string"
  | .tooLarge => "number too large to fit in target type"
  | .tooSmall => "number too small to fit in target type"

/-- A range of whole numbers, both ends included. -/
structure Range where
  low : Int
  high : Int

/-- The numbers of 64 bits with a sign. -/
def Range.signed64 : Range := ⟨-Int.pow 2 63, Int.pow 2 63 - 1⟩

/-- The numbers of 64 bits without a sign. -/
def Range.unsigned64 : Range := ⟨0, Int.pow 2 64 - 1⟩

/-- The value of an ASCII digit. -/
def digit? (character : Char) : Option Nat :=
  if character.isDigit then some (character.toNat - 48) else none

/-- Appends digits to a total, towards the sign, and stops at the first step that fails. -/
def extend (range : Range) (negative : Bool) : Int → List Char → Except Fault Int
  | total, [] => .ok total
  | total, character :: rest =>
    match digit? character with
    | none => .error .invalidDigit
    | some digit =>
      let next := if negative then 10 * total - digit else 10 * total + digit
      if range.high < next then .error .tooLarge
      else if next < range.low then .error .tooSmall
      else extend range negative next rest

/-- The number of the range that the characters write. -/
def readChars (range : Range) : List Char → Except Fault Int
  | [] => .error .empty
  | ['+'] | ['-'] => .error .invalidDigit
  | '+' :: digits => extend range false 0 digits
  | '-' :: digits =>
    if range.low < 0 then extend range true 0 digits else .error .invalidDigit
  | digits => extend range false 0 digits

/-- The number of the range that a text writes. -/
def read (range : Range) (text : String) : Except Fault Int := readChars range text.toList

end Metering.Whole
