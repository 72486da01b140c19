/-
Sums of counters. A counter is a whole number of 64 bits with a sign. The server adds only
where the exact sum is such a number; the agent holds a sum at the end of the range it ran
into.
-/

namespace Metering.Tally

/-- The least counter. -/
def least : Int := -Int.pow 2 63

/-- The greatest counter. -/
def greatest : Int := Int.pow 2 63 - 1

/-- The counter that a whole number is, if it is one. -/
def ofInt? (number : Int) : Option Int64 :=
  if least ≤ number ∧ number ≤ greatest then some (Int64.ofInt number) else none

/-- The exact sum, if it is a counter. -/
def checkedAdd? (left right : Int64) : Option Int64 := ofInt? (left.toInt + right.toInt)

/-- The sum, held at the ends of the range. -/
def saturatingAdd (left right : Int64) : Int64 :=
  Int64.ofInt (max least (min greatest (left.toInt + right.toInt)))

/-- The exact sum of several. -/
def exactSum (numbers : List Int64) : Int :=
  numbers.foldr (fun number sum => number.toInt + sum) 0

/-- The decimal text. -/
def text (number : Int64) : String := toString number.toInt

end Metering.Tally
