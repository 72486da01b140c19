/-
Canonical prefix codes. A code is given by the length of each symbol's word, zero for symbols
without one; words of one length are consecutive numbers in the order of the symbols, and they
follow the shorter words. A word is read from its high bit on.
-/

import Metering.Gzip.Bits

namespace Metering.Gzip

/-- Why decompression stops early. -/
inductive Halt
  | truncated
  | corrupt
  deriving DecidableEq, Repr

/-- The longest word of a code. -/
def longestWord : Nat := 15

/-- A prefix code: for each length the count of its words, and all symbols that have a word in
the order of the words. -/
structure Code where
  counts : Array Nat
  symbols : Array Nat

namespace Code

/-- How many symbols have words of a length. -/
def countOf (lengths : List Nat) (length : Nat) : Nat :=
  (lengths.filter (· == length)).length

/-- The code of the lengths of the symbols' words. -/
def ofLengths (lengths : List Nat) : Code :=
  let numbered := lengths.zipIdx
  { counts := ((List.range (longestWord + 1)).map fun length =>
      if length = 0 then 0 else countOf lengths length).toArray
    symbols := ((List.range longestWord).flatMap fun before =>
      (numbered.filter fun entry => entry.1 == before + 1).map (·.2)).toArray }

/-- The share of all words of the longest length that the words of a code take up. -/
def share (lengths : List Nat) : Nat :=
  (lengths.map fun length => if length = 0 then 0 else Nat.pow 2 (longestWord - length)).foldl
    (· + ·) 0

/-- Whether the words leave nothing over and do not collide; a code with a single word or none
may leave something over where that is allowed. -/
def isComplete (mayBeSingle : Bool) (lengths : List Nat) : Bool :=
  share lengths == Nat.pow 2 longestWord ||
    (mayBeSingle && (lengths.filter (· != 0)).length ≤ 1)

/-- Reads on in a word: how many bits it may still have, its length so far, its number, the
number of the first word of that length, and how many words are shorter. -/
def decodeFrom (code : Code) : Nat → Nat → Nat → Nat → Nat → Bits → Except Halt (Nat × Bits)
  | 0, _, _, _, _, _ => .error .corrupt
  | more + 1, length, number, first, shorter, bits =>
    match bits.bit? with
    | none => .error .truncated
    | some (bit, behind) =>
      let word := number + bit
      let count := code.counts.getD length 0
      if word < first + count then
        .ok (code.symbols.getD (shorter + (word - first)) 0, behind)
      else
        decodeFrom code more (length + 1) (2 * word) (2 * (first + count)) (shorter + count)
          behind

/-- The symbol whose word comes next. -/
def decode (code : Code) (bits : Bits) : Except Halt (Nat × Bits) :=
  code.decodeFrom longestWord 1 0 0 0 bits

end Code

end Metering.Gzip
