/-
Decompression of deflate streams (RFC 1951). A stream is a sequence of blocks: stored bytes, or
symbols of a fixed code, or symbols of codes that the block describes first. A symbol is a
byte, the end of the block, or a length that is followed by a distance: so many bytes are
copied from so far back in the output. A distance that reaches back before the output meets the
zeros of the empty window. Output produced before a fault is kept.
-/

import Metering.Gzip.Huffman

namespace Metering.Gzip

/-- The bytes written so far, and the input behind or the reason to stop. -/
abbrev Progress (Input : Type) := Array UInt8 × Except Halt Input

/-- The base and the count of extra bits of each length symbol from 257 on. -/
def lengthTable : Array (Nat × Nat) :=
  #[(3, 0), (4, 0), (5, 0), (6, 0), (7, 0), (8, 0), (9, 0), (10, 0), (11, 1), (13, 1), (15, 1),
    (17, 1), (19, 2), (23, 2), (27, 2), (31, 2), (35, 3), (43, 3), (51, 3), (59, 3), (67, 4),
    (83, 4), (99, 4), (115, 4), (131, 5), (163, 5), (195, 5), (227, 5), (258, 0)]

/-- The base and the count of extra bits of each distance symbol. -/
def distanceTable : Array (Nat × Nat) :=
  #[(1, 0), (2, 0), (3, 0), (4, 0), (5, 1), (7, 1), (9, 2), (13, 2), (17, 3), (25, 3), (33, 4),
    (49, 4), (65, 5), (97, 5), (129, 6), (193, 6), (257, 7), (385, 7), (513, 8), (769, 8),
    (1025, 9), (1537, 9), (2049, 10), (3073, 10), (4097, 11), (6145, 11), (8193, 12),
    (12289, 12), (16385, 13), (24577, 13)]

/-- A number of so many bits. -/
def takeBits (count : Nat) (bits : Bits) : Except Halt (Nat × Bits) :=
  match bits.take? count with
  | some taken => .ok taken
  | none => .error .truncated

/-- The number that a symbol of a table and its extra bits mean. -/
def takeExtended (table : Array (Nat × Nat)) (index : Nat) (bits : Bits) :
    Except Halt (Nat × Bits) :=
  match table[index]? with
  | none => .error .corrupt
  | some (base, extra) => do
    let (more, behind) ← takeBits extra bits
    return (base + more, behind)

/-- Copies so many bytes from a distance back, one after the other. -/
def copyBack (distance : Nat) : Nat → Array UInt8 → Array UInt8
  | 0, output => output
  | count + 1, output =>
    let byte := if distance ≤ output.size then output.getD (output.size - distance) 0 else 0
    copyBack distance count (output.push byte)

/-- What a symbol of a block asks for. -/
inductive Token
  | literal (byte : UInt8)
  | copy (count distance : Nat)
  | endOfBlock

/-- The next symbol with what belongs to it. -/
def takeToken (literals distances : Code) (bits : Bits) : Except Halt (Token × Bits) := do
  let (symbol, behind) ← literals.decode bits
  if symbol < 256 then return (.literal (UInt8.ofNat symbol), behind)
  else if symbol = 256 then return (.endOfBlock, behind)
  else
    let (count, afterCount) ← takeExtended lengthTable (symbol - 257) behind
    let (index, afterIndex) ← distances.decode afterCount
    let (distance, after) ← takeExtended distanceTable index afterIndex
    return (.copy count distance, after)

/-- The symbols of a block up to its end. The first argument bounds their count. -/
def inflateSymbols (literals distances : Code) :
    Nat → Array UInt8 → Bits → Progress Bits
  | 0, output, _ => (output, .error .truncated)
  | symbols + 1, output, bits =>
    match takeToken literals distances bits with
    | .error halt => (output, .error halt)
    | .ok (.literal byte, behind) =>
      inflateSymbols literals distances symbols (output.push byte) behind
    | .ok (.copy count distance, behind) =>
      inflateSymbols literals distances symbols (copyBack distance count output) behind
    | .ok (.endOfBlock, behind) => (output, .ok behind)

/-- Stored bytes: their count, its complement, and the bytes. -/
def inflateStored (output : Array UInt8) (bits : Bits) : Progress Bits :=
  match bits.aligned with
  | low :: high :: lowCheck :: highCheck :: content =>
    let count := low.toNat + 256 * high.toNat
    if lowCheck.toNat + 256 * highCheck.toNat ≠ 65535 - count then (output, .error .corrupt)
    else
      let written := output ++ (content.take count).toArray
      if content.length < count then (written, .error .truncated)
      else (written, .ok (Bits.ofBytes (content.drop count)))
  | _ => (output, .error .truncated)

/-- The lengths of the words of the fixed code. -/
def fixedLengths : List Nat :=
  List.replicate 144 8 ++ List.replicate 112 9 ++ List.replicate 24 7 ++ List.replicate 8 8

/-- The fixed code. -/
def fixedLiterals : Code := Code.ofLengths fixedLengths

/-- The fixed code of the distances. -/
def fixedDistances : Code := Code.ofLengths (List.replicate 32 5)

/-- The order in which a block gives the lengths of the code of code lengths. -/
def lengthOrder : List Nat := [16, 17, 18, 0, 8, 7, 9, 6, 10, 5, 11, 4, 12, 3, 13, 2, 14, 1, 15]

/-- So many numbers of three bits. -/
def takeTriples : Nat → Bits → Except Halt (List Nat × Bits)
  | 0, bits => .ok ([], bits)
  | count + 1, bits => do
    let (first, behind) ← takeBits 3 bits
    let (others, after) ← takeTriples count behind
    return (first :: others, after)

/-- The lengths of the words of a block's codes, the last first, until there are `wanted`. The
symbols 16 to 18 repeat the last length or zero. The first argument bounds the count of
symbols. -/
def takeLengths (code : Code) (wanted : Nat) :
    Nat → List Nat → Nat → Bits → Except Halt (List Nat × Bits)
  | 0, _, _, _ => .error .truncated
  | symbols + 1, done, count, bits =>
    if wanted = count then .ok (done, bits)
    else if wanted < count then .error .corrupt
    else do
      let (symbol, behind) ← code.decode bits
      if symbol < 16 then takeLengths code wanted symbols (symbol :: done) (count + 1) behind
      else if symbol = 16 then
        match done with
        | [] => .error .corrupt
        | last :: _ =>
          let (more, after) ← takeBits 2 behind
          takeLengths code wanted symbols (List.replicate (3 + more) last ++ done)
            (count + 3 + more) after
      else
        let (base, extra) := if symbol = 17 then (3, 3) else (11, 7)
        let (more, after) ← takeBits extra behind
        takeLengths code wanted symbols (List.replicate (base + more) 0 ++ done)
          (count + base + more) after

/-- The codes that a block describes. -/
def takeCodes (bits : Bits) : Except Halt (Code × Code × Bits) := do
  let (moreLiterals, afterLiterals) ← takeBits 5 bits
  let (moreDistances, afterDistances) ← takeBits 5 afterLiterals
  let (moreLengths, afterCounts) ← takeBits 4 afterDistances
  let (triples, afterTriples) ← takeTriples (4 + moreLengths) afterCounts
  let given := lengthOrder.zip triples
  let lengthLengths := (List.range 19).map fun symbol => (given.lookup symbol).getD 0
  if !Code.isComplete false lengthLengths then .error .corrupt
  else
    let literalCount := 257 + moreLiterals
    let wanted := literalCount + 1 + moreDistances
    let (reversed, after) ←
      takeLengths (Code.ofLengths lengthLengths) wanted (wanted + 1) [] 0 afterTriples
    let lengths := reversed.reverse
    let literals := lengths.take literalCount
    let distances := lengths.drop literalCount
    if Code.isComplete true literals && Code.isComplete true distances then
      return (Code.ofLengths literals, Code.ofLengths distances, after)
    else .error .corrupt

/-- The content of a block of a form. -/
def inflateBlock (form : Nat) (output : Array UInt8) (bits : Bits) : Progress Bits :=
  if form = 0 then inflateStored output bits
  else if form = 1 then
    inflateSymbols fixedLiterals fixedDistances (bits.size + 1) output bits
  else if form = 2 then
    match takeCodes bits with
    | .error halt => (output, .error halt)
    | .ok (literals, distances, behind) =>
      inflateSymbols literals distances (behind.size + 1) output behind
  else (output, .error .corrupt)

/-- The blocks up to the one that is marked as the last, and the input behind it. The first
argument bounds their count. -/
def inflateBlocks : Nat → Array UInt8 → Bits → Progress Bytes
  | 0, output, _ => (output, .error .truncated)
  | blocks + 1, output, bits =>
    match takeBits 3 bits with
    | .error halt => (output, .error halt)
    | .ok (header, behind) =>
      match inflateBlock (header / 2) output behind with
      | (written, .error halt) => (written, .error halt)
      | (written, .ok after) =>
        if header % 2 = 1 then (written, .ok after.aligned)
        else inflateBlocks blocks written after

/-- Decompresses the stream at the front of an input. -/
def inflate (input : Bytes) : Progress Bytes :=
  inflateBlocks (8 * input.length + 1) #[] (Bits.ofBytes input)

end Metering.Gzip
