/-
The SHA-256 hash (FIPS 180-4). The message is padded with a one bit, zeros and its length in
bits to a whole number of blocks of 64 bytes, and the blocks are worked into eight words of 32
bits one after the other.
-/

import Metering.Bytes

namespace Metering.Sha256

/-- The count of bytes in a block. -/
def blockSize : Nat := 64

/-- The count of bytes in a hash. -/
def hashSize : Nat := 32

/-- The eight words of a hash under way. -/
structure State where
  a : UInt32
  b : UInt32
  c : UInt32
  d : UInt32
  e : UInt32
  f : UInt32
  g : UInt32
  h : UInt32

/-- The words before the first block: fractions of the square roots of the first primes. -/
def initial : State :=
  ⟨0x6a09e667, 0xbb67ae85, 0x3c6ef372, 0xa54ff53a, 0x510e527f, 0x9b05688c, 0x1f83d9ab,
    0x5be0cd19⟩

/-- The constants of the rounds: fractions of the cube roots of the first primes. -/
def roundConstants : List UInt32 :=
  [0x428a2f98, 0x71374491, 0xb5c0fbcf, 0xe9b5dba5, 0x3956c25b, 0x59f111f1, 0x923f82a4,
    0xab1c5ed5, 0xd807aa98, 0x12835b01, 0x243185be, 0x550c7dc3, 0x72be5d74, 0x80deb1fe,
    0x9bdc06a7, 0xc19bf174, 0xe49b69c1, 0xefbe4786, 0x0fc19dc6, 0x240ca1cc, 0x2de92c6f,
    0x4a7484aa, 0x5cb0a9dc, 0x76f988da, 0x983e5152, 0xa831c66d, 0xb00327c8, 0xbf597fc7,
    0xc6e00bf3, 0xd5a79147, 0x06ca6351, 0x14292967, 0x27b70a85, 0x2e1b2138, 0x4d2c6dfc,
    0x53380d13, 0x650a7354, 0x766a0abb, 0x81c2c92e, 0x92722c85, 0xa2bfe8a1, 0xa81a664b,
    0xc24b8b70, 0xc76c51a3, 0xd192e819, 0xd6990624, 0xf40e3585, 0x106aa070, 0x19a4c116,
    0x1e376c08, 0x2748774c, 0x34b0bcb5, 0x391c0cb3, 0x4ed8aa4a, 0x5b9cca4f, 0x682e6ff3,
    0x748f82ee, 0x78a5636f, 0x84c87814, 0x8cc70208, 0x90befffa, 0xa4506ceb, 0xbef9a3f7,
    0xc67178f2]

/-- Turns the bits of a word to the right. -/
def rotate (word count : UInt32) : UInt32 := (word >>> count) ||| (word <<< (32 - count))

/-- One round with the sum of its constant and its word. -/
def round (state : State) (input : UInt32) : State :=
  let sum := rotate state.e 6 ^^^ rotate state.e 11 ^^^ rotate state.e 25
  let choice := (state.e &&& state.f) ^^^ (state.e.complement &&& state.g)
  let first := state.h + sum + choice + input
  let otherSum := rotate state.a 2 ^^^ rotate state.a 13 ^^^ rotate state.a 22
  let majority := (state.a &&& state.b) ^^^ (state.a &&& state.c) ^^^ (state.b &&& state.c)
  ⟨first + (otherSum + majority), state.a, state.b, state.c, state.d + first, state.e, state.f,
    state.g⟩

/-- The words of four bytes each, the highest byte first. -/
def words : Bytes → List UInt32
  | first :: second :: third :: fourth :: rest =>
    ((first.toUInt32 <<< 24) ||| (second.toUInt32 <<< 16) ||| (third.toUInt32 <<< 8) |||
      fourth.toUInt32) :: words rest
  | _ => []

/-- Extends the words of a block by so many more. -/
def extend : Nat → Array UInt32 → Array UInt32
  | 0, schedule => schedule
  | count + 1, schedule =>
    let past (back : Nat) : UInt32 := schedule.getD (schedule.size - back) 0
    let low := rotate (past 15) 7 ^^^ rotate (past 15) 18 ^^^ (past 15 >>> 3)
    let high := rotate (past 2) 17 ^^^ rotate (past 2) 19 ^^^ (past 2 >>> 10)
    extend count (schedule.push (past 16 + low + past 7 + high))

/-- Works a block into the words. -/
def compress (state : State) (block : Bytes) : State :=
  let schedule := extend 48 (words block).toArray
  let worked := (List.zipWith (· + ·) roundConstants schedule.toList).foldl round state
  ⟨state.a + worked.a, state.b + worked.b, state.c + worked.c, state.d + worked.d,
    state.e + worked.e, state.f + worked.f, state.g + worked.g, state.h + worked.h⟩

/-- The message with its padding: a whole number of blocks. -/
def pad (message : Bytes) : Bytes :=
  let zeros := (119 - message.length % blockSize) % blockSize
  message ++ 0x80 :: (List.replicate zeros 0 ++ Bytes.bigEndian 8 (8 * message.length))

/-- Works so many blocks into the words. -/
def compressBlocks : Nat → State → Bytes → State
  | 0, state, _ => state
  | count + 1, state, padded =>
    compressBlocks count (compress state (padded.take blockSize)) (padded.drop blockSize)

/-- The words one after the other. -/
def State.bytes (state : State) : Bytes :=
  [state.a, state.b, state.c, state.d, state.e, state.f, state.g, state.h].flatMap fun word =>
    Bytes.bigEndian 4 word.toNat

/-- The hash of a message. -/
def hash (message : Bytes) : Bytes :=
  let padded := pad message
  (compressBlocks (padded.length / blockSize) initial padded).bytes

@[simp] theorem length_hash (message : Bytes) : (hash message).length = hashSize := by
  simp [hash, State.bytes, Bytes.bigEndian, hashSize]

end Metering.Sha256
