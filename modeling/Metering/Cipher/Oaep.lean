/-
The padding that RSA encrypts (OAEP with SHA-256, RFC 8017): a block is a zero byte, a masked
seed and a masked data part. The data part is the hash of the empty label, zeros, a one and the
message; each of the two parts masks the other.
-/

import Metering.Digest.Sha256

namespace Metering.Oaep

/-- The bytes of a block that are not for the message: two hashes and two marks. -/
def overhead : Nat := 2 * Sha256.hashSize + 2

/-- The random bytes that go into a block. -/
abbrev Seed := Vector UInt8 Sha256.hashSize

/-- So many bytes of mask grown from a source: the hashes of the source with a running
number. -/
def mask (source : Bytes) (count : Nat) : Bytes :=
  ((List.range (count / Sha256.hashSize + 1)).flatMap fun number =>
    Sha256.hash (source ++ Bytes.bigEndian 4 number)).take count

/-- Bytes under the mask of a source; a second time takes the mask off. -/
def masked (source bytes : Bytes) : Bytes :=
  bytes.zipWith (· ^^^ ·) (mask source bytes.length)

/-- The hash of the empty label. -/
def labelHash : Bytes := Sha256.hash []

/-- The data part for a message that leaves so many bytes free. -/
def dataPart (free : Nat) (message : Bytes) : Bytes :=
  labelHash ++ List.replicate free 0 ++ 1 :: message

/-- The block of a size for a message. -/
def pad (size : Nat) (seed : Seed) (message : Bytes) : Bytes :=
  let hidden := masked seed.toList (dataPart (size - overhead - message.length) message)
  0 :: (masked hidden seed.toList ++ hidden)

/-- The message in a data part. -/
def messageOf? (dataPart : Bytes) : Option Bytes :=
  if dataPart.take Sha256.hashSize = labelHash then
    match (dataPart.drop Sha256.hashSize).dropWhile (· == 0) with
    | 1 :: message => some message
    | _ => none
  else none

/-- The message in a block. -/
def unpad? (block : Bytes) : Option Bytes :=
  match block with
  | 0 :: rest =>
    if overhead ≤ block.length then
      let hidden := rest.drop Sha256.hashSize
      messageOf? (masked (masked hidden (rest.take Sha256.hashSize)) hidden)
    else none
  | _ => none

end Metering.Oaep
