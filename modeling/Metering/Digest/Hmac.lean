/-
Keyed hashes (RFC 2104) over SHA-256. A key longer than a block is hashed first; the key is
filled up with zeros to a block and mixed with two constants, one for the hash of the message
and one for the hash of that hash.
-/

import Metering.Digest.Sha256

namespace Metering.Hmac

/-- The key as one block. -/
def blockKey (key : Bytes) : Bytes :=
  let short := if Sha256.blockSize < key.length then Sha256.hash key else key
  short ++ List.replicate (Sha256.blockSize - short.length) 0

/-- The keyed hash of a message. -/
def sign (key message : Bytes) : Bytes :=
  let block := blockKey key
  let inner := Sha256.hash (block.map (· ^^^ 0x36) ++ message)
  Sha256.hash (block.map (· ^^^ 0x5c) ++ inner)

@[simp] theorem length_sign (key message : Bytes) :
    (sign key message).length = Sha256.hashSize := by
  simp [sign]

end Metering.Hmac
