/-
Bodies of any length under an RSA key. A body is cut into the longest messages that a block
holds, the empty body into one empty message, and the encrypted blocks follow one another, each
of the size of the modulus. Opening is possible only for a positive number of whole blocks, and
fails as a whole when one block fails.
-/

import Metering.Chunks
import Metering.Cipher.Oaep
import Metering.Cipher.Rsa

namespace Metering

/-- Why a body cannot be sealed or opened. -/
inductive CipherError
  | badKey
  | keyTooSmall
  | wrongLength (length blockSize : Nat)
  | damagedBlock
  deriving DecidableEq, Repr

/-- The text of an error. -/
def CipherError.message : CipherError → String
  | .badKey => "Integrity: invalid RSA key: no key document"
  | .keyTooSmall => "Integrity: invalid RSA key: key too small for OAEP SHA-256"
  | .wrongLength length blockSize =>
    "Integrity: ciphertext length " ++ toString length ++
      " is not a multiple of block size " ++ toString blockSize
  | .damagedBlock => "Integrity: RSA error: decryption error"

namespace Rsa

/-! ### Sealing -/

/-- The longest message of a block. -/
def PublicKey.longestMessage (key : PublicKey) : Nat := key.blockSize - Oaep.overhead

/-- The block that a message is encrypted to. -/
def PublicKey.sealBlock (key : PublicKey) (seed : Oaep.Seed) (message : Bytes) : Bytes :=
  let padded := Bytes.ofBigEndian (Oaep.pad key.blockSize seed message)
  Bytes.bigEndian key.blockSize (power key.modulus padded key.exponent)

/-- The messages of a body. -/
def PublicKey.messages (key : PublicKey) (body : Bytes) : List Bytes :=
  if body.isEmpty then [[]] else chunksOf key.longestMessage body

/-- The sealed body; the seeds are counted by block. -/
def PublicKey.seal (key : PublicKey) (seeds : Nat → Oaep.Seed) (body : Bytes) :
    Except CipherError Bytes :=
  if key.longestMessage = 0 then .error .keyTooSmall
  else
    .ok ((key.messages body).zipIdx.flatMap fun (message, block) =>
      key.sealBlock (seeds block) message)

/-! ### Opening -/

/-- The message that a block was encrypted from. -/
def PrivateKey.openBlock? (key : PrivateKey) (block : Bytes) : Option Bytes :=
  let number := Bytes.ofBigEndian block
  if number < key.publicKey.modulus then
    Oaep.unpad? (Bytes.bigEndian key.blockSize (power key.publicKey.modulus number key.exponent))
  else none

/-- The message of a block, or the failure. -/
def PrivateKey.openBlock (key : PrivateKey) (block : Bytes) : Except CipherError Bytes :=
  match key.openBlock? block with
  | some message => .ok message
  | none => .error .damagedBlock

/-- The body that was sealed. -/
def PrivateKey.unseal (key : PrivateKey) (sealedBody : Bytes) : Except CipherError Bytes := do
  if sealedBody.isEmpty ∨ sealedBody.length % key.blockSize ≠ 0 then
    throw (.wrongLength sealedBody.length key.blockSize)
  return (← (chunksOf key.blockSize sealedBody).mapM key.openBlock).flatten

/-! ### Keys -/

/-- The public key in a text. -/
def PublicKey.ofPem (text : String) : Except CipherError PublicKey :=
  match PublicKey.ofPem? text with
  | some key => .ok key
  | none => .error .badKey

/-- The private key in a text. -/
def PrivateKey.ofPem (text : String) : Except CipherError PrivateKey :=
  match PrivateKey.ofPem? text with
  | some key => .ok key
  | none => .error .badKey

end Rsa

end Metering
