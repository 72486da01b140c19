/-
Tags that vouch for a body: the keyed hash of the body under a shared secret, in hexadecimal.
A tag is checked without the blanks around it and in either letter case, and it has to be the
whole hash.
-/

import Metering.Digest.Hmac
import Metering.Text.Blank
import Metering.Text.Hex

namespace Metering

/-- The shared secret of the signer and the checker. -/
structure SigningKey where
  secret : Bytes
  deriving DecidableEq

/-- Why a tag does not vouch for a body. -/
inductive TagError
  | mismatch
  | malformed (fault : Hex.Fault)
  deriving DecidableEq, Repr

/-- The text of an error. -/
def TagError.message : TagError → String
  | .mismatch => "Integrity: body hash mismatch"
  | .malformed fault => "Integrity: malformed hash header: " ++ fault.message

namespace SigningKey

/-- The key of a secret text. -/
def ofText (secret : String) : SigningKey := ⟨Bytes.ofText secret⟩

/-- What may be shown of a key. -/
def shown (_ : SigningKey) : String := "HashKey(..)"

/-- The tag of a body. -/
def tag (key : SigningKey) (body : Bytes) : String := Hex.encode (Hmac.sign key.secret body)

/-- Checks that a tag vouches for a body. -/
def verify (key : SigningKey) (body : Bytes) (tag : String) : Except TagError Unit :=
  match Hex.decode (Bytes.ofText (Text.trim tag)) with
  | .error fault => .error (.malformed fault)
  | .ok hash => if hash = Hmac.sign key.secret body then .ok () else .error .mismatch

end SigningKey

end Metering
