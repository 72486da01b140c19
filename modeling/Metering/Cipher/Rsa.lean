/-
RSA keys: the two kinds, what makes their numbers fit, and the documents they come in. A
private key is read from a block of PKCS #8 or else of PKCS #1, a public key from a block that
names the algorithm or else from the bare pair of numbers.
-/

import Metering.Cipher.Der
import Metering.Cipher.Pem

namespace Metering.Rsa

/-- A public key. -/
structure PublicKey where
  modulus : Nat
  exponent : Nat
  deriving DecidableEq, Repr

/-- A private key: the public one, the exponent that undoes its own, and the factors of the
modulus. -/
structure PrivateKey where
  publicKey : PublicKey
  exponent : Nat
  firstFactor : Nat
  secondFactor : Nat
  deriving DecidableEq, Repr

/-! ### Fitting numbers -/

/-- The bytes that a number needs. -/
def byteCount (number : Nat) : Nat := if number = 0 then 0 else Nat.log2 number / 8 + 1

/-- The most bits a modulus may have. -/
def largestModulus : Nat := 4096

/-- The greatest public exponent. -/
def greatestExponent : Nat := Nat.pow 2 33 - 1

/-- The bytes of a block. -/
def PublicKey.blockSize (key : PublicKey) : Nat := byteCount key.modulus

/-- The bytes of a block. -/
def PrivateKey.blockSize (key : PrivateKey) : Nat := key.publicKey.blockSize

/-- Whether the numbers of a public key fit. -/
def PublicKey.isSound (key : PublicKey) : Bool :=
  key.modulus < Nat.pow 2 largestModulus && key.modulus % 2 == 1 && key.exponent < key.modulus &&
    key.exponent % 2 == 1 && 2 ≤ key.exponent && key.exponent ≤ greatestExponent

/-- Whether the private exponent undoes the public one for a factor of the modulus. -/
def PrivateKey.undoesFor (key : PrivateKey) (factor : Nat) : Bool :=
  2 ≤ factor && key.publicKey.exponent * key.exponent % (factor - 1) == 1

/-- Whether the numbers of a private key fit. -/
def PrivateKey.isSound (key : PrivateKey) : Bool :=
  key.publicKey.isSound && key.firstFactor * key.secondFactor == key.publicKey.modulus &&
    key.undoesFor key.firstFactor && key.undoesFor key.secondFactor

/-! ### Powers -/

/-- A power modulo a number, halving an exponent of at most so many bits. -/
def powerBits (modulus : Nat) : Nat → Nat → Nat → Nat
  | 0, _, _ => 1 % modulus
  | bits + 1, base, exponent =>
    let square := powerBits modulus bits (base * base % modulus) (exponent / 2)
    if exponent % 2 = 1 then base * square % modulus else square

/-- A power modulo a number. -/
def power (modulus base exponent : Nat) : Nat :=
  powerBits modulus (Nat.log2 exponent + 1) base exponent

/-! ### Documents -/

/-- The identifier of the algorithm and its parameters, which are nothing. -/
def algorithm : List Der.Element :=
  [⟨Der.identifierTag, [0x2a, 0x86, 0x48, 0x86, 0xf7, 0x0d, 0x01, 0x01, 0x01]⟩,
    ⟨Der.nullTag, []⟩]

/-- Whether an element names the algorithm. -/
def namesAlgorithm (element : Der.Element) : Bool :=
  element.tag == Der.sequenceTag && Der.readAll? element.content == some algorithm

/-- A sound public key. -/
def PublicKey.checked? (key : PublicKey) : Option PublicKey :=
  if key.isSound then some key else none

/-- A sound private key. -/
def PrivateKey.checked? (key : PrivateKey) : Option PrivateKey :=
  if key.isSound then some key else none

/-- The public key in a bare pair of numbers. -/
def PublicKey.ofPair? (input : Bytes) : Option PublicKey := do
  match ← (← Der.readSequence? input).mapM Der.Element.natural? with
  | [modulus, exponent] => PublicKey.checked? ⟨modulus, exponent⟩
  | _ => none

/-- The public key in a document that names the algorithm. -/
def PublicKey.ofNamed? (input : Bytes) : Option PublicKey := do
  match ← Der.readSequence? input with
  | [name, key] =>
    match key.content with
    | 0 :: pair =>
      if namesAlgorithm name ∧ key.tag = Der.bitsTag then PublicKey.ofPair? pair else none
    | _ => none
  | _ => none

/-- The private key in a list of its numbers, of which the last three, made for speed, are
not used. -/
def PrivateKey.ofNumbers? (input : Bytes) : Option PrivateKey := do
  match ← (← Der.readSequence? input).mapM Der.Element.natural? with
  | [0, modulus, publicExponent, exponent, firstFactor, secondFactor, _, _, _] =>
    PrivateKey.checked? ⟨⟨modulus, publicExponent⟩, exponent, firstFactor, secondFactor⟩
  | _ => none

/-- Whether a tag is that of an attachment with a number. -/
def attaches (number : UInt8) (element : Der.Element) : Bool :=
  element.tag / 64 == 2 && element.tag % 32 == number

/-- Whether an element wraps exactly one other as an attachment. -/
def wrapsOne (element : Der.Element) : Bool :=
  element.tag / 32 == 5 && (Der.readAll? element.content).any fun inner => inner.length == 1

/-- Whether the attachments behind a key fit the version of its document: from version 1 on
the public key is among them, and none is unknown. -/
def attachmentsFit (version : Nat) (attachments : List Der.Element) : Bool :=
  match attachments.dropWhile (attaches 0), version with
  | key :: others, 1 => key.tag == 0x81 && !key.content.isEmpty && others.all wrapsOne
  | others, 0 => others.all fun other => wrapsOne other && !attaches 1 other
  | _, _ => false

/-- The private key in a document that names the algorithm. -/
def PrivateKey.ofNamed? (input : Bytes) : Option PrivateKey := do
  match ← Der.readSequence? input with
  | version :: name :: numbers :: attachments =>
    if namesAlgorithm name ∧ numbers.tag = Der.octetsTag ∧
        attachmentsFit (← version.natural?) attachments then
      PrivateKey.ofNumbers? numbers.content
    else none
  | _ => none

/-- The public key in a text. -/
def PublicKey.ofPem? (text : String) : Option PublicKey :=
  let input := Bytes.ofText text
  ((Pem.decode? "PUBLIC KEY" input).bind ofNamed?).or
    ((Pem.decode? "RSA PUBLIC KEY" input).bind ofPair?)

/-- The private key in a text. -/
def PrivateKey.ofPem? (text : String) : Option PrivateKey :=
  let input := Bytes.ofText text
  ((Pem.decode? "PRIVATE KEY" input).bind ofNamed?).or
    ((Pem.decode? "RSA PRIVATE KEY" input).bind ofNumbers?)

end Metering.Rsa
