/-
What was encrypted under one of two keys that belong together is decrypted by the other one. The
powers undo each other modulo each of the prime factors of the modulus, hence modulo the modulus,
and a padded message is a number below the modulus because its block starts with a zero.
-/

import Mathlib.Data.Nat.ChineseRemainder
import Mathlib.FieldTheory.Finite.Basic
import Mathlib.NumberTheory.LucasLehmer
import Metering.Cipher.Envelope
import Metering.Proofs.Cipher.Oaep

namespace Metering.Rsa

/-! ### Powers -/

theorem powerBits_eq {bits exponent : Nat} (fits : exponent < 2 ^ bits) (modulus base : Nat) :
    powerBits modulus bits base exponent = base ^ exponent % modulus := by
  induction bits generalizing base exponent with
  | zero =>
    obtain rfl : exponent = 0 := Nat.lt_one_iff.mp fits
    rfl
  | succ bits inductionHypothesis =>
    have half : exponent / 2 < 2 ^ bits := by
      rw [Nat.pow_succ] at fits
      omega
    have square : powerBits modulus bits (base * base % modulus) (exponent / 2) =
        base ^ (2 * (exponent / 2)) % modulus := by
      rw [inductionHypothesis half, ← Nat.pow_mod, ← pow_two, ← pow_mul]
    rw [powerBits, square]
    split
    · next odd =>
      have isPower : base ^ exponent = base * base ^ (2 * (exponent / 2)) := by
        rw [← pow_succ']
        congr 1
        omega
      rw [isPower, Nat.mul_mod_mod]
    · next even =>
      have isHalf : 2 * (exponent / 2) = exponent := by omega
      rw [isHalf]

theorem power_eq (modulus base exponent : Nat) :
    power modulus base exponent = base ^ exponent % modulus :=
  powerBits_eq Nat.lt_log2_self modulus base

/-! ### Keys that belong together -/

/-- A private key with fitting numbers and two different primes for factors. -/
structure PrivateKey.Matched (key : PrivateKey) : Prop where
  sound : key.isSound = true
  firstPrime : key.firstFactor.Prime
  secondPrime : key.secondFactor.Prime
  different : key.firstFactor ≠ key.secondFactor

/-- Modulo a prime, an exponent that is one more than a multiple of its predecessor does
nothing. -/
theorem pow_modEq_self {prime exponent : Nat} (isPrime : prime.Prime)
    (undoes : exponent % (prime - 1) = 1) (base : Nat) : base ^ exponent ≡ base [MOD prime] := by
  have split : exponent = (prime - 1) * (exponent / (prime - 1)) + 1 := by
    conv_lhs => rw [← Nat.div_add_mod exponent (prime - 1), undoes]
  by_cases divides : prime ∣ base
  · have zero : base ≡ 0 [MOD prime] := (Nat.modEq_zero_iff_dvd).mpr divides
    have zeroPower : base ^ exponent ≡ 0 [MOD prime] := by
      rw [split, pow_succ]
      exact (Nat.modEq_zero_iff_dvd).mpr (Dvd.dvd.mul_left divides _)
    exact zeroPower.trans zero.symm
  · have coprime : base.Coprime prime := ((isPrime.coprime_iff_not_dvd).mpr divides).symm
    have one : base ^ (prime - 1) ≡ 1 [MOD prime] := by
      rw [← Nat.totient_prime isPrime]
      exact Nat.ModEq.pow_totient coprime
    have ones : (base ^ (prime - 1)) ^ (exponent / (prime - 1)) * base ≡ base [MOD prime] := by
      have raised := (one.pow (exponent / (prime - 1))).mul_right base
      rwa [one_pow, one_mul] at raised
    rw [split, pow_succ, pow_mul]
    exact ones

variable {key : PrivateKey}

theorem PrivateKey.Matched.factors (matched : key.Matched) :
    key.firstFactor * key.secondFactor = key.publicKey.modulus := by
  have sound := matched.sound
  simp only [isSound, Bool.and_eq_true, beq_iff_eq] at sound
  exact sound.1.1.2

theorem PrivateKey.Matched.undoes (matched : key.Matched) :
    key.publicKey.exponent * key.exponent % (key.firstFactor - 1) = 1 ∧
      key.publicKey.exponent * key.exponent % (key.secondFactor - 1) = 1 := by
  have sound := matched.sound
  simp only [isSound, undoesFor, Bool.and_eq_true, beq_iff_eq] at sound
  exact ⟨sound.1.2.2, sound.2.2⟩

theorem PrivateKey.Matched.modulus_ne_zero (matched : key.Matched) :
    key.publicKey.modulus ≠ 0 := by
  rw [← matched.factors]
  exact Nat.mul_ne_zero matched.firstPrime.ne_zero matched.secondPrime.ne_zero

/-- The private exponent undoes the public one. -/
theorem power_power (matched : key.Matched) {number : Nat}
    (small : number < key.publicKey.modulus) :
    power key.publicKey.modulus (power key.publicKey.modulus number key.publicKey.exponent)
      key.exponent = number := by
  have coprime : key.firstFactor.Coprime key.secondFactor :=
    (Nat.coprime_primes matched.firstPrime matched.secondPrime).mpr matched.different
  have modulo : number ^ (key.publicKey.exponent * key.exponent) ≡ number
      [MOD key.publicKey.modulus] := by
    rw [← matched.factors]
    exact (Nat.modEq_and_modEq_iff_modEq_mul coprime).mp
      ⟨pow_modEq_self matched.firstPrime matched.undoes.1 number,
        pow_modEq_self matched.secondPrime matched.undoes.2 number⟩
  rw [power_eq, power_eq, ← Nat.pow_mod, ← pow_mul]
  exact Nat.mod_eq_of_modEq modulo small

/-- A key whose factors are two Mersenne primes. -/
def PrivateKey.mersenne : PrivateKey :=
  ⟨⟨(2 ^ 127 - 1) * (2 ^ 521 - 1), 65537⟩,
    (65280 * Nat.lcm (2 ^ 127 - 2) (2 ^ 521 - 2) + 1) / 65537, 2 ^ 127 - 1, 2 ^ 521 - 1⟩

theorem PrivateKey.matched_mersenne : PrivateKey.mersenne.Matched where
  sound := by decide +kernel
  firstPrime := lucas_lehmer_sufficiency 127 (by decide) (by norm_num)
  secondPrime := lucas_lehmer_sufficiency 521 (by decide) (by norm_num)
  different := by decide +kernel

/-! ### Blocks -/

theorem lt_pow_byteCount (number : Nat) : number < 256 ^ byteCount number := by
  rw [byteCount]
  split
  · next zero => rw [zero]; exact Nat.one_pos
  · have below : number < 2 ^ (number.log2 + 1) := Nat.lt_log2_self
    have wide : 2 ^ (number.log2 + 1) ≤ 2 ^ (8 * (number.log2 / 8 + 1)) :=
      Nat.pow_le_pow_right (by decide) (by omega)
    rw [pow_mul] at wide
    exact lt_of_lt_of_le below wide

theorem pow_byteCount_le {number : Nat} (positive : number ≠ 0) :
    256 ^ (byteCount number - 1) ≤ number := by
  rw [byteCount, if_neg positive, Nat.add_sub_cancel]
  have narrow : 2 ^ (8 * (number.log2 / 8)) ≤ 2 ^ number.log2 :=
    Nat.pow_le_pow_right (by decide) (by omega)
  rw [pow_mul] at narrow
  exact narrow.trans (Nat.log2_self_le positive)

theorem length_sealBlock (key : PublicKey) (seed : Oaep.Seed) (message : Bytes) :
    (key.sealBlock seed message).length = key.blockSize := Bytes.length_bigEndian ..

/-- A padded message is a number below the modulus. -/
theorem padded_lt {key : PublicKey} (positive : key.modulus ≠ 0) {message : Bytes}
    (fits : message.length + Oaep.overhead ≤ key.blockSize) (seed : Oaep.Seed) :
    Bytes.ofBigEndian (Oaep.pad key.blockSize seed message) < key.modulus := by
  obtain ⟨rest, isPad⟩ : ∃ rest, Oaep.pad key.blockSize seed message = 0 :: rest := ⟨_, rfl⟩
  have size := Oaep.length_pad fits seed
  rw [isPad, List.length_cons] at size
  have count : rest.length = key.blockSize - 1 := by omega
  rw [isPad, Bytes.ofBigEndian_zero_cons]
  refine lt_of_lt_of_le (Bytes.ofBigEndian_lt rest) ?_
  rw [count]
  exact pow_byteCount_le positive

/-- A block is opened to the message that was sealed in it. -/
theorem openBlock?_sealBlock (matched : key.Matched) {message : Bytes}
    (fits : message.length + Oaep.overhead ≤ key.blockSize) (seed : Oaep.Seed) :
    key.openBlock? (key.publicKey.sealBlock seed message) = some message := by
  have below : Bytes.ofBigEndian (Oaep.pad key.blockSize seed message) < key.publicKey.modulus :=
    padded_lt matched.modulus_ne_zero fits seed
  have powerBelow (number exponent : Nat) :
      power key.publicKey.modulus number exponent < key.publicKey.modulus := by
    rw [power_eq]
    exact Nat.mod_lt _ (Nat.pos_of_ne_zero matched.modulus_ne_zero)
  have readBack (number exponent : Nat) : Bytes.ofBigEndian (Bytes.bigEndian key.blockSize
      (power key.publicKey.modulus number exponent)) =
        power key.publicKey.modulus number exponent :=
    Bytes.ofBigEndian_bigEndian ((powerBelow number exponent).trans (lt_pow_byteCount _))
  have size : (Oaep.pad key.blockSize seed message).length = key.blockSize :=
    Oaep.length_pad fits seed
  have padded := Bytes.bigEndian_ofBigEndian (Oaep.pad key.blockSize seed message)
  rw [size] at padded
  rw [PrivateKey.openBlock?, PublicKey.sealBlock]
  change (if Bytes.ofBigEndian (Bytes.bigEndian key.blockSize _) < _ then
    Oaep.unpad? (Bytes.bigEndian key.blockSize (power _ (Bytes.ofBigEndian
      (Bytes.bigEndian key.blockSize _)) _)) else none) = _
  rw [readBack, if_pos (powerBelow _ _)]
  change Oaep.unpad? (Bytes.bigEndian key.blockSize (power _ (power _ (Bytes.ofBigEndian
    (Oaep.pad key.blockSize seed message)) _) _)) = _
  rw [power_power matched below, padded, Oaep.unpad?_pad fits]

end Metering.Rsa
