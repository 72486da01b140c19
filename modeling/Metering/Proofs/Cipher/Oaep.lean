/-
Padding is taken off again. The two parts of a block mask each other: the seed masks the data
part, and the masked data part masks the seed, so that whoever has the block takes the masks off
in the opposite order.
-/

import Mathlib.Algebra.BigOperators.Group.List.Basic
import Mathlib.Data.List.TakeWhile
import Metering.Cipher.Oaep
import Metering.Proofs.Bytes

namespace Metering.Oaep

/-! ### Masks -/

theorem length_mask (source : Bytes) (count : Nat) : (mask source count).length = count := by
  have hashes : ((List.range (count / Sha256.hashSize + 1)).flatMap fun number =>
      Sha256.hash (source ++ Bytes.bigEndian 4 number)).length =
        (count / Sha256.hashSize + 1) * Sha256.hashSize := by
    simp [List.length_flatMap, List.map_const']
  rw [mask, List.length_take, hashes, Sha256.hashSize]
  omega

theorem length_masked (source bytes : Bytes) : (masked source bytes).length = bytes.length := by
  rw [masked, List.length_zipWith, length_mask, Nat.min_self]

/-- A mask that is put on twice is off again. -/
theorem masked_masked (source bytes : Bytes) : masked source (masked source bytes) = bytes := by
  have size := length_mask source bytes.length
  rw [masked, length_masked, masked]
  generalize mask source bytes.length = others at size
  induction bytes generalizing others with
  | nil => rfl
  | cons byte rest inductionHypothesis =>
    cases others with
    | nil => cases size
    | cons other more =>
      rw [List.zipWith_cons_cons, List.zipWith_cons_cons,
        inductionHypothesis more (Nat.succ.inj size), UInt8.xor_assoc, UInt8.xor_self,
        UInt8.xor_zero]

/-! ### Blocks -/

theorem length_dataPart (free : Nat) (message : Bytes) :
    (dataPart free message).length = Sha256.hashSize + free + 1 + message.length := by
  have label : labelHash.length = Sha256.hashSize := Sha256.length_hash []
  rw [dataPart, List.length_append, List.length_append, label, List.length_replicate,
    List.length_cons]
  omega

/-- The message stands behind the hash, the zeros and the one. -/
theorem messageOf?_dataPart (free : Nat) (message : Bytes) :
    messageOf? (dataPart free message) = some message := by
  have label : labelHash.length = Sha256.hashSize := Sha256.length_hash []
  have noZero : (1 :: message).dropWhile (· == 0) = 1 :: message := rfl
  have behind : (List.replicate free (0 : UInt8) ++ 1 :: message).dropWhile (· == 0) =
      1 :: message := by
    rw [List.dropWhile_append_of_pos fun byte member => ?_, noZero]
    rw [List.eq_of_mem_replicate member]
    rfl
  rw [messageOf?, dataPart, List.append_assoc, List.take_left' label, if_pos rfl,
    List.drop_left' label, behind]
  rfl

section

variable {size : Nat} {message : Bytes} (fits : message.length + overhead ≤ size) (seed : Seed)

include fits

/-- A padded message fills its block. -/
theorem length_pad : (pad size seed message).length = size := by
  rw [overhead, Sha256.hashSize] at fits
  rw [pad, List.length_cons, List.length_append, length_masked, length_masked, length_dataPart,
    Vector.length_toList, overhead, Sha256.hashSize]
  omega

/-- A padded message is read back. -/
theorem unpad?_pad : unpad? (pad size seed message) = some message := by
  have enough : overhead ≤ (pad size seed message).length := by
    rw [length_pad fits]
    omega
  let hidden := masked seed.toList (dataPart (size - overhead - message.length) message)
  have front : (masked hidden seed.toList).length = Sha256.hashSize := by
    rw [length_masked, Vector.length_toList]
  have seedBack : masked hidden (masked hidden seed.toList) = seed.toList := masked_masked _ _
  have partBack : masked seed.toList hidden =
      dataPart (size - overhead - message.length) message := masked_masked _ _
  show (if overhead ≤ (pad size seed message).length then
    messageOf? (masked (masked ((masked hidden seed.toList ++ hidden).drop Sha256.hashSize)
      ((masked hidden seed.toList ++ hidden).take Sha256.hashSize))
      ((masked hidden seed.toList ++ hidden).drop Sha256.hashSize)) else none) = _
  rw [if_pos enough, List.drop_left' front, List.take_left' front, seedBack, partBack,
    messageOf?_dataPart]

end

/-! ### What is found in any block -/

theorem length_le_of_messageOf? {part message : Bytes} (found : messageOf? part = some message) :
    message.length ≤ part.length := by
  unfold messageOf? at found
  split at found
  · split at found
    · next other behind =>
      obtain rfl := Option.some.inj found
      have marked := List.length_dropWhile_le (· == (0 : UInt8)) (part.drop Sha256.hashSize)
      rw [behind, List.length_cons, List.length_drop] at marked
      omega
    · cases found
  · cases found

/-- No message is longer than its block. -/
theorem length_le_of_unpad? {block message : Bytes} (found : unpad? block = some message) :
    message.length ≤ block.length := by
  unfold unpad? at found
  split at found
  · next rest =>
    split at found
    · have short := length_le_of_messageOf? found
      rw [length_masked, List.length_drop] at short
      rw [List.length_cons]
      omega
    · cases found
  · cases found

end Metering.Oaep
