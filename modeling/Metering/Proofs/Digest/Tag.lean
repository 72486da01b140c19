/-
Tags vouch for the bodies they were made for. The hexadecimal text of bytes consists of digits
only, has nothing to trim and reads back as the bytes.
-/

import Metering.Digest.Tag
import Metering.Proofs.Bytes

namespace Metering

namespace Text

/-- Where nothing belongs to a class, nothing of it can be stripped. -/
theorem strip_of_none {inClass : Char → Bool} {characters : List Char}
    (none : ∀ character ∈ characters, inClass character = false) :
    strip inClass characters = characters := by
  have keeps {others : List Char} (noneThere : ∀ character ∈ others, inClass character = false) :
      others.dropWhile inClass = others := by
    cases others with
    | nil => rfl
    | cons first rest =>
      exact List.dropWhile_cons_of_neg (Bool.eq_false_iff.mp (noneThere first List.mem_cons_self))
  have noneBack : ∀ character ∈ characters.reverse, inClass character = false :=
    fun character member => none character (List.mem_reverse.mp member)
  rw [strip, keeps none, keeps noneBack, List.reverse_reverse]

end Text

namespace Hex

/-! ### Digits -/

/-- The characters that digits are: readable, not blank, and read back as the half bytes. -/
theorem digit_cases {half : Nat} (small : half < 16) :
    (digit half).toNat ≤ 127 ∧ 32 ≤ (digit half).toNat ∧ (digit half).toNat ≠ 127 ∧
      Text.isBlank (digit half) = false ∧
      half? (UInt8.ofNat (digit half).toNat) = some half := by
  revert half
  decide

/-- The digits of bytes. -/
def digits (bytes : Bytes) : List Char :=
  bytes.flatMap fun byte => [digit (byte.toNat / 16), digit (byte.toNat % 16)]

theorem mem_digits {bytes : Bytes} {character : Char} (member : character ∈ digits bytes) :
    ∃ half, half < 16 ∧ character = digit half := by
  obtain ⟨byte, _, inPair⟩ := List.mem_flatMap.mp member
  have small := byte.toNat_lt
  rcases List.mem_cons.mp inPair with rfl | second
  · exact ⟨byte.toNat / 16, by omega, rfl⟩
  · exact ⟨byte.toNat % 16, by omega, List.mem_singleton.mp second⟩

theorem length_digits (bytes : Bytes) : (digits bytes).length = 2 * bytes.length := by
  induction bytes with
  | nil => rfl
  | cons byte rest inductionHypothesis =>
    rw [digits, List.flatMap_cons, List.length_append, ← digits, inductionHypothesis,
      List.length_cons, List.length_cons, List.length_cons, List.length_nil]
    omega

theorem ofText_encode (bytes : Bytes) :
    Bytes.ofText (encode bytes) =
      (digits bytes).map fun character => UInt8.ofNat character.toNat :=
  Bytes.ofText_ofList fun _ member => by
    obtain ⟨half, small, rfl⟩ := mem_digits member
    exact (digit_cases small).1

theorem trim_encode (bytes : Bytes) : Text.trim (encode bytes) = encode bytes := by
  rw [Text.trim, encode, String.toList_ofList, Text.strip_of_none]
  intro character member
  obtain ⟨half, small, rfl⟩ := mem_digits member
  exact (digit_cases small).2.2.2.1

/-! ### Reading digits -/

theorem decodePairs_digits (position : Nat) (bytes : Bytes) :
    decodePairs position ((digits bytes).map fun character => UInt8.ofNat character.toNat) =
      .ok bytes := by
  induction bytes generalizing position with
  | nil => rfl
  | cons byte rest inductionHypothesis =>
    have small := byte.toNat_lt
    have high : byte.toNat / 16 < 16 := by omega
    have low : byte.toNat % 16 < 16 := by omega
    have together : 16 * (byte.toNat / 16) + byte.toNat % 16 = byte.toNat := by omega
    rw [digits, List.flatMap_cons, ← digits, List.cons_append, List.singleton_append,
      List.map_cons, List.map_cons, decodePairs, (digit_cases high).2.2.2.2,
      (digit_cases low).2.2.2.2, inductionHypothesis]
    show Except.ok (UInt8.ofNat (16 * (byte.toNat / 16) + byte.toNat % 16) :: rest) = _
    rw [together, UInt8.ofNat_toNat]

/-- The hexadecimal text of bytes reads back as the bytes. -/
theorem decode_encode (bytes : Bytes) : decode (Bytes.ofText (encode bytes)) = .ok bytes := by
  have even : ¬ (Bytes.ofText (encode bytes)).length % 2 = 1 := by
    rw [ofText_encode, List.length_map, length_digits]
    omega
  rw [decode, if_neg even, ofText_encode, decodePairs_digits]

end Hex

/-- A tag vouches for the body it was made for. -/
theorem SigningKey.verify_tag (key : SigningKey) (body : Bytes) :
    key.verify body (key.tag body) = .ok () := by
  rw [verify, tag, Hex.trim_encode, Hex.decode_encode]
  exact if_pos rfl

end Metering
