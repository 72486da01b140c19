/-
Messages of the binary format are read back. Every part of a field says where it ends: a number
by its last byte, a chunk by the length in front of it. So each part is read off the front of the
input whatever stands behind it, and a message is read field by field.
-/

import Metering.Proofs.Bytes
import Metering.Wire.Message

namespace Metering

open Bytes (IsSmall)

/-! ### Numbers -/

namespace Varint

theorem readWithin?_encodeWithin {more number : Nat} (small : number < 2 * Nat.pow 128 more)
    (rest : Bytes) : readWithin? more (encodeWithin more number ++ rest) = some (number, rest) := by
  induction more generalizing number with
  | zero =>
    have isBit : number < 2 := small
    have byte : (UInt8.ofNat number).toNat = number := by
      rw [UInt8.toNat_ofNat']
      omega
    rw [encodeWithin, List.singleton_append, readWithin?, byte, if_pos (by omega)]
  | succ more inductionHypothesis =>
    have scaled : Nat.pow 128 (more + 1) = Nat.pow 128 more * 128 := rfl
    rw [encodeWithin]
    split
    · next short =>
      have byte : (UInt8.ofNat number).toNat = number := by
        rw [UInt8.toNat_ofNat']
        omega
      rw [List.singleton_append, readWithin?, byte, if_pos short]
    · have byte : (UInt8.ofNat (128 + number % 128)).toNat = 128 + number % 128 := by
        rw [UInt8.toNat_ofNat']
        omega
      have high : number / 128 < 2 * Nat.pow 128 more := by omega
      have joined : 128 + number % 128 - 128 + 128 * (number / 128) = number := by omega
      rw [List.cons_append, readWithin?, byte, if_neg (by omega), inductionHypothesis high,
        Option.map_some]
      dsimp only
      rw [joined]

theorem read?_encode {number : Nat} (small : IsSmall number) (rest : Bytes) :
    read? (encode number ++ rest) = some (number, rest) := by
  show readWithin? 9 (encodeWithin 9 number ++ rest) = some (number, rest)
  exact readWithin?_encodeWithin small rest

theorem length_encode_pos (number : Nat) : 0 < (encode number).length := by
  rw [encode, encodeWithin]
  split <;> exact Nat.succ_pos _

theorem isSmall_foldSign (total : Int64) : IsSmall (foldSign total.toInt) := by
  have low := Int64.le_toInt total
  have high := Int64.toInt_lt total
  have bound : Nat.pow 256 8 = 2 ^ 64 := rfl
  rw [IsSmall, foldSign, bound]
  split <;> omega

end Varint

namespace Wire

/-! ### Fields -/

/-- A payload that is read back: no group, and its numbers have room. -/
def Payload.Fits : Payload → Prop
  | .varint number | .fixed64 number => IsSmall number
  | .chunk content => IsSmall content.length
  | .fixed32 number => number < Nat.pow 256 4
  | .group => False

/-- A field that is read back. -/
structure Field.Fits (field : Field) : Prop where
  positive : 0 < field.number
  small : field.number < Nat.pow 2 29
  payload : field.payload.Fits

/-- The code of the form of a payload. -/
def Payload.form : Payload → Nat
  | .varint _ => 0
  | .fixed64 _ => 1
  | .chunk _ => 2
  | .group => 3
  | .fixed32 _ => 5

/-- The bytes of a payload behind the key. -/
def Payload.encode : Payload → Nat → Bytes
  | .varint number, _ => Varint.encode number
  | .fixed64 number, _ => Bytes.littleEndian 8 number
  | .chunk content, _ => Varint.encode content.length ++ content
  | .group, field => encodeKey field 4
  | .fixed32 number, _ => Bytes.littleEndian 4 number

theorem Field.encode_eq (field : Field) :
    field.encode =
      encodeKey field.number field.payload.form ++ field.payload.encode field.number := by
  obtain ⟨number, payload⟩ := field
  cases payload with
  | chunk content => exact List.append_assoc _ _ _
  | _ => rfl

theorem readKey?_encodeKey {number form : Nat} (positive : 0 < number)
    (small : number < Nat.pow 2 29) (isForm : form ≤ 5) (rest : Bytes) :
    readKey? (encodeKey number form ++ rest) = some (number, form, rest) := by
  have bound : Nat.pow 2 29 = 536870912 := rfl
  have limit : Nat.pow 2 32 = 4294967296 := rfl
  have key : IsSmall (8 * number + form) :=
    Nat.lt_trans (by omega) (show 4294967296 < Nat.pow 256 8 by decide)
  have isNumber : (8 * number + form) / 8 = number := by omega
  have isRest : (8 * number + form) % 8 = form := by omega
  rw [readKey?, encodeKey, Varint.read?_encode key]
  dsimp only [bind, Option.bind]
  rw [if_pos ⟨by omega, by omega, by omega⟩, isNumber, isRest]

/-- What is behind the key of a field is read in the form of the field. -/
theorem readPayload?_encode {payload : Payload} (fits : payload.Fits) (number : Nat)
    (rest : Bytes) :
    readPayload? payload.form (payload.encode number ++ rest) = some (payload, rest) := by
  cases payload with
  | varint value =>
    simp only [Payload.form, Payload.encode, readPayload?, Varint.read?_encode fits]
    rfl
  | fixed64 value =>
    obtain ⟨digits, cut, rfl⟩ := Bytes.cut?_littleEndian fits rest
    simp only [Payload.form, Payload.encode, readPayload?, cut]
    rfl
  | chunk content =>
    simp only [Payload.form, Payload.encode, readPayload?, List.append_assoc,
      Varint.read?_encode fits, Option.bind_eq_bind, Option.bind_some, Bytes.cut?_append]
    rfl
  | fixed32 value =>
    obtain ⟨digits, cut, rfl⟩ := Bytes.cut?_littleEndian fits rest
    simp only [Payload.form, Payload.encode, readPayload?, cut]
    rfl
  | group => exact absurd fits id

/-! ### Messages -/

theorem length_encode_pos (field : Field) : 0 < field.encode.length := by
  rw [field.encode_eq, encodeKey, List.length_append]
  exact Nat.add_pos_left (Varint.length_encode_pos _) _

theorem form_of_fits {payload : Payload} (fits : payload.Fits) :
    payload.form ≤ 5 ∧ payload.form ≠ 3 := by
  cases payload with
  | group => exact absurd fits id
  | _ =>
    rw [Payload.form]
    decide

/-- Fields are read one after the other. -/
theorem readFields?_encode {fields : List Field} (fit : ∀ field ∈ fields, field.Fits)
    (deepest : Nat) {count : Nat} (enough : fields.length ≤ count) :
    readFields? deepest count (encode fields) = some fields := by
  induction fields generalizing count with
  | nil => cases count <;> rfl
  | cons field others inductionHypothesis =>
    obtain ⟨fits, restFit⟩ := List.forall_mem_cons.mp fit
    obtain ⟨spare, rfl⟩ := Nat.exists_eq_add_one_of_ne_zero
      (Nat.ne_zero_of_lt (Nat.lt_of_lt_of_le (Nat.succ_pos _) enough))
    have later := inductionHypothesis restFit (Nat.le_of_succ_le_succ enough)
    obtain ⟨isForm, noGroup⟩ := form_of_fits fits.payload
    have isKey := readKey?_encodeKey fits.positive fits.small isForm
      (field.payload.encode field.number ++ encode others)
    have isPayload := readPayload?_encode fits.payload field.number (encode others)
    rw [← List.append_assoc, ← field.encode_eq] at isKey
    rw [encode, List.flatMap_cons, ← encode]
    obtain ⟨byte, more, isCons⟩ := List.exists_cons_of_length_pos
      (show 0 < (field.encode ++ encode others).length by
        rw [List.length_append]
        exact Nat.add_pos_left (length_encode_pos field) _)
    rw [isCons] at isKey ⊢
    rw [readFields?, isKey]
    dsimp only [bind, Option.bind]
    rw [if_neg noGroup, isPayload]
    dsimp only
    rw [later]
    rfl

theorem length_le_encode (fields : List Field) : fields.length ≤ (encode fields).length := by
  induction fields with
  | nil => exact Nat.le_refl 0
  | cons field others inductionHypothesis =>
    have positive := length_encode_pos field
    rw [encode, List.flatMap_cons, ← encode, List.length_append, List.length_cons]
    omega

/-- A message is read back. -/
theorem read?_encode {fields : List Field} (fit : ∀ field ∈ fields, field.Fits) (deepest : Nat) :
    read? deepest (encode fields) = some fields :=
  readFields?_encode fit deepest (length_le_encode fields)

/-- A chunk in a message is not longer than the message. -/
theorem length_chunk_le {fields : List Field} {number : Nat} {content : Bytes}
    (member : ⟨number, .chunk content⟩ ∈ fields) : content.length ≤ (encode fields).length := by
  induction fields with
  | nil => cases member
  | cons field others inductionHypothesis =>
    rw [encode, List.flatMap_cons, ← encode, List.length_append]
    rcases List.mem_cons.mp member with rfl | later
    · rw [Field.encode, List.length_append]
      dsimp only
      omega
    · have bound := inductionHypothesis later
      omega

end Wire

end Metering
