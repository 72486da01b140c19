/-
Laws of byte sequences: numbers and their bytes in either order, texts whose characters are all
ASCII, and lists that are cut into pieces of one length.
-/

import Mathlib.Algebra.Order.Floor.Div
import Mathlib.Data.List.Induction
import Metering.Bytes
import Metering.Chunks

namespace Metering

namespace Bytes

/-! ### Numbers and their bytes -/

theorem littleEndian_ofLittleEndian (bytes : Bytes) :
    littleEndian bytes.length (ofLittleEndian bytes) = bytes := by
  induction bytes with
  | nil => rfl
  | cons byte rest inductionHypothesis =>
    have small := byte.toNat_lt
    have low : UInt8.ofNat (byte.toNat + 256 * ofLittleEndian rest) = byte := by
      refine UInt8.toNat.inj ?_
      rw [UInt8.toNat_ofNat']
      omega
    have high : (byte.toNat + 256 * ofLittleEndian rest) / 256 = ofLittleEndian rest := by omega
    rw [ofLittleEndian, List.length_cons, littleEndian, low, high, inductionHypothesis]

/-- The bytes of a number are cut off the front and are those of the number again. -/
theorem cut?_littleEndian {size number : Nat} (small : number < Nat.pow 256 size) (rest : Bytes) :
    ∃ digits, cut? size (littleEndian size number ++ rest) = some (digits, rest) ∧
      ofLittleEndian digits = number := by
  have cut := cut?_append (littleEndian size number) rest
  rw [length_littleEndian] at cut
  refine ⟨_, cut, ?_⟩
  rw [ofLittleEndian_littleEndian, Nat.mod_eq_of_lt small]

/-- A number that has room in eight bytes. -/
def IsSmall (number : Nat) : Prop := number < Nat.pow 256 8

instance (number : Nat) : Decidable (IsSmall number) :=
  inferInstanceAs (Decidable (number < Nat.pow 256 8))

theorem isSmall_toNat (word : UInt64) : IsSmall word.toNat := word.toNat_lt

theorem IsSmall.of_le {number other : Nat} (small : IsSmall other) (le : number ≤ other) :
    IsSmall number := Nat.lt_of_le_of_lt le small

theorem ofLittleEndian_lt (bytes : Bytes) : ofLittleEndian bytes < Nat.pow 256 bytes.length := by
  induction bytes with
  | nil => exact Nat.one_pos
  | cons byte rest inductionHypothesis =>
    have small := byte.toNat_lt
    have step : Nat.pow 256 (rest.length + 1) = 256 * Nat.pow 256 rest.length := Nat.pow_succ'
    rw [ofLittleEndian, List.length_cons, step]
    omega

theorem ofBigEndian_eq (bytes : Bytes) : ofBigEndian bytes = ofLittleEndian bytes.reverse := by
  induction bytes using List.reverseRecOn with
  | nil => rfl
  | append_singleton front byte inductionHypothesis =>
    rw [ofBigEndian, List.foldl_append, ← ofBigEndian, inductionHypothesis, List.reverse_append,
      List.reverse_singleton, List.singleton_append, ofLittleEndian, Nat.add_comm]
    rfl

@[simp] theorem length_bigEndian (count value : Nat) : (bigEndian count value).length = count := by
  rw [bigEndian, List.length_reverse, length_littleEndian]

theorem ofBigEndian_bigEndian {count value : Nat} (fits : value < Nat.pow 256 count) :
    ofBigEndian (bigEndian count value) = value := by
  rw [ofBigEndian_eq, bigEndian, List.reverse_reverse, ofLittleEndian_littleEndian,
    Nat.mod_eq_of_lt fits]

theorem bigEndian_ofBigEndian (bytes : Bytes) :
    bigEndian bytes.length (ofBigEndian bytes) = bytes := by
  rw [ofBigEndian_eq, bigEndian, ← List.length_reverse, littleEndian_ofLittleEndian,
    List.reverse_reverse]

theorem ofBigEndian_lt (bytes : Bytes) : ofBigEndian bytes < Nat.pow 256 bytes.length := by
  rw [ofBigEndian_eq, ← List.length_reverse]
  exact ofLittleEndian_lt bytes.reverse

/-- A zero in front does not count. -/
theorem ofBigEndian_zero_cons (bytes : Bytes) : ofBigEndian (0 :: bytes) = ofBigEndian bytes := rfl

/-! ### Texts -/

theorem ofText_eq (text : String) : ofText text = text.toList.flatMap String.utf8EncodeChar := by
  have onList (characters : List Char) :
      ofText (String.ofList characters) = characters.flatMap String.utf8EncodeChar := by
    show (characters.flatMap String.utf8EncodeChar).toByteArray.data.toList = _
    rw [List.data_toByteArray, List.toList_toArray]
  rw [← onList, String.ofList_toList]

theorem ofText_injective {text other : String} (same : ofText text = ofText other) :
    text = other := by
  have read := toText?_ofText text
  rw [same, toText?_ofText] at read
  exact (Option.some.inj read).symm

theorem ofText_append (front rest : String) :
    ofText (front ++ rest) = ofText front ++ ofText rest := by
  simp only [ofText_eq, String.toList_append, List.flatMap_append]

/-- A text of ASCII characters has a byte for each. -/
theorem ofText_ofList {characters : List Char}
    (ascii : ∀ character ∈ characters, character.toNat ≤ 127) :
    ofText (String.ofList characters) =
      characters.map fun character => UInt8.ofNat character.toNat := by
  rw [ofText_eq, String.toList_ofList]
  induction characters with
  | nil => rfl
  | cons character rest inductionHypothesis =>
    obtain ⟨isAscii, restAscii⟩ := List.forall_mem_cons.mp ascii
    have encoded : String.utf8EncodeChar character = [UInt8.ofNat character.toNat] := if_pos isAscii
    rw [List.flatMap_cons, List.map_cons, inductionHypothesis restAscii, encoded,
      List.singleton_append]

/-- A text of ASCII bytes has a character for each. -/
theorem isAscii_of_ofText {text : String} (ascii : ∀ byte ∈ ofText text, byte.toNat ≤ 127) :
    ∀ character ∈ text.toList, character.toNat ≤ 127 := by
  let characters := (ofText text).map fun byte => Char.ofNat byte.toNat
  have value : ∀ byte ∈ ofText text, (Char.ofNat byte.toNat).toNat = byte.toNat := by
    intro byte member
    have valid : byte.toNat.isValidChar :=
      Or.inl (Nat.lt_of_le_of_lt (ascii byte member) (by decide))
    rw [Char.ofNat, dif_pos valid]
    rfl
  have isAscii : ∀ character ∈ characters, character.toNat ≤ 127 := by
    refine List.forall_mem_map.mpr fun byte member => ?_
    rw [value byte member]
    exact ascii byte member
  have isText : String.ofList characters = text := by
    refine ofText_injective ?_
    rw [ofText_ofList isAscii, List.map_map]
    refine (List.map_congr_left fun byte member => ?_).trans (List.map_id _)
    rw [Function.comp_apply, value byte member, UInt8.ofNat_toNat]
    rfl
  rwa [← isText, String.toList_ofList]

/-- A character has at least one byte. -/
theorem length_le_length_ofText (text : String) : text.length ≤ (ofText text).length := by
  rw [ofText_eq, ← String.length_toList]
  induction text.toList with
  | nil => exact Nat.le_refl _
  | cons character rest inductionHypothesis =>
    have size := character.utf8Size_pos
    rw [List.flatMap_cons, List.length_append, String.length_utf8EncodeChar, List.length_cons]
    omega

/-- A character has at most four bytes. -/
theorem length_ofText_le (text : String) : (ofText text).length ≤ 4 * text.length := by
  rw [ofText_eq, ← String.length_toList]
  induction text.toList with
  | nil => exact Nat.le_refl _
  | cons character rest inductionHypothesis =>
    have size := character.utf8Size_le_four
    rw [List.flatMap_cons, List.length_append, String.length_utf8EncodeChar, List.length_cons]
    omega

end Bytes

/-! ### Pieces of one length -/

variable {Item : Type}

/-- No piece is longer than it may be. -/
theorem length_le_of_mem_chunksOf {length : Nat} (positive : 0 < length) {items piece : List Item}
    (member : piece ∈ chunksOf length items) : piece.length ≤ length := by
  fun_induction chunksOf length items with
  | case1 => cases member
  | case2 item rest inductionHypothesis =>
    rcases List.mem_cons.mp member with rfl | later
    · rw [List.length_cons, List.length_take]
      omega
    · exact inductionHypothesis later

/-- A list is cut into as many pieces as are needed to hold it. -/
theorem length_chunksOf {length : Nat} (positive : 0 < length) (items : List Item) :
    (chunksOf length items).length = items.length ⌈/⌉ length := by
  fun_induction chunksOf length items with
  | case1 => exact (zero_ceilDiv length).symm
  | case2 item rest inductionHypothesis =>
    have whole : rest.length + 1 + length - 1 = rest.length + length := by omega
    rw [List.length_cons, inductionHypothesis, List.length_drop, List.length_cons,
      Nat.ceilDiv_eq_add_pred_div, Nat.ceilDiv_eq_add_pred_div, whole, Nat.add_div_right _ positive]
    by_cases isLast : rest.length < length
    · have single : rest.length - (length - 1) + length - 1 = length - 1 := by omega
      rw [single, Nat.div_eq_of_lt isLast, Nat.div_eq_of_lt (by omega)]
    · have others : rest.length - (length - 1) + length - 1 = rest.length := by omega
      rw [others]

/-- Where a list is a whole number of pieces, no piece is shorter. -/
theorem length_of_mem_chunksOf {length : Nat} {items : List Item} (whole : length ∣ items.length)
    {piece : List Item} (member : piece ∈ chunksOf length items) : piece.length = length := by
  fun_induction chunksOf length items with
  | case1 => cases member
  | case2 item rest inductionHypothesis =>
    rw [List.length_cons] at whole
    have positive : 0 < length := Nat.pos_of_dvd_of_pos whole (Nat.succ_pos _)
    have enough : length ≤ rest.length + 1 := Nat.le_of_dvd (Nat.succ_pos _) whole
    rcases List.mem_cons.mp member with rfl | later
    · rw [List.length_cons, List.length_take]
      omega
    · have behind : rest.length - (length - 1) = rest.length + 1 - length := by omega
      refine inductionHypothesis ?_ later
      rw [List.length_drop, behind]
      exact Nat.dvd_sub whole (Nat.dvd_refl length)

/-- Lists of one length, one after the other, are cut into these lists again. -/
theorem chunksOf_flatten {length : Nat} (positive : 0 < length) {pieces : List (List Item)}
    (lengths : ∀ piece ∈ pieces, piece.length = length) :
    chunksOf length pieces.flatten = pieces := by
  induction pieces with
  | nil => rw [List.flatten_nil, chunksOf]
  | cons piece rest inductionHypothesis =>
    obtain ⟨isLength, restLengths⟩ := List.forall_mem_cons.mp lengths
    cases piece with
    | nil => rw [List.length_nil] at isLength; omega
    | cons item others =>
      have count : length - 1 = others.length := by
        rw [List.length_cons] at isLength
        omega
      rw [List.flatten_cons, List.cons_append, chunksOf, count, List.take_left', List.drop_left',
        inductionHypothesis restLengths]
      · rfl
      · rfl

end Metering
