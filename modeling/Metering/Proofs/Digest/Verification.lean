/-
A body has just one tag, up to blanks around it and to letter case. A text is read as bytes where
it is an even count of hexadecimal digits, and in lower case it is then the text of these bytes;
everything else is malformed. So whatever is not the tag of a body is refused, be it shorter,
longer or another one of the same length.
-/

import Mathlib.Data.List.TakeWhile
import Metering.Proofs.Digest.Tag

namespace Metering

namespace Text

/-- What is left of a text when the blanks at both ends are taken away. -/
structure IsTrimmed (text trimmed : String) : Prop where
  around : ∃ front back, text.toList = front ++ trimmed.toList ++ back ∧
    (∀ character ∈ front, isBlank character = true) ∧ ∀ character ∈ back, isBlank character = true
  first : ∀ character, trimmed.toList.head? = some character → isBlank character = false
  last : ∀ character, trimmed.toList.getLast? = some character → isBlank character = false

theorem not_of_head?_dropWhile {inClass : Char → Bool} {characters : List Char} {character : Char}
    (isHead : (characters.dropWhile inClass).head? = some character) :
    inClass character = false := by
  have outside := List.head?_dropWhile_not inClass characters
  rwa [isHead] at outside

theorem isTrimmed_trim (text : String) : IsTrimmed text (trim text) := by
  let inner := text.toList.dropWhile isBlank
  let kept := inner.reverse.dropWhile isBlank
  have isTrim : (trim text).toList = kept.reverse := String.toList_ofList
  have isText : text.toList.takeWhile isBlank ++ inner = text.toList :=
    List.takeWhile_append_dropWhile
  have isInner : kept.reverse ++ (inner.reverse.takeWhile isBlank).reverse = inner := by
    rw [← List.reverse_append, List.takeWhile_append_dropWhile, List.reverse_reverse]
  refine ⟨⟨text.toList.takeWhile isBlank, (inner.reverse.takeWhile isBlank).reverse, ?_, ?_, ?_⟩,
    fun character isHead => ?_, fun character isLast => ?_⟩
  · rw [isTrim, List.append_assoc, isInner, isText]
  · exact fun character member => List.mem_takeWhile_imp member
  · exact fun character member => List.mem_takeWhile_imp (List.mem_reverse.mp member)
  · have isInnerHead : inner.head? = some character := by
      rw [isTrim] at isHead
      rw [← isInner, List.head?_append, isHead]
      rfl
    exact not_of_head?_dropWhile isInnerHead
  · rw [isTrim, List.getLast?_reverse] at isLast
    exact not_of_head?_dropWhile isLast

end Text

namespace Hex

/-! ### Digits in either letter case -/

/-- The bytes that are hexadecimal digits. -/
def alphabet : Bytes := Bytes.ofText "0123456789ABCDEFabcdef"

/-- The characters of ASCII bytes, in lower case. -/
def lowered (text : Bytes) : List Char := text.map fun byte => (Char.ofNat byte.toNat).toLower

theorem alphabet_eq :
    alphabet = [48, 49, 50, 51, 52, 53, 54, 55, 56, 57, 65, 66, 67, 68, 69, 70,
      97, 98, 99, 100, 101, 102] := by
  decide +kernel

theorem half?_cases {byte : UInt8} {half : Nat} (isHalf : half? byte = some half) :
    (48 ≤ byte.toNat ∧ byte.toNat ≤ 57 ∧ half = byte.toNat - 48) ∨
      (97 ≤ byte.toNat ∧ byte.toNat ≤ 102 ∧ half = byte.toNat - 87) ∨
      65 ≤ byte.toNat ∧ byte.toNat ≤ 70 ∧ half = byte.toNat - 55 := by
  simp only [half?] at isHalf
  split at isHalf
  · next range => exact Or.inl ⟨range.1, range.2, (Option.some.inj isHalf).symm⟩
  · split at isHalf
    · next range => exact Or.inr (Or.inl ⟨range.1, range.2, (Option.some.inj isHalf).symm⟩)
    · obtain ⟨range, same⟩ := Option.ite_none_right_eq_some.mp isHalf
      exact Or.inr (Or.inr ⟨range.1, range.2, (Option.some.inj same).symm⟩)

theorem half?_eq_none_iff (byte : UInt8) : half? byte = none ↔ byte ∉ alphabet := by
  simp only [half?, alphabet_eq, List.mem_cons, List.not_mem_nil, or_false, ← UInt8.toNat_inj,
    UInt8.reduceToNat]
  split_ifs <;> simp only [true_iff, false_iff] <;> omega

/-- What holds of 256 numbers holds of every byte. -/
theorem forall_byte {holds : UInt8 → Prop} (every : ∀ code : Fin 256, holds (UInt8.ofNat code))
    (byte : UInt8) : holds byte := by
  have this := every ⟨byte.toNat, byte.toNat_lt⟩
  rwa [UInt8.ofNat_toNat] at this

/-- A byte is read as the half byte whose digit it is in lower case. -/
theorem half?_eq_some_iff (byte : UInt8) (half : Fin 16) :
    half? byte = some half.val ↔ (Char.ofNat byte.toNat).toLower = digit half := by
  revert half
  revert byte
  exact forall_byte (by decide +kernel)

theorem lt_of_half?_eq_some {byte : UInt8} {half : Nat} (isHalf : half? byte = some half) :
    half < 16 ∧ byte.toNat ≤ 127 := by
  rcases half?_cases isHalf with range | range | range <;> omega

theorem toLower_of_half?_eq_some {byte : UInt8} {half : Nat} (isHalf : half? byte = some half) :
    (Char.ofNat byte.toNat).toLower = digit half :=
  (half?_eq_some_iff byte ⟨half, (lt_of_half?_eq_some isHalf).1⟩).mp isHalf

theorem mem_alphabet_of_half? {byte : UInt8} {half : Nat} (isHalf : half? byte = some half) :
    byte ∈ alphabet := by
  by_contra absent
  rw [(half?_eq_none_iff byte).mpr absent] at isHalf
  cases isHalf

theorem isAscii_of_mem_alphabet {byte : UInt8} (member : byte ∈ alphabet) : byte.toNat ≤ 127 := by
  cases isHalf : half? byte with
  | none => exact absurd member ((half?_eq_none_iff byte).mp isHalf)
  | some half => exact (lt_of_half?_eq_some isHalf).2

theorem mem_alphabet_of_toLower {byte : UInt8} {half : Nat} (small : half < 16)
    (isDigit : (Char.ofNat byte.toNat).toLower = digit half) : byte ∈ alphabet :=
  mem_alphabet_of_half? ((half?_eq_some_iff byte ⟨half, small⟩).mpr isDigit)

/-! ### Reading either letter case -/

theorem digits_injective {bytes others : Bytes} (same : digits bytes = digits others) :
    bytes = others := by
  have read := decodePairs_digits 0 bytes
  rw [same, decodePairs_digits] at read
  exact (Except.ok.inj read).symm

theorem mem_alphabet_of_lowered {text bytes : Bytes} (isDigits : lowered text = digits bytes)
    {byte : UInt8} (member : byte ∈ text) : byte ∈ alphabet := by
  have inLowered : (Char.ofNat byte.toNat).toLower ∈ lowered text := List.mem_map_of_mem member
  rw [isDigits] at inLowered
  obtain ⟨half, small, isDigit⟩ := mem_digits inLowered
  exact mem_alphabet_of_toLower small isDigit

theorem length_of_lowered {text bytes : Bytes} (isDigits : lowered text = digits bytes) :
    text.length = 2 * bytes.length := by
  have lengths := congrArg List.length isDigits
  rwa [lowered, List.length_map, length_digits] at lengths

/-- The digits of a byte that is put together from half bytes. -/
theorem digits_ofNat_cons {front back : Nat} (frontSmall : front < 16) (backSmall : back < 16)
    (bytes : Bytes) :
    digits (UInt8.ofNat (16 * front + back) :: bytes) =
      digit front :: digit back :: digits bytes := by
  have value : (UInt8.ofNat (16 * front + back)).toNat = 16 * front + back := by
    rw [UInt8.toNat_ofNat']
    omega
  have high : (16 * front + back) / 16 = front := by omega
  have low : (16 * front + back) % 16 = back := by omega
  rw [digits, List.flatMap_cons, value, high, low]
  rfl

/-- Pairs of digits are read as the bytes whose digits they are in lower case. -/
theorem lowered_of_decodePairs {position : Nat} {text bytes : Bytes} (even : text.length % 2 = 0)
    (read : decodePairs position text = .ok bytes) : lowered text = digits bytes := by
  induction position, text using decodePairs.induct generalizing bytes with
  | case1 position high low rest noHigh => rw [decodePairs, noHigh] at read; cases read
  | case2 position high low rest front noLow isHigh =>
    rw [decodePairs, isHigh, noLow] at read
    cases read
  | case3 position high low rest front back isLow isHigh inductionHypothesis =>
    rw [decodePairs, isHigh, isLow] at read
    dsimp only at read
    cases readRest : decodePairs (position + 2) rest with
    | error fault => rw [readRest] at read; cases read
    | ok others =>
      rw [readRest] at read
      obtain rfl : UInt8.ofNat (16 * front + back) :: others = bytes := Except.ok.inj read
      have restEven : rest.length % 2 = 0 := by
        rw [List.length_cons, List.length_cons] at even
        omega
      have later := inductionHypothesis restEven readRest
      rw [digits_ofNat_cons (lt_of_half?_eq_some isHigh).1 (lt_of_half?_eq_some isLow).1, ← later,
        ← toLower_of_half?_eq_some isHigh, ← toLower_of_half?_eq_some isLow]
      rfl
  | case4 text position short =>
    rcases text with _ | ⟨high, _ | ⟨low, rest⟩⟩
    · obtain rfl : [] = bytes := Except.ok.inj read
      rfl
    · cases even
    · exact absurd rfl (short high low rest)

/-- Where pairs are not read, a byte is no digit, and the first such byte is named. -/
theorem exists_of_decodePairs_error {position : Nat} {text : Bytes} {fault : Fault}
    (failed : decodePairs position text = .error fault) :
    ∃ front byte rest, text = front ++ byte :: rest ∧ (∀ other ∈ front, other ∈ alphabet) ∧
      byte ∉ alphabet ∧ fault = .invalidDigit byte (position + front.length) := by
  induction position, text using decodePairs.induct with
  | case1 position high low rest noHigh =>
    rw [decodePairs, noHigh] at failed
    exact ⟨[], high, low :: rest, rfl, List.forall_mem_nil _, (half?_eq_none_iff high).mp noHigh,
      (Except.error.inj failed).symm⟩
  | case2 position high low rest front noLow isHigh =>
    rw [decodePairs, isHigh, noLow] at failed
    exact ⟨[high], low, rest, rfl, List.forall_mem_singleton.mpr (mem_alphabet_of_half? isHigh),
      (half?_eq_none_iff low).mp noLow, (Except.error.inj failed).symm⟩
  | case3 position high low rest front back isLow isHigh inductionHypothesis =>
    rw [decodePairs, isHigh, isLow] at failed
    dsimp only at failed
    cases readRest : decodePairs (position + 2) rest with
    | ok others => rw [readRest] at failed; cases failed
    | error other =>
      rw [readRest] at failed
      obtain rfl : other = fault := Except.error.inj failed
      obtain ⟨before, byte, behind, rfl, digitsBefore, noDigit, isFault⟩ :=
        inductionHypothesis readRest
      refine ⟨high :: low :: before, byte, behind, rfl, ?_, noDigit, ?_⟩
      · exact List.forall_mem_cons.mpr ⟨mem_alphabet_of_half? isHigh,
          List.forall_mem_cons.mpr ⟨mem_alphabet_of_half? isLow, digitsBefore⟩⟩
      · rw [isFault, List.length_cons, List.length_cons]
        congr 1
        omega
  | case4 text position short =>
    rcases text with _ | ⟨high, _ | ⟨low, rest⟩⟩
    · cases failed
    · cases failed
    · exact absurd rfl (short high low rest)

/-- A text that cannot be read as bytes. -/
def IsMalformed (text : Bytes) : Prop := text.length % 2 = 1 ∨ ∃ byte ∈ text, byte ∉ alphabet

instance (text : Bytes) : Decidable (IsMalformed text) :=
  inferInstanceAs (Decidable (_ ∨ ∃ byte ∈ text, byte ∉ alphabet))

/-- A text is read as the bytes whose text it is in lower case. -/
theorem decode_ok_iff {text bytes : Bytes} :
    decode text = .ok bytes ↔ lowered text = digits bytes := by
  constructor
  · intro read
    rw [decode] at read
    split at read
    · cases read
    · next notOdd => exact lowered_of_decodePairs (by omega) read
  · intro isDigits
    have length := length_of_lowered isDigits
    have notOdd : ¬ text.length % 2 = 1 := by omega
    rw [decode, if_neg notOdd]
    cases read : decodePairs 0 text with
    | ok others =>
      have same := (lowered_of_decodePairs (by omega) read).symm.trans isDigits
      rw [digits_injective same]
    | error fault =>
      obtain ⟨front, byte, rest, rfl, _, noDigit, _⟩ := exists_of_decodePairs_error read
      exact absurd (mem_alphabet_of_lowered isDigits List.mem_append_cons_self) noDigit

/-- A text is refused exactly if it is malformed. -/
theorem decode_error_iff {text : Bytes} :
    (∃ fault, decode text = .error fault) ↔ IsMalformed text := by
  constructor
  · rintro ⟨fault, failed⟩
    rw [decode] at failed
    split at failed
    · next odd => exact Or.inl odd
    · obtain ⟨front, byte, rest, rfl, _, noDigit, _⟩ := exists_of_decodePairs_error failed
      exact Or.inr ⟨byte, List.mem_append_cons_self, noDigit⟩
  · intro malformed
    cases read : decode text with
    | error fault => exact ⟨fault, rfl⟩
    | ok bytes =>
      have isDigits := decode_ok_iff.mp read
      rcases malformed with odd | ⟨byte, member, noDigit⟩
      · rw [length_of_lowered isDigits] at odd
        omega
      · exact absurd (mem_alphabet_of_lowered isDigits member) noDigit

/-! ### Texts and their bytes -/

theorem isAscii_of_toLower {character : Char} {half : Nat} (small : half < 16)
    (isDigit : character.toLower = digit half) : character.toNat ≤ 127 := by
  delta Char.toLower at isDigit
  split at isDigit
  · next isUpper => exact Nat.le_trans (UInt32.le_iff_toNat_le.mp isUpper.2) (by decide)
  · rw [isDigit]
    exact (digit_cases small).1

theorem lowered_ofText {text : String}
    (ascii : ∀ character ∈ text.toList, character.toNat ≤ 127) :
    lowered (Bytes.ofText text) = (text.map Char.toLower).toList := by
  have isText := Bytes.ofText_ofList ascii
  rw [String.ofList_toList] at isText
  rw [isText, lowered, List.map_map, String.toList_map]
  refine List.map_congr_left fun character member => ?_
  have small := ascii character member
  have value : (UInt8.ofNat character.toNat).toNat = character.toNat := by
    rw [UInt8.toNat_ofNat']
    omega
  rw [Function.comp_apply, value, Char.ofNat_toNat]

/-- A text in lower case is the text of bytes exactly if its own bytes are so. -/
theorem lowered_ofText_iff {text : String} {bytes : Bytes} :
    lowered (Bytes.ofText text) = digits bytes ↔ text.map Char.toLower = encode bytes := by
  constructor
  · intro isDigits
    have ascii := Bytes.isAscii_of_ofText fun byte member =>
      isAscii_of_mem_alphabet (mem_alphabet_of_lowered isDigits member)
    refine String.toList_inj.mp ?_
    rw [← lowered_ofText ascii, isDigits, encode, String.toList_ofList]
    rfl
  · intro isText
    have isList : (text.map Char.toLower).toList = digits bytes := by
      rw [isText, encode, String.toList_ofList]
      rfl
    have ascii : ∀ character ∈ text.toList, character.toNat ≤ 127 := by
      intro character member
      have inDigits : character.toLower ∈ digits bytes := by
        rw [← isList, String.toList_map]
        exact List.mem_map_of_mem member
      obtain ⟨half, small, isDigit⟩ := mem_digits inDigits
      exact isAscii_of_toLower small isDigit
    rw [lowered_ofText ascii, isList]

end Hex

namespace SigningKey

variable (key : SigningKey) (body : Bytes)

/-- A tag is accepted exactly if, without blanks around it and in lower case, it is that of the
body. -/
theorem verify_ok_iff (tag : String) :
    key.verify body tag = .ok () ↔ (Text.trim tag).map Char.toLower = key.tag body := by
  rw [SigningKey.tag, ← Hex.lowered_ofText_iff, ← Hex.decode_ok_iff, verify]
  cases Hex.decode (Bytes.ofText (Text.trim tag)) with
  | error fault => exact iff_of_false (by simp) (by simp)
  | ok hash =>
    dsimp only
    split
    · next same => exact iff_of_true rfl (congrArg Except.ok same)
    · next differs => exact iff_of_false (by simp) fun same => differs (Except.ok.inj same)

/-- A tag is malformed for the check exactly if its text is. -/
theorem verify_malformed_iff (tag : String) :
    (∃ fault, key.verify body tag = .error (.malformed fault)) ↔
      Hex.IsMalformed (Bytes.ofText (Text.trim tag)) := by
  rw [← Hex.decode_error_iff, verify]
  cases Hex.decode (Bytes.ofText (Text.trim tag)) with
  | error fault => exact iff_of_true ⟨fault, rfl⟩ ⟨fault, rfl⟩
  | ok hash =>
    refine iff_of_false ?_ (by simp)
    rintro ⟨fault, refused⟩
    dsimp only at refused
    split at refused <;> cases refused

/-- What is neither accepted nor malformed is a mismatch. -/
theorem verify_mismatch_iff (tag : String) :
    key.verify body tag = .error .mismatch ↔
      ¬ Hex.IsMalformed (Bytes.ofText (Text.trim tag)) ∧
        (Text.trim tag).map Char.toLower ≠ key.tag body := by
  rw [← verify_malformed_iff key body, ne_eq, ← verify_ok_iff]
  rcases key.verify body tag with (_ | fault) | _ <;> simp

/-- A text that becomes a tag in lower case has the size of a tag. -/
theorem length_of_toLower_eq_tag {text : String} (same : text.map Char.toLower = key.tag body) :
    (Bytes.ofText text).length = 2 * Sha256.hashSize := by
  rw [SigningKey.tag, ← Hex.lowered_ofText_iff] at same
  rw [Hex.length_of_lowered same, Hmac.length_sign]

/-- Just the tag of the body is accepted, with or without blanks around it and in either letter
case. A text that is not the hexadecimal text of bytes is malformed, and all others are
mismatches, so every one that is shorter or longer than a tag. -/
theorem accepts_just_the_tag (tag : String) :
    let trimmed := Text.trim tag
    let text := Bytes.ofText trimmed
    Text.IsTrimmed tag trimmed ∧
      (key.verify body tag = .ok () ↔ trimmed.map Char.toLower = key.tag body) ∧
      ((∃ fault, key.verify body tag = .error (.malformed fault)) ↔ Hex.IsMalformed text) ∧
      (key.verify body tag = .error .mismatch ↔
        ¬ Hex.IsMalformed text ∧ trimmed.map Char.toLower ≠ key.tag body) ∧
      (¬ Hex.IsMalformed text → text.length ≠ 2 * Sha256.hashSize →
        key.verify body tag = .error .mismatch) := by
  intro trimmed text
  refine ⟨Text.isTrimmed_trim tag, verify_ok_iff key body tag, verify_malformed_iff key body tag,
    verify_mismatch_iff key body tag, fun wellFormed otherSize => ?_⟩
  refine (verify_mismatch_iff key body tag).mpr ⟨wellFormed, fun same => otherSize ?_⟩
  exact length_of_toLower_eq_tag key body same

/-- A proper prefix of a tag, and even the empty one, is a mismatch; half a byte more is
malformed. -/
theorem accepts_just_the_tag_prefix :
    let key := ofText "Jefe"
    let body := Bytes.ofText "what do ya want for nothing?"
    key.verify body " 5BDCC146BF60754E6A042426089575C75A003F089D2739839DEC58B964EC38\n" =
        .error .mismatch ∧
      key.verify body "\u3000" = .error .mismatch ∧
      ∃ fault, key.verify body "5bdcc" = .error (.malformed fault) := by
  intro key body
  exact ⟨(accepts_just_the_tag key body _).2.2.2.2 (by decide +kernel) (by decide +kernel),
    (accepts_just_the_tag key body _).2.2.2.2 (by decide +kernel) (by decide +kernel),
    (accepts_just_the_tag key body _).2.2.1.mpr (Or.inl (by decide +kernel))⟩

end SigningKey

end Metering
