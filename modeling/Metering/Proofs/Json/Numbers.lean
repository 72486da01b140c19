/-
Number literals are taken up whole. What has the form of a number, with a whole part that starts
with a zero only where it is one, is scanned up to its end where no other character of a number
follows.
-/

import Metering.Json.Reading
import Metering.Metric.Json
import Metering.Proofs.Bytes
import Metering.Proofs.Numeral.Notation

namespace Metering

namespace Json

/-! ### Digits -/

theorem toNat_byteOf {character : Char} (ascii : character.toNat ≤ 127) :
    (UInt8.ofNat character.toNat).toNat = character.toNat := by
  rw [UInt8.toNat_ofNat']
  omega

theorem isDigit_byteOf {digit : Char} (isDigit : digit.isDigit = true) :
    Json.isDigit (UInt8.ofNat digit.toNat) = true := by
  obtain ⟨low, high⟩ := toNat_of_isDigit isDigit
  have code := toNat_byteOf (show digit.toNat ≤ 127 by omega)
  rw [Json.isDigit, Bool.and_eq_true, decide_eq_true_eq, decide_eq_true_eq,
    UInt8.le_iff_toNat_le, UInt8.le_iff_toNat_le, code]
  exact ⟨low, high⟩

/-- Input that does not start with a digit. -/
def NoDigit (input : Bytes) : Prop := ∀ byte, input.head? = some byte → isDigit byte = false

theorem scanDigits?_append {digits : List Char} (some : digits ≠ [])
    (isDigits : ∀ digit ∈ digits, digit.isDigit = true) {rest : Bytes} (ends : NoDigit rest) :
    scanDigits? (asciiBytes digits ++ rest) = .some (asciiBytes digits, rest) := by
  have bytes : ∀ byte ∈ asciiBytes digits, isDigit byte = true := by
    intro byte member
    obtain ⟨digit, inDigits, rfl⟩ := List.mem_map.mp member
    exact isDigit_byteOf (isDigits digit inDigits)
  have noMore : rest.takeWhile isDigit = [] ∧ rest.dropWhile isDigit = rest := by
    cases rest with
    | nil => exact ⟨rfl, rfl⟩
    | cons byte more =>
      have noDigit := Bool.eq_false_iff.mp (ends byte rfl)
      exact ⟨List.takeWhile_cons_of_neg noDigit, List.dropWhile_cons_of_neg noDigit⟩
  have notEmpty : (asciiBytes digits).isEmpty = false := by
    rw [asciiBytes, List.isEmpty_map, List.isEmpty_eq_false_iff]
    exact some
  simp only [scanDigits?, List.takeWhile_append_of_pos bytes, List.dropWhile_append_of_pos bytes,
    noMore, List.append_nil, notEmpty, Bool.false_eq_true, if_false]

/-! ### Scanning the parts -/

/-- Input at which a number ends: there is none, or a comma or a closing bracket or brace. -/
def Ends (input : Bytes) : Prop :=
  ∀ byte, input.head? = some byte → byte = 44 ∨ byte = 93 ∨ byte = 125

section Scanning

open Numeral (signText fractionText powerText characters)

variable {numeral : Numeral} (proper : numeral.Proper) {rest : Bytes} (ends : Ends rest)

theorem head_powerText (ends : Ends rest) {byte : UInt8}
    (isHead : (asciiBytes numeral.powerText ++ rest).head? = some byte) :
    byte = 101 ∨ byte = 44 ∨ byte = 93 ∨ byte = 125 := by
  rw [powerText] at isHead
  split at isHead
  · exact Or.inr (ends byte isHead)
  · exact Or.inl (Option.some.inj isHead).symm

theorem head_fractionText (ends : Ends rest) {byte : UInt8}
    (isHead : (asciiBytes numeral.fractionText ++ (asciiBytes numeral.powerText ++ rest)).head? =
      some byte) : byte = 46 ∨ byte = 101 ∨ byte = 44 ∨ byte = 93 ∨ byte = 125 := by
  rw [fractionText] at isHead
  split at isHead
  · exact Or.inr (head_powerText ends isHead)
  · exact Or.inl (Option.some.inj isHead).symm

include proper ends

theorem scanPower?_powerText :
    scanPower? (asciiBytes numeral.powerText ++ rest) =
      some (asciiBytes numeral.powerText, rest) := by
  rw [powerText]
  split
  · show scanPower? rest = some ([], rest)
    cases rest with
    | nil => rfl
    | cons byte more =>
      refine if_neg ?_
      rintro (rfl | rfl) <;> rcases ends _ rfl with isEnd | isEnd | isEnd <;> cases isEnd
  · next sign digits isPower =>
    obtain ⟨isSign, some, isDigits⟩ := proper.power sign digits isPower
    have noDigit : NoDigit rest := fun byte isHead => by
      rcases ends byte isHead with rfl | rfl | rfl <;> rfl
    have signByte : UInt8.ofNat sign.toNat = 43 ∨ UInt8.ofNat sign.toNat = 45 := by
      rcases isSign with rfl | rfl
      · exact Or.inl rfl
      · exact Or.inr rfl
    show scanPower? (101 :: UInt8.ofNat sign.toNat :: (asciiBytes digits ++ rest)) = _
    rw [scanPower?, if_pos (Or.inl rfl)]
    dsimp only
    rw [if_pos signByte, scanDigits?_append some isDigits noDigit]
    rfl

theorem scanFraction?_fractionText :
    scanFraction? (asciiBytes numeral.fractionText ++ (asciiBytes numeral.powerText ++ rest)) =
      some (asciiBytes numeral.fractionText, asciiBytes numeral.powerText ++ rest) := by
  have after (byte : UInt8)
      (isHead : (asciiBytes numeral.powerText ++ rest).head? = some byte) :=
    head_powerText ends isHead
  generalize asciiBytes numeral.powerText ++ rest = later at after
  rw [fractionText]
  split
  · show scanFraction? later = some ([], later)
    cases later with
    | nil => rfl
    | cons byte more =>
      refine if_neg ?_
      rintro rfl
      rcases after 46 rfl with isEnd | isEnd | isEnd | isEnd <;> cases isEnd
  · next more =>
    have some : numeral.fraction ≠ [] := fun none => more (none ▸ rfl)
    have noDigit : NoDigit later := fun byte isHead => by
      rcases after byte isHead with rfl | rfl | rfl | rfl <;> rfl
    show scanFraction? (46 :: (asciiBytes numeral.fraction ++ later)) = _
    rw [scanFraction?, if_pos rfl, scanDigits?_append some proper.fraction noDigit]
    rfl

theorem scanWhole?_whole :
    scanWhole? (asciiBytes numeral.whole ++ (asciiBytes numeral.fractionText ++
        (asciiBytes numeral.powerText ++ rest))) =
      some (asciiBytes numeral.whole,
        asciiBytes numeral.fractionText ++ (asciiBytes numeral.powerText ++ rest)) := by
  have noDigit : NoDigit (asciiBytes numeral.fractionText ++
      (asciiBytes numeral.powerText ++ rest)) := fun byte isHead => by
    rcases head_fractionText ends isHead with rfl | rfl | rfl | rfl | rfl <;> rfl
  rcases proper.start with zero | ⟨first, others, isWhole, notZero⟩
  · have zeroByte : asciiBytes ['0'] = [48] := rfl
    rw [zero, zeroByte, List.singleton_append, scanWhole?, if_pos rfl]
  · have scanned :=
      scanDigits?_append (isWhole ▸ List.cons_ne_nil first others) proper.whole noDigit
    have isDigit := proper.whole first (isWhole ▸ List.mem_cons_self)
    obtain ⟨_, high⟩ := toNat_of_isDigit isDigit
    have code := toNat_byteOf (show first.toNat ≤ 127 by omega)
    have notZeroByte : UInt8.ofNat first.toNat ≠ 48 := fun same => by
      rw [same] at code
      exact notZero (Char.toNat_inj.mp code.symm)
    rw [isWhole] at scanned ⊢
    exact (if_neg notZeroByte).trans scanned

omit proper ends in
theorem ascii_characters (proper : numeral.Proper) {character : Char}
    (member : character ∈ numeral.characters) : character.toNat ≤ 127 := by
  rcases Numeral.mem_characters proper member with isDigit | isSign
  · have bounds := toNat_of_isDigit isDigit
    omega
  · simp only [List.mem_cons, List.not_mem_nil, or_false] at isSign
    rcases isSign with rfl | rfl | rfl | rfl <;> decide

/-- A number literal is read up to its end. -/
theorem scanNumber?_characters :
    scanNumber? (asciiBytes numeral.characters ++ rest) = some (numeral.characters, rest) := by
  have whole := scanWhole?_whole proper ends
  have fraction := scanFraction?_fractionText proper ends
  have power := scanPower?_powerText proper ends
  have back : (asciiBytes numeral.characters).map (fun byte => Char.ofNat byte.toNat) =
      numeral.characters := by
    rw [asciiBytes, List.map_map]
    refine (List.map_congr_left fun character member => ?_).trans (List.map_id _)
    show Char.ofNat (UInt8.ofNat character.toNat).toNat = character
    rw [toNat_byteOf (ascii_characters proper member), Char.ofNat_toNat]
  have parts : asciiBytes numeral.characters = asciiBytes numeral.signText ++
      asciiBytes numeral.whole ++ asciiBytes numeral.fractionText ++
        asciiBytes numeral.powerText := by
    simp only [asciiBytes, characters, List.map_append]
  have scanned : scanNumber? (asciiBytes numeral.characters ++ rest) =
      some ((asciiBytes numeral.signText ++ asciiBytes numeral.whole ++
        asciiBytes numeral.fractionText ++ asciiBytes numeral.powerText).map
          fun byte => Char.ofNat byte.toNat, rest) := by
    rw [parts]
    simp only [List.append_assoc]
    cases isMinus : numeral.minus with
    | true =>
      have sign : asciiBytes numeral.signText = [45] := by rw [signText, isMinus]; rfl
      simp only [sign, scanNumber?, if_true, whole, fraction, power,
        Option.bind_eq_bind, Option.bind_some, Option.pure_def, List.append_assoc,
        List.cons_append, List.nil_append]
    | false =>
      have sign : asciiBytes numeral.signText = [] := by rw [signText, isMinus]; rfl
      obtain ⟨first, others, isWhole, noMinus⟩ : ∃ first others,
          asciiBytes numeral.whole = first :: others ∧ first ≠ 45 := by
        rcases proper.start with zero | ⟨first, others, isWhole, _⟩
        · exact ⟨48, [], by rw [zero]; rfl, by decide⟩
        · refine ⟨UInt8.ofNat first.toNat, asciiBytes others, by rw [isWhole]; rfl, fun same => ?_⟩
          have isDigit := isDigit_byteOf (proper.whole first (isWhole ▸ List.mem_cons_self))
          rw [same] at isDigit
          cases isDigit
      simp only [isWhole, List.cons_append] at whole ⊢
      simp only [sign, scanNumber?, List.nil_append, if_neg noMinus, whole, fraction, power,
        Option.bind_eq_bind, Option.bind_some, Option.pure_def, List.cons_append,
        List.append_assoc]
  rw [scanned, ← parts, back]

end Scanning

end Json

end Metering
