/-
Text literals are read back. Every byte of a text is written as itself, as a letter behind a
backslash, or by its number; a reader that scans for the closing quotation mark passes over each
of the three, and what each of them stands for is the byte again.
-/

import Metering.Json.Reading
import Metering.Proofs.Bytes

namespace Metering.Json

/-! ### Escapes -/

/-- The three ways in which a byte is written. -/
theorem escape_cases (byte : UInt8) :
    (escape byte = [byte] ∧ byte ≠ 34 ∧ byte ≠ 92 ∧ ¬ byte < 32) ∨
    (∃ letter, escape byte = [92, letter] ∧ letter ≠ 117 ∧ letterEscape? letter = some byte) ∨
    ∃ high low front back, escape byte = [92, 117, 48, 48, high, low] ∧
      hexDigit? high = some front ∧ hexDigit? low = some back ∧
      16 * front + back = byte.toNat ∧ byte.toNat < 32 := by
  have isByte : UInt8.ofNat byte.toNat = byte := UInt8.ofNat_toNat
  by_cases special : byte.toNat ∈ [34, 92, 8, 12, 10, 13, 9]
  · have letters : ∀ code ∈ [34, 92, 8, 12, 10, 13, 9],
        ∃ letter ∈ ([34, 92, 98, 102, 110, 114, 116] : List UInt8),
          escape (UInt8.ofNat code) = [92, letter] ∧ letter ≠ 117 ∧
          letterEscape? letter = some (UInt8.ofNat code) := by decide
    obtain ⟨letter, _, isLetter⟩ := letters byte.toNat special
    rw [isByte] at isLetter
    exact Or.inr (Or.inl ⟨letter, isLetter⟩)
  simp only [List.mem_cons, List.not_mem_nil, or_false, not_or] at special
  obtain ⟨noQuote, noBackslash, noBack, noFeed, noLine, noReturn, noTab⟩ := special
  have isEscape : escape byte = if byte.toNat < 32 then
      [92, 117, 48, 48, UInt8.ofNat (48 + byte.toNat / 16),
        UInt8.ofNat (if byte.toNat % 16 < 10 then 48 + byte.toNat % 16 else 87 + byte.toNat % 16)]
      else [byte] := by
    unfold escape
    dsimp only
    rw [if_neg noQuote, if_neg noBackslash, if_neg noBack, if_neg noFeed, if_neg noLine,
      if_neg noReturn, if_neg noTab]
  by_cases control : byte.toNat < 32
  · have digits : ∀ code < 32,
        hexDigit? (UInt8.ofNat (48 + code / 16)) = some (code / 16) ∧
        hexDigit? (UInt8.ofNat (if code % 16 < 10 then 48 + code % 16 else 87 + code % 16)) =
          some (code % 16) := by decide
    obtain ⟨high, low⟩ := digits byte.toNat control
    rw [if_pos control] at isEscape
    exact Or.inr (Or.inr ⟨_, _, byte.toNat / 16, byte.toNat % 16, isEscape, high, low, by omega,
      control⟩)
  · rw [if_neg control] at isEscape
    refine Or.inl ⟨isEscape, fun same => noQuote (same ▸ rfl), fun same => noBackslash (same ▸ rfl),
      ?_⟩
    rw [UInt8.lt_iff_toNat_lt]
    exact control

theorem length_escape_le (byte : UInt8) : (escape byte).length ≤ 6 := by
  rcases escape_cases byte with ⟨same, _⟩ | ⟨letter, same, _⟩ | ⟨high, low, _, _, same, _⟩ <;>
    rw [same] <;> simp

theorem length_literalOf_le (text : String) :
    (literalOf text).length ≤ 6 * (Bytes.ofText text).length := by
  rw [literalOf]
  induction Bytes.ofText text with
  | nil => exact Nat.le_refl _
  | cons byte rest inductionHypothesis =>
    have := length_escape_le byte
    rw [List.flatMap_cons, List.length_append, List.length_cons]
    omega

/-! ### Scanning for the end -/

/-- A scan passes over an escape. -/
theorem scanText?_escape (byte : UInt8) {tail : Bytes} (more : tail ≠ []) :
    scanText? (escape byte ++ tail) =
      (scanText? tail).map fun (literal, after) => (escape byte ++ literal, after) := by
  obtain ⟨next, rest, rfl⟩ := List.exists_cons_of_ne_nil more
  rcases escape_cases byte with ⟨same, noQuote, noBackslash, noControl⟩ |
    ⟨letter, same, notNumber, isLetter⟩ | ⟨high, low, front, back, same, isHigh, isLow, _, _⟩
  · rw [same, List.singleton_append, scanText?.eq_def]
    dsimp only
    rw [if_neg noQuote, if_neg noControl, if_pos noBackslash]
    rfl
  · rw [same, scanText?.eq_def]
    dsimp only [List.cons_append, List.nil_append]
    rw [if_neg (by decide), if_neg (by decide), if_neg (by decide), if_neg notNumber, isLetter]
    rfl
  · have digits : ([48, 48, high, low].all fun digit => (hexDigit? digit).isSome) = true := by
      simp only [List.all_cons, isHigh, isLow]
      rfl
    rw [same, scanText?.eq_def]
    dsimp only [List.cons_append, List.nil_append]
    rw [if_neg (by decide), if_neg (by decide), if_neg (by decide), if_pos rfl, if_pos digits]

/-- The literal of a text ends at the quotation mark behind it. -/
theorem scanText?_literalOf (text : String) (rest : Bytes) :
    scanText? (literalOf text ++ 34 :: rest) = some (literalOf text, rest) := by
  rw [literalOf]
  generalize Bytes.ofText text = bytes
  induction bytes with
  | nil =>
    rw [List.flatMap_nil, List.nil_append, scanText?.eq_def]
    cases rest <;> exact if_pos rfl
  | cons byte others inductionHypothesis =>
    have more : others.flatMap escape ++ 34 :: rest ≠ [] := List.append_ne_nil_of_right_ne_nil _
      (List.cons_ne_nil 34 rest)
    rw [List.flatMap_cons, List.append_assoc, scanText?_escape byte more, inductionHypothesis]
    rfl

/-! ### What a literal stands for -/

theorem encodePoint_control {point : Nat} (control : point < 32) :
    encodePoint point = [UInt8.ofNat point] := by
  have isPoint : (Char.ofNat point).toNat = point := by
    revert point
    decide
  have single : String.singleton (Char.ofNat point) = String.ofList [Char.ofNat point] := rfl
  rw [encodePoint, single, Bytes.ofText_ofList]
  · rw [List.map_singleton, isPoint]
  · intro character member
    rw [List.mem_singleton.mp member, isPoint]
    omega

/-- A control character that is written by its number goes with whatever stands behind it. -/
theorem joinPieces?_control {point : Nat} (control : point < 32) (rest : List Piece) :
    joinPieces? (.unit16 point :: rest) = (joinPieces? rest).map (UInt8.ofNat point :: ·) := by
  have noHigh : ¬ (0xd800 ≤ point ∧ point < 0xdc00) := by omega
  have noLow : ¬ (0xdc00 ≤ point ∧ point < 0xe000) := by omega
  have noSurrogate : ¬ (0xd800 ≤ point ∧ point < 0xe000) := by omega
  have isPoint := encodePoint_control control
  rw [joinPieces?.eq_def]
  rcases rest with _ | ⟨_ | low, others⟩
  · dsimp only
    rw [if_neg noSurrogate, isPoint]
    rfl
  · dsimp only
    rw [if_neg noSurrogate, isPoint]
    rfl
  · dsimp only
    rw [if_neg noHigh, if_neg noLow, isPoint]
    rfl

/-- An escape is one unit of a literal, and stands for its byte. -/
theorem pieces?_escape (byte : UInt8) : ∃ piece,
    (∀ tail, pieces? (escape byte ++ tail) = (pieces? tail).map (piece :: ·)) ∧
    ∀ rest, joinPieces? (piece :: rest) = (joinPieces? rest).map (byte :: ·) := by
  rcases escape_cases byte with ⟨same, _, noBackslash, _⟩ |
    ⟨letter, same, notNumber, isLetter⟩ |
    ⟨high, low, front, back, same, isHigh, isLow, isCode, control⟩
  · refine ⟨.byte byte, fun tail => ?_, fun rest => by rw [joinPieces?]⟩
    rw [same, List.singleton_append]
    cases tail with
    | nil => exact if_neg noBackslash
    | cons next rest =>
      rw [pieces?.eq_def]
      exact if_pos noBackslash
  · refine ⟨.byte byte, fun tail => ?_, fun rest => by rw [joinPieces?]⟩
    rw [same, pieces?.eq_def]
    dsimp only [List.cons_append, List.nil_append]
    rw [if_neg (by decide), if_neg notNumber, isLetter]
    cases pieces? tail <;> rfl
  · refine ⟨.unit16 byte.toNat, fun tail => ?_, fun rest => ?_⟩
    · have zero : hexDigit? 48 = some 0 := rfl
      have number : 4096 * 0 + 256 * 0 + 16 * front + back = byte.toNat := by omega
      rw [same, pieces?.eq_def]
      dsimp only [List.cons_append, List.nil_append]
      rw [if_neg (by decide), if_pos rfl]
      simp only [zero, isHigh, isLow, Option.bind_eq_bind, Option.bind_some, number]
      cases pieces? tail <;> rfl
    · rw [joinPieces?_control control, UInt8.ofNat_toNat]

/-- The literal of a text stands for the text. -/
theorem textOf?_literalOf (text : String) : textOf? (literalOf text) = some text := by
  have units : ∃ pieces, pieces? (literalOf text) = some pieces ∧
      joinPieces? pieces = some (Bytes.ofText text) := by
    rw [literalOf]
    generalize Bytes.ofText text = bytes
    induction bytes with
    | nil => exact ⟨[], rfl, by rw [joinPieces?]⟩
    | cons byte rest inductionHypothesis =>
      obtain ⟨pieces, isPieces, isRest⟩ := inductionHypothesis
      obtain ⟨piece, isPiece, isByte⟩ := pieces?_escape byte
      refine ⟨piece :: pieces, ?_, by rw [isByte, isRest]; rfl⟩
      rw [List.flatMap_cons, isPiece, isPieces]
      rfl
  obtain ⟨pieces, isPieces, isBytes⟩ := units
  rw [textOf?, isPieces]
  show (joinPieces? pieces >>= Bytes.toText?) = some text
  rw [isBytes]
  exact Bytes.toText?_ofText text

end Metering.Json
