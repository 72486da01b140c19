/-
How much can come out of a compressed input. A symbol that copies writes 258 bytes at most and
takes two bits at least, one for the length and one for the distance; so every bit of the input
gives at most 129 bytes, whatever the codes are, and every byte at most 1,032. Streams that come
close to that are easily made: a block of twelve bytes gives 1,549.
-/

import Mathlib.Algebra.BigOperators.Group.List.Basic
import Metering.Proofs.Gzip.Framing
import Metering.Proofs.Service.Call

namespace Metering.Gzip

/-! ### Bytes that are written -/

/-- The count of bytes that a symbol writes. -/
def Token.written : Token → Nat
  | .literal _ => 1
  | .copy count _ => count
  | .endOfBlock => 0

/-- No length is above 258. -/
theorem length_le_of_takeExtended {index count : Nat} {bits behind : Bits}
    (taken : takeExtended lengthTable index bits = .ok (count, behind)) : count ≤ 258 := by
  have bounded : ∀ entry ∈ lengthTable, entry.1 + 2 ^ entry.2 ≤ 259 := by decide
  rw [takeExtended] at taken
  cases isEntry : lengthTable[index]? with
  | none =>
    rw [isEntry] at taken
    cases taken
  | some entry =>
    rw [isEntry] at taken
    obtain ⟨⟨more, after⟩, isMore, isCount⟩ := Service.ok_of_bind taken
    obtain ⟨rfl, _⟩ := Prod.mk.inj (Except.ok.inj isCount)
    have small := bounded entry (Array.mem_of_getElem? isEntry)
    have isBelow := (size_takeBits isMore).2
    omega

/-- A symbol takes a bit at least for every 129 bytes that it writes. -/
theorem written_takeToken {literals distances : Code} {token : Token} {bits behind : Bits}
    (taken : takeToken literals distances bits = .ok (token, behind)) :
    token.written + 129 * behind.size ≤ 129 * bits.size := by
  obtain ⟨⟨symbol, afterSymbol⟩, isSymbol, isToken⟩ := Service.ok_of_bind taken
  have first := size_decode isSymbol
  dsimp only at isToken
  split at isToken
  · obtain ⟨rfl, rfl⟩ := Prod.mk.inj (Except.ok.inj isToken)
    rw [Token.written]
    omega
  · split at isToken
    · obtain ⟨rfl, rfl⟩ := Prod.mk.inj (Except.ok.inj isToken)
      rw [Token.written]
      omega
    · obtain ⟨⟨count, afterCount⟩, isCount, isRest⟩ := Service.ok_of_bind isToken
      obtain ⟨⟨index, afterIndex⟩, isIndex, isRest⟩ := Service.ok_of_bind isRest
      obtain ⟨⟨distance, after⟩, isDistance, isCopy⟩ := Service.ok_of_bind isRest
      obtain ⟨rfl, rfl⟩ := Prod.mk.inj (Except.ok.inj isCopy)
      have most := length_le_of_takeExtended isCount
      have second : afterCount.size ≤ afterSymbol.size :=
        (takesFront_takeExtended _ _).shortens _ _ isCount
      have third : afterIndex.size + 1 ≤ afterCount.size := size_decode isIndex
      have fourth : after.size ≤ afterIndex.size :=
        (takesFront_takeExtended _ _).shortens _ _ isDistance
      show count + 129 * after.size ≤ 129 * bits.size
      omega

theorem size_copyBack (distance count : Nat) (output : Array UInt8) :
    (copyBack distance count output).size = output.size + count := by
  induction count generalizing output with
  | zero => rfl
  | succ count inductionHypothesis =>
    rw [copyBack, inductionHypothesis, Array.size_push]
    omega

/-- What is written and what is left of the input never come to more than before, a bit counted as
129 bytes. -/
theorem size_inflateSymbols {literals distances : Code} {symbols : Nat}
    {output written : Array UInt8} {bits after : Bits}
    (done : inflateSymbols literals distances symbols output bits = (written, .ok after)) :
    written.size + 129 * after.size ≤ output.size + 129 * bits.size := by
  induction symbols generalizing output bits with
  | zero => cases (Prod.mk.inj done).2
  | succ symbols inductionHypothesis =>
    rw [inflateSymbols] at done
    cases isToken : takeToken literals distances bits with
    | error halt =>
      rw [isToken] at done
      cases (Prod.mk.inj done).2
    | ok taken =>
      rw [isToken] at done
      obtain ⟨token, behind⟩ := taken
      have step := written_takeToken isToken
      cases token with
      | literal byte =>
        have rest := inductionHypothesis done
        rw [Array.size_push] at rest
        rw [Token.written] at step
        omega
      | copy count distance =>
        have rest := inductionHypothesis done
        rw [size_copyBack] at rest
        rw [Token.written] at step
        omega
      | endOfBlock =>
        obtain ⟨rfl, isAfter⟩ := Prod.mk.inj done
        obtain rfl := Except.ok.inj isAfter
        rw [Token.written] at step
        omega

theorem size_inflateStored {output written : Array UInt8} {bits after : Bits}
    (done : inflateStored output bits = (written, .ok after)) :
    written.size + 129 * after.size ≤ output.size + 129 * bits.size := by
  obtain ⟨current, left, rest⟩ := bits
  unfold inflateStored at done
  dsimp only [Bits.aligned] at done
  split at done
  · next low high lowCheck highCheck content =>
    split at done
    · cases (Prod.mk.inj done).2
    · split at done
      · cases (Prod.mk.inj done).2
      · next enough =>
        obtain ⟨rfl, isAfter⟩ := Prod.mk.inj done
        obtain rfl := Except.ok.inj isAfter
        simp only [Array.size_append, List.size_toArray, List.length_take, Bits.size,
          Bits.ofBytes, List.length_drop, List.length_cons]
        omega
  · cases (Prod.mk.inj done).2

theorem size_inflateBlock {form : Nat} {output written : Array UInt8} {bits after : Bits}
    (done : inflateBlock form output bits = (written, .ok after)) :
    written.size + 129 * after.size ≤ output.size + 129 * bits.size := by
  rcases form with _ | _ | _ | form
  · exact size_inflateStored done
  · exact size_inflateSymbols done
  · rw [inflateBlock, if_neg (by decide), if_neg (by decide), if_pos rfl] at done
    cases isCodes : takeCodes bits with
    | error halt =>
      rw [isCodes] at done
      cases (Prod.mk.inj done).2
    | ok taken =>
      obtain ⟨literals, distances, behind⟩ := taken
      rw [isCodes] at done
      have shorter : behind.size ≤ bits.size := takesFront_takeCodes.shortens bits _ isCodes
      have symbols := size_inflateSymbols done
      omega
  · cases (Prod.mk.inj done).2

theorem size_inflateBlocks {blocks : Nat} {output written : Array UInt8} {bits : Bits}
    {behind : Bytes} (done : inflateBlocks blocks output bits = (written, .ok behind)) :
    written.size ≤ output.size + 129 * bits.size := by
  induction blocks generalizing output bits with
  | zero => cases (Prod.mk.inj done).2
  | succ blocks inductionHypothesis =>
    rw [inflateBlocks] at done
    cases isHeader : takeBits 3 bits with
    | error halt =>
      rw [isHeader] at done
      cases (Prod.mk.inj done).2
    | ok taken =>
      obtain ⟨header, content⟩ := taken
      rw [isHeader] at done
      have mark := (size_takeBits isHeader).1
      dsimp only at done
      rcases isBlock : inflateBlock (header / 2) output content with ⟨filled, halt | after⟩
      · rw [isBlock] at done
        cases (Prod.mk.inj done).2
      · rw [isBlock] at done
        have block := size_inflateBlock isBlock
        dsimp only at done
        split at done
        · obtain ⟨rfl, _⟩ := Prod.mk.inj done
          omega
        · have rest := inductionHypothesis done
          omega

/-- A stream gives at most 1,032 bytes for each of its own. -/
theorem size_inflate {input behind : Bytes} {output : Array UInt8}
    (done : inflate input = (output, .ok behind)) : output.size ≤ 1032 * input.length := by
  have bounded := size_inflateBlocks done
  have bits : (Bits.ofBytes input).size = 8 * input.length := Nat.zero_add _
  have empty : (#[] : Array UInt8).size = 0 := rfl
  omega

/-- A member gives at most 1,032 bytes for each of its own. -/
theorem length_decompress_le {input content : Bytes} (read : decompress input = .ok content) :
    content.length ≤ 1032 * input.length := by
  obtain ⟨stream, rest, header, inflated⟩ := decompress_ok_iff.mp read
  have shorter : 8 * stream.length ≤ 8 * input.length :=
    takesFront_skipHeader.shortens input stream header
  have bounded := size_inflate inflated
  rw [List.size_toArray] at bounded
  omega

/-! ### Long runs -/

/-- The output with what a symbol writes. -/
def Token.write (output : Array UInt8) : Token → Array UInt8
  | .literal byte => output.push byte
  | .copy count distance => copyBack distance count output
  | .endOfBlock => output

deriving instance DecidableEq for Token, Bits

/-- The symbols of a block up to its end. -/
def takeTokens (literals distances : Code) : Nat → Bits → Except Halt (List Token × Bits)
  | 0, _ => .error .truncated
  | symbols + 1, bits => do
    let (token, behind) ← takeToken literals distances bits
    if token = .endOfBlock then return ([], behind)
    else
      let (others, after) ← takeTokens literals distances symbols behind
      return (token :: others, after)

/-- The symbols of a block are written one after the other. -/
theorem inflateSymbols_of_takeTokens {literals distances : Code} {symbols : Nat}
    {tokens : List Token} {bits after : Bits}
    (taken : takeTokens literals distances symbols bits = .ok (tokens, after))
    (output : Array UInt8) :
    inflateSymbols literals distances symbols output bits =
      (tokens.foldl Token.write output, .ok after) := by
  induction symbols generalizing tokens bits output with
  | zero => cases taken
  | succ symbols inductionHypothesis =>
    obtain ⟨⟨token, behind⟩, isToken, isRest⟩ := Service.ok_of_bind taken
    rw [inflateSymbols, isToken]
    dsimp only at isRest ⊢
    split at isRest
    · next isEnd =>
      obtain ⟨rfl, rfl⟩ := Prod.mk.inj (Except.ok.inj isRest)
      rw [isEnd]
      rfl
    · next notEnd =>
      obtain ⟨⟨others, last⟩, isOthers, isTokens⟩ := Service.ok_of_bind isRest
      obtain ⟨rfl, rfl⟩ := Prod.mk.inj (Except.ok.inj isTokens)
      cases token with
      | literal byte => exact inductionHypothesis isOthers _
      | copy count distance => exact inductionHypothesis isOthers _
      | endOfBlock => exact absurd rfl notEnd

/-- So many zeros. -/
def zeros (count : Nat) : Array UInt8 := Array.replicate count 0

theorem append_zeros_succ (output : Array UInt8) (count : Nat) :
    output ++ zeros (count + 1) = (output ++ zeros count).push 0 := by
  rw [zeros, Array.replicate_succ, Array.append_push]
  rfl

/-- A copy from one byte back repeats the last byte. -/
theorem copyBack_zeros (count some : Nat) (output : Array UInt8) :
    copyBack 1 count (output ++ zeros (some + 1)) = output ++ zeros (some + 1 + count) := by
  induction count generalizing some with
  | zero => rfl
  | succ count inductionHypothesis =>
    have last : (output ++ zeros (some + 1)).getD ((output ++ zeros (some + 1)).size - 1) 0 =
        0 := by
      rw [append_zeros_succ]
      simp
    rw [copyBack, last, ite_self, ← append_zeros_succ, inductionHypothesis (some + 1),
      Nat.add_right_comm (some + 1) 1 count]
    rfl

theorem foldl_write_copies (times some : Nat) (output : Array UInt8) :
    (List.replicate times (Token.copy 258 1)).foldl Token.write (output ++ zeros (some + 1)) =
      output ++ zeros (some + 1 + 258 * times) := by
  induction times generalizing some with
  | zero => rfl
  | succ times inductionHypothesis =>
    rw [List.replicate_succ, List.foldl_cons, Token.write, copyBack_zeros,
      Nat.add_right_comm some 1 258, inductionHypothesis (some + 258)]
    congr 2
    omega

/-- A block of a zero and of six times 258 more. -/
def zeroBlock : Bytes := [98, 24, 5, 163, 96, 20, 140, 130, 81, 48, 10, 0]

theorem takeTokens_zeroBlock :
    takeTokens fixedLiterals fixedDistances 94 ⟨12, 5, zeroBlock.tail⟩ =
      .ok (.literal 0 :: List.replicate 6 (.copy 258 1), Bits.ofBytes []) := by
  decide +kernel

/-- The block writes its zeros, and the reader stands behind it. -/
theorem inflateBlocks_zeroBlock (blocks : Nat) (output : Array UInt8) (rest : Bytes) :
    inflateBlocks (blocks + 1) output (Bits.ofBytes (zeroBlock ++ rest)) =
      inflateBlocks blocks (output ++ zeros 1549) (Bits.ofBytes rest) := by
  have ownMark : takeBits 3 (Bits.ofBytes zeroBlock) = .ok (2, ⟨12, 5, zeroBlock.tail⟩) := by
    decide +kernel
  have mark : takeBits 3 (Bits.ofBytes (zeroBlock ++ rest)) =
      .ok (2, ⟨12, 5, zeroBlock.tail ++ rest⟩) :=
    (takesFront_takeBits 3).leavesRest _ _ ownMark rest
  have first : output.push 0 = output ++ zeros (0 + 1) := by
    rw [append_zeros_succ, zeros, Array.replicate_zero, Array.append_empty]
  have written : (Token.literal 0 :: List.replicate 6 (Token.copy 258 1)).foldl Token.write output =
      output ++ zeros 1549 := by
    rw [List.foldl_cons, Token.write, first, foldl_write_copies 6 0 output]
  have block : inflateBlock 1 output ⟨12, 5, zeroBlock.tail⟩ =
      (output ++ zeros 1549, .ok (Bits.ofBytes [])) := by
    have bound : (⟨12, 5, zeroBlock.tail⟩ : Bits).size + 1 = 94 := rfl
    rw [inflateBlock, if_neg Nat.one_ne_zero, if_pos rfl, bound,
      inflateSymbols_of_takeTokens takeTokens_zeroBlock, written]
  have followed : inflateBlock 1 output ⟨12, 5, zeroBlock.tail ++ rest⟩ =
      (output ++ zeros 1549, .ok (Bits.ofBytes rest)) := inflateBlock_followedBy block rest
  rw [inflateBlocks, mark]
  dsimp only [Nat.reduceDiv]
  rw [followed]
  rfl

/-- A stream of so many such blocks and an empty last one. -/
def zeroStream (count : Nat) : Bytes :=
  (List.replicate count zeroBlock).flatten ++ storedBlock true []

theorem length_zeroStream (count : Nat) : (zeroStream count).length = 12 * count + 5 := by
  have lengths : (List.replicate count zeroBlock).map List.length = List.replicate count 12 :=
    List.map_replicate
  rw [zeroStream, List.length_append, List.length_flatten, lengths, List.sum_replicate,
    length_storedBlock, smul_eq_mul, List.length_nil]
  omega

theorem inflateBlocks_zeroStream {count blocks : Nat} (enough : count < blocks)
    (output : Array UInt8) :
    inflateBlocks blocks output (Bits.ofBytes (zeroStream count)) =
      (output ++ zeros (1549 * count), .ok []) := by
  induction count generalizing blocks output with
  | zero =>
    obtain ⟨spare, rfl⟩ := Nat.exists_eq_add_one_of_ne_zero (Nat.ne_zero_of_lt enough)
    have last := @inflateBlocks_block [] (Nat.zero_le _) true spare output []
    rw [List.append_nil, if_pos rfl] at last
    exact last
  | succ count inductionHypothesis =>
    obtain ⟨spare, rfl⟩ := Nat.exists_eq_add_one_of_ne_zero (Nat.ne_zero_of_lt enough)
    have isStream : zeroStream (count + 1) = zeroBlock ++ zeroStream count := by
      rw [zeroStream, List.replicate_succ, List.flatten_cons, List.append_assoc]
      rfl
    rw [isStream, inflateBlocks_zeroBlock, inductionHypothesis (by omega), Array.append_assoc]
    rw [zeros, zeros, Array.replicate_append_replicate, ← zeros]
    congr 3
    omega

theorem inflate_zeroStream (count : Nat) :
    inflate (zeroStream count) = (zeros (1549 * count), .ok []) := by
  have enough : count < 8 * (zeroStream count).length + 1 := by
    rw [length_zeroStream]
    omega
  rw [inflate, inflateBlocks_zeroStream enough, Array.empty_append]

/-- The member of so many zeros that is made of such blocks. -/
def zeroMember (count : Nat) : Bytes :=
  header fastest ++ zeroStream count ++ trailer (zeros (1549 * count)).toList

theorem length_zeroMember (count : Nat) : (zeroMember count).length = 12 * count + 23 := by
  have front : (header fastest).length = 10 := rfl
  rw [zeroMember, List.length_append, List.length_append, front, length_zeroStream, length_trailer]
  omega

theorem decompress_zeroMember (count : Nat) :
    decompress (zeroMember count) = .ok (zeros (1549 * count)).toList := by
  have framed : IsFramed fastest (zeros (1549 * count)).toList (zeroMember count) :=
    ⟨zeroStream count, inflate_zeroStream count, rfl⟩
  exact decompress_of_isMember framed.isMember

end Metering.Gzip
