/-
What members are made of. A stored block says how much it holds, so the reader takes up just its
content and stands behind it, at the next block or, after the last one, at the trailer, where it
finds the check and the length of what it has read; so content that is stored is read back, as
what a compressor makes of it has to be. Whatever an input is, its whole content can be read only
where it begins with a complete member of that content.
-/

import Metering.Gzip.Member
import Metering.Proofs.Bytes

namespace Metering.Gzip

/-! ### Stored blocks -/

theorem littleEndian_two (value : Nat) :
    Bytes.littleEndian 2 value = [UInt8.ofNat value, UInt8.ofNat (value / 256)] := rfl

theorem ofNat_two {value : Nat} (small : value ≤ largestStored) :
    (UInt8.ofNat value).toNat + 256 * (UInt8.ofNat (value / 256)).toNat = value := by
  rw [largestStored] at small
  rw [UInt8.toNat_ofNat', UInt8.toNat_ofNat']
  omega

/-- The mark in front of a block leaves the reader behind its own byte. -/
theorem takeBits_mark {mark : UInt8} (small : mark.toNat < 8) (rest : Bytes) :
    takeBits 3 (Bits.ofBytes (mark :: rest)) = .ok (mark.toNat, ⟨0, 5, rest⟩) := by
  have low : mark.toNat % 2 + 2 * (mark.toNat / 2 % 2 + 2 * (mark.toNat / 2 / 2 % 2 + 2 * 0)) =
      mark.toNat := by omega
  have high : mark.toNat / 2 / 2 / 2 = 0 := by omega
  show Except.ok (mark.toNat % 2 + 2 * (mark.toNat / 2 % 2 + 2 * (mark.toNat / 2 / 2 % 2 + 2 * 0)),
    (⟨mark.toNat / 2 / 2 / 2, 5, rest⟩ : Bits)) = _
  rw [low, high]

/-- A stored block gives its content. -/
theorem inflateStored_block {content : Bytes} (small : content.length ≤ largestStored)
    (output : Array UInt8) (rest : Bytes) :
    inflateStored output ⟨0, 5, Bytes.littleEndian 2 content.length ++
        Bytes.littleEndian 2 (largestStored - content.length) ++ content ++ rest⟩ =
      (output ++ content.toArray, .ok (Bits.ofBytes rest)) := by
  have count := ofNat_two small
  have check := ofNat_two (Nat.sub_le largestStored content.length)
  have enough : ¬ (content ++ rest).length < content.length := by
    rw [List.length_append]
    omega
  simp only [inflateStored, Bits.aligned, littleEndian_two, List.cons_append, List.nil_append,
    count, check]
  rw [if_neg (by rw [largestStored]; exact fun differs => differs rfl), if_neg enough,
    List.take_left, List.drop_left]

theorem inflateBlocks_block {content : Bytes} (small : content.length ≤ largestStored)
    (isLast : Bool) (blocks : Nat) (output : Array UInt8) (rest : Bytes) :
    inflateBlocks (blocks + 1) output (Bits.ofBytes (storedBlock isLast content ++ rest)) =
      if isLast then (output ++ content.toArray, .ok rest)
      else inflateBlocks blocks (output ++ content.toArray) (Bits.ofBytes rest) := by
  cases isLast with
  | true =>
    have mark : takeBits 3 (Bits.ofBytes (storedBlock true content ++ rest)) =
        .ok (1, ⟨0, 5, Bytes.littleEndian 2 content.length ++
          Bytes.littleEndian 2 (largestStored - content.length) ++ content ++ rest⟩) :=
      takeBits_mark (by decide) _
    simp only [inflateBlocks, mark, inflateBlock, Nat.reduceDiv, if_true,
      inflateStored_block small, Nat.reduceMod]
    rfl
  | false =>
    have mark : takeBits 3 (Bits.ofBytes (storedBlock false content ++ rest)) =
        .ok (0, ⟨0, 5, Bytes.littleEndian 2 content.length ++
          Bytes.littleEndian 2 (largestStored - content.length) ++ content ++ rest⟩) :=
      takeBits_mark (by decide) _
    simp only [inflateBlocks, mark, inflateBlock, Nat.reduceDiv, if_true,
      inflateStored_block small, Nat.reduceMod, Nat.zero_ne_one, Bool.false_eq_true, if_false]

/-- Stored blocks are read up to the last one, to which their count has to reach. -/
theorem inflateBlocks_storedBlocks {more blocks : Nat} (enough : more < blocks) {content : Bytes}
    (small : content.length ≤ (more + 1) * largestStored) (output : Array UInt8) (rest : Bytes) :
    inflateBlocks blocks output (Bits.ofBytes (storedBlocks more content ++ rest)) =
      (output ++ content.toArray, .ok rest) := by
  induction more generalizing blocks content output with
  | zero =>
    obtain ⟨spare, rfl⟩ := Nat.exists_eq_add_one_of_ne_zero (Nat.ne_zero_of_lt enough)
    rw [storedBlocks, inflateBlocks_block (by omega), if_pos rfl]
  | succ more inductionHypothesis =>
    obtain ⟨spare, rfl⟩ := Nat.exists_eq_add_one_of_ne_zero (Nat.ne_zero_of_lt enough)
    rw [storedBlocks]
    split
    · next isLast => rw [inflateBlocks_block isLast, if_pos rfl]
    · next isLonger =>
      have fullBlock : (content.take largestStored).length ≤ largestStored := List.length_take_le ..
      have others : (content.drop largestStored).length ≤ (more + 1) * largestStored := by
        rw [List.length_drop, Nat.succ_mul (more + 1)] at *
        omega
      rw [List.append_assoc, inflateBlocks_block fullBlock, if_neg Bool.false_ne_true,
        inductionHypothesis (by omega) others, Array.append_assoc,
        List.append_toArray (content.take largestStored), List.take_append_drop]

theorem length_storedBlock (isLast : Bool) (content : Bytes) :
    (storedBlock isLast content).length = content.length + 5 := by
  simp only [storedBlock, List.length_append, List.length_cons, Bytes.length_littleEndian]
  omega

theorem length_le_storedBlocks (more : Nat) (content : Bytes) :
    content.length ≤ (storedBlocks more content).length := by
  induction more generalizing content with
  | zero =>
    rw [storedBlocks, length_storedBlock]
    exact Nat.le_add_right _ 5
  | succ more inductionHypothesis =>
    rw [storedBlocks]
    split
    · rw [length_storedBlock]
      exact Nat.le_add_right _ 5
    · have others := inductionHypothesis (content.drop largestStored)
      rw [List.length_drop] at others
      rw [List.length_append, length_storedBlock, List.length_take]
      omega

theorem length_storedBlocks_le (more : Nat) (content : Bytes) :
    (storedBlocks more content).length ≤ content.length + 5 * (more + 1) := by
  induction more generalizing content with
  | zero => exact Nat.le_of_eq (length_storedBlock true content)
  | succ more inductionHypothesis =>
    rw [storedBlocks]
    split
    · rw [length_storedBlock]
      omega
    · have others := inductionHypothesis (content.drop largestStored)
      rw [List.length_drop] at others
      rw [List.length_append, length_storedBlock, List.length_take]
      omega

/-- What was stored is read back, and the reader stands behind it. -/
theorem inflate_stored (content rest : Bytes) :
    inflate (stored content ++ rest) = (content.toArray, .ok rest) := by
  have reach : content.length ≤ (content.length / largestStored + 1) * largestStored := by
    rw [Nat.mul_comm]
    exact Nat.le_of_lt (Nat.lt_mul_div_succ content.length (by decide))
  have enough : content.length / largestStored < 8 * (stored content ++ rest).length + 1 := by
    have blocks := Nat.div_le_self content.length largestStored
    have size := length_le_storedBlocks (content.length / largestStored) content
    rw [List.length_append, stored]
    omega
  rw [stored] at enough
  rw [inflate, stored, inflateBlocks_storedBlocks enough reach, Array.empty_append]

/-! ### Compressors -/

/-- A compressor whose streams can be relied on: whatever its content, a stream is read back to its
last byte, and it is not much longer than the content. -/
class LawfulDeflater [Deflater] : Prop where
  inflate_deflate : ∀ level content,
    inflate (Deflater.deflate level content) = (content.toArray, .ok [])
  length_deflate_le : ∀ level content,
    (Deflater.deflate level content).length ≤ 2 * content.length + 256

theorem length_stored_le (content : Bytes) :
    (stored content).length ≤ 2 * content.length + 256 := by
  have blocks := length_storedBlocks_le (content.length / largestStored) content
  rw [largestStored] at blocks
  rw [stored, largestStored]
  omega

instance : LawfulDeflater where
  inflate_deflate _ content := by
    have read := inflate_stored content []
    rwa [List.append_nil] at read
  length_deflate_le _ content := length_stored_le content

/-! ### Members -/

theorem skipHeader_header (level : Level) (rest : Bytes) :
    skipHeader (header level ++ rest) = .ok rest := by
  have fixed : cutHeader 10 (header level ++ rest) = .ok (header level, rest) := by
    rw [cutHeader]
    have cut := Bytes.cut?_append (header level) rest
    rw [show (header level).length = 10 from rfl] at cut
    rw [cut]
  simp only [skipHeader, fixed]
  rfl

theorem length_trailer (content : Bytes) : (trailer content).length = 8 := by
  rw [trailer, List.length_append, Bytes.length_littleEndian, Bytes.length_littleEndian]

theorem checkTrailer_trailer (content rest : Bytes) :
    checkTrailer content (trailer content ++ rest) = none := by
  have cut := Bytes.cut?_append (trailer content) rest
  rw [length_trailer] at cut
  rw [checkTrailer, cut]
  exact if_pos rfl

/-- Compression makes some content longer by little, at most. -/
theorem length_compress_le [Deflater] [LawfulDeflater] (content : Bytes) :
    (compress content).length ≤ 2 * content.length + 274 := by
  have stream := LawfulDeflater.length_deflate_le fastest content
  have front : (header fastest).length = 10 := rfl
  rw [compress, compressAt, List.length_append, List.length_append, length_trailer, front]
  omega

/-- An input begins with a complete member of some content: a header, a stream up to its last
block, and the check and the length of the content. Anything may stand behind it. -/
def BeginsWith (content input : Bytes) : Prop :=
  ∃ stream rest, skipHeader input = .ok stream ∧
    inflate stream = (content.toArray, .ok (trailer content ++ rest))

theorem of_checkTrailer {content input : Bytes} (checked : checkTrailer content input = none) :
    ∃ rest, input = trailer content ++ rest := by
  rw [checkTrailer] at checked
  split at checked
  · cases checked
  · next found rest cut =>
    split at checked
    · next same =>
      rw [Bytes.cut?] at cut
      split at cut
      · obtain ⟨isFound, isRest⟩ := Prod.mk.inj (Option.some.inj cut)
        rw [← same, ← isFound]
        exact ⟨input.drop 8, (List.take_append_drop 8 input).symm⟩
      · cases cut
    · cases checked

/-- The whole content of an input can be read where it begins with a complete member of it. -/
theorem decompress_ok_iff {content input : Bytes} :
    decompress input = .ok content ↔ BeginsWith content input := by
  constructor
  · intro read
    rw [decompress, openMember] at read
    cases header : skipHeader input with
    | error fault =>
      rw [header] at read
      cases read
    | ok stream =>
      rw [header] at read
      dsimp only at read
      split at read
      · next output behind inflated =>
        rw [Stream.finish] at read
        cases checked : checkTrailer output.toList behind with
        | some fault =>
          rw [checked] at read
          cases read
        | none =>
          rw [checked] at read
          obtain rfl := Except.ok.inj read
          obtain ⟨rest, rfl⟩ := of_checkTrailer checked
          exact ⟨stream, rest, header, inflated⟩
      · cases read
      · cases read
  · rintro ⟨stream, rest, header, inflated⟩
    rw [decompress, openMember, header]
    dsimp only
    rw [inflated]
    dsimp only
    rw [checkTrailer_trailer]
    rfl

end Metering.Gzip
