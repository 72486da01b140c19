/-
Members that are cut short. No reader of a member looks beyond what it takes: where it succeeds,
it succeeds in the same way with more input behind, and leaves that to what comes after it. So
what has been read without a fault stays what it is, however the input goes on, and a member
that ends with its trailer has no other member in front of its end. What is left of a member
when its end is cut off has a fault, wherever the cut is and whatever has compressed it.
-/

import Metering.Proofs.Gzip.Readers

namespace Metering.Gzip

open Continued (followedBy)

/-! ### Blocks -/

/-- The symbols of a block are the same with more input behind and with a larger bound. -/
theorem inflateSymbols_followedBy {literals distances : Code} {symbols enough : Nat}
    (bound : symbols ≤ enough) {output written : Array UInt8} {bits after : Bits}
    (done : inflateSymbols literals distances symbols output bits = (written, .ok after))
    (more : Bytes) :
    inflateSymbols literals distances enough output (followedBy bits more) =
      (written, .ok (followedBy after more)) := by
  induction symbols generalizing enough output bits with
  | zero => cases (Prod.mk.inj done).2
  | succ symbols inductionHypothesis =>
    obtain ⟨spare, rfl⟩ := Nat.exists_eq_add_one_of_ne_zero (Nat.ne_zero_of_lt bound)
    have within := Nat.le_of_succ_le_succ bound
    rw [inflateSymbols] at done ⊢
    cases isToken : takeToken literals distances bits with
    | error halt =>
      rw [isToken] at done
      cases (Prod.mk.inj done).2
    | ok taken =>
      rw [isToken] at done
      rw [(takesFront_takeToken literals distances).leavesRest bits taken isToken more]
      obtain ⟨token, behind⟩ := taken
      cases token with
      | literal byte => exact inductionHypothesis within done
      | copy count distance => exact inductionHypothesis within done
      | endOfBlock =>
        obtain ⟨rfl, isAfter⟩ := Prod.mk.inj done
        rw [← Except.ok.inj isAfter]
        rfl

theorem inflateStored_followedBy {output written : Array UInt8} {bits after : Bits}
    (done : inflateStored output bits = (written, .ok after)) (more : Bytes) :
    inflateStored output (followedBy bits more) = (written, .ok (followedBy after more)) := by
  obtain ⟨current, left, rest⟩ := bits
  unfold inflateStored at done ⊢
  dsimp only [Bits.aligned, followedBy] at done ⊢
  split at done
  · next low high lowCheck highCheck content =>
    dsimp only [List.cons_append]
    split at done
    · cases (Prod.mk.inj done).2
    · next agrees =>
      rw [if_neg agrees]
      split at done
      · cases (Prod.mk.inj done).2
      · next enough =>
        have enough := Nat.not_lt.mp enough
        have longer := Nat.le_trans enough (List.length_append ▸ Nat.le_add_right _ more.length)
        obtain ⟨isWritten, isAfter⟩ := Prod.mk.inj done
        rw [if_neg (Nat.not_lt.mpr longer), List.take_append_of_le_length enough,
          List.drop_append_of_le_length enough, isWritten, ← Except.ok.inj isAfter]
        rfl
  · cases (Prod.mk.inj done).2

theorem size_followedBy (bits : Bits) (more : Bytes) :
    bits.size ≤ (followedBy bits more).size := by
  show bits.left + 8 * bits.rest.length ≤ bits.left + 8 * (bits.rest ++ more).length
  rw [List.length_append]
  omega

theorem inflateBlock_followedBy {form : Nat} {output written : Array UInt8} {bits after : Bits}
    (done : inflateBlock form output bits = (written, .ok after)) (more : Bytes) :
    inflateBlock form output (followedBy bits more) = (written, .ok (followedBy after more)) := by
  have symbolBound (bits : Bits) := Nat.succ_le_succ (size_followedBy bits more)
  rcases form with _ | _ | _ | form
  · exact inflateStored_followedBy done more
  · exact inflateSymbols_followedBy (symbolBound bits) done more
  · rw [inflateBlock, if_neg (by decide), if_neg (by decide), if_pos rfl] at done ⊢
    cases isCodes : takeCodes bits with
    | error halt =>
      rw [isCodes] at done
      cases (Prod.mk.inj done).2
    | ok taken =>
      rw [isCodes] at done
      rw [takesFront_takeCodes.leavesRest bits taken isCodes more]
      exact inflateSymbols_followedBy (symbolBound taken.2.2) done more
  · cases (Prod.mk.inj done).2

theorem inflateBlocks_followedBy {blocks enough : Nat} (bound : blocks ≤ enough)
    {output written : Array UInt8} {bits : Bits} {behind : Bytes}
    (done : inflateBlocks blocks output bits = (written, .ok behind)) (more : Bytes) :
    inflateBlocks enough output (followedBy bits more) = (written, .ok (behind ++ more)) := by
  induction blocks generalizing enough output bits with
  | zero => cases (Prod.mk.inj done).2
  | succ blocks inductionHypothesis =>
    obtain ⟨spare, rfl⟩ := Nat.exists_eq_add_one_of_ne_zero (Nat.ne_zero_of_lt bound)
    rw [inflateBlocks] at done ⊢
    cases isHeader : takeBits 3 bits with
    | error halt =>
      rw [isHeader] at done
      cases (Prod.mk.inj done).2
    | ok taken =>
      obtain ⟨header, content⟩ := taken
      rw [isHeader] at done
      rw [(takesFront_takeBits 3).leavesRest bits _ isHeader more]
      dsimp only [followedBy] at done ⊢
      rcases isBlock : inflateBlock (header / 2) output content with ⟨filled, halt | after⟩
      · rw [isBlock] at done
        cases (Prod.mk.inj done).2
      · rw [isBlock] at done
        have block := inflateBlock_followedBy isBlock more
        dsimp only [followedBy] at block
        rw [block]
        dsimp only at done ⊢
        split at done
        · next isLast =>
          obtain ⟨rfl, isBehind⟩ := Prod.mk.inj done
          rw [if_pos isLast, ← Except.ok.inj isBehind]
          rfl
        · next notLast =>
          rw [if_neg notLast]
          exact inductionHypothesis (Nat.le_of_succ_le_succ bound) done

/-- A stream that is read to its end is read in the same way with more input behind. -/
theorem inflate_append {input behind : Bytes} {output : Array UInt8}
    (done : inflate input = (output, .ok behind)) (more : Bytes) :
    inflate (input ++ more) = (output, .ok (behind ++ more)) := by
  refine inflateBlocks_followedBy ?_ done more
  rw [List.length_append]
  omega

/-! ### Members with nothing behind -/

/-- An input is a complete member of some content, and nothing stands behind it. -/
def IsMember (content input : Bytes) : Prop :=
  ∃ stream, skipHeader input = .ok stream ∧
    inflate stream = (content.toArray, .ok (trailer content))

theorem openMember_of_isMember {content input : Bytes} (isMember : IsMember content input) :
    openMember input = ⟨content, none⟩ := by
  obtain ⟨stream, header, inflated⟩ := isMember
  have checked := checkTrailer_trailer content []
  rw [List.append_nil] at checked
  rw [openMember, header]
  dsimp only
  rw [inflated]
  dsimp only
  rw [checked]

theorem decompress_of_isMember {content file : Bytes} (isMember : IsMember content file) :
    decompress file = .ok content := by
  rw [decompress, openMember_of_isMember isMember]
  rfl

/-- What has no fault begins with a complete member of what comes out of it. -/
theorem of_fault_eq_none {input : Bytes} (whole : (openMember input).fault = none) :
    BeginsWith (openMember input).delivered input := by
  rw [← decompress_ok_iff, decompress, Stream.finish, whole]

/-- What is left of a member that is cut off has a fault. -/
theorem fault_of_torn {content file torn : Bytes} (isMember : IsMember content file)
    (isFront : torn <+: file) (shorter : torn ≠ file) : (openMember torn).fault ≠ none := by
  intro whole
  obtain ⟨missing, rfl⟩ := isFront
  obtain ⟨stream, header, inflated⟩ := isMember
  obtain ⟨front, rest, frontHeader, frontInflated⟩ := of_fault_eq_none whole
  have isStream := takesFront_skipHeader.leavesRest torn front frontHeader missing
  rw [show followedBy torn missing = torn ++ missing from rfl, header] at isStream
  have same := inflate_append frontInflated missing
  rw [show front ++ missing = stream from (Except.ok.inj isStream).symm, inflated] at same
  obtain ⟨isContent, isBehind⟩ := Prod.mk.inj same
  obtain rfl : content = (openMember torn).delivered := by
    simpa using isContent
  have lengths := congrArg List.length (Except.ok.inj isBehind)
  simp only [List.length_append] at lengths
  obtain rfl : missing = [] := List.length_eq_zero_iff.mp (by omega)
  exact shorter (List.append_nil torn).symm

/-! ### Frames -/

/-- A file is the frame of some content around a stream that any compressor may have made of it. -/
def IsFramed (level : Level) (content file : Bytes) : Prop :=
  ∃ stream, inflate stream = (content.toArray, .ok []) ∧
    file = header level ++ stream ++ trailer content

theorem isFramed_compressAt [Deflater] [LawfulDeflater] (level : Level) (content : Bytes) :
    IsFramed level content (compressAt level content) :=
  ⟨Deflater.deflate level content, LawfulDeflater.inflate_deflate level content, rfl⟩

theorem IsFramed.isMember {level : Level} {content file : Bytes}
    (framed : IsFramed level content file) : IsMember content file := by
  obtain ⟨stream, inflated, rfl⟩ := framed
  refine ⟨stream ++ trailer content, ?_, inflate_append inflated _⟩
  rw [List.append_assoc, skipHeader_header]

/-- What a compressor makes is a member, at every level. -/
theorem isMember_compressAt [Deflater] [LawfulDeflater] (level : Level) (content : Bytes) :
    IsMember content (compressAt level content) := (isFramed_compressAt level content).isMember

theorem decompress_compress [Deflater] [LawfulDeflater] (content : Bytes) :
    decompress (compress content) = .ok content :=
  decompress_of_isMember (isMember_compressAt fastest content)

end Metering.Gzip
