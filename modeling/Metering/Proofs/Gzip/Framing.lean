/-
What the frame of a member gives. Whatever has compressed the content, the member is read back,
nothing that is cut off at its end is, and no other check and length are taken for its own. How
much of the content a reader takes, and in what pieces, is all the same: what it leaves is drained,
so it succeeds only where the whole content can be read.
-/

import Metering.Gzip.Decoder
import Metering.Proofs.Gzip.Torn

namespace Metering.Gzip

/-! ### Pieces -/

namespace Stream

/-- What comes where a piece is asked for: something from the front of the content while there is
some, and behind it what goes wrong or nothing. -/
inductive Answers (stream : Stream) (most : Nat) : Except Fault (Bytes × Stream) → Prop
  | broken {fault : Fault} (ended : stream.delivered = []) (isFault : stream.fault = some fault) :
      Answers stream most (.error fault)
  | ended (ended : stream.delivered = []) (whole : stream.fault = none) :
      Answers stream most (.ok ([], stream))
  | piece {byte : UInt8} {piece : Bytes} {rest : Stream} (short : (byte :: piece).length ≤ most)
      (content : stream.delivered = byte :: piece ++ rest.delivered)
      (kept : rest.fault = stream.fault) : Answers stream most (.ok (byte :: piece, rest))

variable (pace : Pace)

theorem answers_of_read {stream : Stream} {most : Nat} (room : most ≠ 0)
    {answer : Except Fault (Bytes × Stream)} (isRead : stream.read pace most = answer) :
    stream.Answers most answer := by
  subst isRead
  obtain ⟨delivered, fault⟩ := stream
  cases delivered with
  | nil =>
    cases fault with
    | none => exact .ended rfl rfl
    | some fault => exact .broken rfl rfl
  | cons byte others =>
    obtain ⟨most, rfl⟩ := Nat.exists_eq_add_one_of_ne_zero room
    show Answers _ _ (.ok ((byte :: others).take (min (most + 1) (pace.ready others.length + 1)),
      ⟨(byte :: others).drop (min (most + 1) (pace.ready others.length + 1)), fault⟩))
    rw [Nat.add_min_add_right, List.take_succ_cons, List.drop_succ_cons]
    refine .piece ?_ ?_ rfl
    · rw [List.length_cons, List.length_take]
      omega
    · rw [List.cons_append, List.take_append_drop]

/-- The pieces of an exact reading make up the front of the content. -/
theorem readExactly_eq (count : Nat) (stream : Stream) :
    stream.readExactly pace count =
      if count ≤ stream.delivered.length then
        .ok (stream.delivered.take count,
          { stream with delivered := stream.delivered.drop count })
      else .error (stream.fault.getD .notFilled) := by
  -- Piece by piece: what is left to read and what is left of the content shrink alike.
  fun_induction readExactly pace count stream with
  | case1 stream => rfl
  | case2 count stream more fault isRead =>
    cases answers_of_read pace more isRead with
    | broken ended isFault =>
      rw [ended, isFault, List.length_nil, if_neg (mt Nat.le_zero.mp more)]
      rfl
  | case3 count stream more rest isRead =>
    cases answers_of_read pace more isRead with
    | ended ended whole =>
      rw [ended, whole, List.length_nil, if_neg (mt Nat.le_zero.mp more)]
      rfl
  | case4 count stream more byte piece rest isRead inductionHypothesis =>
    cases answers_of_read pace more isRead with
    | piece short content kept =>
      obtain ⟨wanted, rfl⟩ := Nat.exists_eq_add_of_le short
      have left : (byte :: piece).length + wanted - (piece.length + 1) = wanted :=
        Nat.add_sub_cancel_left ..
      rw [left] at inductionHypothesis ⊢
      rw [inductionHypothesis, content, kept, List.length_append, List.take_length_add_append,
        List.drop_length_add_append]
      by_cases enough : wanted ≤ rest.delivered.length
      · rw [if_pos enough, if_pos (Nat.add_le_add_left enough _)]
        rfl
      · rw [if_neg enough, if_neg (mt Nat.le_of_add_le_add_left enough)]
        rfl

/-- The pieces of a reading of everything make up the content, and what goes wrong behind it is
found. -/
theorem readAll_eq (stream : Stream) :
    stream.readAll pace = stream.finish (stream.delivered, ⟨[], none⟩) := by
  fun_induction readAll pace stream with
  | case1 stream fault isRead =>
    cases answers_of_read pace (Nat.succ_ne_zero _) isRead with
    | broken ended isFault => rw [finish, isFault]
  | case2 stream rest isRead =>
    cases answers_of_read pace (Nat.succ_ne_zero _) isRead with
    | ended ended whole =>
      obtain ⟨delivered, fault⟩ := stream
      obtain rfl : delivered = [] := ended
      obtain rfl : fault = none := whole
      rfl
  | case3 stream byte piece rest isRead inductionHypothesis =>
    cases answers_of_read pace (Nat.succ_ne_zero _) isRead with
    | piece short content kept =>
      rw [inductionHypothesis, content, finish, finish, kept]
      cases stream.fault <;> rfl

end Stream

/-! ### Drained members -/

theorem decompress_eq_ok_iff {input content : Bytes} :
    decompress input = .ok content ↔ openMember input = ⟨content, none⟩ := by
  rw [decompress]
  obtain ⟨delivered, _ | fault⟩ := openMember input <;> simp [Stream.finish]

section

variable {Failure Result : Type} {ofFault : Fault → Failure} (pace : Pace)
  {decode : Stream → Except Failure (Result × Stream)}

/-- Draining comes to a look at what goes wrong behind the content. -/
theorem decompressWith_eq (input : Bytes) :
    decompressWith ofFault pace decode input =
      decode (openMember input) >>= fun taken => (taken.2.finish taken.1).mapError ofFault := by
  rw [decompressWith]
  cases decode (openMember input) with
  | error failure => rfl
  | ok taken =>
    obtain ⟨result, delivered, fault⟩ := taken
    show (Stream.readAll pace _).mapError ofFault >>= _ = _
    rw [Stream.readAll_eq]
    cases fault <;> rfl

/-- However much a reader takes, it succeeds only where the whole content can be read. -/
theorem decompressWith_ok_iff
    (keeps : ∀ stream result rest, decode stream = .ok (result, rest) → rest.fault = stream.fault)
    {input : Bytes} {result : Result} :
    decompressWith ofFault pace decode input = .ok result ↔
      ∃ content, decompress input = .ok content ∧
        ∃ rest, decode ⟨content, none⟩ = .ok (result, rest) := by
  rw [decompressWith_eq]
  constructor
  · intro done
    cases isTaken : decode (openMember input) with
    | error failure =>
      rw [isTaken] at done
      cases done
    | ok taken =>
      obtain ⟨found, rest⟩ := taken
      rw [isTaken] at done
      change (rest.finish found).mapError ofFault = .ok result at done
      have kept := keeps _ _ _ isTaken
      cases whole : rest.fault with
      | some fault =>
        rw [Stream.finish, whole] at done
        cases done
      | none =>
        rw [Stream.finish, whole] at done
        cases done
        have opened : openMember input = ⟨(openMember input).delivered, none⟩ := by
          rw [← whole, kept]
        exact ⟨_, decompress_eq_ok_iff.mpr opened, rest, opened ▸ isTaken⟩
  · rintro ⟨content, isContent, rest, isTaken⟩
    rw [decompress_eq_ok_iff.mp isContent, isTaken]
    show (rest.finish result).mapError ofFault = .ok result
    rw [Stream.finish, keeps _ _ _ isTaken]
    rfl

end

theorem decompressWith_readAll (pace : Pace) (input : Bytes) :
    decompressWith id pace (Stream.readAll pace) input = decompress input := by
  rw [decompressWith_eq, Stream.readAll_eq, decompress]
  obtain ⟨delivered, _ | fault⟩ := openMember input <;> rfl

theorem decompressWith_readExactly (pace : Pace) (count : Nat) (input : Bytes) :
    decompressWith id pace (Stream.readExactly pace count) input =
      decompressExactly count input := by
  rw [decompressWith_eq, Stream.readExactly_eq, decompressExactly]
  split
  · obtain ⟨delivered, _ | fault⟩ := openMember input <;> rfl
  · rfl

/-- Reading exactly so many bytes gives the front of the content, and only of content that can be
read to its end. -/
theorem decompressExactly_ok_iff {count : Nat} {input read : Bytes} :
    decompressExactly count input = .ok read ↔
      ∃ content, decompress input = .ok content ∧ count ≤ content.length ∧
        read = content.take count := by
  let pace : Pace := ⟨id, id⟩
  have keeps (stream : Stream) (taken : Bytes) (rest : Stream)
      (isTaken : stream.readExactly pace count = .ok (taken, rest)) :
      rest.fault = stream.fault := by
    rw [Stream.readExactly_eq] at isTaken
    split at isTaken
    · cases isTaken
      rfl
    · cases isTaken
  rw [← decompressWith_readExactly pace, decompressWith_ok_iff pace keeps]
  refine exists_congr fun content => and_congr_right fun _ => ?_
  rw [Stream.readExactly_eq]
  split
  · next enough =>
    constructor
    · rintro ⟨rest, isRead⟩
      exact ⟨enough, (Prod.mk.inj (Except.ok.inj isRead)).1.symm⟩
    · rintro ⟨-, rfl⟩
      exact ⟨_, rfl⟩
  · next tooFew =>
    refine iff_of_false ?_ fun fits => tooFew fits.1
    rintro ⟨rest, isRead⟩
    cases isRead

/-! ### Damaged frames -/

/-- Behind the stream of a frame anything else may stand. -/
theorem openMember_framed (level : Level) {content stream : Bytes}
    (inflated : inflate stream = (content.toArray, .ok [])) (ending : Bytes) :
    openMember (header level ++ stream ++ ending) = ⟨content, checkTrailer content ending⟩ := by
  have more := inflate_append inflated ending
  rw [List.nil_append] at more
  rw [openMember, List.append_assoc, skipHeader_header]
  dsimp only
  rw [more]

theorem decompress_of_torn {content file torn : Bytes} (isMember : IsMember content file)
    (isFront : torn <+: file) (shorter : torn ≠ file) :
    ∃ fault, decompress torn = .error fault := by
  obtain ⟨fault, isFault⟩ := Option.ne_none_iff_exists'.mp (fault_of_torn isMember isFront shorter)
  exact ⟨fault, by rw [decompress, Stream.finish, isFault]⟩

/-- No other eight bytes are taken for the check and the length of the content. -/
theorem decompress_of_other_ending {level : Level} {content file : Bytes}
    (framed : IsFramed level content file) {ending : Bytes} (size : ending.length = 8)
    (other : file.take (file.length - 8) ++ ending ≠ file) :
    decompress (file.take (file.length - 8) ++ ending) = .error .badChecksum := by
  obtain ⟨stream, inflated, rfl⟩ := framed
  have front : (header level ++ stream ++ trailer content).take
      ((header level ++ stream ++ trailer content).length - 8) = header level ++ stream := by
    rw [List.length_append, length_trailer, Nat.add_sub_cancel, List.take_left]
  rw [front] at other ⊢
  have cut := Bytes.cut?_append ending []
  rw [List.append_nil, size] at cut
  have refused : checkTrailer content ending = some .badChecksum := by
    rw [checkTrailer, cut]
    exact if_neg fun same => other (by rw [same])
  rw [decompress, openMember_framed level inflated, refused]
  rfl

/-- What stands behind the first member is not looked at. -/
theorem decompress_append {input content : Bytes} (read : decompress input = .ok content)
    (more : Bytes) : decompress (input ++ more) = .ok content := by
  obtain ⟨stream, rest, header, inflated⟩ := decompress_ok_iff.mp read
  refine decompress_ok_iff.mpr ⟨stream ++ more, rest ++ more, ?_, ?_⟩
  · exact takesFront_skipHeader.leavesRest input stream header more
  · rw [inflate_append inflated more, List.append_assoc]

/-! ### What a frame is good for -/

/-- What is compressed is framed, and what is framed is read back, while nothing that is cut off
and no other check and length are read. More input behind is ignored. A reader of so many bytes,
in whatever pieces they come, succeeds just where the whole content can be read and is as long, and
it has the front of it then. -/
theorem framed_content_is_read_or_refused [Deflater] [LawfulDeflater] :
    (∀ level content, IsFramed level content (compressAt level content)) ∧
    (∀ level content file, IsFramed level content file →
      decompress file = .ok content ∧
        (∀ torn, torn <+: file → torn ≠ file → ∃ fault, decompress torn = .error fault) ∧
        ∀ ending : Bytes, ending.length = 8 → file.take (file.length - 8) ++ ending ≠ file →
          decompress (file.take (file.length - 8) ++ ending) = .error .badChecksum) ∧
    (∀ input content, decompress input = .ok content →
      ∀ more, decompress (input ++ more) = .ok content) ∧
    ∀ pace input, decompressWith id pace (Stream.readAll pace) input = decompress input ∧
      ∀ count, decompressWith id pace (Stream.readExactly pace count) input =
          decompressExactly count input ∧
        ∀ read, decompressExactly count input = .ok read ↔
          ∃ content, decompress input = .ok content ∧ count ≤ content.length ∧
            read = content.take count := by
  refine ⟨isFramed_compressAt, fun level content file framed => ⟨?_, fun torn isFront shorter => ?_,
    fun ending size other => ?_⟩, fun input content read more => ?_, fun pace input => ⟨?_,
    fun count => ⟨?_, fun read => decompressExactly_ok_iff⟩⟩⟩
  · exact decompress_of_isMember framed.isMember
  · exact decompress_of_torn framed.isMember isFront shorter
  · exact decompress_of_other_ending framed size other
  · exact decompress_append read more
  · exact decompressWith_readAll pace input
  · exact decompressWith_readExactly pace count input

/-- Three bytes, whole and with more behind, without the last byte, with another ending, and two
of them in pieces of one byte. -/
theorem framed_content_is_read_or_refused_three_bytes :
    let file := compressAt balanced [7, 8, 9]
    let pace : Pace := ⟨fun _ => 0, fun _ => 0⟩
    decompress (file ++ [1, 2]) = .ok [7, 8, 9] ∧
      (∃ fault, decompress (file.take 25) = .error fault) ∧
      decompress (file.take 18 ++ List.replicate 8 0) = .error .badChecksum ∧
      decompressWith id pace (Stream.readExactly pace 2) file = .ok [7, 8] := by
  intro file pace
  have size : file.length = 26 := by decide +kernel
  obtain ⟨framed, ofFramed, appended, readers⟩ := framed_content_is_read_or_refused
  obtain ⟨whole, torn, ending⟩ := ofFramed balanced [7, 8, 9] file (framed balanced [7, 8, 9])
  refine ⟨appended file _ whole [1, 2], torn _ (List.take_prefix 25 file) ?_, ?_, ?_⟩
  · intro same
    have lengths := congrArg List.length same
    rw [List.length_take, size] at lengths
    exact absurd lengths (by decide)
  · rw [size] at ending
    refine ending (List.replicate 8 0) (by decide) fun same => ?_
    -- The length tells them apart already, so the check need not be worked out.
    exact absurd (congrArg (List.drop 22) same) (by decide +kernel)
  · obtain ⟨same, isFront⟩ := (readers pace file).2 2
    rw [same, isFront]
    exact ⟨[7, 8, 9], whole, by decide, rfl⟩

end Metering.Gzip
