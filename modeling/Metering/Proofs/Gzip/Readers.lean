/-
The readers that a member is taken apart with. Each of them takes something from the front of its
input: with more input behind it does the same and leaves that to what comes after it, and it never
leaves more than there was. What is put together from such readers is such a reader, so that this
is seen for the numbers, the words and the pieces of a header, and follows for all of the rest.
-/

import Metering.Proofs.Gzip.Member
import Metering.Proofs.Service.Call

namespace Metering.Gzip

/-! ### Input that goes on and input that is used up -/

/-- Input that can go on. -/
class Continued (Input : Type) where
  /-- The input with more behind it. -/
  followedBy : Input → Bytes → Input

open Continued (followedBy)

instance : Continued Bytes := ⟨fun input more => input ++ more⟩

instance : Continued Bits := ⟨fun bits more => { bits with rest := bits.rest ++ more }⟩

instance {Taken Input : Type} [Continued Input] : Continued (Taken × Input) :=
  ⟨fun taken more => (taken.1, followedBy taken.2 more)⟩

/-- Input of which so many bits are left. -/
class Measured (Input : Type) where
  /-- The count of bits left. -/
  size : Input → Nat

open Measured (size)

instance : Measured Bits := ⟨Bits.size⟩

instance : Measured Bytes := ⟨fun input => 8 * input.length⟩

instance {Taken Input : Type} [Measured Input] : Measured (Taken × Input) :=
  ⟨fun taken => size taken.2⟩

variable {Input Failure Taken Result : Type} [Continued Input] [Continued Result]

/-- A reader that leaves alone what stands behind: with more input it gives the same, and the more
input with what it leaves over. -/
def LeavesRest (read : Input → Except Failure Result) : Prop :=
  ∀ input result, read input = .ok result →
    ∀ more, read (followedBy input more) = .ok (followedBy result more)

variable [Measured Input] [Measured Result]

/-- A reader that takes something from the front of its input and leaves the rest. -/
structure TakesFront (read : Input → Except Failure Result) : Prop where
  leavesRest : LeavesRest read
  shortens : ∀ input result, read input = .ok result → size result ≤ size input

/-! ### Readers that are put together -/

/-- A reader that hands its input on as it is. -/
theorem takesFront_ok {put : Input → Result}
    (follows : ∀ input more, followedBy (put input) more = put (followedBy input more))
    (keeps : ∀ input, size (put input) = size input) :
    TakesFront fun input => (.ok (put input) : Except Failure Result) := by
  refine ⟨?_, ?_⟩
  · rintro input result done more
    rw [← Except.ok.inj done, follows]
  · rintro input result done
    rw [← Except.ok.inj done, keeps]

/-- A reader that takes nothing. -/
theorem takesFront_nothing (taken : Taken) :
    TakesFront fun input : Input => (.ok (taken, input) : Except Failure (Taken × Input)) :=
  takesFront_ok (fun _ _ => rfl) fun _ => rfl

theorem takesFront_error (failure : Failure) :
    TakesFront fun _ : Input => (.error failure : Except Failure Result) :=
  ⟨nofun, nofun⟩

/-- Two readers, one after the other. -/
theorem takesFront_bind {first : Input → Except Failure (Taken × Input)}
    {next : Taken × Input → Except Failure Result} (isFirst : TakesFront first)
    (isNext : ∀ taken, TakesFront fun input => next (taken, input)) :
    TakesFront fun input => first input >>= next := by
  refine ⟨fun input result done more => ?_, fun input result done => ?_⟩
  · obtain ⟨taken, isTaken, isResult⟩ := Service.ok_of_bind done
    show (first (followedBy input more) >>= next) = _
    rw [isFirst.leavesRest input taken isTaken more]
    exact (isNext taken.1).leavesRest taken.2 result isResult more
  · obtain ⟨taken, isTaken, isResult⟩ := Service.ok_of_bind done
    exact ((isNext taken.1).shortens taken.2 result isResult).trans
      (isFirst.shortens input taken isTaken)

theorem takesFront_ite {condition : Prop} [Decidable condition]
    {first second : Input → Except Failure Result} (isFirst : TakesFront first)
    (isSecond : TakesFront second) :
    TakesFront fun input => if condition then first input else second input := by
  by_cases holds : condition
  · simp only [if_pos holds]
    exact isFirst
  · simp only [if_neg holds]
    exact isSecond

/-! ### Numbers and words -/

theorem bit?_followedBy {bits behind : Bits} {bit : Nat} (taken : bits.bit? = some (bit, behind))
    (more : Bytes) : (followedBy bits more).bit? = some (bit, followedBy behind more) := by
  obtain ⟨current, left, rest⟩ := bits
  rw [Bits.bit?] at taken ⊢
  dsimp only [followedBy] at taken ⊢
  split at taken
  · next none =>
    rw [if_pos none]
    cases rest with
    | nil => cases taken
    | cons byte others =>
      obtain ⟨rfl, rfl⟩ := Prod.mk.inj (Option.some.inj taken)
      rfl
  · next some =>
    obtain ⟨rfl, rfl⟩ := Prod.mk.inj (Option.some.inj taken)
    rw [if_neg some]

theorem take?_followedBy {count number : Nat} {bits behind : Bits}
    (taken : bits.take? count = some (number, behind)) (more : Bytes) :
    (followedBy bits more).take? count = some (number, followedBy behind more) := by
  induction count generalizing bits number with
  | zero =>
    obtain ⟨rfl, rfl⟩ := Prod.mk.inj (Option.some.inj taken)
    rfl
  | succ count inductionHypothesis =>
    rw [Bits.take?, Option.bind_eq_bind, Option.bind_eq_some_iff] at taken
    obtain ⟨⟨low, middle⟩, isLow, isRest⟩ := taken
    obtain ⟨⟨high, after⟩, isHigh, isNumber⟩ := Option.bind_eq_some_iff.mp isRest
    obtain ⟨rfl, rfl⟩ := Prod.mk.inj (Option.some.inj isNumber)
    rw [Bits.take?, bit?_followedBy isLow]
    show ((followedBy middle more).take? count >>= _) = _
    rw [inductionHypothesis isHigh]
    rfl

theorem size_bit? {bits behind : Bits} {bit : Nat} (taken : bits.bit? = some (bit, behind)) :
    behind.size + 1 = bits.size ∧ bit < 2 := by
  obtain ⟨current, left, rest⟩ := bits
  rw [Bits.bit?] at taken
  dsimp only at taken
  split at taken
  · next none =>
    cases rest with
    | nil => cases taken
    | cons byte others =>
      obtain ⟨rfl, rfl⟩ := Prod.mk.inj (Option.some.inj taken)
      refine ⟨?_, Nat.mod_lt _ Nat.two_pos⟩
      simp only [Bits.size, List.length_cons]
      omega
  · next some =>
    obtain ⟨rfl, rfl⟩ := Prod.mk.inj (Option.some.inj taken)
    refine ⟨?_, Nat.mod_lt _ Nat.two_pos⟩
    simp only [Bits.size]
    omega

/-- A number of so many bits takes up as many, and it is below their power. -/
theorem size_take? {count number : Nat} {bits behind : Bits}
    (taken : bits.take? count = some (number, behind)) :
    behind.size + count = bits.size ∧ number < 2 ^ count := by
  induction count generalizing bits number with
  | zero =>
    obtain ⟨rfl, rfl⟩ := Prod.mk.inj (Option.some.inj taken)
    exact ⟨rfl, Nat.one_pos⟩
  | succ count inductionHypothesis =>
    rw [Bits.take?, Option.bind_eq_bind, Option.bind_eq_some_iff] at taken
    obtain ⟨⟨low, middle⟩, isLow, isRest⟩ := taken
    obtain ⟨⟨high, after⟩, isHigh, isNumber⟩ := Option.bind_eq_some_iff.mp isRest
    obtain ⟨rfl, rfl⟩ := Prod.mk.inj (Option.some.inj isNumber)
    obtain ⟨sizeLow, isBit⟩ := size_bit? isLow
    obtain ⟨sizeHigh, small⟩ := inductionHypothesis isHigh
    rw [Nat.pow_succ]
    omega

theorem size_takeBits {count number : Nat} {bits behind : Bits}
    (taken : takeBits count bits = .ok (number, behind)) :
    behind.size + count = bits.size ∧ number < 2 ^ count := by
  rw [takeBits] at taken
  split at taken
  · next isTaken => exact size_take? (Except.ok.inj taken ▸ isTaken)
  · cases taken

theorem takesFront_takeBits (count : Nat) : TakesFront (takeBits count) := by
  refine ⟨fun bits result done more => ?_, ?_⟩
  · unfold takeBits at done ⊢
    split at done
    · next taken isTaken =>
      obtain ⟨number, behind⟩ := taken
      rw [take?_followedBy isTaken, ← Except.ok.inj done]
      rfl
    · cases done
  · rintro bits ⟨number, behind⟩ taken
    have sizes : size (number, behind) + count = size bits := (size_takeBits taken).1
    omega

theorem takesFront_takeExtended (table : Array (Nat × Nat)) (index : Nat) :
    TakesFront (takeExtended table index) := by
  unfold takeExtended
  cases table[index]? with
  | none => exact takesFront_error _
  | some entry => exact takesFront_bind (takesFront_takeBits _) fun number => takesFront_nothing _

/-- Every word has at least one bit. -/
theorem size_decode {code : Code} {symbol : Nat} {bits behind : Bits}
    (decoded : code.decode bits = .ok (symbol, behind)) : behind.size + 1 ≤ bits.size := by
  have fromState (more length number first shorter : Nat) (bits : Bits)
      (done : code.decodeFrom more length number first shorter bits = .ok (symbol, behind)) :
      behind.size + 1 ≤ bits.size := by
    induction more generalizing length number first shorter bits with
    | zero => cases done
    | succ more inductionHypothesis =>
      rw [Code.decodeFrom] at done
      cases isBit : bits.bit? with
      | none =>
        rw [isBit] at done
        cases done
      | some taken =>
        obtain ⟨bit, middle⟩ := taken
        rw [isBit] at done
        have left := (size_bit? isBit).1
        dsimp only at done
        split at done
        · rw [← (Prod.mk.inj (Except.ok.inj done)).2]
          exact Nat.le_of_eq left
        · have after := inductionHypothesis _ _ _ _ middle done
          omega
  exact fromState longestWord 1 0 0 0 bits decoded

theorem takesFront_decode (code : Code) : TakesFront code.decode := by
  refine ⟨?_, fun bits taken decoded => Nat.le_of_succ_le (size_decode decoded)⟩
  have fromState (more length number first shorter : Nat) :
      LeavesRest (code.decodeFrom more length number first shorter) := by
    induction more generalizing length number first shorter with
    | zero => nofun
    | succ more inductionHypothesis =>
      intro bits result done behind
      rw [Code.decodeFrom] at done ⊢
      cases isBit : bits.bit? with
      | none =>
        rw [isBit] at done
        cases done
      | some taken =>
        obtain ⟨bit, middle⟩ := taken
        rw [isBit] at done
        rw [bit?_followedBy isBit]
        dsimp only at done ⊢
        split at done
        · next isWord =>
          rw [if_pos isWord, ← Except.ok.inj done]
          rfl
        · next noWord =>
          rw [if_neg noWord]
          exact inductionHypothesis _ _ _ _ middle result done behind
  exact fromState longestWord 1 0 0 0

/-! ### Symbols and codes -/

theorem takesFront_takeToken (literals distances : Code) :
    TakesFront (takeToken literals distances) := by
  refine takesFront_bind (takesFront_decode literals) fun symbol => ?_
  refine takesFront_ite (takesFront_nothing _) (takesFront_ite (takesFront_nothing _) ?_)
  refine takesFront_bind (takesFront_takeExtended lengthTable _) fun count => ?_
  refine takesFront_bind (takesFront_decode distances) fun index => ?_
  exact takesFront_bind (takesFront_takeExtended distanceTable index) fun distance =>
    takesFront_nothing _

theorem takesFront_takeTriples (count : Nat) : TakesFront (takeTriples count) := by
  induction count with
  | zero => exact takesFront_nothing _
  | succ count inductionHypothesis =>
    refine takesFront_bind (takesFront_takeBits 3) fun first => ?_
    exact takesFront_bind inductionHypothesis fun others => takesFront_nothing _

theorem takesFront_takeLengths (code : Code) (wanted symbols : Nat) (done : List Nat)
    (count : Nat) : TakesFront (takeLengths code wanted symbols done count) := by
  induction symbols generalizing done count with
  | zero => exact takesFront_error _
  | succ symbols inductionHypothesis =>
    refine takesFront_ite (takesFront_nothing _) (takesFront_ite (takesFront_error _) ?_)
    refine takesFront_bind (takesFront_decode code) fun symbol => ?_
    refine takesFront_ite (inductionHypothesis _ _) (takesFront_ite ?_ ?_)
    · cases done with
      | nil => exact takesFront_error _
      | cons last others =>
        exact takesFront_bind (takesFront_takeBits 2) fun more => inductionHypothesis _ _
    · exact takesFront_bind (takesFront_takeBits _) fun more => inductionHypothesis _ _

theorem takesFront_takeCodes : TakesFront takeCodes := by
  refine takesFront_bind (takesFront_takeBits 5) fun moreLiterals => ?_
  refine takesFront_bind (takesFront_takeBits 5) fun moreDistances => ?_
  refine takesFront_bind (takesFront_takeBits 4) fun moreLengths => ?_
  refine takesFront_bind (takesFront_takeTriples _) fun triples => ?_
  refine takesFront_ite (takesFront_error _) ?_
  refine takesFront_bind (takesFront_takeLengths _ _ _ _ _) fun reversed => ?_
  refine takesFront_ite ?_ (takesFront_error _)
  exact takesFront_ok (fun _ _ => rfl) fun _ => rfl

/-! ### Headers -/

theorem takesFront_cutHeader (count : Nat) : TakesFront (cutHeader count) := by
  refine ⟨?_, ?_⟩
  · intro input result done more
    unfold cutHeader Bytes.cut? at done ⊢
    split at done
    · next parts cut =>
      split at cut
      · next enough =>
        have longer := Nat.le_trans enough (List.length_append ▸ Nat.le_add_right _ more.length)
        dsimp only [followedBy]
        rw [if_pos longer, List.take_append_of_le_length enough,
          List.drop_append_of_le_length enough, ← Except.ok.inj done, ← Option.some.inj cut]
      · cases cut
    · cases done
  · intro input result done
    unfold cutHeader Bytes.cut? at done
    split at done
    · next parts cut =>
      split at cut
      · rw [← Except.ok.inj done, ← Option.some.inj cut]
        exact Nat.mul_le_mul_left 8 (List.length_drop ▸ Nat.sub_le _ _)
      · cases cut
    · cases done

theorem takesFront_cutZeroEnded : TakesFront cutZeroEnded := by
  refine ⟨?_, ?_⟩
  · intro input result done more
    unfold cutZeroEnded at done ⊢
    dsimp only [followedBy] at done ⊢
    split at done
    · cases done
    · next short =>
      split at done
      · next zero rest isRest =>
        have ended : (input.takeWhile (· != 0)).length < input.length := by
          rw [← Nat.sub_pos_iff_lt, ← List.length_drop, isRest]
          exact Nat.succ_pos _
        rw [List.takeWhile_append, if_neg (Nat.ne_of_lt ended), if_neg short,
          List.drop_append_of_le_length (Nat.le_of_lt ended), isRest, ← Except.ok.inj done]
        rfl
      · cases done
  · intro input result done
    unfold cutZeroEnded at done
    dsimp only at done
    split at done
    · cases done
    · split at done
      · next zero rest isRest =>
        rw [← Except.ok.inj done]
        have ended := congrArg List.length isRest
        rw [List.length_drop, List.length_cons] at ended
        exact Nat.mul_le_mul_left 8 (by omega : rest.length ≤ input.length)
      · cases done

theorem takesFront_cutIf {cut : Bytes → Except Fault (Bytes × Bytes)} (isThere : Bool)
    (takes : TakesFront cut) : TakesFront (cutIf isThere cut) := by
  cases isThere with
  | true => exact takes
  | false => exact takesFront_nothing _

theorem takesFront_cutExtra : TakesFront cutExtra := by
  refine takesFront_bind (takesFront_cutHeader 2) fun count => ?_
  exact takesFront_bind (takesFront_cutHeader _) fun content => takesFront_nothing _

theorem takesFront_skipHeader : TakesFront skipHeader := by
  refine takesFront_bind (takesFront_cutHeader 10) fun fixed => ?_
  rcases fixed with _ | ⟨first, _ | ⟨second, _ | ⟨method, _ | ⟨flags, tail⟩⟩⟩⟩
  -- Fewer than four bytes are no header.
  iterate 4 exact takesFront_error _
  refine takesFront_ite (takesFront_error _) ?_
  refine takesFront_bind (takesFront_cutIf _ takesFront_cutExtra) fun extra => ?_
  refine takesFront_bind (takesFront_cutIf _ takesFront_cutZeroEnded) fun name => ?_
  refine takesFront_bind (takesFront_cutIf _ takesFront_cutZeroEnded) fun comment => ?_
  refine takesFront_bind (takesFront_cutIf _ (takesFront_cutHeader 2)) fun check => ?_
  refine takesFront_ite (takesFront_error _) ?_
  exact takesFront_ok (fun _ _ => rfl) fun _ => rfl

end Metering.Gzip
