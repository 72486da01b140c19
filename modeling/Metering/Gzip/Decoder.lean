/-
Reading a member piece by piece. A decoder hands out content as it becomes ready, and what goes
wrong behind the content comes up only when more is asked for after all of it. A reader may stop
anywhere, even before its first piece; what it has left is drained then, up to the trailer.
-/

import Metering.Gzip.Member

namespace Metering.Gzip

/-- How pieces come about, by the count of bytes that are left. -/
structure Pace where
  /-- The bytes that are ready besides the next one. -/
  ready : Nat → Nat
  /-- The bytes that the buffer of a reader of everything holds besides one. -/
  room : Nat → Nat

namespace Stream

/-- Reads one piece of at most so many bytes, and nothing behind content that ends well. -/
def read (pace : Pace) (most : Nat) (stream : Stream) : Except Fault (Bytes × Stream) :=
  match stream.delivered.length with
  | 0 => stream.finish ([], stream)
  | others + 1 =>
    let count := min most (pace.ready others + 1)
    .ok (stream.delivered.take count, { stream with delivered := stream.delivered.drop count })

theorem length_of_read {pace : Pace} {most : Nat} {stream rest : Stream} {byte : UInt8}
    {piece : Bytes} (isRead : stream.read pace most = .ok (byte :: piece, rest)) :
    rest.delivered.length < stream.delivered.length := by
  rw [read] at isRead
  split at isRead
  · rw [finish] at isRead
    split at isRead <;> cases isRead
  · next others isLeft =>
    obtain ⟨isPiece, rfl⟩ := Prod.mk.inj (Except.ok.inj isRead)
    have parts := congrArg List.length (List.take_append_drop (min most (pace.ready others + 1))
      stream.delivered)
    rw [isPiece, List.length_append, List.length_cons] at parts
    rw [← parts]
    exact Nat.lt_add_of_pos_left (Nat.succ_pos _)

/-- Reads so many bytes in as many pieces as it takes. -/
def readExactly (pace : Pace) (count : Nat) (stream : Stream) : Except Fault (Bytes × Stream) :=
  if count = 0 then .ok ([], stream)
  else
    match stream.read pace count with
    | .error fault => .error fault
    | .ok ([], _) => .error .notFilled
    | .ok (byte :: piece, rest) => do
      let (others, last) ← rest.readExactly pace (count - (piece.length + 1))
      return (byte :: piece ++ others, last)
termination_by count

/-- Reads until nothing more comes. -/
def readAll (pace : Pace) (stream : Stream) : Except Fault (Bytes × Stream) :=
  match _ : stream.read pace (pace.room stream.delivered.length + 1) with
  | .error fault => .error fault
  | .ok ([], rest) => .ok ([], rest)
  | .ok (byte :: piece, rest) => do
    let (others, last) ← rest.readAll pace
    return (byte :: piece ++ others, last)
termination_by stream.delivered.length
decreasing_by exact length_of_read ‹_›

end Stream

/-- What a reader makes of the content of a member, once everything it has left is drained. -/
def decompressWith {Failure Result : Type} (ofFault : Fault → Failure) (pace : Pace)
    (decode : Stream → Except Failure (Result × Stream)) (input : Bytes) :
    Except Failure Result := do
  let (result, rest) ← decode (openMember input)
  let _ ← (rest.readAll pace).mapError ofFault
  return result

end Metering.Gzip
