/-
The gzip format (RFC 1952). A member is a header, a deflate stream, and a trailer with the
check and the length of the content; what follows the first member is ignored. Content comes
out of a damaged member as long as it can: all of it in front of a cut, but of a stream with a
corrupt code only the whole windows of 32,768 bytes before that code.
-/

import Metering.Gzip.Crc32
import Metering.Gzip.Deflate
import Metering.Gzip.Inflate

namespace Metering.Gzip

/-- Why content cannot be read from a member. -/
inductive Fault
  | endOfFile
  | incompleteStream
  | notFilled
  | badHeader
  | fieldTooLong
  | corruptStream
  | badChecksum
  deriving DecidableEq, Repr

/-- The text of a fault. -/
def Fault.message : Fault → String
  | .endOfFile => "unexpected end of file"
  | .incompleteStream => "incomplete deflate stream"
  | .notFilled => "failed to fill whole buffer"
  | .badHeader => "invalid gzip header"
  | .fieldTooLong => "gzip header field too long"
  | .corruptStream => "corrupt deflate stream"
  | .badChecksum => "corrupt gzip stream does not have a matching checksum"

/-! ### Writing -/

/-- The level for bodies in transit. -/
def fastest : Level := 1

/-- The level for files. -/
def balanced : Level := 6

/-- The byte of the header that tells how hard the compressor tried. -/
def effortByte (level : Level) : UInt8 := if level ≤ 1 then 4 else if level = 9 then 2 else 0

/-- The header of a member without a name or a time. -/
def header (level : Level) : Bytes := [0x1f, 0x8b, 8, 0, 0, 0, 0, 0, effortByte level, 0xff]

/-- The check and the length of the content. -/
def trailer (content : Bytes) : Bytes :=
  Bytes.littleEndian 4 (Crc32.ofBytes content).toNat ++ Bytes.littleEndian 4 content.length

section

variable [Deflater]

/-- The member of some content. -/
def compressAt (level : Level) (content : Bytes) : Bytes :=
  header level ++ Deflater.deflate level content ++ trailer content

/-- The member of some content, at the level for bodies in transit. -/
def compress (content : Bytes) : Bytes := compressAt fastest content

/-- The member of what a writer hands over; a failure of the writer is the answer. -/
def compressFrom {Failure : Type} (level : Level) (written : Except Failure Bytes) :
    Except Failure Bytes := written.map (compressAt level)

end

/-! ### Reading -/

/-- The most bytes of a name or a comment in a header. -/
def longestField : Nat := 65535

/-- What a header may hold besides its fixed part, by the bits of its flags. -/
def hasFlag (flags : UInt8) (bit : Nat) : Bool := flags.toNat / Nat.pow 2 bit % 2 == 1

/-- Cuts off so many bytes of a header. -/
def cutHeader (count : Nat) (input : Bytes) : Except Fault (Bytes × Bytes) :=
  match Bytes.cut? count input with
  | some parts => .ok parts
  | none => .error .endOfFile

/-- Cuts off a text that ends in a zero; the zero belongs to the first part. -/
def cutZeroEnded (input : Bytes) : Except Fault (Bytes × Bytes) :=
  let text := input.takeWhile (· != 0)
  if longestField < text.length then .error .fieldTooLong
  else
    match input.drop text.length with
    | zero :: rest => .ok (text ++ [zero], rest)
    | [] => .error .endOfFile

/-- Cuts off a part of a header that is there only if flagged. -/
def cutIf (isThere : Bool) (cut : Bytes → Except Fault (Bytes × Bytes)) (input : Bytes) :
    Except Fault (Bytes × Bytes) :=
  if isThere then cut input else .ok ([], input)

/-- Cuts off an extra field: a count of two bytes and as many bytes. -/
def cutExtra (input : Bytes) : Except Fault (Bytes × Bytes) := do
  let (count, behind) ← cutHeader 2 input
  let (content, rest) ← cutHeader (Bytes.ofLittleEndian count) behind
  return (count ++ content, rest)

/-- The input behind the header of a member. -/
def skipHeader (input : Bytes) : Except Fault Bytes := do
  let (fixed, afterFixed) ← cutHeader 10 input
  match fixed with
  | first :: second :: method :: flags :: _ =>
    if first ≠ 0x1f ∨ second ≠ 0x8b ∨ method ≠ 8 ∨ 32 ≤ flags.toNat then .error .badHeader
    else
      let (extra, afterExtra) ← cutIf (hasFlag flags 2) cutExtra afterFixed
      let (name, afterName) ← cutIf (hasFlag flags 3) cutZeroEnded afterExtra
      let (comment, afterComment) ← cutIf (hasFlag flags 4) cutZeroEnded afterName
      let (check, afterCheck) ← cutIf (hasFlag flags 1) (cutHeader 2) afterComment
      let covered := fixed ++ extra ++ name ++ comment
      if hasFlag flags 1 ∧
          Bytes.ofLittleEndian check ≠ (Crc32.ofBytes covered).toNat % 65536 then
        .error .badChecksum
      else .ok afterCheck
  | _ => .error .endOfFile

/-- Checks the trailer of a member against its content. -/
def checkTrailer (content input : Bytes) : Option Fault :=
  match Bytes.cut? 8 input with
  | none => some .endOfFile
  | some (found, _) => if found = trailer content then none else some .badChecksum

/-- The bytes of the window that decompression fills before it hands them on. -/
def windowSize : Nat := 32768

/-- What comes out of a member: content, and what goes wrong behind it, if anything. -/
structure Stream where
  delivered : Bytes
  fault : Option Fault
  deriving DecidableEq, Repr

/-- Opens the first member of an input. -/
def openMember (input : Bytes) : Stream :=
  match skipHeader input with
  | .error fault => ⟨[], some fault⟩
  | .ok body =>
    match inflate body with
    | (output, .ok behind) => ⟨output.toList, checkTrailer output.toList behind⟩
    | (output, .error .truncated) => ⟨output.toList, some .incompleteStream⟩
    | (output, .error .corrupt) =>
      ⟨(output.extract 0 (output.size / windowSize * windowSize)).toList, some .corruptStream⟩

/-- Succeeds when nothing goes wrong behind the content. -/
def Stream.finish {Result : Type} (stream : Stream) (result : Result) : Except Fault Result :=
  match stream.fault with
  | some fault => .error fault
  | none => .ok result

/-- Reads the whole content. -/
def decompress (input : Bytes) : Except Fault Bytes :=
  let stream := openMember input
  stream.finish stream.delivered

/-- Reads exactly so many bytes of the content; the rest is read too, and a fault in it
counts. -/
def decompressExactly (count : Nat) (input : Bytes) : Except Fault Bytes :=
  let stream := openMember input
  if count ≤ stream.delivered.length then stream.finish (stream.delivered.take count)
  else .error (stream.fault.getD .notFilled)

end Metering.Gzip
