/-
Bytes in textual armour (RFC 7468): a line that begins a labelled block, the Base64 text of the
bytes in lines of 64 characters, the last of them perhaps shorter, and a line that ends the
block. A line ends in a carriage return, a line feed or both. Any text without a zero byte may
stand on lines before the block; after it comes nothing but the end of its line.
-/

import Metering.Cipher.Base64

namespace Metering.Pem

/-- What stands before the label where a block begins. -/
def opening : Bytes := Bytes.ofText "-----BEGIN "

/-- What stands before the label where a block ends. -/
def closing : Bytes := Bytes.ofText "-----END "

/-- What stands behind a label. -/
def dashes : Bytes := Bytes.ofText "-----"

/-- The characters of a full line. -/
def lineWidth : Nat := 64

/-- The input without the given bytes at its front. -/
def dropFront? (front input : Bytes) : Option Bytes :=
  if front.isPrefixOf input then some (input.drop front.length) else none

/-- The input without the given bytes at its end. -/
def dropBack? (back input : Bytes) : Option Bytes :=
  if back.isSuffixOf input then some (input.take (input.length - back.length)) else none

/-- The input behind one end of a line. -/
def dropLineEnd? : Bytes → Option Bytes
  | 13 :: 10 :: rest => some rest
  | 13 :: rest => some rest
  | 10 :: rest => some rest
  | _ => none

/-- The input before one end of a line at its own end. -/
def dropLastLineEnd? (input : Bytes) : Option Bytes :=
  match input.reverse with
  | 10 :: 13 :: rest => some rest.reverse
  | 10 :: rest => some rest.reverse
  | 13 :: rest => some rest.reverse
  | _ => none

/-- The input from the block on. -/
def skipPreamble? (input : Bytes) : Option Bytes :=
  if opening.isPrefixOf input then some input
  else
    match input with
    | [] => none
    | 0 :: _ => none
    | 10 :: rest => if opening.isPrefixOf rest then some rest else skipPreamble? rest
    | _ :: rest => skipPreamble? rest

/-- The characters of lines without the line ends, cutting at most so many lines. -/
def joinLines? : Nat → Bytes → Option Bytes
  | 0, _ => none
  | lines + 1, input =>
    if input.length ≤ lineWidth then some input
    else do
      let rest ← dropLineEnd? (input.drop lineWidth)
      return input.take lineWidth ++ (← joinLines? lines rest)

/-- The bytes in the block with a label. -/
def decode? (label : String) (input : Bytes) : Option Bytes := do
  let label := Bytes.ofText label
  let block ← dropFront? (opening ++ label ++ dashes) (← skipPreamble? input)
  let behindLabel ← dropLineEnd? block
  let armour := (dropLastLineEnd? behindLabel).getD behindLabel
  let lines ← dropLastLineEnd? (← dropBack? (closing ++ label ++ dashes) armour)
  if lines.isEmpty then none else Base64.decode? (← joinLines? (lines.length + 1) lines)

end Metering.Pem
