/-
JSON documents. Numbers and texts are kept as they are written, because a document may hold
numbers of any size and texts that are not well-formed Unicode in places that nobody reads;
what a literal means is decided where it is wanted. Printing puts no blanks anywhere.
-/

import Metering.Bytes

namespace Metering

/-- A JSON document with its number and text literals as written; a text literal is held
without the quotation marks. -/
inductive Json where
  | null
  | boolean (holds : Bool)
  | number (literal : List Char)
  | text (literal : Bytes)
  | array (items : List Json)
  | object (members : List (Bytes × Json))
  deriving Inhabited

namespace Json

/-! ### Text literals -/

/-- The escape of a byte in a text literal: the quotation mark, the backslash and the control
characters are escaped, five of those by a letter. -/
def escape (byte : UInt8) : Bytes :=
  let code := byte.toNat
  if code = 34 then [92, 34]
  else if code = 92 then [92, 92]
  else if code = 8 then [92, 98]
  else if code = 12 then [92, 102]
  else if code = 10 then [92, 110]
  else if code = 13 then [92, 114]
  else if code = 9 then [92, 116]
  else if code < 32 then
    let low := code % 16
    [92, 117, 48, 48, UInt8.ofNat (48 + code / 16),
      UInt8.ofNat (if low < 10 then 48 + low else 87 + low)]
  else [byte]

/-- The literal of a text. -/
def literalOf (text : String) : Bytes := (Bytes.ofText text).flatMap escape

/-- A text as a document. -/
def ofText (text : String) : Json := .text (literalOf text)

/-- One unit of a text literal: a byte that stands for itself or for which a letter stands, or
a UTF-16 unit given by its number. -/
inductive Piece
  | byte (value : UInt8)
  | unit16 (value : Nat)

/-- The value of a hexadecimal digit. -/
def hexDigit? (byte : UInt8) : Option Nat :=
  let code := byte.toNat
  if 48 ≤ code ∧ code ≤ 57 then some (code - 48)
  else if 97 ≤ code ∧ code ≤ 102 then some (code - 87)
  else if 65 ≤ code ∧ code ≤ 70 then some (code - 55)
  else none

/-- The byte for which a letter behind a backslash stands. -/
def letterEscape? (letter : UInt8) : Option UInt8 :=
  if letter = 34 ∨ letter = 92 ∨ letter = 47 then some letter
  else if letter = 98 then some 8
  else if letter = 102 then some 12
  else if letter = 110 then some 10
  else if letter = 114 then some 13
  else if letter = 116 then some 9
  else none

/-- The units of a literal. -/
def pieces? : Bytes → Option (List Piece)
  | [] => some []
  | [byte] => if byte = 92 then none else some [.byte byte]
  | byte :: letter :: rest =>
    if byte ≠ 92 then (pieces? (letter :: rest)).map (.byte byte :: ·)
    else if letter = 117 then
      match rest with
      | first :: second :: third :: fourth :: more => do
        let a ← hexDigit? first
        let b ← hexDigit? second
        let c ← hexDigit? third
        let d ← hexDigit? fourth
        let others ← pieces? more
        return .unit16 (4096 * a + 256 * b + 16 * c + d) :: others
      | _ => none
    else do
      let meant ← letterEscape? letter
      let others ← pieces? rest
      return .byte meant :: others

/-- The UTF-8 bytes of a code point. -/
def encodePoint (point : Nat) : Bytes := Bytes.ofText (String.singleton (Char.ofNat point))

/-- The bytes that units stand for: a high surrogate needs a low one behind it, and a low one
has no other place. -/
def joinPieces? : List Piece → Option Bytes
  | [] => some []
  | .byte value :: rest => (joinPieces? rest).map (value :: ·)
  | .unit16 high :: .unit16 low :: rest =>
    if 0xd800 ≤ high ∧ high < 0xdc00 then
      if 0xdc00 ≤ low ∧ low < 0xe000 then
        (joinPieces? rest).map
          (encodePoint (0x10000 + 1024 * (high - 0xd800) + (low - 0xdc00)) ++ ·)
      else none
    else if 0xdc00 ≤ high ∧ high < 0xe000 then none
    else (joinPieces? (.unit16 low :: rest)).map (encodePoint high ++ ·)
  | .unit16 point :: rest =>
    if 0xd800 ≤ point ∧ point < 0xe000 then none
    else (joinPieces? rest).map (encodePoint point ++ ·)

/-- The text that a literal stands for. -/
def textOf? (literal : Bytes) : Option String := do
  let pieces ← pieces? literal
  let bytes ← joinPieces? pieces
  Bytes.toText? bytes

/-! ### Printing -/

/-- The bytes of ASCII characters. -/
def asciiBytes (characters : List Char) : Bytes :=
  characters.map fun character => UInt8.ofNat character.toNat

/-- A text literal with its quotation marks. -/
def quoted (literal : Bytes) : Bytes := 34 :: literal ++ [34]

mutual

/-- The document without blanks. -/
def print : Json → Bytes
  | .null => [110, 117, 108, 108]
  | .boolean true => [116, 114, 117, 101]
  | .boolean false => [102, 97, 108, 115, 101]
  | .number literal => asciiBytes literal
  | .text literal => quoted literal
  | .array items => 91 :: printItems items
  | .object members => 123 :: printMembers members

/-- The items of an array and its closing bracket. -/
def printItems : List Json → Bytes
  | [] => [93]
  | [item] => print item ++ [93]
  | item :: next :: rest => print item ++ 44 :: printItems (next :: rest)

/-- The members of an object and its closing brace. -/
def printMembers : List (Bytes × Json) → Bytes
  | [] => [125]
  | [(key, value)] => quoted key ++ 58 :: (print value ++ [125])
  | (key, value) :: next :: rest =>
    quoted key ++ 58 :: (print value ++ 44 :: printMembers (next :: rest))

end

end Json

end Metering
