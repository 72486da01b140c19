/-
Reading JSON documents. Between the tokens stand blanks, tabs, line feeds and carriage
returns; nothing may follow the document. Containers that are still open are kept in a list,
so nesting may be of any depth. Text literals are checked for control characters and for the
form of their escapes only.
-/

import Metering.Json.Basic

namespace Metering.Json

/-- The blanks between tokens. -/
def isSpace (byte : UInt8) : Bool := byte == 32 || byte == 9 || byte == 10 || byte == 13

/-- The input from its first token on. -/
def skipSpace (input : Bytes) : Bytes := input.dropWhile isSpace

/-- Whether a byte is an ASCII digit. -/
def isDigit (byte : UInt8) : Bool := 48 ≤ byte && byte ≤ 57

/-- The literal up to the closing quotation mark, and the input behind that. -/
def scanText? : Bytes → Option (Bytes × Bytes)
  | [] => none
  | [byte] => if byte = 34 then some ([], []) else none
  | byte :: next :: rest =>
    if byte = 34 then some ([], next :: rest)
    else if byte < 32 then none
    else if byte ≠ 92 then
      (scanText? (next :: rest)).map fun (literal, after) => (byte :: literal, after)
    else if next = 117 then
      match rest with
      | first :: second :: third :: fourth :: more =>
        if [first, second, third, fourth].all fun digit => (hexDigit? digit).isSome then
          (scanText? more).map fun (literal, after) =>
            (byte :: next :: first :: second :: third :: fourth :: literal, after)
        else none
      | _ => none
    else if (letterEscape? next).isSome then
      (scanText? rest).map fun (literal, after) => (byte :: next :: literal, after)
    else none

/-- The digits at the front, at least one, and the input behind them. -/
def scanDigits? (input : Bytes) : Option (Bytes × Bytes) :=
  let digits := input.takeWhile isDigit
  if digits.isEmpty then none else some (digits, input.dropWhile isDigit)

/-- The whole part of a number: a zero alone or digits that do not start with one. -/
def scanWhole? : Bytes → Option (Bytes × Bytes)
  | [] => none
  | byte :: rest => if byte = 48 then some ([48], rest) else scanDigits? (byte :: rest)

/-- The fraction of a number, if a point stands there. -/
def scanFraction? : Bytes → Option (Bytes × Bytes)
  | [] => some ([], [])
  | byte :: rest =>
    if byte = 46 then
      (scanDigits? rest).map fun (digits, after) => (byte :: digits, after)
    else some ([], byte :: rest)

/-- The power of ten of a number, if its letter stands there. -/
def scanPower? : Bytes → Option (Bytes × Bytes)
  | [] => some ([], [])
  | letter :: rest =>
    if letter = 101 ∨ letter = 69 then
      match rest with
      | sign :: digits =>
        if sign = 43 ∨ sign = 45 then
          (scanDigits? digits).map fun (power, after) => (letter :: sign :: power, after)
        else (scanDigits? rest).map fun (power, after) => (letter :: power, after)
      | [] => none
    else some ([], letter :: rest)

/-- The number literal at the front and the input behind it. -/
def scanNumber? (input : Bytes) : Option (List Char × Bytes) := do
  let (sign, unsigned) :=
    match input with
    | byte :: rest => if byte = 45 then ([byte], rest) else ([], input)
    | [] => ([], [])
  let (whole, afterWhole) ← scanWhole? unsigned
  let (fraction, afterFraction) ← scanFraction? afterWhole
  let (power, after) ← scanPower? afterFraction
  return ((sign ++ whole ++ fraction ++ power).map fun byte => Char.ofNat byte.toNat, after)

/-- A container that is still open, with what it holds so far, the last first. -/
inductive Frame
  | array (done : List Json)
  | object (done : List (Bytes × Json)) (key : Bytes)

/-- The key of a member and the input behind its colon. -/
def scanKey? (input : Bytes) : Option (Bytes × Bytes) :=
  match skipSpace input with
  | [] => none
  | byte :: rest =>
    if byte ≠ 34 then none
    else do
      let (key, afterKey) ← scanText? rest
      match skipSpace afterKey with
      | [] => none
      | colon :: after => if colon = 58 then some (key, after) else none

/-- What a reader does next: read a value, or hand one that is complete to its container. -/
inductive Goal
  | value
  | complete (document : Json)

/-- The rest of the input behind a word that it starts with. -/
def afterWord? (word input : Bytes) : Option Bytes :=
  if word.isPrefixOf input then some (input.drop word.length) else none

/-- Reads on from a state: the goal, the open containers from the inside out and the input. The
first argument bounds the count of steps. -/
def run : Nat → Goal → List Frame → Bytes → Option (Json × Bytes)
  | 0, _, _, _ => none
  | steps + 1, .value, frames, input =>
    match skipSpace input with
    | [] => none
    | byte :: rest =>
      if byte = 34 then do
        let (literal, after) ← scanText? rest
        run steps (.complete (.text literal)) frames after
      else if byte = 91 then
        match skipSpace rest with
        | closing :: after =>
          if closing = 93 then run steps (.complete (.array [])) frames after
          else run steps .value (.array [] :: frames) rest
        | [] => none
      else if byte = 123 then
        match skipSpace rest with
        | closing :: after =>
          if closing = 125 then run steps (.complete (.object [])) frames after
          else do
            let (key, behind) ← scanKey? rest
            run steps .value (.object [] key :: frames) behind
        | [] => none
      else if byte = 110 then do
        let after ← afterWord? [117, 108, 108] rest
        run steps (.complete .null) frames after
      else if byte = 116 then do
        let after ← afterWord? [114, 117, 101] rest
        run steps (.complete (.boolean true)) frames after
      else if byte = 102 then do
        let after ← afterWord? [97, 108, 115, 101] rest
        run steps (.complete (.boolean false)) frames after
      else do
        let (literal, after) ← scanNumber? (byte :: rest)
        run steps (.complete (.number literal)) frames after
  | _ + 1, .complete document, [], input => some (document, input)
  | steps + 1, .complete document, .array done :: frames, input =>
    match skipSpace input with
    | [] => none
    | byte :: rest =>
      if byte = 44 then run steps .value (.array (document :: done) :: frames) rest
      else if byte = 93 then
        run steps (.complete (.array (document :: done).reverse)) frames rest
      else none
  | steps + 1, .complete document, .object done key :: frames, input =>
    match skipSpace input with
    | [] => none
    | byte :: rest =>
      if byte = 44 then do
        let (next, after) ← scanKey? rest
        run steps .value (.object ((key, document) :: done) next :: frames) after
      else if byte = 125 then
        run steps (.complete (.object ((key, document) :: done).reverse)) frames rest
      else none

/-- The document that the whole input writes. A document takes at most two steps a byte. -/
def read? (input : Bytes) : Option Json := do
  let (document, rest) ← run (2 * input.length + 2) .value [] input
  if (skipSpace rest).isEmpty then some document else none

end Metering.Json
