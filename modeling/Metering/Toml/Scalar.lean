/-
The values of TOML that hold no other values: texts between quotation marks or apostrophes, on
one line or, in threes, on several; whole numbers of 64 bits in four bases; fractions; dates and
times of day. The readers take a value from the front of the input and give the rest. Line ends
are single line feeds here.
-/

import Metering.Text.Hex
import Metering.Toml.Basic

namespace Metering.Toml

/-! ### Texts -/

/-- Whether a character may stand in a comment or in a text on one line. -/
def isPlain (character : Char) : Bool :=
  character = '\t' || (32 ≤ character.toNat && character.toNat ≠ 127)

/-- The character that a letter behind a backslash stands for. -/
def letterEscape? (letter : Char) : Option Char :=
  [('b', Char.ofNat 8), ('t', '\t'), ('n', '\n'), ('f', Char.ofNat 12), ('r', '\r'), ('"', '"'),
    ('\\', '\\')].lookup letter

/-- The value of a hexadecimal digit. -/
def hexDigit? (character : Char) : Option Nat :=
  if character.toNat < 128 then Hex.half? (UInt8.ofNat character.toNat) else none

/-- The character with a number, if there is one. -/
def scalar? (number : Nat) : Option Char :=
  if number < 0xd800 ∨ (0xdfff < number ∧ number < 0x110000) then some (Char.ofNat number)
  else none

/-- What a reader of a text with escapes is in the middle of. -/
inductive TextState
  /-- Plain characters, behind so many quotation marks. -/
  | plain (marks : Nat)
  /-- Behind a backslash. -/
  | escaped
  /-- In a number with so many digits to come. -/
  | numbered (digits number : Nat)
  /-- Behind a backslash at the end of a line; the line end may still be to come. -/
  | joining (atNewLine : Bool)

/-- The most quotation marks in a row: three that close, behind two of the text. -/
def mostMarks : Nat := 5

/-- Reads a text with escapes on several lines, up to its three closing marks. -/
def readLongText : TextState → List Char → List Char → Option (String × List Char)
  | .plain marks, done, [] =>
    if 3 ≤ marks then some (String.ofList (done.drop 3).reverse, []) else none
  | _, _, [] => none
  | .plain marks, done, character :: rest =>
    if character = '"' ∧ marks < mostMarks then readLongText (.plain (marks + 1)) ('"' :: done) rest
    else if 3 ≤ marks then some (String.ofList (done.drop 3).reverse, character :: rest)
    else if character = '\\' then readLongText .escaped done rest
    else if isPlain character ∨ character = '\n' then
      readLongText (.plain 0) (character :: done) rest
    else none
  | .escaped, done, character :: rest =>
    if character = 'u' then readLongText (.numbered 4 0) done rest
    else if character = 'U' then readLongText (.numbered 8 0) done rest
    else if character ∈ [' ', '\t'] then readLongText (.joining false) done rest
    else if character = '\n' then readLongText (.joining true) done rest
    else
      match letterEscape? character with
      | some meant => readLongText (.plain 0) (meant :: done) rest
      | none => none
  | .numbered digits number, done, character :: rest =>
    match hexDigit? character with
    | none => none
    | some digit =>
      let extended := 16 * number + digit
      if 1 < digits then readLongText (.numbered (digits - 1) extended) done rest
      else
        match scalar? extended with
        | some meant => readLongText (.plain 0) (meant :: done) rest
        | none => none
  | .joining atNewLine, done, character :: rest =>
    if character ∈ [' ', '\t'] then readLongText (.joining atNewLine) done rest
    else if character = '\n' then readLongText (.joining true) done rest
    else if !atNewLine then none
    else if character = '"' then readLongText (.plain 1) ('"' :: done) rest
    else if character = '\\' then readLongText .escaped done rest
    else if isPlain character then readLongText (.plain 0) (character :: done) rest
    else none

/-- Reads a text with escapes on one line, up to its closing mark. -/
def readText : TextState → List Char → List Char → Option (String × List Char)
  | _, _, [] => none
  | .plain _, done, character :: rest =>
    if character = '"' then some (String.ofList done.reverse, rest)
    else if character = '\\' then readText .escaped done rest
    else if isPlain character then readText (.plain 0) (character :: done) rest
    else none
  | .escaped, done, character :: rest =>
    if character = 'u' then readText (.numbered 4 0) done rest
    else if character = 'U' then readText (.numbered 8 0) done rest
    else
      match letterEscape? character with
      | some meant => readText (.plain 0) (meant :: done) rest
      | none => none
  | .numbered digits number, done, character :: rest =>
    match hexDigit? character with
    | none => none
    | some digit =>
      let extended := 16 * number + digit
      if 1 < digits then readText (.numbered (digits - 1) extended) done rest
      else
        match scalar? extended with
        | some meant => readText (.plain 0) (meant :: done) rest
        | none => none
  | .joining _, _, _ :: _ => none

/-- Reads a text without escapes on several lines, behind so many apostrophes, up to the three
that close it. -/
def readLongLiteral : Nat → List Char → List Char → Option (String × List Char)
  | marks, done, [] =>
    if 3 ≤ marks then some (String.ofList (done.drop 3).reverse, []) else none
  | marks, done, character :: rest =>
    if character = '\'' ∧ marks < mostMarks then
      readLongLiteral (marks + 1) ('\'' :: done) rest
    else if 3 ≤ marks then some (String.ofList (done.drop 3).reverse, character :: rest)
    else if isPlain character ∨ character = '\n' then readLongLiteral 0 (character :: done) rest
    else none

/-- Reads a text without escapes on one line. -/
def readLiteral (input : List Char) : Option (String × List Char) :=
  let content := input.takeWhile (· != '\'')
  match input.drop content.length with
  | _ :: rest => if content.all isPlain then some (String.ofList content, rest) else none
  | [] => none

/-- The input without the line feed at its front. -/
def withoutNewLine : List Char → List Char
  | '\n' :: rest => rest
  | input => input

/-- Reads a text on one line. -/
def readShortText : List Char → Option (String × List Char)
  | '"' :: rest => readText (.plain 0) [] rest
  | '\'' :: rest => readLiteral rest
  | _ => none

/-- Reads a text of any form. -/
def readAnyText : List Char → Option (String × List Char)
  | '"' :: '"' :: '"' :: rest => readLongText (.plain 0) [] (withoutNewLine rest)
  | '\'' :: '\'' :: '\'' :: rest => readLongLiteral 0 [] (withoutNewLine rest)
  | input => readShortText input

/-! ### Numbers -/

/-- Reads digits; underscores may stand between two of them. -/
def readDigits (accepts : Char → Bool) (input : List Char) : Option (List Char × List Char) :=
  let run := input.takeWhile fun character => accepts character || character == '_'
  let groups := (run.splitOnP (· == '_'))
  if groups.all fun group => !group.isEmpty then
    some (run.filter accepts, input.drop run.length)
  else none

/-- The whole number with a sign, if it has at most 64 bits. -/
def integer? (isNegative : Bool) (magnitude : Nat) : Option Item :=
  let number : Int := if isNegative then -magnitude else magnitude
  if -Int.pow 2 63 ≤ number ∧ number < Int.pow 2 63 then some (.integer number) else none

/-- The number that digits of a base write. -/
def magnitude (base : Nat) (digits : List Char) : Nat :=
  digits.foldl (fun total digit => base * total + (hexDigit? digit).getD 0) 0

/-- Reads a whole number behind the mark of its base. -/
def readBased (base : Nat) (input : List Char) : Option (Item × List Char) := do
  let accepts (character : Char) : Bool := (hexDigit? character).any (· < base)
  let (digits, rest) ← readDigits accepts input
  return (← integer? false (magnitude base digits), rest)

/-- Reads the power of ten of a fraction, if its letter stands there. -/
def readPower : List Char → Option (Bool × List Char)
  | letter :: rest =>
    if letter = 'e' ∨ letter = 'E' then
      let digits := match rest with
        | '+' :: behind => behind
        | '-' :: behind => behind
        | _ => rest
      (readDigits Char.isDigit digits).map fun (_, after) => (true, after)
    else some (false, letter :: rest)
  | [] => some (false, [])

/-- Reads a decimal number without its sign: a whole number or a fraction. -/
def readUnsigned (isNegative : Bool) (input : List Char) : Option (Item × List Char) := do
  let (whole, afterWhole) ← readDigits Char.isDigit input
  if 1 < whole.length ∧ whole.head? = some '0' then none
  else
    let (hasPoint, afterPoint) ← match afterWhole with
      | '.' :: behind => (readDigits Char.isDigit behind).map fun (_, after) => (true, after)
      | _ => some (false, afterWhole)
    let (hasPower, rest) ← readPower afterPoint
    if hasPoint ∨ hasPower then
      let literal := input.take (input.length - rest.length)
      return (.fraction (String.ofList (if isNegative then '-' :: literal else literal)), rest)
    else return (← integer? isNegative (magnitude 10 whole), rest)

/-- Reads a decimal number, or the name of a fraction that is none, behind a sign. -/
def readSigned (isNegative : Bool) : List Char → Option (Item × List Char)
  | 'i' :: 'n' :: 'f' :: rest => some (.fraction "inf", rest)
  | 'n' :: 'a' :: 'n' :: rest => some (.fraction "nan", rest)
  | input => readUnsigned isNegative input

/-- Reads a number. -/
def readNumber : List Char → Option (Item × List Char)
  | '0' :: 'x' :: rest => readBased 16 rest
  | '0' :: 'o' :: rest => readBased 8 rest
  | '0' :: 'b' :: rest => readBased 2 rest
  | '+' :: rest => readSigned false rest
  | '-' :: rest => readSigned true rest
  | input => readSigned false input

/-! ### Dates and times -/

/-- Reads a number of just so many digits. -/
def readPlaces (places : Nat) (input : List Char) : Option (Nat × List Char) :=
  let digits := input.take places
  if digits.length = places ∧ digits.all Char.isDigit then
    some (magnitude 10 digits, input.drop places)
  else none

/-- Reads one character. -/
def readMark (accepted : List Char) : List Char → Option (List Char)
  | character :: rest => if character ∈ accepted then some rest else none
  | [] => none

/-- The days of a month. -/
def daysOf (year month : Nat) : Nat :=
  let isLeap := year % 4 = 0 ∧ (year % 100 ≠ 0 ∨ year % 400 = 0)
  if month = 2 then if isLeap then 29 else 28
  else if month ∈ [4, 6, 9, 11] then 30 else 31

/-- Reads a date, and gives what follows it. -/
def readDate (input : List Char) : Option (List Char) := do
  let (year, afterYear) ← readPlaces 4 input
  let (month, afterMonth) ← readPlaces 2 (← readMark ['-'] afterYear)
  let (day, rest) ← readPlaces 2 (← readMark ['-'] afterMonth)
  if 1 ≤ month ∧ month ≤ 12 ∧ 1 ≤ day ∧ day ≤ daysOf year month then some rest else none

/-- Reads a time of day, and gives what follows it. -/
def readTime (input : List Char) : Option (List Char) := do
  let (hour, afterHour) ← readPlaces 2 input
  let (minute, afterMinute) ← readPlaces 2 (← readMark [':'] afterHour)
  let (second, rest) ← readPlaces 2 (← readMark [':'] afterMinute)
  if 23 < hour ∨ 59 < minute ∨ 60 < second then none
  else
    match rest with
    | '.' :: behind =>
      if (behind.takeWhile Char.isDigit).isEmpty then none
      else some (behind.dropWhile Char.isDigit)
    | _ => some rest

/-- Reads the distance from universal time, if one stands there. -/
def readOffset (input : List Char) : Option (List Char) :=
  match readMark ['Z', 'z'] input, readMark ['+', '-'] input with
  | some rest, _ => some rest
  | none, none => some input
  | none, some behind => do
    let (hour, afterHour) ← readPlaces 2 behind
    let (minute, rest) ← readPlaces 2 (← readMark [':'] afterHour)
    if hour ≤ 23 ∧ minute ≤ 59 then some rest else none

/-- Reads the time of day behind a date, if one stands there. -/
def readTimeBehind (input : List Char) : Option (List Char) :=
  match input with
  | ' ' :: behind =>
    match readTime behind with
    | some rest => readOffset rest
    | none => some input
  | _ =>
    match readMark ['T', 't'] input with
    | some behind => do readOffset (← readTime behind)
    | none => some input

/-- Reads a date, a time of day, or both. -/
def readMoment (input : List Char) : Option (Item × List Char) := do
  let rest ← match readDate input with
    | some behind => readTimeBehind behind
    | none => readTime input
  return (.moment (String.ofList (input.take (input.length - rest.length))), rest)

/-! ### All of them -/

/-- Reads a value that holds no other values. -/
def readScalar (input : List Char) : Option (Item × List Char) :=
  match input with
  | [] => none
  | character :: _ =>
    if character = '"' ∨ character = '\'' then
      (readAnyText input).map fun (content, rest) => (.text content, rest)
    else if "true".toList.isPrefixOf input then some (.boolean true, input.drop 4)
    else if "false".toList.isPrefixOf input then some (.boolean false, input.drop 5)
    else readMoment input <|> readNumber input

end Metering.Toml
