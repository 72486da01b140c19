/-
Reading TOML documents line by line. A line is empty, or opens a table, or gives a value to a
key in the table that was opened last; a comment may end it. Arrays may go over several lines,
tables in braces may not. Values are nested to a depth of at most eighty.
-/

import Metering.Toml.Scalar

namespace Metering.Toml

/-! ### Between the tokens -/

/-- The input without the blanks at its front. -/
def skipBlanks (input : List Char) : List Char :=
  input.dropWhile fun character => character == ' ' || character == '\t'

/-- The input behind the comment at its front, if one stands there and is well formed. -/
def skipComment (input : List Char) : Option (List Char) :=
  match input with
  | '#' :: _ =>
    let comment := input.takeWhile (· != '\n')
    if comment.all isPlain then some (input.drop comment.length) else none
  | _ => some input

/-- The input behind the end of a line. -/
def endLine (input : List Char) : Option (List Char) := do
  match ← skipComment (skipBlanks input) with
  | [] => some []
  | '\n' :: rest => some rest
  | _ => none

/-- The input without blanks, comments and line ends at its front; the first argument bounds
the lines. -/
def skipLines : Nat → List Char → Option (List Char)
  | 0, input => some input
  | lines + 1, input => do
    match ← skipComment (skipBlanks input) with
    | '\n' :: rest => skipLines lines rest
    | rest => some rest

/-- The input without everything at its front that may stand between the items of an array. -/
def skipAll (input : List Char) : Option (List Char) := skipLines input.length input

/-! ### Keys -/

/-- Whether a character may stand in a key without quotation marks. -/
def isKeyCharacter (character : Char) : Bool :=
  character.isAlphanum || character == '-' || character == '_'

/-- Reads one key. -/
def readSimpleKey (input : List Char) : Option (String × List Char) :=
  match input with
  | '"' :: _ => readShortText input
  | '\'' :: _ => readShortText input
  | _ =>
    let key := input.takeWhile isKeyCharacter
    if key.isEmpty then none else some (String.ofList key, input.drop key.length)

/-- Reads keys with dots between them; the first argument bounds their number. -/
def readKeys : Nat → List Char → Option (List String × List Char)
  | 0, _ => none
  | count + 1, input => do
    let (key, behind) ← readSimpleKey (skipBlanks input)
    match skipBlanks behind with
    | '.' :: rest => do
      let (keys, after) ← readKeys count rest
      return (key :: keys, after)
    | rest => return ([key], rest)

/-- A path to a table, and a key in it. -/
abbrev Place : Type := List String × String

/-- Reads what a dotted key names. -/
def readPlace (input : List Char) : Option (Place × List Char) := do
  let (keys, rest) ← readKeys input.length input
  return ((keys.dropLast, ← keys.getLast?), rest)

/-! ### Values -/

/-- A reader of values. -/
abbrev ValueReader : Type := List Char → Option (Item × List Char)

/-- Reads the items of an array up to its closing bracket; the first argument bounds their
number. -/
def readItems (readValue : ValueReader) : Nat → List Char → Option (List Item × List Char)
  | 0, _ => none
  | count + 1, input => do
    match ← skipAll input with
    | ']' :: rest => return ([], rest)
    | atValue =>
      let (item, behind) ← readValue atValue
      match ← skipAll behind with
      | ']' :: rest => return ([item], rest)
      | ',' :: rest => do
        let (items, after) ← readItems readValue count rest
        return (item :: items, after)
      | _ => none

/-- Reads a key and its value. -/
def readPair (readValue : ValueReader) (input : List Char) :
    Option ((Place × Item) × List Char) := do
  let (place, behind) ← readPlace input
  match skipBlanks behind with
  | '=' :: rest => do
    let (item, after) ← readValue (skipBlanks rest)
    return ((place, item), after)
  | _ => none

/-- Reads the members of a table in braces up to its closing brace, on from those read before;
the first argument bounds their number. -/
def readMembers (readValue : ValueReader) : Nat → Members → List Char → Option (Members × List Char)
  | 0, _, _ => none
  | count + 1, members, input => do
    let ((place, item), behind) ← readPair readValue input
    let grown ← members.add? place.1 place.2 item
    match skipBlanks behind with
    | '\x7d' :: rest => return (grown, rest)
    | ',' :: rest => readMembers readValue count grown rest
    | _ => none

/-- Reads a table in braces behind its opening brace. -/
def readBraces (readValue : ValueReader) (input : List Char) : Option (Item × List Char) :=
  match skipBlanks input with
  | '\x7d' :: rest => some (.table .closed [], rest)
  | _ => do
    let (members, rest) ← readMembers readValue input.length [] input
    return (.table .closed members, rest)

/-- Reads a value that is nested to at most a depth. -/
def readValue : Nat → ValueReader
  | 0, input => readScalar input
  | depth + 1, input =>
    match input with
    | '[' :: rest => do
      let (items, after) ← readItems (readValue depth) rest.length rest
      return (.array items, after)
    | '\x7b' :: rest => readBraces (readValue depth) rest
    | _ => readScalar input

/-- The greatest depth of values. -/
def greatestDepth : Nat := 80

/-! ### Documents -/

/-- A document as far as it was read, and the path to the table that was opened last. -/
structure Document where
  members : Members
  opened : List String
  deriving Inhabited

namespace Document

/-- The document without lines. -/
def empty : Document := ⟨[], []⟩

/-- The document with a value given to a key in the table opened last. -/
def give? (document : Document) (place : Place) (item : Item) : Option Document := do
  let give (_ : TableForm) (members : Members) : Option Members :=
    members.add? place.1 place.2 item
  return { document with
    members := ← Members.change? false give document.opened .stated document.members }

/-- The document with the table of a header opened. -/
def openTable? (document : Document) (place : Place) : Option Document := do
  return ⟨← document.members.openTable? place.1 place.2, place.1 ++ [place.2]⟩

/-- The document with one more table of the array of a header opened. -/
def openElement? (document : Document) (place : Place) : Option Document := do
  return ⟨← document.members.openElement? place.1 place.2, place.1 ++ [place.2]⟩

end Document

/-- Reads a line that is not empty, and gives what stands behind it on the line. -/
def readStatement (document : Document) (input : List Char) : Option (Document × List Char) :=
  match input with
  | '[' :: '[' :: rest => do
    let (place, behind) ← readPlace rest
    match skipBlanks behind with
    | ']' :: ']' :: after => return (← document.openElement? place, after)
    | _ => none
  | '[' :: rest => do
    let (place, behind) ← readPlace rest
    match skipBlanks behind with
    | ']' :: after => return (← document.openTable? place, after)
    | _ => none
  | _ => do
    let ((place, item), after) ← readPair (readValue greatestDepth) input
    return (← document.give? place item, after)

/-- Reads the lines of a document; the first argument bounds their number. -/
def readLines : Nat → Document → List Char → Option Document
  | 0, _, _ => none
  | lines + 1, document, input =>
    match skipBlanks input with
    | [] => some document
    | character :: rest =>
      if character = '\n' ∨ character = '#' then do
        readLines lines document (← endLine (character :: rest))
      else do
        let (grown, behind) ← readStatement document (character :: rest)
        readLines lines grown (← endLine behind)

/-- The characters with a line feed for every carriage return and line feed. -/
def joinLineEnds : List Char → List Char
  | [] => []
  | [character] => [character]
  | first :: second :: rest =>
    if first = '\r' ∧ second = '\n' then joinLineEnds (second :: rest)
    else first :: joinLineEnds (second :: rest)

/-- The characters of a document, without a mark of the byte order at the front. -/
def unmarked (text : String) : List Char :=
  match text.toList with
  | '\ufeff' :: rest => rest
  | characters => characters

/-- The members of a whole document. -/
def read? (text : String) : Option Members :=
  let input := joinLineEnds (unmarked text)
  (readLines (input.length + 1) Document.empty input).map (·.members)

end Metering.Toml
