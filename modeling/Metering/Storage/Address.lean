/-
Connection strings of databases. Only embedded databases can be reached: one in a file, which
may be made if the string says so, or one in memory. What stands behind a question mark are
parameters.
-/

import Metering.Files
import Metering.Text.Cut
import Metering.Text.Percent

namespace Metering

/-- Where a database is. -/
inductive DatabasePlace
  | inMemory
  | inFile (path : Path) (makeMissing : Bool)
  deriving DecidableEq, Repr

namespace DatabasePlace

/-- The text behind a phrase at its front, however often the phrase stands there; at most so
often. -/
def dropPhrase (phrase : List Char) : Nat → List Char → List Char
  | 0, text => text
  | most + 1, text =>
    if phrase.isPrefixOf text then dropPhrase phrase most (text.drop phrase.length) else text

/-- The place after one more parameter. -/
def withParameter? (place : DatabasePlace) (parameter : String) : Option DatabasePlace :=
  match Text.cutAt? '=' parameter, place with
  | some ("mode", "memory"), _ => some .inMemory
  | some ("mode", "rwc"), .inFile path _ => some (.inFile path true)
  | some ("mode", value), place => if value = "rw" ∨ value = "rwc" then some place else none
  | some ("cache", value), place =>
    if value = "shared" ∨ value = "private" then some place else none
  | _, _ => none

/-- The place that a connection string names. -/
def ofText? (text : String) : Option DatabasePlace := do
  let scheme := "sqlite:".toList
  let characters := text.toList
  if !scheme.isPrefixOf characters then none
  else
    let location := dropPhrase scheme characters.length
      (dropPhrase "sqlite://".toList characters.length characters)
    let (name, parameters) := (Text.cutChars? '?' location).getD (location, [])
    let name ← Bytes.toText? (Percent.decode (Bytes.ofText (String.ofList name)))
    let place := if name = ":memory:" then .inMemory else .inFile (Path.ofText name).bare false
    ((Text.piecesOf '&' parameters).map String.ofList |>.filter (· != "")).foldlM
      withParameter? place

end DatabasePlace

end Metering
