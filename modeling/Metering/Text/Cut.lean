/-
Cutting text at separators: at the first occurrence of a character or of a phrase, and into
all pieces between the occurrences of a character.
-/

namespace Metering.Text

/-- What stands before and after the first occurrence of a separator. -/
def cutChars? (separator : Char) : List Char → Option (List Char × List Char)
  | [] => none
  | character :: rest =>
    if character = separator then some ([], rest)
    else (cutChars? separator rest).map fun (before, after) => (character :: before, after)

/-- The pieces between the occurrences of a separator; always at least one. -/
def piecesOf (separator : Char) : List Char → List (List Char)
  | [] => [[]]
  | character :: rest =>
    if character = separator then [] :: piecesOf separator rest
    else
      match piecesOf separator rest with
      | [] => [[character]]
      | piece :: others => (character :: piece) :: others

/-- What stands before and after the first occurrence of a phrase. -/
def cutPhrase? (phrase : List Char) : List Char → Option (List Char × List Char)
  | [] => if phrase.isEmpty then some ([], []) else none
  | character :: rest =>
    if phrase.isPrefixOf (character :: rest) then
      some ([], (character :: rest).drop phrase.length)
    else (cutPhrase? phrase rest).map fun (before, after) => (character :: before, after)

/-- The text before and after the first occurrence of a separator. -/
def cutAt? (separator : Char) (text : String) : Option (String × String) :=
  (cutChars? separator text.toList).map fun (before, after) =>
    (String.ofList before, String.ofList after)

/-- The text before and after the first occurrence of a phrase. -/
def cutAtPhrase? (phrase text : String) : Option (String × String) :=
  (cutPhrase? phrase.toList text.toList).map fun (before, after) =>
    (String.ofList before, String.ofList after)

/-- The texts between the occurrences of a separator. -/
def pieces (separator : Char) (text : String) : List String :=
  (piecesOf separator text.toList).map String.ofList

end Metering.Text
