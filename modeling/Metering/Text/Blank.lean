/-
Blank characters and trimming. Blank are the characters with the Unicode property
`White_Space`: besides the ASCII blanks the next-line control, the no-break and Ogham spaces,
the spaces of the general punctuation block and the ideographic space. The zero-width space is
not among them.
-/

namespace Metering.Text

/-- The characters with the Unicode property `White_Space`. -/
def isBlank (character : Char) : Bool :=
  let point := character.toNat
  (0x09 ≤ point && point ≤ 0x0d) || point == 0x20 || point == 0x85 || point == 0xa0 ||
    point == 0x1680 || (0x2000 ≤ point && point ≤ 0x200a) || point == 0x2028 ||
    point == 0x2029 || point == 0x202f || point == 0x205f || point == 0x3000

/-- The characters between the outermost ones outside a class. -/
def strip (inClass : Char → Bool) (characters : List Char) : List Char :=
  ((characters.dropWhile inClass).reverse.dropWhile inClass).reverse

/-- The text without the blanks at both ends. -/
def trim (text : String) : String := String.ofList (strip isBlank text.toList)

/-- The text without the characters of a class at its end. -/
def trimEnd (inClass : Char → Bool) (text : String) : String :=
  String.ofList (text.toList.reverse.dropWhile inClass).reverse

end Metering.Text
