/-
Deflate streams (RFC 1951). How content is packed is left to the compressor, as the format leaves
it; the one that runs here, and that the memory backend makes its files with, stores content as it
is. A stored block holds at most 65,535 bytes behind its mark, their count and the complement of
the count; only the last block is marked as the last.
-/

import Metering.Bytes

namespace Metering.Gzip

/-- How hard a compressor tries, from 0 to 9. -/
abbrev Level := Nat

/-- A compressor: the stream that it makes of some content. -/
class Deflater where
  deflate : Level → Bytes → Bytes

/-! ### Stored blocks -/

/-- The most bytes that a stored block holds. -/
def largestStored : Nat := 65535

/-- A stored block. -/
def storedBlock (isLast : Bool) (content : Bytes) : Bytes :=
  (if isLast then 1 else 0) :: Bytes.littleEndian 2 content.length ++
    Bytes.littleEndian 2 (largestStored - content.length) ++ content

/-- The blocks of some content; the first argument bounds the count of full blocks. -/
def storedBlocks : Nat → Bytes → Bytes
  | 0, content => storedBlock true content
  | more + 1, content =>
    if content.length ≤ largestStored then storedBlock true content
    else
      storedBlock false (content.take largestStored) ++
        storedBlocks more (content.drop largestStored)

/-- The stream that stores some content. -/
def stored (content : Bytes) : Bytes := storedBlocks (content.length / largestStored) content

/-- The compressor that stores all content, at every level. -/
instance : Deflater where
  deflate _ content := stored content

end Metering.Gzip
