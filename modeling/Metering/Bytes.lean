/-
Sequences of bytes: the UTF-8 bytes of a text, whole numbers as a fixed count of bytes in
either order, and cutting off a fixed count from the front.
-/

namespace Metering

/-- A sequence of bytes. -/
abbrev Bytes := List UInt8

namespace Bytes

/-! ### Text -/

/-- The UTF-8 bytes of a text. -/
def ofText (text : String) : Bytes := text.toUTF8.data.toList

/-- The text whose UTF-8 bytes these are, if they are well formed. -/
def toText? (bytes : Bytes) : Option String := String.fromUTF8? (ByteArray.mk bytes.toArray)

@[simp] theorem toText?_ofText (text : String) : toText? (ofText text) = some text := by
  simp [toText?, ofText, String.fromUTF8?, String.fromUTF8, text.isValidUTF8]

/-! ### Whole numbers -/

/-- The low bytes of a number, the lowest first. -/
def littleEndian : Nat → Nat → Bytes
  | 0, _ => []
  | count + 1, value => UInt8.ofNat value :: littleEndian count (value / 256)

/-- The number whose bytes these are, the lowest first. -/
def ofLittleEndian : Bytes → Nat
  | [] => 0
  | byte :: rest => byte.toNat + 256 * ofLittleEndian rest

@[simp] theorem length_littleEndian (count value : Nat) :
    (littleEndian count value).length = count := by
  induction count generalizing value with
  | zero => rfl
  | succ count inductionHypothesis => simp [littleEndian, inductionHypothesis]

theorem ofLittleEndian_littleEndian (count value : Nat) :
    ofLittleEndian (littleEndian count value) = value % Nat.pow 256 count := by
  induction count generalizing value with
  | zero => simp [littleEndian, ofLittleEndian, Nat.mod_one]
  | succ count inductionHypothesis =>
    have split : Nat.pow 256 (count + 1) = 256 * Nat.pow 256 count := Nat.pow_succ'
    simp only [littleEndian, ofLittleEndian, inductionHypothesis, UInt8.toNat_ofNat']
    rw [split, Nat.mod_mul]

/-- The low bytes of a number, the lowest last. -/
def bigEndian (count value : Nat) : Bytes := (littleEndian count value).reverse

/-- The number whose bytes these are, the lowest last. -/
def ofBigEndian (bytes : Bytes) : Nat :=
  bytes.foldl (fun total byte => 256 * total + byte.toNat) 0

/-! ### Cutting -/

/-- The first bytes and the rest, if there are as many. -/
def cut? (count : Nat) (bytes : Bytes) : Option (Bytes × Bytes) :=
  if count ≤ bytes.length then some (bytes.take count, bytes.drop count) else none

theorem cut?_append (front rest : Bytes) :
    cut? front.length (front ++ rest) = some (front, rest) := by
  simp [cut?]

end Bytes

end Metering
