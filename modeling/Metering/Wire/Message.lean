/-
Messages of the binary format: a sequence of fields, each with a number and a payload in one
of a few forms. Groups are an old form of nested message between two marks; they are skipped,
but their marks have to pair up and may not nest too deeply. A message with a field number
zero, an unknown form, or a payload that is cut short is no message.
-/

import Metering.Wire.Varint

namespace Metering.Wire

/-- What a field carries. -/
inductive Payload
  | varint (number : Nat)
  | fixed64 (number : Nat)
  | chunk (content : Bytes)
  | fixed32 (number : Nat)
  | group
  deriving DecidableEq, Repr

/-- A numbered field of a message. -/
structure Field where
  number : Nat
  payload : Payload
  deriving DecidableEq, Repr

/-! ### Writing -/

/-- The key of a field: its number and the code of its form. -/
def encodeKey (number form : Nat) : Bytes := Varint.encode (8 * number + form)

/-- The bytes of a field. A skipped group has no content. -/
def Field.encode (field : Field) : Bytes :=
  match field.payload with
  | .varint number => encodeKey field.number 0 ++ Varint.encode number
  | .fixed64 number => encodeKey field.number 1 ++ Bytes.littleEndian 8 number
  | .chunk content =>
    encodeKey field.number 2 ++ Varint.encode content.length ++ content
  | .group => encodeKey field.number 3 ++ encodeKey field.number 4
  | .fixed32 number => encodeKey field.number 5 ++ Bytes.littleEndian 4 number

/-- The bytes of a message. -/
def encode (fields : List Field) : Bytes := fields.flatMap Field.encode

/-! ### Reading -/

/-- The number and the form of the key at the front, and the input behind it. Keys have 32
bits, and field numbers are positive. -/
def readKey? (input : Bytes) : Option (Nat × Nat × Bytes) := do
  let (key, rest) ← Varint.read? input
  if key < Nat.pow 2 32 ∧ key % 8 ≤ 5 ∧ 0 < key / 8 then some (key / 8, key % 8, rest) else none

/-- The payload of any form but the marks of groups, and the input behind it. -/
def readPayload? (form : Nat) (input : Bytes) : Option (Payload × Bytes) :=
  match form with
  | 0 => do
    let (number, rest) ← Varint.read? input
    return (.varint number, rest)
  | 1 => do
    let (content, rest) ← Bytes.cut? 8 input
    return (.fixed64 (Bytes.ofLittleEndian content), rest)
  | 2 => do
    let (size, behind) ← Varint.read? input
    let (content, rest) ← Bytes.cut? size behind
    return (.chunk content, rest)
  | 5 => do
    let (content, rest) ← Bytes.cut? 4 input
    return (.fixed32 (Bytes.ofLittleEndian content), rest)
  | _ => none

/-- The input behind the groups that are open, from the inside out. At most `deepest` groups
may be open around a field. The first argument bounds the count of fields. -/
def skipGroups? (deepest : Nat) : Nat → List Nat → Bytes → Option Bytes
  | _, [], input => some input
  | 0, _ :: _, _ => none
  | fields + 1, innermost :: outer, input => do
    let (number, form, rest) ← readKey? input
    if form = 4 then
      if number = innermost then skipGroups? deepest fields outer rest else none
    else if deepest ≤ outer.length + 1 then none
    else if form = 3 then skipGroups? deepest fields (number :: innermost :: outer) rest
    else do
      let (_, behind) ← readPayload? form rest
      skipGroups? deepest fields (innermost :: outer) behind

/-- The fields of a message. The second argument bounds their count. -/
def readFields? (deepest : Nat) : Nat → Bytes → Option (List Field)
  | _, [] => some []
  | 0, _ :: _ => none
  | fields + 1, byte :: more => do
    let (number, form, rest) ← readKey? (byte :: more)
    if form = 3 then
      let behind ← skipGroups? deepest rest.length [number] rest
      let others ← readFields? deepest fields behind
      return ⟨number, .group⟩ :: others
    else
      let (payload, behind) ← readPayload? form rest
      let others ← readFields? deepest fields behind
      return ⟨number, payload⟩ :: others

/-- The fields of a message; every field takes at least one byte. -/
def read? (deepest : Nat) (input : Bytes) : Option (List Field) :=
  readFields? deepest input.length input

end Metering.Wire
