/-
Snapshots: the contents of the memory backend as bytes. The payload is the map of counters and
then that of gauges, each as the number of its entries and the entries, an entry as the length
of its key, the key and eight bytes of value; all numbers have eight bytes, the lowest first.
The payload is put into a gzip member. Reading stops at the first thing that is no payload; the
member is then read to its end and has to be whole.
-/

import Metering.Gzip.Member
import Metering.Storage.Contents

namespace Metering.Snapshot

/-! ### Writing -/

/-- The bytes of a number. -/
def encodeNumber (number : Nat) : Bytes := Bytes.littleEndian 8 number

/-- The bytes of an entry. -/
def encodeEntry (entry : String × Nat) : Bytes :=
  let key := Bytes.ofText entry.1
  encodeNumber key.length ++ key ++ encodeNumber entry.2

/-- The bytes of entries. -/
def encodeEntries (entries : List (String × Nat)) : Bytes :=
  encodeNumber entries.length ++ entries.flatMap encodeEntry

/-- The payload of some contents. -/
def payload (contents : Contents) : Bytes :=
  encodeEntries (contents.counters.toList.map fun entry => (entry.1, entry.2.toUInt64.toNat)) ++
    encodeEntries (contents.gauges.toList.map fun entry => (entry.1, entry.2.bits.toNat))

/-- The snapshot of some contents. -/
def encode [Gzip.Deflater] (contents : Contents) : Bytes :=
  Gzip.compressAt Gzip.balanced (payload contents)

/-! ### Reading -/

/-- The number at the front. -/
def readNumber? (input : Bytes) : Option (Nat × Bytes) := do
  let (digits, rest) ← Bytes.cut? 8 input
  return (Bytes.ofLittleEndian digits, rest)

/-- The entry at the front. -/
def readEntry? (input : Bytes) : Option ((String × Nat) × Bytes) := do
  let (length, rest) ← readNumber? input
  let (key, rest) ← Bytes.cut? length rest
  let key ← Bytes.toText? key
  let (value, rest) ← readNumber? rest
  return ((key, value), rest)

/-- So many entries at the front. -/
def readEntries? : Nat → Bytes → Option (List (String × Nat) × Bytes)
  | 0, input => some ([], input)
  | count + 1, input => do
    let (entry, rest) ← readEntry? input
    let (entries, rest) ← readEntries? count rest
    return (entry :: entries, rest)

/-- The entries at the front, counted. -/
def readCounted? (input : Bytes) : Option (List (String × Nat) × Bytes) := do
  let (count, rest) ← readNumber? input
  readEntries? count rest

/-- The contents at the front of a payload. Of entries with one key the last counts. -/
def readPayload? (input : Bytes) : Option Contents := do
  let (counters, rest) ← readCounted? input
  let (gauges, _) ← readCounted? rest
  return ⟨KeyMap.ofList (counters.map fun entry => (entry.1, (UInt64.ofNat entry.2).toInt64)),
    KeyMap.ofList (gauges.map fun entry => (entry.1, ⟨UInt64.ofNat entry.2⟩))⟩

/-- The contents of a snapshot. -/
def decode (input : Bytes) : Except StorageError Contents :=
  let stream := Gzip.openMember input
  match readPayload? stream.delivered with
  | none => .error .encode
  | some contents => if stream.fault.isSome then .error .io else .ok contents

end Metering.Snapshot
