/-
A snapshot is read back as the contents that it was made of, bit by bit. Counts and lengths have
eight bytes, which is enough for whatever a machine can hold.
-/

import Metering.Proofs.Gzip.Torn
import Metering.Proofs.KeyMap
import Metering.Storage.Snapshot

namespace Metering

/-- Entries that stand in key order are the entries of their map. -/
theorem KeyMap.ofList_toList {Value : Type} (map : KeyMap Value) : ofList map.toList = map := by
  refine ext_find? fun key => ?_
  show (empty.insertAll map.entries).find? key = map.find? key
  rw [find?_insertAll map.sorted, find?_empty, Option.or_none]
  rfl

namespace Snapshot

open Bytes (IsSmall)

/-! ### Numbers, entries and counts -/

/-- An entry whose length and value have room in eight bytes each. -/
def FitsEntry (entry : String × Nat) : Prop :=
  IsSmall (Bytes.ofText entry.1).length ∧ IsSmall entry.2

theorem readNumber?_encodeNumber {number : Nat} (small : IsSmall number) (rest : Bytes) :
    readNumber? (encodeNumber number ++ rest) = some (number, rest) := by
  obtain ⟨digits, cut, isNumber⟩ := Bytes.cut?_littleEndian small rest
  rw [readNumber?, encodeNumber, cut, ← isNumber]
  rfl

theorem readEntry?_encodeEntry {entry : String × Nat} (fits : FitsEntry entry) (rest : Bytes) :
    readEntry? (encodeEntry entry ++ rest) = some (entry, rest) := by
  simp only [encodeEntry, readEntry?, List.append_assoc, readNumber?_encodeNumber fits.1,
    Option.bind_eq_bind, Option.bind_some, Bytes.cut?_append, Bytes.toText?_ofText,
    readNumber?_encodeNumber fits.2]
  rfl

theorem readEntries?_flatMap {entries : List (String × Nat)}
    (fit : ∀ entry ∈ entries, FitsEntry entry) (rest : Bytes) :
    readEntries? entries.length (entries.flatMap encodeEntry ++ rest) = some (entries, rest) := by
  induction entries with
  | nil => rfl
  | cons entry others inductionHypothesis =>
    obtain ⟨first, later⟩ := List.forall_mem_cons.mp fit
    simp only [List.length_cons, List.flatMap_cons, List.append_assoc, readEntries?,
      readEntry?_encodeEntry first, Option.bind_eq_bind, Option.bind_some,
      inductionHypothesis later]
    rfl

theorem readCounted?_encodeEntries {entries : List (String × Nat)}
    (count : IsSmall entries.length) (fit : ∀ entry ∈ entries, FitsEntry entry) (rest : Bytes) :
    readCounted? (encodeEntries entries ++ rest) = some (entries, rest) := by
  simp only [readCounted?, encodeEntries, List.append_assoc, readNumber?_encodeNumber count,
    Option.bind_eq_bind, Option.bind_some, readEntries?_flatMap fit]

/-! ### Maps -/

/-- The number of entries of a map, and the length of each key, have room in eight bytes. -/
structure FitsMap {Value : Type} (map : KeyMap Value) : Prop where
  count : IsSmall map.size
  keys : ∀ entry ∈ map.toList, IsSmall (Bytes.ofText entry.1).length

instance {Value : Type} (map : KeyMap Value) : Decidable (FitsMap map) :=
  decidable_of_iff (IsSmall map.size ∧ ∀ entry ∈ map.toList, IsSmall (Bytes.ofText entry.1).length)
    ⟨fun ⟨count, keys⟩ => ⟨count, keys⟩, fun fits => ⟨fits.count, fits.keys⟩⟩

/-- Keys and words of 64 bits are read back. -/
theorem readCounted?_words {Value : Type} {map : KeyMap Value} (fits : FitsMap map)
    (word : Value → UInt64) (rest : Bytes) :
    readCounted? (encodeEntries (map.toList.map fun entry => (entry.1, (word entry.2).toNat)) ++
        rest) =
      some (map.toList.map fun entry => (entry.1, (word entry.2).toNat), rest) := by
  refine readCounted?_encodeEntries ?_ (List.forall_mem_map.mpr fun entry member => ?_) rest
  · rw [List.length_map]
    exact fits.count
  · exact ⟨fits.keys entry member, Bytes.isSmall_toNat (word entry.2)⟩

/-- Values that are told by their words are found again under their keys. -/
theorem ofList_words {Value : Type} (map : KeyMap Value) {word : Value → UInt64}
    {value : UInt64 → Value} (told : ∀ held, value (word held) = held) :
    KeyMap.ofList ((map.toList.map fun entry => (entry.1, (word entry.2).toNat)).map
      fun entry => (entry.1, value (UInt64.ofNat entry.2))) = map := by
  have same : ∀ entry : String × Value,
      (entry.1, value (UInt64.ofNat (word entry.2).toNat)) = entry := by
    intro entry
    rw [UInt64.ofNat_toNat, told]
  rw [List.map_map]
  show KeyMap.ofList (map.toList.map fun entry =>
    (entry.1, value (UInt64.ofNat (word entry.2).toNat))) = map
  rw [List.map_congr_left fun entry _ => same entry, List.map_id', KeyMap.ofList_toList]

/-! ### Contents -/

/-- Contents of a size that a machine can hold. -/
structure Fits (contents : Contents) : Prop where
  counters : FitsMap contents.counters
  gauges : FitsMap contents.gauges

instance (contents : Contents) : Decidable (Fits contents) :=
  decidable_of_iff (FitsMap contents.counters ∧ FitsMap contents.gauges)
    ⟨fun ⟨counters, gauges⟩ => ⟨counters, gauges⟩, fun fits => ⟨fits.counters, fits.gauges⟩⟩

theorem readPayload?_payload {contents : Contents} (fits : Fits contents) :
    readPayload? (payload contents) = some contents := by
  have counters := readCounted?_words fits.counters Int64.toUInt64
  have gauges := readCounted?_words fits.gauges Binary64.bits []
  rw [List.append_nil] at gauges
  simp only [readPayload?, payload, counters, gauges, Option.bind_eq_bind, Option.bind_some]
  show some (Contents.mk _ _) = some contents
  have totals : ∀ total : Int64, total.toUInt64.toInt64 = total := fun _ => rfl
  have readings : ∀ reading : Binary64, (⟨reading.bits⟩ : Binary64) = reading := fun _ => rfl
  rw [ofList_words contents.counters totals, ofList_words contents.gauges readings]

/-! ### Whole snapshots -/

/-- A file is a snapshot of some contents, whatever has compressed it. -/
def IsSnapshot (contents : Contents) (file : Bytes) : Prop := Gzip.IsMember (payload contents) file

/-- A snapshot is read back as the contents that it was made of. -/
theorem decode_of_isSnapshot {contents : Contents} {file : Bytes} (fits : Fits contents)
    (isSnapshot : IsSnapshot contents file) : decode file = .ok contents := by
  rw [decode, Gzip.openMember_of_isMember isSnapshot]
  dsimp only
  rw [readPayload?_payload fits]
  rfl

section

variable [Gzip.Deflater] [Gzip.LawfulDeflater]

theorem isSnapshot_encode (contents : Contents) : IsSnapshot contents (encode contents) :=
  Gzip.isMember_compressAt Gzip.balanced (payload contents)

theorem decode_encode {contents : Contents} (fits : Fits contents) :
    decode (encode contents) = .ok contents :=
  decode_of_isSnapshot fits (isSnapshot_encode contents)

end

end Snapshot

end Metering
