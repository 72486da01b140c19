/-
What a store starts with. A whole snapshot gives the contents that it was made of, whatever has
compressed it, and different contents have different payloads. A snapshot that was cut short
gives nothing: the entries may all have been read when the trailer turns out to be missing, and
the store starts empty even then.
-/

import Metering.Proofs.Storage.Snapshot
import Metering.Storage.Memory

namespace Metering.Snapshot

/-- Nothing is restored from what a file holds. -/
structure NotRestored (held : Bytes) : Prop where
  decoding : ∃ problem, decode held = .error problem
  reading : ∀ (files : Files) (path : Path), files.read path = .ok held →
    ∃ problem, SnapshotFile.read path files = .error problem
  opening : ∀ (files : Files) (path : Path) (interval : Nat), files.read path = .ok held →
    (MemoryStore.open files (some path) interval true).contents = Contents.empty

/-! ### Payloads -/

/-- A payload tells what is held under each key, and nothing else. -/
theorem payload_eq_iff {contents other : Contents} (fits : Fits contents) (otherFits : Fits other) :
    payload contents = payload other ↔
      (∀ key, contents.counters.find? key = other.counters.find? key) ∧
        ∀ key, contents.gauges.find? key = other.gauges.find? key := by
  constructor
  · intro same
    have read := readPayload?_payload fits
    rw [same, readPayload?_payload otherFits] at read
    obtain rfl := Option.some.inj read
    exact ⟨fun _ => rfl, fun _ => rfl⟩
  · rintro ⟨counters, gauges⟩
    rw [payload, payload, KeyMap.ext_find? counters, KeyMap.ext_find? gauges]

/-! ### Snapshots that were cut short -/

/-- Where the stream has a fault, nothing comes out of it, whatever has been read by then. -/
theorem decode_of_fault {held : Bytes} (faulty : (Gzip.openMember held).fault ≠ none) :
    ∃ problem, decode held = .error problem := by
  unfold decode
  dsimp only
  split
  · exact ⟨_, rfl⟩
  · rw [if_pos (Option.isSome_iff_ne_none.mpr faulty)]
    exact ⟨_, rfl⟩

theorem notRestored_of_decode_error {held : Bytes} {problem : StorageError}
    (refused : decode held = .error problem) : NotRestored held := by
  have reading : ∀ (files : Files) (path : Path), files.read path = .ok held →
      SnapshotFile.read path files = .error problem := by
    intro files path isHeld
    rw [SnapshotFile.read, isHeld]
    dsimp only
    rw [refused]
    rfl
  refine ⟨⟨problem, refused⟩, fun files path isHeld => ⟨problem, reading files path isHeld⟩, ?_⟩
  intro files path interval isHeld
  show MemoryStore.initial files (some path) true = Contents.empty
  rw [MemoryStore.initial, reading files path isHeld]

theorem notRestored_of_torn {contents : Contents} {file torn : Bytes}
    (isSnapshot : IsSnapshot contents file) (isFront : torn <+: file) (shorter : torn ≠ file) :
    NotRestored torn := by
  obtain ⟨problem, refused⟩ := decode_of_fault (Gzip.fault_of_torn isSnapshot isFront shorter)
  exact notRestored_of_decode_error refused

/-! ### All or nothing -/

/-- A snapshot gives back all that it was made of, bit by bit, or nothing at all when its end is
missing. -/
theorem restored_whole_or_not_at_all [Gzip.Deflater] [Gzip.LawfulDeflater] {contents : Contents}
    (fits : Fits contents) :
    decode (encode contents) = .ok contents ∧
      (∀ other, Fits other → (payload contents = payload other ↔
        (∀ key, contents.counters.find? key = other.counters.find? key) ∧
          ∀ key, contents.gauges.find? key = other.gauges.find? key)) ∧
      IsSnapshot contents (encode contents) ∧
      ∀ file, IsSnapshot contents file →
        decode file = .ok contents ∧ ∀ torn, torn <+: file → torn ≠ file → NotRestored torn := by
  refine ⟨decode_encode fits, fun other otherFits => payload_eq_iff fits otherFits,
    isSnapshot_encode contents, fun file isSnapshot => ?_⟩
  exact ⟨decode_of_isSnapshot fits isSnapshot,
    fun torn isFront shorter => notRestored_of_torn isSnapshot isFront shorter⟩

theorem restored_whole_or_not_at_all_odd_bits :
    let contents : Contents :=
      ⟨KeyMap.empty.insert "zähler" (-1), KeyMap.empty.insert "" ⟨0x7FF8000000000001⟩⟩
    decode (encode contents) = .ok contents ∧ NotRestored (encode contents).dropLast ∧
      NotRestored [] := by
  intro contents
  have fits : Fits contents := by decide
  obtain ⟨whole, _, isSnapshot, torn⟩ := restored_whole_or_not_at_all fits
  have long : 0 < (encode contents).length := by decide
  refine ⟨whole, (torn _ isSnapshot).2 _ (List.dropLast_prefix _) fun same => ?_,
    (torn _ isSnapshot).2 [] List.nil_prefix (List.ne_nil_of_length_pos long).symm⟩
  have shorter := congrArg List.length same
  rw [List.length_dropLast] at shorter
  omega

end Metering.Snapshot
