/-
Whether a key has one kind after a restart. A snapshot lists counters and then gauges, and nobody
looks whether a key is in both lists. Of such a key the memory backend takes over both values;
it tells either to those who ask for it, lists the reading, and refuses every write for the sake of
the other kind, so both values stay. All other keys have one kind at most, and values of that kind
can be written.
-/

import Metering.Proofs.Gzip.Framing
import Metering.Proofs.Storage.Restoring
import Metering.Proofs.Storage.Sharing
import Metering.Proofs.Storage.SnapshotFile

namespace Metering

namespace Snapshot

/-! ### Entries of a file -/

/-- A file is a whole snapshot with these entries of counters and of gauges. -/
def Lists (held : Bytes) (counters gauges : List (String × Nat)) : Prop :=
  ∃ payload rest behind, Gzip.decompress held = .ok payload ∧
    readCounted? payload = some (counters, rest) ∧ readCounted? rest = some (gauges, behind)

/-- A file is a whole snapshot with a key among the counters and among the gauges. -/
def Mixes (held : Bytes) (key : String) : Prop :=
  ∃ counters gauges, Lists held counters gauges ∧ key ∈ counters.map (·.1) ∧
    key ∈ gauges.map (·.1)

/-- The contents that entries give; of entries with one key the last counts. -/
def ofLists (counters gauges : List (String × Nat)) : Contents :=
  ⟨KeyMap.ofList (counters.map fun entry => (entry.1, (UInt64.ofNat entry.2).toInt64)),
    KeyMap.ofList (gauges.map fun entry => (entry.1, ⟨UInt64.ofNat entry.2⟩))⟩

theorem readPayload?_eq_some_iff {payload : Bytes} {contents : Contents} :
    readPayload? payload = some contents ↔
      ∃ counters rest, readCounted? payload = some (counters, rest) ∧
        ∃ gauges behind, readCounted? rest = some (gauges, behind) ∧
          ofLists counters gauges = contents := by
  rw [readPayload?]
  simp only [Option.bind_eq_bind, Option.bind_eq_some_iff, Prod.exists]
  refine exists_congr fun counters => exists_congr fun rest => and_congr_right fun _ => ?_
  refine exists_congr fun gauges => exists_congr fun behind => and_congr_right fun _ => ?_
  exact Option.some_inj

theorem decode_ok_iff {held : Bytes} {contents : Contents} :
    decode held = .ok contents ↔
      ∃ counters gauges, Lists held counters gauges ∧ ofLists counters gauges = contents := by
  constructor
  · intro decoded
    rw [decode] at decoded
    split at decoded
    · cases decoded
    · next found isFound =>
      split at decoded
      · cases decoded
      · next whole =>
        obtain rfl := Except.ok.inj decoded
        rw [Option.isSome_iff_ne_none, not_not] at whole
        obtain ⟨counters, rest, isCounters, gauges, behind, isGauges, isContents⟩ :=
          readPayload?_eq_some_iff.mp isFound
        have isPayload : Gzip.decompress held = .ok (Gzip.openMember held).delivered := by
          rw [Gzip.decompress, Gzip.Stream.finish, whole]
        exact ⟨counters, gauges, ⟨_, rest, behind, isPayload, isCounters, isGauges⟩, isContents⟩
  · rintro ⟨counters, gauges, ⟨payload, rest, behind, isPayload, isCounters, isGauges⟩, isContents⟩
    have read : readPayload? payload = some contents :=
      readPayload?_eq_some_iff.mpr ⟨counters, rest, isCounters, gauges, behind, isGauges,
        isContents⟩
    rw [decode, Gzip.decompress_eq_ok_iff.mp isPayload]
    dsimp only
    rw [read]
    rfl

/-! ### Keys of both lists -/

theorem apart_ofLists (counters gauges : List (String × Nat)) (key : String) :
    (ofLists counters gauges).holdings.Apart key ↔
      ¬ (key ∈ counters.map (·.1) ∧ key ∈ gauges.map (·.1)) := by
  rw [Decidable.not_and_iff_or_not]
  refine or_congr ?_ ?_
  · show (KeyMap.ofList _).find? key = none ↔ _
    rw [KeyMap.find?_ofList_eq_none_iff, List.map_map]
    rfl
  · show (KeyMap.ofList _).find? key = none ↔ _
    rw [KeyMap.find?_ofList_eq_none_iff, List.map_map]
    rfl

theorem mixes_iff {held : Bytes} {key : String} :
    Mixes held key ↔ ∃ contents, decode held = .ok contents ∧ ¬ contents.holdings.Apart key := by
  constructor
  · rintro ⟨counters, gauges, lists, inBoth⟩
    exact ⟨ofLists counters gauges, decode_ok_iff.mpr ⟨counters, gauges, lists, rfl⟩,
      fun apart => (apart_ofLists counters gauges key).mp apart inBoth⟩
  · rintro ⟨contents, decoded, both⟩
    obtain ⟨counters, gauges, lists, rfl⟩ := decode_ok_iff.mp decoded
    rw [apart_ofLists, not_not] at both
    exact ⟨counters, gauges, lists, both⟩

/-- A snapshot that was made of contents mixes what they mix. -/
theorem mixes_of_isSnapshot {contents : Contents} {held : Bytes} (fits : Fits contents)
    (isSnapshot : IsSnapshot contents held) (key : String) :
    Mixes held key ↔ ¬ contents.holdings.Apart key := by
  rw [mixes_iff, decode_of_isSnapshot fits isSnapshot]
  constructor
  · rintro ⟨found, isFound, both⟩
    rwa [Except.ok.inj isFound]
  · exact fun both => ⟨contents, rfl, both⟩

end Snapshot

/-! ### Keys of one kind and of two -/

namespace Holdings

variable {held : Holdings} {key : String}

theorem gauge?_of_value? {total : Int64} (isHeld : held.value? key = some (.counter total)) :
    held.gauge? key = none := by
  cases isReading : held.gauge? key with
  | none => rfl
  | some reading =>
    rw [value?, isReading] at isHeld
    cases isHeld

theorem counter?_of_value? (apart : held.Apart key) {reading : Binary64}
    (isHeld : held.value? key = some (.gauge reading)) : held.counter? key = none := by
  refine apart.resolve_right fun noReading => ?_
  rw [value?, noReading] at isHeld
  cases isTotal : held.counter? key with
  | none =>
    rw [isTotal] at isHeld
    cases isHeld
  | some total =>
    rw [isTotal] at isHeld
    cases isHeld

end Holdings

namespace Storage

/-- Writes a value under a key. -/
def writing (key : String) : Value → Action Storage Unit
  | .counter total => Repository.setCounter key total
  | .gauge reading => Repository.setGauge key reading

/-- A value can be written under a key, and is told about it from then on. -/
def Takes (store : Storage) (key : String) (value : Value) : Prop :=
  ∃ after, (writing key value).on store = (.ok (), after) ∧ after.Tells key (some value)

/-- Both kinds are held under a key: each is told to those who ask for it, the reading is listed,
and neither can be written. -/
structure Twofold (store : Storage) (key : String) (total : Int64) (reading : Binary64) : Prop where
  counter : (Repository.counter key : Action Storage Int64).on store = (.ok total, store)
  gauge : (Repository.gauge key : Action Storage Binary64).on store = (.ok reading, store)
  listed : ∃ metrics, (Repository.all : Action Storage (KeyMap Value)).on store =
    (.ok metrics, store) ∧ metrics.find? key = some (.gauge reading)
  refused : ∀ value, (writing key value).on store = (.error (.wrongKind key), store)

theorem writing_counter_on (store : MemoryStore) (key : String) (total : Int64) :
    (writing key (.counter total)).on (memory store) =
      if store.contents.gauges.contains key then (.error (.wrongKind key), memory store)
      else (.ok (), memory (store.written
        { store.contents with counters := store.contents.counters.insert key total })) := by
  show (Prod.map id memory) ((MemoryStore.write (Contents.setCounter key total)).on store) = _
  rw [MemoryStore.write_on, Contents.setCounter]
  cases store.contents.gauges.contains key <;> rfl

theorem writing_gauge_on (store : MemoryStore) (key : String) (reading : Binary64) :
    (writing key (.gauge reading)).on (memory store) =
      if store.contents.counters.contains key then (.error (.wrongKind key), memory store)
      else (.ok (), memory (store.written
        { store.contents with gauges := store.contents.gauges.insert key reading })) := by
  show (Prod.map id memory) ((MemoryStore.write (Contents.setGauge key reading)).on store) = _
  rw [MemoryStore.write_on, Contents.setGauge]
  cases store.contents.counters.contains key <;> rfl

theorem tells_memory_of_apart {store : MemoryStore} {key : String}
    (apart : store.contents.holdings.Apart key) :
    (memory store).Tells key (store.contents.holdings.value? key) := by
  have reached : (memory store).isReached = true := rfl
  exact tells_of_apart reached apart

/-- Where a value is held, another one of its kind can be written. -/
theorem takes_of_apart {store : MemoryStore} {key : String}
    (apart : store.contents.holdings.Apart key) {held value : Value}
    (isHeld : store.contents.holdings.value? key = some held) (same : value.kind = held.kind) :
    (memory store).Takes key value := by
  have tells {contents : Contents} (free : contents.holdings.Apart key)
      (isTold : contents.holdings.value? key = some value) :
      (memory (store.written contents)).Tells key (some value) := by
    rw [← MemoryStore.contents_written store contents] at free isTold
    rw [← isTold]
    exact tells_memory_of_apart free
  cases value with
  | counter total =>
    cases held with
    | gauge reading => cases same
    | counter before =>
      have noReading : store.contents.gauges.find? key = none := Holdings.gauge?_of_value? isHeld
      have isTold : (store.contents.counters.insert key total).find? key = some total := by
        rw [KeyMap.find?_insert, if_pos rfl]
      have written := writing_counter_on store key total
      rw [KeyMap.contains, noReading, Option.isSome_none, if_neg Bool.false_ne_true] at written
      refine ⟨_, written, tells (Or.inr noReading) ?_⟩
      simp only [Holdings.value?, Contents.holdings, noReading, isTold]
      rfl
  | gauge reading =>
    cases held with
    | counter total => cases same
    | gauge before =>
      have noTotal : store.contents.counters.find? key = none :=
        Holdings.counter?_of_value? apart isHeld
      have isTold : (store.contents.gauges.insert key reading).find? key = some reading := by
        rw [KeyMap.find?_insert, if_pos rfl]
      have written := writing_gauge_on store key reading
      rw [KeyMap.contains, noTotal, Option.isSome_none, if_neg Bool.false_ne_true] at written
      refine ⟨_, written, tells (Or.inl noTotal) ?_⟩
      simp only [Holdings.value?, Contents.holdings, isTold]
      rfl

theorem twofold_of_both {store : MemoryStore} {key : String} {total : Int64} {reading : Binary64}
    (isTotal : store.contents.counters.find? key = some total)
    (isReading : store.contents.gauges.find? key = some reading) :
    (memory store).Twofold key total reading := by
  have reached : (memory store).isReached = true := rfl
  obtain ⟨metrics, isListed, shows⟩ := all_on reached
  refine ⟨?_, ?_, ⟨metrics, isListed, ?_⟩, fun value => ?_⟩
  · show (store.contents.counter key, memory store) = _
    rw [Contents.counter, isTotal]
  · show (store.contents.gauge key, memory store) = _
    rw [Contents.gauge, isReading]
  · show metrics.find? key = _
    rw [shows]
    simp only [seen, Holdings.value?, Contents.holdings, isReading]
    rfl
  · cases value with
    | counter other =>
      rw [writing_counter_on, KeyMap.contains, isReading, Option.isSome_some, if_pos rfl]
    | gauge other => rw [writing_gauge_on, KeyMap.contains, isTotal, Option.isSome_some, if_pos rfl]

end Storage

/-! ### Stores that are opened on a file -/

namespace MemoryStore

/-- What a store starts with has no key under both kinds, unless its file has. -/
theorem apart_open_iff {files : Files} {path : Path} {held : Bytes}
    (isHeld : files.read path = .ok held) (interval : Nat) (key : String) :
    («open» files (some path) interval true).contents.holdings.Apart key ↔
      ¬ Snapshot.Mixes held key := by
  show (initial files (some path) true).holdings.Apart key ↔ _
  rw [initial, SnapshotFile.read, isHeld, Snapshot.mixes_iff]
  dsimp only
  cases Snapshot.decode held with
  | error problem =>
    refine iff_of_true (Or.inl rfl) ?_
    rintro ⟨contents, decoded, _⟩
    cases decoded
  | ok contents =>
    constructor
    · rintro apart ⟨found, isFound, both⟩
      exact both (Except.ok.inj isFound ▸ apart)
    · exact fun clean => not_not.mp fun both => clean ⟨contents, rfl, both⟩

/-- However clients go on with a store that was opened on a file, a key is told about as holding
one value or none, and takes other values of the kind that is listed, unless the file has the key
under both kinds. Then both values stay, and no value is taken. The files that stores write mix
just what the stores do. -/
theorem kinds_after_restoring {files : Files} {path : Path} {held : Bytes}
    (isHeld : files.read path = .ok held) (interval : Nat) (key : String) :
    let store := «open» files (some path) interval true
    (store.contents.holdings.Apart key ↔ ¬ Snapshot.Mixes held key) ∧
      (∀ contents, Snapshot.Fits contents → Snapshot.IsSnapshot contents held →
        (Snapshot.Mixes held key ↔ ¬ contents.holdings.Apart key)) ∧
      (¬ Snapshot.Mixes held key → ∀ client order,
        let after := (Shared.run ⟨.memory store, client⟩ order).store
        ∃ told, after.Tells key told ∧ ∀ listed, told = some listed →
          ∀ value : Value, value.kind = listed.kind → after.Takes key value) ∧
      (Snapshot.Mixes held key → ∃ total reading, ∀ client order,
        (Shared.run ⟨.memory store, client⟩ order).store.Twofold key total reading) := by
  intro store
  -- What holds of the key at the opening is carried through all turns by `KeepsKinds`.
  have apartIff := apart_open_iff isHeld interval key
  refine ⟨apartIff, ?_, fun clean client order => ?_, fun mixed => ?_⟩
  · exact fun contents fits isSnapshot => Snapshot.mixes_of_isSnapshot fits isSnapshot key
  · obtain ⟨after, isAfter, keeps⟩ := Shared.memory_run store client order
    have apart := (keeps key).apart (apartIff.mpr clean)
    rw [isAfter]
    exact ⟨_, Storage.tells_memory_of_apart apart,
      fun listed isListed value same => Storage.takes_of_apart apart isListed same⟩
  · have both : ¬ store.contents.holdings.Apart key := fun apart => apartIff.mp apart mixed
    rw [Holdings.Apart, not_or] at both
    obtain ⟨total, isTotal⟩ := Option.ne_none_iff_exists'.mp both.1
    obtain ⟨reading, isReading⟩ := Option.ne_none_iff_exists'.mp both.2
    refine ⟨total, reading, fun client order => ?_⟩
    obtain ⟨after, isAfter, keeps⟩ := Shared.memory_run store client order
    obtain ⟨counter, gauge⟩ := (keeps key).same (not_or.mpr both)
    rw [isAfter]
    exact Storage.twofold_of_both (counter.trans isTotal) (gauge.trans isReading)

/-- A file with one key under both kinds and one under a single kind. -/
theorem kinds_after_restoring_of_two_keys :
    let contents : Contents := ⟨KeyMap.ofList [("k", 1), ("polls", 5)],
      KeyMap.ofList [("k", ⟨0x3FF0000000000000⟩)]⟩
    let files := (SnapshotFile.write ["metrics.db"] contents Files.empty).2
    let store := «open» files (some ["metrics.db"]) 0 true
    let client : Nat → Client := fun _ => .takes (.setCounter "polls" 6) fun _ => .done
    let after := (Shared.run ⟨.memory store, client⟩ [0]).store
    files.read ["metrics.db"] = .ok (Snapshot.encode contents) ∧
      (∃ total reading, after.Twofold "k" total reading) ∧
      ∃ told, after.Tells "polls" told := by
  intro contents files store client after
  have fits : Snapshot.Fits contents := by decide
  have isHeld : files.read ["metrics.db"] = .ok (Snapshot.encode contents) :=
    SnapshotFile.read_of_writable (SnapshotFile.writable_empty "metrics.db" (by decide)) contents
  obtain ⟨_, ofK, _, torn⟩ := kinds_after_restoring isHeld 0 "k"
  obtain ⟨_, ofPolls, whole, _⟩ := kinds_after_restoring isHeld 0 "polls"
  have isSnapshot := Snapshot.isSnapshot_encode contents
  obtain ⟨total, reading, twofold⟩ := torn ((ofK contents fits isSnapshot).mpr (by decide))
  have clean : ¬ Snapshot.Mixes (Snapshot.encode contents) "polls" := by
    rw [ofPolls contents fits isSnapshot, not_not]
    exact Or.inr rfl
  obtain ⟨told, tells, _⟩ := whole clean client [0]
  exact ⟨isHeld, ⟨total, reading, twofold client [0]⟩, told, tells⟩

/-- A key of a file comes to be held under both kinds, and cannot be written under the kind that
is listed. -/
theorem kind_is_not_exclusive_after_restoring :
    let contents : Contents := ⟨KeyMap.ofList [("k", 1)],
      KeyMap.ofList [("k", ⟨0x3FF0000000000000⟩)]⟩
    let files := (SnapshotFile.write ["metrics.db"] contents Files.empty).2
    let store := «open» files (some ["metrics.db"]) 0 true
    files.read ["metrics.db"] = .ok (Snapshot.encode contents) ∧
      ¬ store.contents.holdings.Apart "k" ∧
      store.contents.all.find? "k" = some (.gauge ⟨0x3FF0000000000000⟩) ∧
      ((Repository.setGauge "k" ⟨0⟩ : Action MemoryStore Unit).on store).1 =
        .error (.wrongKind "k") := by
  intro contents files store
  have fits : Snapshot.Fits contents := by decide
  have isHeld : files.read ["metrics.db"] = .ok (Snapshot.encode contents) :=
    SnapshotFile.read_of_writable (SnapshotFile.writable_empty "metrics.db" (by decide)) contents
  have restored : store.contents = contents := by
    show initial files (some ["metrics.db"]) true = contents
    rw [initial, SnapshotFile.read_of_read fits isHeld]
  refine ⟨isHeld, ?_, ?_, ?_⟩
  · rw [restored]
    decide
  · rw [restored]
    rfl
  · show ((write (Contents.setGauge "k" ⟨0⟩)).on store).1 = _
    rw [write_fst, restored]
    rfl

end MemoryStore

end Metering
