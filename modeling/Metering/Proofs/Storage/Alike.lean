/-
Stores of which the same is seen. A database forgets the sign of a zero, so two backends that
were given the same hold the same numbers rather than the same bits. Both answer every question
alike, both accept the same writes, refuse the others for the same key, and hold the same numbers
again after a write.
-/

import Metering.Proofs.Numeral.Binary64
import Metering.Proofs.Storage.Sharing

namespace Metering

namespace Value

/-- A value with the sign of a zero dropped. -/
def unsigned : Value → Value
  | .counter total => .counter total
  | .gauge reading => .gauge reading.unsignedZero

end Value

namespace Holdings

/-- What is held, with the signs of zeros dropped. -/
def unsigned (held : Holdings) : Holdings :=
  { held with gauge? := fun key => (held.gauge? key).map Binary64.unsignedZero }

/-! ### Answers without the signs of zeros -/

theorem counter_unsigned (held : Holdings) (key : String) :
    held.unsigned.counter key = held.counter key := by
  simp only [counter, unsigned, Option.isSome_map]

theorem gauge_unsigned (held : Holdings) (key : String) :
    held.unsigned.gauge key = (held.gauge key).map Binary64.unsignedZero := by
  simp only [gauge, unsigned]
  cases held.gauge? key with
  | some reading => rfl
  | none =>
    simp only [Option.map_none]
    rw [apply_ite (Except.map Binary64.unsignedZero)]
    rfl

theorem read_unsigned (held : Holdings) (key : String) (kind : Kind) :
    held.unsigned.read key kind = (held.read key kind).map Value.unsigned := by
  cases kind with
  | counter =>
    rw [read, read, counter_unsigned]
    cases held.counter key <;> rfl
  | gauge =>
    rw [read, read, gauge_unsigned]
    cases held.gauge key <;> rfl

theorem value?_unsigned (held : Holdings) (key : String) :
    held.unsigned.value? key = (held.value? key).map Value.unsigned := by
  simp only [value?, unsigned]
  cases held.gauge? key with
  | some reading => rfl
  | none => cases held.counter? key <;> rfl

theorem admitKeys_unsigned (held : Holdings) (kind : Kind) (keys : List String) :
    held.unsigned.admitKeys kind keys = held.admitKeys kind keys := by
  have other : held.unsigned.holdsOther kind = held.holdsOther kind := by
    funext key
    cases kind with
    | counter => exact Option.isSome_map
    | gauge => rfl
  rw [admitKeys, admitKeys, other]

/-! ### Writes without the signs of zeros -/

theorem unsigned_withCounters (held : Holdings) (totals : KeyMap Int64) :
    (held.withCounters totals).unsigned = held.unsigned.withCounters totals := rfl

theorem unsigned_withGauges (held : Holdings) (readings : KeyMap Binary64) :
    (held.withGauges readings).unsigned =
      held.unsigned.withGauges (readings.map Binary64.unsignedZero) := by
  refine Holdings.ext rfl (funext fun key => ?_)
  show ((readings.find? key).or (held.gauge? key)).map Binary64.unsignedZero =
    ((readings.map Binary64.unsignedZero).find? key).or
      ((held.gauge? key).map Binary64.unsignedZero)
  rw [KeyMap.find?_map, Option.map_or]

end Holdings

namespace Storage

/-- Whatever is left of a reading that is stored, without the sign of a zero it is the same. -/
theorem unsignedZero_stored (store : Storage) (reading : Binary64) :
    (store.stored reading).unsignedZero = reading.unsignedZero := by
  cases store with
  | memory store => rfl
  | database file store => exact Binary64.unsignedZero_unsignedZero reading

theorem map_stored_unsigned (store : Storage) (readings : KeyMap Binary64) :
    (readings.map store.stored).map Binary64.unsignedZero =
      readings.map Binary64.unsignedZero := by
  refine KeyMap.ext_find? fun key => ?_
  simp only [KeyMap.find?_map, Option.map_map, Function.comp_def, unsignedZero_stored]

/-- Two stores that can be used and of which the same numbers are seen. -/
structure Alike (left right : Storage) : Prop where
  leftOrderly : left.Orderly
  rightOrderly : right.Orderly
  seen : left.seen.unsigned = right.seen.unsigned

variable {left right : Storage} (alike : Alike left right)

namespace Alike

include alike

/-! ### Reads of stores alike -/

theorem counter (key : String) : left.seen.counter key = right.seen.counter key := by
  rw [← Holdings.counter_unsigned, alike.seen, Holdings.counter_unsigned]

theorem gauge (key : String) :
    (left.seen.gauge key).map Binary64.unsignedZero =
      (right.seen.gauge key).map Binary64.unsignedZero := by
  rw [← Holdings.gauge_unsigned, alike.seen, Holdings.gauge_unsigned]

theorem read (key : String) (kind : Kind) :
    (left.seen.read key kind).map Value.unsigned =
      (right.seen.read key kind).map Value.unsigned := by
  rw [← Holdings.read_unsigned, alike.seen, Holdings.read_unsigned]

/-- The listings of stores alike list the same numbers. -/
theorem all : ∃ metrics others,
    (Repository.all : Action Storage (KeyMap Value)).on left = (.ok metrics, left) ∧
    (Repository.all : Action Storage (KeyMap Value)).on right = (.ok others, right) ∧
    metrics.map Value.unsigned = others.map Value.unsigned := by
  obtain ⟨metrics, listed, shows⟩ := all_on alike.leftOrderly.isReached
  obtain ⟨others, otherListed, otherShows⟩ := all_on alike.rightOrderly.isReached
  refine ⟨metrics, others, listed, otherListed, KeyMap.ext_find? fun key => ?_⟩
  rw [KeyMap.find?_map, KeyMap.find?_map, shows, otherShows, ← Holdings.value?_unsigned,
    ← Holdings.value?_unsigned, alike.seen]

/-! ### Writes to stores alike -/

theorem admitKeys (kind : Kind) (keys : List String) :
    left.seen.admitKeys kind keys = right.seen.admitKeys kind keys := by
  rw [← Holdings.admitKeys_unsigned, alike.seen, Holdings.admitKeys_unsigned]

theorem withCounters (totals : KeyMap Int64) :
    (left.seen.withCounters totals).unsigned = (right.seen.withCounters totals).unsigned := by
  rw [Holdings.unsigned_withCounters, alike.seen, Holdings.unsigned_withCounters]

theorem withGauges (readings : KeyMap Binary64) :
    (left.seen.withGauges (readings.map left.stored)).unsigned =
      (right.seen.withGauges (readings.map right.stored)).unsigned := by
  rw [Holdings.unsigned_withGauges, Holdings.unsigned_withGauges, map_stored_unsigned,
    map_stored_unsigned, alike.seen]

end Alike

/-- A write that two stores alike answer alike, and after which they are alike if it was
accepted. -/
structure WritesAlike (action : Action Storage Unit) (left right : Storage) : Prop where
  answer : (action.on left).1 = (action.on right).1
  after : (action.on left).1 = .ok () → Alike (action.on left).2 (action.on right).2

include alike

/-- A write whose answer is told by the kinds that are seen. It is enough that stores alike show
the same numbers once both have accepted it. -/
theorem writesAlike_of_answers {action : Action Storage Unit} {kind : Kind} {keys : List String}
    (orderly : ∀ {store : Storage}, store.Orderly → (action.on store).2.Orderly)
    (answers : ∀ {store : Storage}, store.isReached = true →
      (action.on store).1 = store.seen.admitKeys kind keys)
    (shows : (action.on left).1 = .ok () → (action.on right).1 = .ok () →
      (action.on left).2.seen.unsigned = (action.on right).2.seen.unsigned) :
    WritesAlike action left right := by
  have answer : (action.on left).1 = (action.on right).1 := by
    rw [answers alike.leftOrderly.isReached, answers alike.rightOrderly.isReached,
      alike.admitKeys]
  refine ⟨answer, fun done => ?_⟩
  exact ⟨orderly alike.leftOrderly, orderly alike.rightOrderly, shows done (answer ▸ done)⟩

theorem writesAlike_setCounters (totals : KeyMap Int64) :
    WritesAlike (Repository.setCounters totals) left right := by
  refine writesAlike_of_answers alike (fun orderly => orderly_turn orderly (.setCounters totals))
    (fun reached => setCounters_fst reached totals) fun done otherDone => ?_
  rw [(setCounters_ok (Prod.ext done rfl)).1, (setCounters_ok (Prod.ext otherDone rfl)).1]
  exact alike.withCounters totals

theorem writesAlike_setGauges {readings : KeyMap Binary64}
    (numbers : ∀ entry ∈ readings.toList, entry.2.isNaN = false) :
    WritesAlike (Repository.setGauges readings) left right := by
  refine writesAlike_of_answers alike (fun orderly => orderly_turn orderly (.setGauges readings))
    (fun reached => setGauges_fst reached numbers) fun done otherDone => ?_
  rw [(setGauges_ok (Prod.ext done rfl)).1, (setGauges_ok (Prod.ext otherDone rfl)).1]
  exact alike.withGauges readings

theorem writesAlike_setCounter (key : String) (total : Int64) :
    WritesAlike (Repository.setCounter key total) left right := by
  refine writesAlike_of_answers alike (fun orderly => orderly_turn orderly (.setCounter key total))
    (fun reached => setCounter_fst reached key total) fun done otherDone => ?_
  rw [(setCounter_ok (Prod.ext done rfl)).1, (setCounter_ok (Prod.ext otherDone rfl)).1]
  exact alike.withCounters _

theorem writesAlike_setGauge (key : String) {reading : Binary64}
    (number : reading.isNaN = false) :
    WritesAlike (Repository.setGauge key reading) left right := by
  refine writesAlike_of_answers alike (fun orderly => orderly_turn orderly (.setGauge key reading))
    (fun reached => setGauge_fst reached key number) fun done otherDone => ?_
  rw [(setGauge_ok (Prod.ext done rfl)).1, (setGauge_ok (Prod.ext otherDone rfl)).1]
  exact alike.withGauges (KeyMap.ofList [(key, reading)])

end Storage

end Metering
