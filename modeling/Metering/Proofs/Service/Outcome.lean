/-
What calls leave behind when they have ended. A single update that succeeds takes the store from
what it kept to what it keeps, just as a list of that one update would; a call that only reads
leaves what is kept as it was, whether it succeeds or not.
-/

import Metering.Proofs.Service.Atomicity
import Metering.Proofs.Storage.Answers

namespace Metering

variable {Answer : Type}

theorem KeyMap.find?_single {Value : Type} (key : String) (value : Value) (wanted : String) :
    (KeyMap.ofList [(key, value)]).find? wanted = if wanted = key then some value else none := by
  show (KeyMap.empty.insert key value).find? wanted = _
  rw [find?_insert, find?_empty]

namespace Holdings

variable {request : Update} {image : Binary64 → Binary64} {held : Holdings}

/-- A total that is written takes up the change of a counter. -/
theorem takes_counter {delta total : Int64} (isCounter : request.value = .counter delta)
    (isSum : total.toInt = (held.total request.key).toInt + delta.toInt)
    (free : held.gauge? request.key = none) :
    Takes [request] image held (held.withCounters (KeyMap.ofList [(request.key, total)])) where
  apart _ := Or.inr (Update.readings_counter isCounter)
  noGauge key changed := by
    by_cases same : request.key = key
    · exact same ▸ free
    · exact absurd (Update.deltas_other same) changed
  noCounter _ changed := absurd (Update.readings_counter isCounter) changed
  total key changed := by
    by_cases same : request.key = key
    · subst same
      refine ⟨total, ?_, ?_⟩
      · show ((KeyMap.ofList _).find? request.key).or _ = some total
        rw [KeyMap.find?_single, if_pos rfl, Option.some_or]
      · rw [isSum, Update.deltaSum, Update.deltas_counter isCounter, Tally.exactSum_singleton]
    · exact absurd (Update.deltas_other same) changed
  sameCounter key unchanged := by
    have different : key ≠ request.key := fun same => by
      rw [same, Update.deltas_counter isCounter] at unchanged
      cases unchanged
    show ((KeyMap.ofList _).find? key).or _ = held.counter? key
    rw [KeyMap.find?_single, if_neg different, Option.none_or]
  gauge _ := by
    rw [Update.readings_counter isCounter]
    rfl

/-- A reading that is written is the reading that a gauge is given. -/
theorem takes_gauge {reading : Binary64} (isGauge : request.value = .gauge reading)
    (free : held.counter? request.key = none) :
    Takes [request] image held
      (held.withGauges (KeyMap.ofList [(request.key, image reading)])) where
  apart _ := Or.inl (Update.deltas_gauge isGauge)
  noGauge _ changed := absurd (Update.deltas_gauge isGauge) changed
  noCounter key changed := by
    by_cases same : request.key = key
    · exact same ▸ free
    · exact absurd (Update.readings_other same) changed
  total _ changed := absurd (Update.deltas_gauge isGauge) changed
  sameCounter _ _ := rfl
  gauge key := by
    show ((KeyMap.ofList _).find? key).or _ = _
    by_cases same : request.key = key
    · subst same
      rw [KeyMap.find?_single, if_pos rfl, Update.readings_gauge isGauge]
      rfl
    · rw [KeyMap.find?_single, if_neg (Ne.symm same), Update.readings_other same]
      rfl

end Holdings

namespace Service

/-! ### A single update -/

theorem apply_ok {request : Update} {store after : Storage} {value : Value}
    (done : apply request store = (.ok value, after)) :
    Holdings.Takes [request] store.stored store.seen after.seen := by
  unfold apply at done
  cases isValue : request.value with
  | gauge reading =>
    simp only [isValue] at done
    obtain ⟨_, middle, written, answered⟩ := Call.bind_ok done
    obtain ⟨isAfter, free⟩ := Storage.setGauge_ok (storing_ok written)
    rw [← (Prod.mk.inj answered).2, isAfter]
    exact Holdings.takes_gauge isValue free
  | counter delta =>
    simp only [isValue] at done
    obtain ⟨total, second, summed, writes⟩ := Call.bind_ok done
    have isSecond : second = store := by rw [← newTotal_snd request.key delta store, summed]
    rw [isSecond] at writes
    obtain ⟨_, middle, written, answered⟩ := Call.bind_ok writes
    obtain ⟨isAfter, free⟩ := Storage.setCounter_ok (storing_ok written)
    rw [← (Prod.mk.inj answered).2, isAfter]
    exact Holdings.takes_counter isValue (newTotal_ok summed) free

/-- An update that succeeds takes the store from what it kept to what it keeps. -/
theorem update_ok {request : Update} {store after : Storage} {value : Value}
    (done : update request store = (.ok value, after)) :
    Holdings.Takes [request] store.stored store.kept after.kept := by
  obtain ⟨middle, applied, rfl⟩ := inTransaction_ok done
  have takes := apply_ok applied
  rwa [Storage.seen_begun, Storage.stored_begun, ← Storage.kept_confirmed] at takes

/-! ### Calls that only read -/

/-- A call that leaves what is kept as it was. -/
def LeavesKept (call : Call Storage Answer) : Prop :=
  Call.Keeps (fun store after => after.kept = store.kept) call

theorem leavesKept_requiring (result : Except ServiceError Answer) :
    LeavesKept (requiring result) := fun _ => rfl

theorem leavesKept_pure (answer : Answer) : LeavesKept (pure answer) := fun _ => rfl

theorem leavesKept_bind {First Second : Type} {call : Call Storage First}
    {next : First → Call Storage Second} (first : LeavesKept call)
    (second : ∀ value, LeavesKept (next value)) : LeavesKept (call >>= next) :=
  Call.keeps_bind (fun _ _ _ earlier later => later.trans earlier) first second

/-- A transaction in which nothing is written leaves what is kept as it was. -/
theorem leavesKept_inTransaction {call : Call Storage Answer}
    (unmoved : Call.Keeps Unmoved call) : LeavesKept (inTransaction call) := by
  intro store
  have same : (call store.begun).2 = store.begun := unmoved store.begun
  rw [inTransaction_apply]
  split
  · split
    · next called =>
      rw [called] at same
      obtain rfl := same
      exact (Storage.kept_confirmed _).trans (Storage.seen_begun store)
    · next called =>
      rw [called] at same
      obtain rfl := same
      cases store <;> rfl
  · rfl

theorem unmoved_read (kind : Kind) (key : String) : Call.Keeps Unmoved (read kind key) := by
  intro store
  rw [read_apply]
  rfl

theorem unmoved_query {onMemory : Contents → Except StorageError Answer}
    (answer : Table → Except StorageError Answer) :
    Call.Keeps Unmoved
      (storing (Storage.either (MemoryStore.inspect onMemory) (Database.query answer))) := by
  refine keeps_storing fun store => ?_
  cases store with
  | memory store => rfl
  | database file store =>
    exact congrArg (fun result => Storage.database file result.2) (Database.query_on answer store)

theorem leavesKept_value (kind : Kind) (key : String) : LeavesKept (value kind key) :=
  leavesKept_inTransaction (unmoved_read kind key)

theorem leavesKept_valueMetric (metric : Metric) : LeavesKept (valueMetric metric) :=
  leavesKept_bind (leavesKept_requiring _) fun kind =>
    leavesKept_bind (leavesKept_value kind metric.key) fun _ => leavesKept_pure _

theorem leavesKept_all : LeavesKept all :=
  leavesKept_inTransaction (unmoved_query fun table => .ok table)

theorem unmoved_ping : Call.Keeps Unmoved ping := by
  refine keeps_storing fun store => ?_
  cases store with
  | memory store => rfl
  | database file store =>
    obtain ⟨connected, committed, pending⟩ := store
    cases connected <;> rfl

theorem leavesKept_ping : LeavesKept ping := fun store => congrArg Storage.kept (unmoved_ping store)

end Service

/-! ### What refusals say -/

theorem Text.append_ne_empty {first : String} (some : first ≠ "") (rest : String) :
    first ++ rest ≠ "" := fun empty => some (String.append_eq_empty_iff.mp empty).1

open Text (append_ne_empty)

theorem MetricError.message_ne_empty (problem : MetricError) : problem.message ≠ "" := by
  cases problem with
  | emptyKey => exact (by simp : "metric key is empty" ≠ "")
  | keyTooLong characters =>
    exact append_ne_empty (append_ne_empty (append_ne_empty (by simp) _) _) _
  | unknownKind name => exact append_ne_empty (append_ne_empty (by simp) _) _
  | wrongFields key kind =>
    exact append_ne_empty (append_ne_empty (append_ne_empty (append_ne_empty (by simp) _) _) _) _
  | nonFinite key => exact append_ne_empty (append_ne_empty (by simp) _) _

theorem StorageError.message_ne_empty (problem : StorageError) : problem.message ≠ "" := by
  cases problem with
  | notFound key => exact append_ne_empty (append_ne_empty (by simp) _) _
  | wrongKind key => exact append_ne_empty (append_ne_empty (by simp) _) _
  | database => exact (by simp : "Storage: database error: <db>" ≠ "")
  | io => exact (by simp : "Storage: I/O error" ≠ "")
  | encode => exact (by simp : "Storage: snapshot encoding error" ≠ "")

/-- Every refusal says something. -/
theorem ServiceError.message_ne_empty (problem : ServiceError) : problem.message ≠ "" := by
  cases problem with
  | unreadable problem => exact append_ne_empty (by simp) _
  | metric problem => exact problem.message_ne_empty
  | missingKey => exact (by simp : "metric key is missing" ≠ "")
  | overflow key => exact append_ne_empty (append_ne_empty (by simp) _) _
  | storage problem => exact problem.message_ne_empty

end Metering
