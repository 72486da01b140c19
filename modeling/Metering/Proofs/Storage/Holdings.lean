/-
What a store holds under each key, told alike of every backend. A database is looked at in two
ways: what it has kept, and what is seen of it in the middle of a transaction. Reads leave the
store as it is and answer what is seen.
-/

import Metering.Proofs.KeyMap
import Metering.Storage.Basic

namespace Metering

variable {Answer : Type}

/-- The total and the reading that are held under each key. -/
@[ext] structure Holdings where
  counter? : String → Option Int64
  gauge? : String → Option Binary64

namespace Holdings

/-- Nothing is held under any key. -/
def nothing : Holdings := ⟨fun _ => none, fun _ => none⟩

/-- Nothing is held under a key. -/
def Lacks (held : Holdings) (key : String) : Prop :=
  held.counter? key = none ∧ held.gauge? key = none

/-- At most one kind is held under a key. -/
def Apart (held : Holdings) (key : String) : Prop :=
  held.counter? key = none ∨ held.gauge? key = none

instance (held : Holdings) (key : String) : Decidable (held.Apart key) :=
  inferInstanceAs (Decidable (held.counter? key = none ∨ held.gauge? key = none))

/-- Whether a key is held under the kind that is not the given one. -/
def holdsOther (held : Holdings) : Kind → String → Bool
  | .counter, key => (held.gauge? key).isSome
  | .gauge, key => (held.counter? key).isSome

/-- The total under a key; zero where there is none. -/
def total (held : Holdings) (key : String) : Int64 := (held.counter? key).getD 0

/-- The answer to a question for the total under a key. -/
def counter (held : Holdings) (key : String) : Except StorageError Int64 :=
  match held.counter? key with
  | some total => .ok total
  | none =>
    if (held.gauge? key).isSome then .error (.wrongKind key) else .error (.notFound key)

/-- The answer to a question for the reading under a key. -/
def gauge (held : Holdings) (key : String) : Except StorageError Binary64 :=
  match held.gauge? key with
  | some reading => .ok reading
  | none =>
    if (held.counter? key).isSome then .error (.wrongKind key) else .error (.notFound key)

/-- The answer to a question for the value of a kind under a key. -/
def read (held : Holdings) (key : String) : Kind → Except StorageError Value
  | .counter => (held.counter key).map .counter
  | .gauge => (held.gauge key).map .gauge

/-- What is held after totals were put in. -/
def withCounters (totals : KeyMap Int64) (held : Holdings) : Holdings :=
  { held with counter? := fun key => (totals.find? key).or (held.counter? key) }

/-- What is held after readings were put in. -/
def withGauges (readings : KeyMap Binary64) (held : Holdings) : Holdings :=
  { held with gauge? := fun key => (readings.find? key).or (held.gauge? key) }

end Holdings

namespace Value

/-- The total of a counter. -/
def total? : Value → Option Int64
  | .counter total => some total
  | .gauge _ => none

/-- The reading of a gauge. -/
def reading? : Value → Option Binary64
  | .counter _ => none
  | .gauge reading => some reading

end Value

/-- What the memory backend holds. -/
def Contents.holdings (contents : Contents) : Holdings :=
  ⟨contents.counters.find?, contents.gauges.find?⟩

/-- What a table holds. -/
def Table.holdings (table : Table) : Holdings :=
  ⟨fun key => (table.find? key).bind Value.total?,
    fun key => (table.find? key).bind Value.reading?⟩

/-- What a table holds that may not be there. -/
def Holdings.ofTable (table : Option Table) : Holdings := (table.map Table.holdings).getD .nothing

namespace Storage

/-- What a store holds; what an open transaction has done to it does not count yet. -/
def kept : Storage → Holdings
  | .memory store => store.contents.holdings
  | .database _ store => .ofTable store.committed

/-- What reads and writes see of a store. -/
def seen : Storage → Holdings
  | .memory store => store.contents.holdings
  | .database _ store => .ofTable store.current

/-- What is left of a reading that is stored: in a database the sign of a zero is lost. -/
def stored : Storage → Binary64 → Binary64
  | .memory _, reading => reading
  | .database _ _, reading => reading.unsignedZero

/-- No key is held under both kinds. -/
def KindsApart (store : Storage) : Prop := ∀ key, store.kept.Apart key

/-! ### A table holds one kind under a key -/

theorem apart_ofTable (table : Option Table) (key : String) :
    (Holdings.ofTable table).Apart key := by
  cases table with
  | none => exact Or.inl rfl
  | some rows =>
    show (rows.find? key).bind Value.total? = none ∨ (rows.find? key).bind Value.reading? = none
    rcases rows.find? key with _ | _ | _
    · exact Or.inl rfl
    · exact Or.inr rfl
    · exact Or.inl rfl

/-! ### Reads -/

theorem either_on_database (onMemory : Action MemoryStore Answer)
    (onDatabase : Action Database Answer) (file : Option Path) (store : Database) :
    (either onMemory onDatabase).on (.database file store) =
      ((onDatabase.on store).1, .database file (onDatabase.on store).2) := rfl

end Storage

namespace Database

/-- The table that actions get at: the one that is seen, over a connection. -/
def reached (store : Database) : Option Table :=
  if store.connected then store.current else none

theorem reached_eq_some_iff {store : Database} {table : Table} :
    store.reached = some table ↔ store.connected = true ∧ store.current = some table :=
  Option.ite_none_right_eq_some

theorem ofTable_current {store : Database} {table : Table}
    (reached : store.reached = some table) : Holdings.ofTable store.current = table.holdings := by
  rw [(reached_eq_some_iff.mp reached).2]
  rfl

theorem query_on (answer : Table → Except StorageError Answer) (store : Database) :
    (query answer).on store = ((match store.reached with
      | some table => answer table
      | none => .error .database), store) := by
  simp only [query, Action.on, reached]
  cases store.connected <;> cases store.current <;> rfl

end Database

theorem Table.counter_eq (table : Table) (key : String) :
    table.counter key = table.holdings.counter key := by
  rcases found : table.find? key with _ | _ | _ <;>
    simp only [Table.counter, Holdings.counter, Table.holdings, found] <;> rfl

theorem Table.gauge_eq (table : Table) (key : String) :
    table.gauge key = table.holdings.gauge key := by
  rcases found : table.find? key with _ | _ | _ <;>
    simp only [Table.gauge, Holdings.gauge, Table.holdings, found] <;> rfl

namespace Storage

/-- Whether actions get at what the store holds. -/
def isReached : Storage → Bool
  | .memory _ => true
  | .database _ store => store.reached.isSome

theorem query_on_database (onMemory : Action MemoryStore Answer)
    (answer : Table → Except StorageError Answer) (told : Holdings → Except StorageError Answer)
    (same : ∀ table, answer table = told table.holdings) (file : Option Path)
    (store : Database) :
    (either onMemory (Database.query answer)).on (.database file store) =
      (if (database file store).isReached then told (database file store).seen
        else .error .database, .database file store) := by
  rw [either_on_database, Database.query_on]
  cases reached : store.reached with
  | none => simp only [isReached, reached, Option.isSome_none, Bool.false_eq_true, if_false]
  | some table =>
    simp only [isReached, reached, Option.isSome_some, if_true, seen,
      Database.ofTable_current reached, same]

/-- What a store answers when it is asked for a total. -/
theorem counter_on (store : Storage) (key : String) :
    (Repository.counter key : Action Storage Int64).on store =
      (if store.isReached then store.seen.counter key else .error .database, store) := by
  cases store with
  | memory store => rfl
  | database file store =>
    exact query_on_database _ (Table.counter key) (Holdings.counter · key)
      (fun table => table.counter_eq key) file store

/-- What a store answers when it is asked for a reading. -/
theorem gauge_on (store : Storage) (key : String) :
    (Repository.gauge key : Action Storage Binary64).on store =
      (if store.isReached then store.seen.gauge key else .error .database, store) := by
  cases store with
  | memory store => rfl
  | database file store =>
    exact query_on_database _ (Table.gauge key) (Holdings.gauge · key)
      (fun table => table.gauge_eq key) file store

end Storage

end Metering
