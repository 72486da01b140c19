/-
Writes of one value and of several at once. What a single row comes to is told by its value and by
what its key is held as. Several values of one kind a database writes all or none, outside a
transaction: however many statements it needs, and wherever among them a key is met that is held
under the other kind, they come to a single write to a map, the one that the memory backend makes.
-/

import Metering.Proofs.Storage.Alike

namespace Metering

/-! ### One row -/

namespace Table

/-- A write of one row. -/
theorem upsert_single (row : String × Value) (table : Table) :
    upsert [row] table = (match stored? row.2 with
      | none => (.error .database, table)
      | some value =>
        if table.conflicts row then (.error (.wrongKind row.1), table)
        else (.ok (), table.insert row.1 value)) := by
  have oneStatement : chunksOf statementSize [row] = [[row]] := by simp [chunksOf]
  have isStored : storedRows? [row] = (stored? row.2).map fun value => [(row.1, value)] := by
    rw [storedRows?, List.mapM_cons, List.mapM_nil]
    cases stored? row.2 <;> rfl
  rw [upsert, oneStatement, runStatements, runStatement, isStored]
  rcases stored?_cases row.2 with unstorable | storable
  · rw [unstorable]
    rfl
  · rw [storable]
    have sameConflict : table.conflicts (row.1, keptValue row.2) = table.conflicts row :=
      conflicts_keptRow table row
    simp only [Option.map_some, List.find?_cons, sameConflict, List.foldl_cons, List.foldl_nil,
      upsertRow]
    cases table.conflicts row <;> rfl

end Table

namespace Database

/-- In an open transaction a bulk write is the statements that it takes. -/
theorem executeAll_of_pending {store : Database} (isOpen : store.pending.isSome = true)
    {rows : List (String × Value)} (more : rows.isEmpty = false) :
    (executeAll rows).on store = (execute (Table.upsert rows)).on store := by
  simp only [executeAll, Action.on, more, Bool.false_eq_true, if_false, isOpen, if_true]
  rcases execute (Table.upsert rows) store with ⟨_ | _, changed⟩ <;> rfl

theorem withCurrent_of_reached {store : Database} {table : Table}
    (reached : store.reached = some table) : store.withCurrent table = store := by
  obtain ⟨connected, committed, pending⟩ := store
  have isCurrent := (reached_eq_some_iff.mp reached).2
  cases pending with
  | none =>
    obtain rfl : committed = some table := isCurrent
    rfl
  | some rows =>
    obtain rfl : rows = some table := isCurrent
    rfl

end Database

namespace Storage

/-- No totals are written without doing anything. -/
theorem setCounters_empty (store : Storage) :
    (Repository.setCounters KeyMap.empty : Action Storage Unit).on store = (.ok (), store) := by
  cases store <;> rfl

/-- No readings are written without doing anything. -/
theorem setGauges_empty (store : Storage) :
    (Repository.setGauges KeyMap.empty : Action Storage Unit).on store = (.ok (), store) := by
  cases store <;> rfl

/-- Where a database cannot be reached, no reading can be written. -/
theorem setGauge_of_unreached {store : Storage} (unreached : store.isReached = false)
    (key : String) (reading : Binary64) :
    (Repository.setGauge key reading : Action Storage Unit).on store =
      (.error .database, store) := by
  cases store with
  | memory store => cases unreached
  | database file store =>
    have noTable : store.reached = none :=
      Option.isNone_iff_eq_none.mp (Option.isSome_eq_false_iff.mp unreached)
    have same := Database.execute_on (Table.upsert [(key, .gauge reading)]) store
    rw [noTable] at same
    exact congrArg (fun result => (result.1, Storage.database file result.2)) same

/-- A reading that is written under the key of a counter is refused and changes nothing. What a
database says of one that is not a number is not that its kind is wrong. -/
theorem setGauge_of_counter {store : Storage} (reached : store.isReached = true) {key : String}
    (isCounter : (store.seen.counter? key).isSome = true) (reading : Binary64) :
    (Repository.setGauge key reading : Action Storage Unit).on store =
      (.error (match store with
        | .memory _ => .wrongKind key
        | .database _ _ => if reading.isNaN then .database else .wrongKind key), store) := by
  cases store with
  | memory store =>
    have shared : store.contents.counters.contains key = true := isCounter
    have refused : Contents.setGauge key reading store.contents = .error (.wrongKind key) := by
      rw [Contents.setGauge, if_pos shared]
    have same : (Repository.setGauge key reading : Action MemoryStore Unit).on store =
        (.error (.wrongKind key), store) := by
      show (MemoryStore.write (Contents.setGauge key reading)).on store = _
      rw [MemoryStore.write_on, refused]
    exact congrArg (fun result => (result.1, Storage.memory result.2)) same
  | database file store =>
    obtain ⟨table, isTable, sees⟩ := table_of_isReached reached
    have conflict : table.conflicts (key, .gauge reading) = true := by
      rwa [Table.conflicts_eq, ← sees]
    have same : (Repository.setGauge key reading : Action Database Unit).on store =
        (.error (if reading.isNaN then .database else .wrongKind key), store) := by
      show (Database.execute (Table.upsert [(key, .gauge reading)])).on store = _
      rw [Database.execute_on, isTable]
      dsimp only
      rw [Table.upsert_single, Table.stored?]
      cases reading.isNaN <;> simp [conflict, Database.withCurrent_of_reached isTable]
    exact congrArg (fun result => (result.1, Storage.database file result.2)) same

end Storage

/-! ### All values or none -/

/-- The first entry that is met is the one with the least key. -/
theorem KeyMap.le_of_find? {Value : Type} {map : KeyMap Value} {wanted : String × Value → Bool}
    {entry other : String × Value} (found : map.toList.find? wanted = some entry)
    (member : other ∈ map.toList) (isWanted : wanted other = true) : entry.1 ≤ other.1 := by
  obtain ⟨_, before, after, isList, noneBefore⟩ := List.find?_eq_some_iff_append.mp found
  rw [isList] at member
  rcases List.mem_append.mp member with inBefore | inAfter
  · exact absurd isWanted (by simpa using noneBefore other inBefore)
  · rcases List.mem_cons.mp inAfter with same | later
    · exact same ▸ String.le_refl _
    · have sorted : KeyMap.Sorted (before ++ entry :: after) := isList ▸ map.sorted
      have below := (List.pairwise_cons.mp (List.pairwise_append.mp sorted).2.1).1 other later
      exact String.not_lt.mp fun above => String.lt_irrefl _ (String.lt_trans below above)

/-- The two outcomes of a write of values under their keys: with no key held under the other kind
all are in the table and every other key has what it had, and else the table is as it was and the
least such key is named. -/
inductive Table.AllOrNone (entries : KeyMap Value) (table : Table) :
    Except StorageError Unit → Table → Prop
  | all {after : Table} (free : ∀ entry ∈ entries.toList, table.conflicts entry = false)
      (written : ∀ key, after.find? key =
        ((entries.find? key).map keptValue).or (table.find? key)) :
      AllOrNone entries table (.ok ()) after
  | none {entry : String × Value} (member : entry ∈ entries.toList)
      (held : table.conflicts entry = true)
      (least : ∀ other ∈ entries.toList, table.conflicts other = true → entry.1 ≤ other.1) :
      AllOrNone entries table (.error (.wrongKind entry.1)) table

theorem Table.AllOrNone.undone {entries : KeyMap Value} {table after : Table}
    {answer : Except StorageError Unit} (outcome : AllOrNone entries table answer after)
    (problem : StorageError) (refused : answer = .error problem) : after = table := by
  cases outcome with
  | all => cases refused
  | none => rfl

namespace Database

/-- A bulk write outside a transaction has one of two outcomes, however many statements it
takes. -/
theorem executeAll_allOrNone (entries : KeyMap Value) (kind : Kind)
    (kinds : ∀ entry ∈ entries.toList, entry.2.kind = kind)
    (storable : ∀ entry ∈ entries.toList,
      Table.stored? entry.2 = some (Table.keptValue entry.2)) (table : Table) :
    ∃ answer after, (executeAll entries.toList).on (connect (some table)) =
        (answer, connect (some after)) ∧
      Table.AllOrNone entries table answer after := by
  have reached : (connect (some table)).reached = some table := rfl
  have told := (executeAll_fst reached entries.toList).trans
    (Table.upsert_fst kinds storable table)
  cases empty : entries.toList.isEmpty with
  | true =>
    refine ⟨.ok (), table, executeAll_of_isEmpty empty _, .all ?_ fun key => ?_⟩
    · rw [List.isEmpty_iff.mp empty]
      nofun
    · rw [entries.find?_of_isEmpty empty, Option.map_none, Option.none_or]
  | false =>
    rcases written : (executeAll entries.toList).on (connect (some table)) with ⟨answer, after⟩
    rw [written, Table.admitRows] at told
    cases found : entries.toList.find? table.conflicts with
    | none =>
      rw [found] at told
      obtain rfl : answer = .ok () := told
      obtain ⟨seen, changed, isReached, isWritten, rfl⟩ :=
        execute_ok (execute_of_executeAll_ok written empty)
      obtain rfl : table = seen := Option.some.inj isReached
      obtain ⟨rfl, fit⟩ := Table.upsert_ok kinds isWritten
      refine ⟨.ok (), table.overlay (entries.map Table.keptValue), rfl, .all fit fun key => ?_⟩
      rw [KeyMap.find?_overlay, KeyMap.find?_map]
    | some entry =>
      rw [found] at told
      obtain rfl : answer = .error (.wrongKind entry.1) := told
      -- the transaction of the write is given up, with all that its statements have written
      have undone : after = connect (some table) := by
        simp only [executeAll, Action.on, empty, Bool.false_eq_true, if_false] at written
        split at written
        · cases written
        · exact (Prod.mk.inj written).2.symm
      exact ⟨_, table, undone ▸ rfl, .none (List.mem_of_find?_eq_some found)
        (List.find?_some found) fun other member held => KeyMap.le_of_find? found member held⟩

section

variable {table after : Table} {memory : MemoryStore} {answer : Except StorageError Unit}

/-- A store in memory that holds what a table holds takes totals like a database. -/
theorem setCounters_as_memory (same : memory.contents.holdings = table.holdings)
    {totals : KeyMap Int64}
    (written : (Repository.setCounters totals : Action Database Unit).on (connect (some table)) =
      (answer, connect (some after)))
    (undone : ∀ problem, answer = .error problem → after = table) :
    ∃ changed, (Repository.setCounters totals : Action MemoryStore Unit).on memory =
        (answer, changed) ∧ changed.contents.holdings = after.holdings := by
  have reached : (Storage.database none (connect (some table))).isReached = true := rfl
  have reachedMemory : (Storage.memory memory).isReached = true := rfl
  have told := Storage.setCounters_fst reached totals
  have toldMemory := Storage.setCounters_fst reachedMemory totals
  have sameAnswer : ((Repository.setCounters totals : Action MemoryStore Unit).on memory).1 =
      answer := by
    refine toldMemory.trans (Eq.trans ?_ (told.symm.trans (congrArg Prod.fst written)))
    exact congrArg (Holdings.admitKeys · .counter totals.keys) same
  refine ⟨_, Prod.ext sameAnswer rfl, ?_⟩
  cases answer with
  | ok _ =>
    rw [(MemoryStore.setCounters_ok (Prod.ext sameAnswer rfl)).1, same]
    exact (Database.setCounters_ok written).1.symm
  | error problem =>
    rw [MemoryStore.setCounters_error (Prod.ext sameAnswer rfl), same, undone problem rfl]

/-- A store in memory that holds what a table holds takes readings like a database, if they are
given to it without the signs of zeros. -/
theorem setGauges_as_memory (same : memory.contents.holdings = table.holdings)
    {readings : KeyMap Binary64} (numbers : ∀ entry ∈ readings.toList, entry.2.isNaN = false)
    (written : (Repository.setGauges readings : Action Database Unit).on (connect (some table)) =
      (answer, connect (some after)))
    (undone : ∀ problem, answer = .error problem → after = table) :
    ((Repository.setGauges readings : Action MemoryStore Unit).on memory).1 = answer ∧
    ∃ changed, (Repository.setGauges (readings.map Binary64.unsignedZero)
        : Action MemoryStore Unit).on memory = (answer, changed) ∧
      changed.contents.holdings = after.holdings := by
  have reached : (Storage.database none (connect (some table))).isReached = true := rfl
  have reachedMemory : (Storage.memory memory).isReached = true := rfl
  have told := Storage.setGauges_fst reached numbers
  have isAnswer : memory.contents.holdings.admitKeys .gauge readings.keys = answer :=
    (congrArg (Holdings.admitKeys · .gauge readings.keys) same).trans
      (told.symm.trans (congrArg Prod.fst written))
  have sameKeys : (readings.map Binary64.unsignedZero).keys = readings.keys := by
    simp [KeyMap.keys, KeyMap.map]
  have unsignedNumbers : ∀ entry ∈ (readings.map Binary64.unsignedZero).toList,
      entry.2.isNaN = false :=
    List.forall_mem_map.mpr fun entry member =>
      (Binary64.isNaN_unsignedZero entry.2).trans (numbers entry member)
  have toldMemory := Storage.setGauges_fst reachedMemory numbers
  have toldUnsigned := Storage.setGauges_fst reachedMemory unsignedNumbers
  have sameAnswer : ((Repository.setGauges (readings.map Binary64.unsignedZero)
      : Action MemoryStore Unit).on memory).1 = answer :=
    toldUnsigned.trans (sameKeys ▸ isAnswer)
  refine ⟨toldMemory.trans isAnswer, _, Prod.ext sameAnswer rfl, ?_⟩
  cases answer with
  | ok _ =>
    rw [(MemoryStore.setGauges_ok (Prod.ext sameAnswer rfl)).1, same]
    exact (Database.setGauges_ok written).1.symm
  | error problem =>
    rw [(MemoryStore.setGauges_error (Prod.ext sameAnswer rfl)).1, same, undone problem rfl]

end

/-- A bulk write to a database outside a transaction writes all values or none, however many
statements it takes, and answers what a store in memory answers that holds the same. Both hold the
same afterwards too, once the readings that the store in memory is given have lost the signs of
zeros. -/
theorem bulk_writes_as_one {table : Table} {memory : MemoryStore}
    (same : memory.contents.holdings = table.holdings) :
    (∀ totals : KeyMap Int64, ∃ answer after changed,
      (Repository.setCounters totals : Action Database Unit).on (connect (some table)) =
        (answer, connect (some after)) ∧
      Table.AllOrNone (totals.map Value.counter) table answer after ∧
      (Repository.setCounters totals : Action MemoryStore Unit).on memory = (answer, changed) ∧
      changed.contents.holdings = after.holdings) ∧
    ∀ readings : KeyMap Binary64, (∀ entry ∈ readings.toList, entry.2.isFinite = true) →
      ∃ answer after changed,
        (Repository.setGauges readings : Action Database Unit).on (connect (some table)) =
          (answer, connect (some after)) ∧
        Table.AllOrNone (readings.map Value.gauge) table answer after ∧
        ((Repository.setGauges readings : Action MemoryStore Unit).on memory).1 = answer ∧
        (Repository.setGauges (readings.map Binary64.unsignedZero)
          : Action MemoryStore Unit).on memory = (answer, changed) ∧
        changed.contents.holdings = after.holdings := by
  constructor
  · intro totals
    obtain ⟨answer, after, written, outcome⟩ := executeAll_allOrNone
      (totals.map Value.counter) .counter (List.forall_mem_map.mpr fun _ _ => rfl)
      (List.forall_mem_map.mpr fun _ _ => rfl) table
    obtain ⟨changed, inMemory, holds⟩ := setCounters_as_memory same written outcome.undone
    exact ⟨answer, after, changed, written, outcome, inMemory, holds⟩
  · intro readings finite
    have numbers := fun entry member => Binary64.isNaN_of_isFinite (finite entry member)
    obtain ⟨answer, after, written, outcome⟩ := executeAll_allOrNone
      (readings.map Value.gauge) .gauge (List.forall_mem_map.mpr fun _ _ => rfl)
      (List.forall_mem_map.mpr fun entry member => Table.stored?_gauge (numbers entry member))
      table
    obtain ⟨told, changed, inMemory, holds⟩ :=
      setGauges_as_memory same numbers written outcome.undone
    exact ⟨answer, after, changed, written, outcome, told, inMemory, holds⟩

/-- Totals under a key that is held as a gauge are refused by both, a reading under a new key is
written by both. -/
theorem bulk_writes_as_one_refused_and_written :
    let table : Table := KeyMap.ofList [("c", .counter 1), ("g", .gauge ⟨0⟩)]
    let memory : MemoryStore :=
      { MemoryStore.ephemeral with
        contents := ⟨KeyMap.ofList [("c", 1)], KeyMap.ofList [("g", ⟨0⟩)]⟩ }
    let totals : KeyMap Int64 := KeyMap.ofList [("d", 1), ("g", 2)]
    let readings : KeyMap Binary64 := KeyMap.ofList [("h", ⟨0x3ff0000000000000⟩)]
    memory.contents.holdings = table.holdings ∧
      (∀ entry ∈ readings.toList, entry.2.isFinite = true) ∧
      (Repository.setCounters totals : Action Database Unit).on (connect (some table)) =
        (.error (.wrongKind "g"), connect (some table)) ∧
      ((Repository.setCounters totals : Action MemoryStore Unit).on memory).1 =
        .error (.wrongKind "g") ∧
      ((Repository.setGauges readings : Action Database Unit).on (connect (some table))).1 =
        .ok () ∧
      ((Repository.setGauges readings : Action MemoryStore Unit).on memory).1 = .ok () := by
  intro table memory totals readings
  have same : memory.contents.holdings = table.holdings := by
    refine Holdings.ext (funext fun key => ?_) (funext fun key => ?_)
    · show memory.contents.counters.find? key = (table.find? key).bind Value.total?
      simp only [memory, table, KeyMap.ofList, KeyMap.insertAll, List.foldl_cons, List.foldl_nil,
        KeyMap.find?_insert, KeyMap.find?_empty]
      by_cases isGauge : key = "g"
      · subst isGauge
        rfl
      · rw [if_neg isGauge]
        split <;> rfl
    · show memory.contents.gauges.find? key = (table.find? key).bind Value.reading?
      simp only [memory, table, KeyMap.ofList, KeyMap.insertAll, List.foldl_cons, List.foldl_nil,
        KeyMap.find?_insert, KeyMap.find?_empty]
      split
      · rfl
      · split <;> rfl
  have finite : ∀ entry ∈ readings.toList, entry.2.isFinite = true := by decide
  obtain ⟨counters, gauges⟩ := bulk_writes_as_one same
  obtain ⟨answer, after, changed, refused, _, refusedInMemory, _⟩ := counters totals
  obtain ⟨other, _, _, written, _, writtenInMemory, _⟩ := gauges readings finite
  have isRefused : (Repository.setCounters totals : Action Database Unit).on
      (connect (some table)) = (.error (.wrongKind "g"), connect (some table)) := by
    decide +kernel
  have isWritten : ((Repository.setGauges readings : Action Database Unit).on
      (connect (some table))).1 = .ok () := by decide +kernel
  obtain rfl : answer = .error (.wrongKind "g") :=
    congrArg Prod.fst (refused.symm.trans isRefused)
  obtain rfl : other = .ok () := by
    rw [written] at isWritten
    exact isWritten
  exact ⟨same, finite, isRefused, congrArg Prod.fst refusedInMemory, isWritten, writtenInMemory⟩

/-- A store in memory keeps the sign of a zero that a database loses. -/
theorem sign_of_zero_kept_in_memory :
    let readings : KeyMap Binary64 := KeyMap.ofList [("z", Binary64.ofSigned true 0)]
    let database := ((Repository.setGauges readings : Action Database Unit).on (connect none)).2
    let memory := ((Repository.setGauges readings : Action MemoryStore Unit).on .ephemeral).2
    (∀ entry ∈ readings.toList, entry.2.isFinite = true) ∧
      MemoryStore.ephemeral.contents.holdings = Holdings.ofTable (connect none).committed ∧
      database.pending = none ∧
      (Holdings.ofTable database.committed).gauge? "z" = some ⟨0⟩ ∧
      memory.contents.holdings.gauge? "z" = some (Binary64.ofSigned true 0) ∧
      memory.contents.holdings ≠ Holdings.ofTable database.committed := by
  intro readings database memory
  have onDatabase : (Holdings.ofTable database.committed).gauge? "z" = some ⟨0⟩ := by
    decide +kernel
  have inMemory : memory.contents.holdings.gauge? "z" = some (Binary64.ofSigned true 0) := rfl
  refine ⟨by decide, rfl, by decide +kernel, onDatabase, inMemory, fun same => ?_⟩
  rw [same, onDatabase] at inMemory
  revert inMemory
  decide

end Database

end Metering
