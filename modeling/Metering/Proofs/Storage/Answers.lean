/-
What a store answers, told by what is seen of it. A question about a key is answered by the value
that is seen under it, and the listing of all metrics lists just these values. Whether a write is
accepted is told by the keys that are seen under the other kind: the first of them, in the order
of the write, is what a refusal names, however many statements a database needs for the write.
-/

import Mathlib.Data.List.Find
import Metering.Proofs.Storage.Writes

namespace Metering

/-! ### The value under a key -/

/-- The value under a key; of a key that is held under both kinds, the reading. -/
def Holdings.value? (held : Holdings) (key : String) : Option Value :=
  ((held.gauge? key).map Value.gauge).or ((held.counter? key).map Value.counter)

theorem Holdings.isSome_value? (held : Holdings) (key : String) :
    (held.value? key).isSome = ((held.counter? key).isSome || (held.gauge? key).isSome) := by
  simp only [value?, Option.isSome_or, Option.isSome_map, Bool.or_comm]

theorem Contents.find?_all (contents : Contents) (key : String) :
    contents.all.find? key = contents.holdings.value? key := by
  simp only [Contents.all, KeyMap.find?_overlay, KeyMap.find?_map]
  rfl

theorem Table.find?_eq_value? (table : Table) (key : String) :
    table.find? key = table.holdings.value? key := by
  rcases found : table.find? key with _ | _ | _ <;>
    simp only [Holdings.value?, Table.holdings, found] <;> rfl

namespace Storage

/-- What a store answers when it is asked whether a key has a value. -/
theorem has_on (store : Storage) (key : String) :
    (Repository.has key : Action Storage Bool).on store =
      (if store.isReached then .ok (store.seen.value? key).isSome else .error .database,
        store) := by
  cases store with
  | memory store =>
    simp only [isReached, if_true, Holdings.isSome_value?]
    rfl
  | database file store =>
    refine query_on_database _ (fun table => .ok (table.contains key))
      (fun held => .ok (held.value? key).isSome) (fun table => ?_) file store
    rw [KeyMap.contains, table.find?_eq_value?]

/-- What a store answers when it is asked for all metrics. -/
theorem all_on {store : Storage} (reached : store.isReached = true) :
    ∃ metrics, (Repository.all : Action Storage (KeyMap Value)).on store = (.ok metrics, store) ∧
      ∀ key, metrics.find? key = store.seen.value? key := by
  cases store with
  | memory store => exact ⟨store.contents.all, rfl, store.contents.find?_all⟩
  | database file store =>
    obtain ⟨table, isTable⟩ := Option.isSome_iff_exists.mp reached
    have answered : (Database.query fun table => .ok table).on store = (.ok table, store) := by
      rw [Database.query_on, isTable]
    refine ⟨table, ?_, fun key => ?_⟩
    · exact congrArg (fun result => (result.1, Storage.database file result.2)) answered
    · rw [table.find?_eq_value?]
      show _ = (Holdings.ofTable store.current).value? key
      rw [Database.ofTable_current isTable]

end Storage

/-! ### Writes that are accepted -/

/-- The answer to a write of values of a kind under keys, in their order. -/
def Holdings.admitKeys (held : Holdings) (kind : Kind) (keys : List String) :
    Except StorageError Unit :=
  match keys.find? (held.holdsOther kind) with
  | some key => .error (.wrongKind key)
  | none => .ok ()

namespace Table

theorem admitRows_congr {table other : Table} {rows : List (String × Value)}
    (same : ∀ row ∈ rows, table.conflicts row = other.conflicts row) :
    table.admitRows rows = other.admitRows rows := by
  rw [admitRows, admitRows, List.find?_congr same]

/-- A write of rows of one kind is refused for the first of them that is in a conflict, whichever
statement it is in. -/
theorem runStatements_fst {statements : List (List (String × Value))} {kind : Kind}
    (kinds : ∀ row ∈ statements.flatten, row.2.kind = kind)
    (storable : ∀ row ∈ statements.flatten, stored? row.2 = some (keptValue row.2))
    (table : Table) :
    (runStatements statements table).1 = table.admitRows statements.flatten := by
  induction statements generalizing table with
  | nil => rfl
  | cons statement rest inductionHypothesis =>
    have firstKinds : ∀ row ∈ statement, row.2.kind = kind := fun row member =>
      kinds row (List.mem_append_left _ member)
    have restKinds : ∀ row ∈ rest.flatten, row.2.kind = kind := fun row member =>
      kinds row (List.mem_append_right _ member)
    have first := congrArg Prod.fst (runStatement_of_storable firstKinds (fun row member =>
      storable row (List.mem_append_left _ member)) table)
    rw [runStatements, List.flatten_cons, admitRows, List.find?_append]
    rcases ran : runStatement statement table with ⟨answer, changed⟩
    rw [ran, admitRows] at first
    cases found : statement.find? table.conflicts with
    | some row =>
      rw [found] at first
      obtain rfl : answer = .error (.wrongKind row.1) := first
      rw [Option.some_or]
    | none =>
      rw [found] at first
      obtain rfl : answer = .ok () := first
      obtain ⟨isChanged, fit⟩ := runStatement_ok firstKinds ran
      rw [Option.none_or]
      refine (inductionHypothesis restKinds (fun row member =>
        storable row (List.mem_append_right _ member)) changed).trans ?_
      refine admitRows_congr fun row member => ?_
      rw [isChanged]
      exact conflicts_insertAll (kinds_keptRow firstKinds) (fit_keptRow fit)
        (restKinds row member)

theorem upsert_fst {rows : List (String × Value)} {kind : Kind}
    (kinds : ∀ row ∈ rows, row.2.kind = kind)
    (storable : ∀ row ∈ rows, stored? row.2 = some (keptValue row.2)) (table : Table) :
    (upsert rows table).1 = table.admitRows rows := by
  have flat := flatten_chunksOf statementSize rows
  rw [upsert, runStatements_fst (flat.symm ▸ kinds) (flat.symm ▸ storable), flat]

/-- Rows of a kind are admitted where values of the kind are. -/
theorem admitRows_eq {rows : List (String × Value)} {kind : Kind}
    (kinds : ∀ row ∈ rows, row.2.kind = kind) (table : Table) :
    table.admitRows rows = table.holdings.admitKeys kind (rows.map (·.1)) := by
  have other : ∀ row ∈ rows, table.conflicts row = table.holdings.holdsOther kind row.1 :=
    fun row member => kinds row member ▸ table.conflicts_eq row.1 row.2
  rw [admitRows, Holdings.admitKeys, List.find?_map, List.find?_congr other]
  show _ = match Option.map _ (rows.find? fun row => table.holdings.holdsOther kind row.1) with
    | some key => Except.error (StorageError.wrongKind key)
    | none => Except.ok ()
  cases rows.find? fun row => table.holdings.holdsOther kind row.1 <;> rfl

end Table

namespace Database

theorem execute_fst {store : Database} {table : Table} (reached : store.reached = some table)
    (statements : Table → Except StorageError Unit × Table) :
    ((execute statements).on store).1 = (statements table).1 := by
  rw [execute_on, reached]

theorem executeAll_fst {store : Database} {table : Table} (reached : store.reached = some table)
    (rows : List (String × Value)) :
    ((executeAll rows).on store).1 = (Table.upsert rows table).1 := by
  have written := execute_fst reached (Table.upsert rows)
  cases empty : rows.isEmpty with
  | true =>
    rw [executeAll_of_isEmpty empty, List.isEmpty_iff.mp empty, Table.upsert, chunksOf]
    rfl
  | false =>
    simp only [executeAll, Action.on, empty, Bool.false_eq_true, if_false] at written ⊢
    split
    · next result => rwa [result] at written
    · next result => rwa [result] at written

end Database

namespace Contents

theorem setCounters_fst (totals : KeyMap Int64) (contents : Contents) :
    (contents.setCounters totals).map (fun _ => ()) =
      contents.holdings.admitKeys .counter totals.keys := by
  have sees : contents.holdings.holdsOther .counter = contents.gauges.contains := rfl
  rw [setCounters, firstShared?, Holdings.admitKeys, sees]
  cases totals.keys.find? contents.gauges.contains <;> rfl

theorem setGauges_fst (readings : KeyMap Binary64) (contents : Contents) :
    (contents.setGauges readings).map (fun _ => ()) =
      contents.holdings.admitKeys .gauge readings.keys := by
  have sees : contents.holdings.holdsOther .gauge = contents.counters.contains := rfl
  rw [setGauges, firstShared?, Holdings.admitKeys, sees]
  cases readings.keys.find? contents.counters.contains <;> rfl

/-- A single total is written like several. -/
theorem setCounter_eq (key : String) (total : Int64) :
    setCounter key total = setCounters (KeyMap.ofList [(key, total)]) := by
  funext contents
  have keys : (KeyMap.ofList [(key, total)]).keys = [key] := rfl
  rw [setCounter, setCounters, firstShared?, keys, List.find?_cons]
  cases contents.gauges.contains key <;> rfl

/-- A single reading is written like several. -/
theorem setGauge_eq (key : String) (reading : Binary64) :
    setGauge key reading = setGauges (KeyMap.ofList [(key, reading)]) := by
  funext contents
  have keys : (KeyMap.ofList [(key, reading)]).keys = [key] := rfl
  rw [setGauge, setGauges, firstShared?, keys, List.find?_cons]
  cases contents.counters.contains key <;> rfl

end Contents

theorem MemoryStore.write_fst (change : Contents → Except StorageError Contents)
    (store : MemoryStore) :
    ((write change).on store).1 = (change store.contents).map fun _ => () := by
  rw [write_on]
  cases change store.contents <;> rfl

namespace Table

theorem stored?_gauge {reading : Binary64} (number : reading.isNaN = false) :
    stored? (.gauge reading) = some (keptValue (.gauge reading)) := by
  rw [stored?, if_neg (by rw [number]; exact Bool.false_ne_true)]
  rfl

/-- The answer to rows that can be stored, written for entries of one kind. -/
theorem upsert_map_fst {Amount : Type} (kind : Kind) (valueOf : Amount → Value)
    (kinds : ∀ amount, (valueOf amount).kind = kind) (entries : List (String × Amount))
    (storable : ∀ entry ∈ entries, stored? (valueOf entry.2) = some (keptValue (valueOf entry.2)))
    (table : Table) :
    (upsert (entries.map fun entry => (entry.1, valueOf entry.2)) table).1 =
      table.holdings.admitKeys kind (entries.map (·.1)) := by
  have isKind : ∀ row ∈ entries.map fun entry => (entry.1, valueOf entry.2), row.2.kind = kind :=
    List.forall_mem_map.mpr fun entry _ => kinds entry.2
  rw [upsert_fst isKind (List.forall_mem_map.mpr storable) table, admitRows_eq isKind,
    List.map_map]
  rfl

end Table

namespace Storage

/-- A store that is a database, with the table that is seen. -/
theorem table_of_isReached {file : Option Path} {store : Database}
    (reached : (database file store).isReached = true) :
    ∃ table, store.reached = some table ∧ (database file store).seen = table.holdings := by
  obtain ⟨table, isTable⟩ := Option.isSome_iff_exists.mp reached
  exact ⟨table, isTable, Database.ofTable_current isTable⟩

/-- The answer to a bulk write of values of one kind that can be stored, where the contents answer
like what is held. -/
theorem bulk_fst {Amount : Type} (kind : Kind) (valueOf : Amount → Value)
    (kinds : ∀ amount, (valueOf amount).kind = kind) {values : KeyMap Amount}
    (storable : ∀ entry ∈ values.toList,
      Table.stored? (valueOf entry.2) = some (Table.keptValue (valueOf entry.2)))
    {change : Contents → Except StorageError Contents}
    (answers : ∀ contents : Contents,
      (change contents).map (fun _ => ()) = contents.holdings.admitKeys kind values.keys)
    {store : Storage} (reached : store.isReached = true) :
    ((either (if values.isEmpty then pure () else MemoryStore.write change)
        (Database.executeAll (values.toList.map fun entry => (entry.1, valueOf entry.2)))).on
      store).1 = store.seen.admitKeys kind values.keys := by
  cases store with
  | memory store =>
    show ((if values.isEmpty then pure () else MemoryStore.write change :
      Action MemoryStore Unit).on store).1 = store.contents.holdings.admitKeys kind values.keys
    rcases MemoryStore.bulk_on values change store with ⟨empty, nothing⟩ | written
    · have noKeys : values.keys = [] := by rw [KeyMap.keys, List.isEmpty_iff.mp empty]; rfl
      rw [nothing, noKeys]
      rfl
    · rw [written, MemoryStore.write_fst, answers]
  | database file store =>
    obtain ⟨table, isTable, sees⟩ := table_of_isReached reached
    rw [sees]
    exact (Database.executeAll_fst isTable _).trans
      (Table.upsert_map_fst kind valueOf kinds values.toList storable table)

theorem setCounters_fst {store : Storage} (reached : store.isReached = true)
    (totals : KeyMap Int64) :
    ((Repository.setCounters totals : Action Storage Unit).on store).1 =
      store.seen.admitKeys .counter totals.keys :=
  bulk_fst .counter .counter (fun _ => rfl) (fun _ _ => rfl) (Contents.setCounters_fst totals)
    reached

theorem setGauges_fst {store : Storage} (reached : store.isReached = true)
    {readings : KeyMap Binary64} (numbers : ∀ entry ∈ readings.toList, entry.2.isNaN = false) :
    ((Repository.setGauges readings : Action Storage Unit).on store).1 =
      store.seen.admitKeys .gauge readings.keys :=
  bulk_fst .gauge .gauge (fun _ => rfl)
    (fun entry member => Table.stored?_gauge (numbers entry member))
    (Contents.setGauges_fst readings) reached

/-- The answer to a write of a single value that can be stored. -/
theorem single_fst {key : String} {value : Value}
    (storable : Table.stored? value = some (Table.keptValue value))
    {change : Contents → Except StorageError Contents}
    (answers : ∀ contents : Contents,
      (change contents).map (fun _ => ()) = contents.holdings.admitKeys value.kind [key])
    {store : Storage} (reached : store.isReached = true) :
    ((either (MemoryStore.write change)
        (Database.execute (Table.upsert [(key, value)]))).on store).1 =
      store.seen.admitKeys value.kind [key] := by
  cases store with
  | memory store => exact (MemoryStore.write_fst change store).trans (answers store.contents)
  | database file store =>
    obtain ⟨table, isTable, sees⟩ := table_of_isReached reached
    rw [sees]
    have kinds : ∀ row ∈ [(key, value)], row.2.kind = value.kind :=
      List.forall_mem_singleton.mpr rfl
    have storableRows : ∀ row ∈ [(key, value)],
        Table.stored? row.2 = some (Table.keptValue row.2) := List.forall_mem_singleton.mpr storable
    exact (Database.execute_fst isTable _).trans
      ((Table.upsert_fst kinds storableRows table).trans (Table.admitRows_eq kinds table))

theorem setCounter_fst {store : Storage} (reached : store.isReached = true) (key : String)
    (total : Int64) :
    ((Repository.setCounter key total : Action Storage Unit).on store).1 =
      store.seen.admitKeys .counter [key] := by
  refine single_fst rfl (fun contents => ?_) reached
  rw [Contents.setCounter_eq, Contents.setCounters_fst]
  rfl

theorem setGauge_fst {store : Storage} (reached : store.isReached = true) (key : String)
    {reading : Binary64} (number : reading.isNaN = false) :
    ((Repository.setGauge key reading : Action Storage Unit).on store).1 =
      store.seen.admitKeys .gauge [key] := by
  refine single_fst (Table.stored?_gauge number) (fun contents => ?_) reached
  rw [Contents.setGauge_eq, Contents.setGauges_fst]
  rfl

end Storage

/-! ### Single writes -/

namespace Database

/-- A row that is written is put into the table that is seen, where its key has not the other
kind. -/
theorem execute_row_ok {key : String} {value : Value} {store after : Database}
    (done : (execute (Table.upsert [(key, value)])).on store = (.ok (), after)) :
    ∃ table, store.reached = some table ∧
      after.current = some (table.insertAll [(key, Table.keptValue value)]) ∧
      table.holdings.holdsOther value.kind key = false := by
  obtain ⟨table, changed, reached, written, rfl⟩ := execute_ok done
  obtain ⟨rfl, fit⟩ := Table.upsert_ok (List.forall_mem_singleton.mpr rfl) written
  refine ⟨table, reached, current_withCurrent store _, ?_⟩
  rw [← Table.conflicts_eq]
  exact fit _ (List.mem_singleton_self _)

theorem setCounter_ok {key : String} {total : Int64} {store after : Database}
    (done : (Repository.setCounter key total : Action Database Unit).on store = (.ok (), after)) :
    Holdings.ofTable after.current =
        (Holdings.ofTable store.current).withCounters (KeyMap.ofList [(key, total)]) ∧
      (Holdings.ofTable store.current).gauge? key = none := by
  obtain ⟨table, reached, isAfter, notOther⟩ := execute_row_ok done
  have free : table.holdings.gauge? key = none := by
    simpa [Holdings.holdsOther, Value.kind] using notOther
  rw [isAfter, ofTable_current reached]
  have allFree : ∀ wanted, (KeyMap.ofList [(key, total)]).contains wanted = true →
      table.holdings.gauge? wanted = none :=
    fun wanted member => KeyMap.eq_of_contains_single member ▸ free
  exact ⟨Table.holdings_overlay_counters allFree, free⟩

theorem setGauge_ok {key : String} {reading : Binary64} {store after : Database}
    (done : (Repository.setGauge key reading : Action Database Unit).on store =
      (.ok (), after)) :
    Holdings.ofTable after.current =
        (Holdings.ofTable store.current).withGauges
          (KeyMap.ofList [(key, reading.unsignedZero)]) ∧
      (Holdings.ofTable store.current).counter? key = none := by
  obtain ⟨table, reached, isAfter, notOther⟩ := execute_row_ok done
  have free : table.holdings.counter? key = none := by
    simpa [Holdings.holdsOther, Value.kind] using notOther
  rw [isAfter, ofTable_current reached]
  have allFree : ∀ wanted,
      (KeyMap.ofList [(key, reading.unsignedZero)]).contains wanted = true →
        table.holdings.counter? wanted = none :=
    fun wanted member => KeyMap.eq_of_contains_single member ▸ free
  exact ⟨Table.holdings_overlay_gauges allFree, free⟩

end Database

namespace Storage

/-- A total that is written is put in. -/
theorem setCounter_ok {key : String} {total : Int64} {store after : Storage}
    (done : (Repository.setCounter key total : Action Storage Unit).on store = (.ok (), after)) :
    after.seen = store.seen.withCounters (KeyMap.ofList [(key, total)]) ∧
      store.seen.gauge? key = none := by
  cases store with
  | memory store =>
    obtain ⟨changed, written, rfl⟩ := either_ok_memory done
    have isChanged := MemoryStore.write_ok written
    rw [Contents.setCounter_eq] at isChanged
    obtain ⟨isAfter, free⟩ := Contents.setCounters_ok isChanged
    exact ⟨isAfter, free key (KeyMap.contains_single key total)⟩
  | database file store =>
    obtain ⟨changed, written, rfl⟩ := either_ok_database done
    exact Database.setCounter_ok written

/-- A reading that is written is put in, as far as the backend stores it. -/
theorem setGauge_ok {key : String} {reading : Binary64} {store after : Storage}
    (done : (Repository.setGauge key reading : Action Storage Unit).on store = (.ok (), after)) :
    after.seen = store.seen.withGauges (KeyMap.ofList [(key, store.stored reading)]) ∧
      store.seen.counter? key = none := by
  cases store with
  | memory store =>
    obtain ⟨changed, written, rfl⟩ := either_ok_memory done
    have isChanged := MemoryStore.write_ok written
    rw [Contents.setGauge_eq] at isChanged
    obtain ⟨isAfter, free⟩ := Contents.setGauges_ok isChanged
    exact ⟨isAfter, free key (KeyMap.contains_single key reading)⟩
  | database file store =>
    obtain ⟨changed, written, rfl⟩ := either_ok_database done
    exact Database.setGauge_ok written

end Storage

end Metering
