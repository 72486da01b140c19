/-
What bulk writes do to what is seen of a store. A write that succeeds puts in all of its values,
leaves everything else alone, and has met none of its keys under the other kind. One that the
memory backend refuses changes nothing.
-/

import Metering.Proofs.Storage.Table

namespace Metering

variable {Answer : Type}

/-! ### The memory backend -/

namespace Contents

theorem find?_of_firstShared?_eq_none {Value Other : Type} {values : KeyMap Value}
    {others : KeyMap Other} (noneShared : firstShared? values others = none) {key : String}
    (member : values.contains key = true) : others.find? key = none := by
  have absent := List.find?_eq_none.mp noneShared key ((values.mem_keys_iff key).mpr member)
  exact (others.contains_eq_false_iff key).mp (Bool.eq_false_iff.mpr absent)

theorem setCounters_ok {totals : KeyMap Int64} {contents after : Contents}
    (done : contents.setCounters totals = .ok after) :
    after.holdings = contents.holdings.withCounters totals ∧
      ∀ key, totals.contains key = true → contents.holdings.gauge? key = none := by
  unfold setCounters at done
  split at done
  · cases done
  · next noneShared =>
    refine ⟨?_, fun key member => find?_of_firstShared?_eq_none noneShared member⟩
    rw [← Except.ok.inj done]
    exact Holdings.ext (funext (KeyMap.find?_overlay _ _)) rfl

theorem setGauges_ok {readings : KeyMap Binary64} {contents after : Contents}
    (done : contents.setGauges readings = .ok after) :
    after.holdings = contents.holdings.withGauges readings ∧
      ∀ key, readings.contains key = true → contents.holdings.counter? key = none := by
  unfold setGauges at done
  split at done
  · cases done
  · next noneShared =>
    refine ⟨?_, fun key member => find?_of_firstShared?_eq_none noneShared member⟩
    rw [← Except.ok.inj done]
    exact Holdings.ext rfl (funext (KeyMap.find?_overlay _ _))

theorem setGauges_error {readings : KeyMap Binary64} {contents : Contents}
    {problem : StorageError} (failed : contents.setGauges readings = .error problem) :
    ∃ key, readings.contains key = true ∧ contents.holdings.counter? key ≠ none := by
  unfold setGauges at failed
  split at failed
  · next key found =>
    refine ⟨key, (readings.mem_keys_iff key).mp (List.mem_of_find?_eq_some found), fun free => ?_⟩
    have shared : contents.counters.contains key = true := List.find?_some found
    rw [(contents.counters.contains_eq_false_iff key).mpr free] at shared
    cases shared
  · cases failed

end Contents

namespace Holdings

theorem withCounters_of_isEmpty {totals : KeyMap Int64} (empty : totals.isEmpty = true)
    (held : Holdings) : held.withCounters totals = held := by
  refine Holdings.ext (funext fun key => ?_) rfl
  show (totals.find? key).or (held.counter? key) = held.counter? key
  rw [KeyMap.find?_of_isEmpty empty, Option.none_or]

theorem withGauges_of_isEmpty {readings : KeyMap Binary64} (empty : readings.isEmpty = true)
    (held : Holdings) : held.withGauges readings = held := by
  refine Holdings.ext rfl (funext fun key => ?_)
  show (readings.find? key).or (held.gauge? key) = held.gauge? key
  rw [KeyMap.find?_of_isEmpty empty, Option.none_or]

end Holdings

namespace MemoryStore

theorem contents_save (store : MemoryStore) : store.save.contents = store.contents := by
  unfold save
  split <;> rfl

theorem contents_written (store : MemoryStore) (contents : Contents) :
    (store.written contents).contents = contents := by
  simp only [written]
  split
  · exact contents_save _
  · rfl

/-- A write changes the contents, or is refused and changes nothing at all. -/
theorem write_on (change : Contents → Except StorageError Contents) (store : MemoryStore) :
    (write change).on store = (match change store.contents with
      | .ok contents => (.ok (), store.written contents)
      | .error problem => (.error problem, store)) := by
  simp only [write, Action.changing, Action.on]
  cases change store.contents <;> rfl

theorem write_ok {change : Contents → Except StorageError Contents} {store after : MemoryStore}
    (done : (write change).on store = (.ok (), after)) :
    change store.contents = .ok after.contents := by
  rw [write_on] at done
  cases changed : change store.contents with
  | error problem => rw [changed] at done; cases done
  | ok contents =>
    rw [changed] at done
    rw [← (Prod.mk.inj done).2, contents_written]

theorem write_error {change : Contents → Except StorageError Contents}
    {store after : MemoryStore} {problem : StorageError}
    (failed : (write change).on store = (.error problem, after)) : after = store := by
  rw [write_on] at failed
  cases changed : change store.contents with
  | error other => rw [changed] at failed; exact (Prod.mk.inj failed).2.symm
  | ok contents => rw [changed] at failed; cases failed

/-- A bulk write of nothing does nothing, and any other one is a write to the contents. -/
theorem bulk_on {Amount : Type} (values : KeyMap Amount)
    (change : Contents → Except StorageError Contents) (store : MemoryStore) :
    (values.isEmpty = true ∧
      (if values.isEmpty then pure () else write change : Action MemoryStore Unit).on store =
        (.ok (), store)) ∨
    (if values.isEmpty then pure () else write change : Action MemoryStore Unit).on store =
      (write change).on store := by
  cases values.isEmpty with
  | true => exact Or.inl ⟨rfl, rfl⟩
  | false => exact Or.inr rfl

theorem setCounters_ok {totals : KeyMap Int64} {store after : MemoryStore}
    (done : (Repository.setCounters totals : Action MemoryStore Unit).on store = (.ok (), after)) :
    after.contents.holdings = store.contents.holdings.withCounters totals ∧
      ∀ key, totals.contains key = true → store.contents.holdings.gauge? key = none := by
  rcases bulk_on totals (Contents.setCounters totals) store with ⟨empty, nothing⟩ | written
  · rw [← (Prod.mk.inj (nothing.symm.trans done)).2, Holdings.withCounters_of_isEmpty empty]
    exact ⟨rfl, fun key member => absurd member (KeyMap.not_contains_of_isEmpty empty key)⟩
  · exact Contents.setCounters_ok (write_ok (written.symm.trans done))

theorem setGauges_ok {readings : KeyMap Binary64} {store after : MemoryStore}
    (done : (Repository.setGauges readings : Action MemoryStore Unit).on store = (.ok (), after)) :
    after.contents.holdings = store.contents.holdings.withGauges readings ∧
      ∀ key, readings.contains key = true → store.contents.holdings.counter? key = none := by
  rcases bulk_on readings (Contents.setGauges readings) store with ⟨empty, nothing⟩ | written
  · rw [← (Prod.mk.inj (nothing.symm.trans done)).2, Holdings.withGauges_of_isEmpty empty]
    exact ⟨rfl, fun key member => absurd member (KeyMap.not_contains_of_isEmpty empty key)⟩
  · exact Contents.setGauges_ok (write_ok (written.symm.trans done))

theorem setCounters_error {totals : KeyMap Int64} {store after : MemoryStore}
    {problem : StorageError}
    (failed : (Repository.setCounters totals : Action MemoryStore Unit).on store =
      (.error problem, after)) : after = store := by
  rcases bulk_on totals (Contents.setCounters totals) store with ⟨_, nothing⟩ | written
  · cases nothing.symm.trans failed
  · exact write_error (written.symm.trans failed)

theorem setGauges_error {readings : KeyMap Binary64} {store after : MemoryStore}
    {problem : StorageError}
    (failed : (Repository.setGauges readings : Action MemoryStore Unit).on store =
      (.error problem, after)) :
    after = store ∧
      ∃ key, readings.contains key = true ∧ store.contents.holdings.counter? key ≠ none := by
  rcases bulk_on readings (Contents.setGauges readings) store with ⟨_, nothing⟩ | written
  · cases nothing.symm.trans failed
  · have refused := written.symm.trans failed
    refine ⟨write_error refused, ?_⟩
    rw [write_on] at refused
    cases changed : Contents.setGauges readings store.contents with
    | ok contents => rw [changed] at refused; cases refused
    | error other => exact Contents.setGauges_error changed

end MemoryStore

/-! ### The database backend -/

namespace Table

theorem conflicts_eq (table : Table) (key : String) (value : Value) :
    table.conflicts (key, value) = table.holdings.holdsOther value.kind key := by
  cases value <;> rcases found : table.find? key with _ | _ | _ <;>
    simp only [conflicts, holdings, Value.kind, Holdings.holdsOther, found] <;> rfl

theorem holdings_overlay_counters {table : Table} {totals : KeyMap Int64}
    (fit : ∀ key, totals.contains key = true → table.holdings.gauge? key = none) :
    holdings (table.overlay (totals.map Value.counter)) = table.holdings.withCounters totals := by
  refine Holdings.ext (funext fun key => ?_) (funext fun key => ?_)
  · simp only [holdings, Holdings.withCounters, KeyMap.find?_overlay, KeyMap.find?_map]
    cases totals.find? key <;> rfl
  · have free := fit key
    simp only [holdings, Holdings.withCounters, KeyMap.find?_overlay, KeyMap.find?_map,
      KeyMap.contains] at free ⊢
    cases found : totals.find? key with
    | none => rfl
    | some total => exact (free (by rw [found]; rfl)).symm

theorem holdings_overlay_gauges {table : Table} {readings : KeyMap Binary64}
    (fit : ∀ key, readings.contains key = true → table.holdings.counter? key = none) :
    holdings (table.overlay (readings.map Value.gauge)) = table.holdings.withGauges readings := by
  refine Holdings.ext (funext fun key => ?_) (funext fun key => ?_)
  · have free := fit key
    simp only [holdings, Holdings.withGauges, KeyMap.find?_overlay, KeyMap.find?_map,
      KeyMap.contains] at free ⊢
    cases found : readings.find? key with
    | none => rfl
    | some reading => exact (free (by rw [found]; rfl)).symm
  · simp only [holdings, Holdings.withGauges, KeyMap.find?_overlay, KeyMap.find?_map]
    cases readings.find? key <;> rfl

end Table

namespace Database

theorem current_withCurrent (store : Database) (table : Table) :
    (store.withCurrent table).current = some table := by
  unfold withCurrent
  split
  · rfl
  · next noneOpen =>
    rw [Bool.not_eq_true, Option.isSome_eq_false_iff, Option.isNone_iff_eq_none] at noneOpen
    simp only [current, noneOpen, Option.getD_none]

theorem execute_on (statements : Table → Except StorageError Unit × Table) (store : Database) :
    (execute statements).on store = (match store.reached with
      | some table => ((statements table).1, store.withCurrent (statements table).2)
      | none => (.error .database, store)) := by
  simp only [execute, Action.on, reached]
  cases store.connected <;> cases store.current <;> rfl

theorem execute_ok {statements : Table → Except StorageError Unit × Table}
    {store after : Database} (done : (execute statements).on store = (.ok (), after)) :
    ∃ table changed, store.reached = some table ∧ statements table = (.ok (), changed) ∧
      after = store.withCurrent changed := by
  rw [execute_on] at done
  cases reached : store.reached with
  | none => rw [reached] at done; cases done
  | some table =>
    rw [reached] at done
    obtain ⟨isOk, isAfter⟩ := Prod.mk.inj done
    exact ⟨table, (statements table).2, rfl, Prod.ext isOk rfl, isAfter.symm⟩

theorem execute_of_executeAll_ok {rows : List (String × Value)} {store after : Database}
    (done : (executeAll rows).on store = (.ok (), after)) (more : rows.isEmpty = false) :
    (execute (Table.upsert rows)).on store = (.ok (), after) := by
  simp only [executeAll, Action.on, more, Bool.false_eq_true, if_false] at done
  split at done
  · next written => rw [← done]; exact written
  · cases done

/-- A bulk write that succeeds has put all its rows into the table that is seen. -/
theorem executeAll_ok (kind : Kind) {rows : List (String × Value)}
    (kinds : ∀ row ∈ rows, row.2.kind = kind) {store after : Database}
    (done : (executeAll rows).on store = (.ok (), after)) (more : rows.isEmpty = false) :
    ∃ table, store.reached = some table ∧
      after.current = some (table.insertAll (rows.map Table.keptRow)) ∧
      ∀ row ∈ rows, table.conflicts row = false := by
  obtain ⟨table, changed, reached, written, isAfter⟩ :=
    execute_ok (execute_of_executeAll_ok done more)
  obtain ⟨isChanged, fit⟩ := Table.upsert_ok kinds written
  refine ⟨table, reached, ?_, fit⟩
  rw [isAfter, isChanged]
  exact current_withCurrent store _

theorem executeAll_of_isEmpty {rows : List (String × Value)} (empty : rows.isEmpty = true)
    (store : Database) : (executeAll rows).on store = (.ok (), store) := by
  simp only [executeAll, Action.on, empty, if_true]

end Database

/-- A bulk write of values of one kind that succeeds has put them all into the table that is seen,
where none of their keys has the other kind. -/
theorem Database.executeAll_map_ok {Amount : Type} (kind : Kind) (valueOf : Amount → Value)
    (kinds : ∀ amount, (valueOf amount).kind = kind) {values : KeyMap Amount}
    {store after : Database}
    (done : (executeAll (values.toList.map fun entry => (entry.1, valueOf entry.2))).on store =
      (.ok (), after)) :
    (values.isEmpty = true ∧ after = store) ∨
    ∃ table, store.reached = some table ∧
      after.current = some (table.overlay (values.map fun amount =>
        Table.keptValue (valueOf amount))) ∧
      ∀ key, values.contains key = true → table.holdings.holdsOther kind key = false := by
  cases empty : values.isEmpty with
  | true =>
    rw [executeAll_of_isEmpty (by rw [List.isEmpty_map]; exact empty)] at done
    exact Or.inl ⟨rfl, (Prod.mk.inj done).2.symm⟩
  | false =>
    obtain ⟨table, reached, isAfter, fit⟩ := executeAll_ok kind
      (List.forall_mem_map.mpr fun entry _ => kinds entry.2) done
      (by rw [List.isEmpty_map]; exact empty)
    refine Or.inr ⟨table, reached, ?_, fun key member => ?_⟩
    · rw [isAfter, List.map_map]
      rfl
    · obtain ⟨amount, found⟩ := (values.contains_eq_true_iff key).mp member
      have free := fit _ (List.mem_map_of_mem ((values.find?_eq_some_iff key amount).mp found))
      rwa [Table.conflicts_eq, kinds] at free

theorem Database.setCounters_ok {totals : KeyMap Int64} {store after : Database}
    (done : (Repository.setCounters totals : Action Database Unit).on store = (.ok (), after)) :
    Holdings.ofTable after.current = (Holdings.ofTable store.current).withCounters totals ∧
      ∀ key, totals.contains key = true → (Holdings.ofTable store.current).gauge? key = none := by
  rcases executeAll_map_ok .counter .counter (fun _ => rfl) done with
    ⟨empty, rfl⟩ | ⟨table, reached, isAfter, free⟩
  · rw [Holdings.withCounters_of_isEmpty empty]
    exact ⟨rfl, fun key member => absurd member (KeyMap.not_contains_of_isEmpty empty key)⟩
  · have allFree : ∀ key, totals.contains key = true → table.holdings.gauge? key = none :=
      fun key member => by simpa [Holdings.holdsOther] using free key member
    rw [isAfter, ofTable_current reached]
    exact ⟨Table.holdings_overlay_counters allFree, allFree⟩

theorem Database.setGauges_ok {readings : KeyMap Binary64} {store after : Database}
    (done : (Repository.setGauges readings : Action Database Unit).on store = (.ok (), after)) :
    Holdings.ofTable after.current =
        (Holdings.ofTable store.current).withGauges (readings.map Binary64.unsignedZero) ∧
      ∀ key, readings.contains key = true →
        (Holdings.ofTable store.current).counter? key = none := by
  rcases executeAll_map_ok .gauge .gauge (fun _ => rfl) done with
    ⟨empty, rfl⟩ | ⟨table, reached, isAfter, free⟩
  · rw [Holdings.withGauges_of_isEmpty (by simpa [KeyMap.isEmpty, KeyMap.map] using empty)]
    exact ⟨rfl, fun key member => absurd member (KeyMap.not_contains_of_isEmpty empty key)⟩
  · have allFree : ∀ key, readings.contains key = true → table.holdings.counter? key = none :=
      fun key member => by simpa [Holdings.holdsOther] using free key member
    have kept : (readings.map fun reading => Table.keptValue (.gauge reading)) =
        (readings.map Binary64.unsignedZero).map Value.gauge :=
      KeyMap.ext_find? fun key => by simp only [KeyMap.find?_map, Option.map_map]; rfl
    rw [isAfter, ofTable_current reached, kept]
    refine ⟨Table.holdings_overlay_gauges fun key member => allFree key ?_, allFree⟩
    rwa [KeyMap.contains, KeyMap.find?_map, Option.isSome_map] at member

/-! ### Either backend -/

namespace Storage

theorem either_ok_memory {onMemory : Action MemoryStore Answer}
    {onDatabase : Action Database Answer} {store : MemoryStore} {after : Storage}
    {answer : Answer}
    (done : (either onMemory onDatabase).on (.memory store) = (.ok answer, after)) :
    ∃ changed, onMemory.on store = (.ok answer, changed) ∧ after = .memory changed := by
  obtain ⟨isOk, isAfter⟩ := Prod.mk.inj done
  exact ⟨(onMemory.on store).2, Prod.ext isOk rfl, isAfter.symm⟩

theorem either_ok_database {onMemory : Action MemoryStore Answer}
    {onDatabase : Action Database Answer} {file : Option Path} {store : Database}
    {after : Storage} {answer : Answer}
    (done : (either onMemory onDatabase).on (.database file store) = (.ok answer, after)) :
    ∃ changed, onDatabase.on store = (.ok answer, changed) ∧ after = .database file changed := by
  obtain ⟨isOk, isAfter⟩ := Prod.mk.inj done
  exact ⟨(onDatabase.on store).2, Prod.ext isOk rfl, isAfter.symm⟩

/-- Totals that are written are all put in. -/
theorem setCounters_ok {totals : KeyMap Int64} {store after : Storage}
    (done : (Repository.setCounters totals : Action Storage Unit).on store = (.ok (), after)) :
    after.seen = store.seen.withCounters totals ∧
      ∀ key, totals.contains key = true → store.seen.gauge? key = none := by
  cases store with
  | memory store =>
    obtain ⟨changed, written, rfl⟩ := either_ok_memory done
    exact MemoryStore.setCounters_ok written
  | database file store =>
    obtain ⟨changed, written, rfl⟩ := either_ok_database done
    exact Database.setCounters_ok written

/-- Readings that are written are all put in, as far as the backend stores them. -/
theorem setGauges_ok {readings : KeyMap Binary64} {store after : Storage}
    (done : (Repository.setGauges readings : Action Storage Unit).on store = (.ok (), after)) :
    after.seen = store.seen.withGauges (readings.map store.stored) ∧
      ∀ key, readings.contains key = true → store.seen.counter? key = none := by
  cases store with
  | memory store =>
    obtain ⟨changed, written, rfl⟩ := either_ok_memory done
    have same : readings.map (memory store).stored = readings := by
      obtain ⟨entries, sorted⟩ := readings
      simp [KeyMap.map, stored]
    rw [same]
    exact MemoryStore.setGauges_ok written
  | database file store =>
    obtain ⟨changed, written, rfl⟩ := either_ok_database done
    exact Database.setGauges_ok written

end Storage

end Metering
