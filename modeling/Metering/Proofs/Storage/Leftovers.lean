/-
What is left of a bulk write that is refused in an open transaction. The write has no transaction
of its own there, so what its statements have written by then stays: all rows of the statements
before the one that fails and, of that one, the rows that are in no conflict, unless one of its
rows cannot be stored. The table is as it was exactly if all these rows were in it before. What is
left is given up with the transaction, and kept with it.
-/

import Metering.Proofs.Storage.Bulk

namespace Metering

namespace Table

/-- A run of statements that fails, with what it has written by then. -/
inductive Stops (table : Table) :
    List (List (String × Value)) → StorageError → List (String × Value) → Prop
  | unstorable {statement : List (String × Value)} {later : List (List (String × Value))}
      {row : String × Value} (member : row ∈ statement) (isUnstorable : stored? row.2 = none) :
      Stops table (statement :: later) .database []
  | conflict {statement : List (String × Value)} {later : List (List (String × Value))}
      {row : String × Value} (first : statement.find? table.conflicts = some row)
      (storable : ∀ row ∈ statement, stored? row.2 = some (keptValue row.2)) :
      Stops table (statement :: later) (.wrongKind row.1)
        (statement.filter fun row => !table.conflicts row)
  | later {statement written : List (String × Value)} {later : List (List (String × Value))}
      {problem : StorageError} (fit : ∀ row ∈ statement, table.conflicts row = false)
      (storable : ∀ row ∈ statement, stored? row.2 = some (keptValue row.2))
      (stops : Stops table later problem written) :
      Stops table (statement :: later) problem (statement ++ written)

theorem Stops.sublist {table : Table} {statements : List (List (String × Value))}
    {problem : StorageError} {written : List (String × Value)}
    (stops : Stops table statements problem written) : written.Sublist statements.flatten := by
  induction stops with
  | unstorable => exact List.nil_sublist _
  | conflict => exact List.filter_sublist.trans (List.sublist_append_left _ _)
  | later _ _ _ inductionHypothesis => exact inductionHypothesis.append_left _

/-- Where a run stops depends on no more than which of its rows are in conflicts. -/
theorem Stops.congr {table other : Table} {statements : List (List (String × Value))}
    (same : ∀ row ∈ statements.flatten, table.conflicts row = other.conflicts row)
    {problem : StorageError} {written : List (String × Value)}
    (stops : Stops table statements problem written) : Stops other statements problem written := by
  induction stops with
  | unstorable member isUnstorable => exact .unstorable member isUnstorable
  | conflict first storable =>
    have sameHere := fun row member => same row (List.mem_append_left _ member)
    rw [List.find?_congr sameHere] at first
    rw [List.filter_congr fun row member => congrArg not (sameHere row member)]
    exact .conflict first storable
  | later fit storable _ inductionHypothesis =>
    refine .later (fun row member => ?_) storable
      (inductionHypothesis fun row member => same row (List.mem_append_right _ member))
    exact (same row (List.mem_append_left _ member)).symm.trans (fit row member)

/-- What a run of statements that fails has written. -/
theorem runStatements_error {statements : List (List (String × Value))} {kind : Kind}
    (kinds : ∀ row ∈ statements.flatten, row.2.kind = kind) {table after : Table}
    {problem : StorageError} (failed : runStatements statements table = (.error problem, after)) :
    ∃ written, Stops table statements problem written ∧
      after = table.insertAll (written.map keptRow) := by
  induction statements generalizing table with
  | nil => cases failed
  | cons statement later inductionHypothesis =>
    have firstKinds : ∀ row ∈ statement, row.2.kind = kind := fun row member =>
      kinds row (List.mem_append_left _ member)
    have laterKinds : ∀ row ∈ later.flatten, row.2.kind = kind := fun row member =>
      kinds row (List.mem_append_right _ member)
    rw [runStatements] at failed
    rcases storable_or_unstorable statement with storable | ⟨row, member, isUnstorable⟩
    · rw [runStatement_of_storable firstKinds storable] at failed
      cases found : statement.find? table.conflicts with
      | some row =>
        rw [admitRows, found] at failed
        obtain ⟨isProblem, isAfter⟩ := Prod.mk.inj failed
        exact ⟨_, Except.error.inj isProblem ▸ .conflict found storable, isAfter.symm⟩
      | none =>
        have fit : ∀ row ∈ statement, table.conflicts row = false :=
          fit_of_admitRows (by rw [admitRows, found])
        rw [admitRows, found, filter_of_fit fit] at failed
        obtain ⟨written, stops, isAfter⟩ := inductionHypothesis laterKinds failed
        -- rows of the same kind that are put in neither make a conflict nor resolve one
        have sameConflicts := fun row member => conflicts_insertAll (kinds_keptRow firstKinds)
          (fit_keptRow fit) (laterKinds row member)
        refine ⟨statement ++ written, .later fit storable (stops.congr sameConflicts), ?_⟩
        rw [isAfter, List.map_append, KeyMap.insertAll_append]
    · rw [runStatement_of_unstorable member isUnstorable] at failed
      obtain ⟨isProblem, isAfter⟩ := Prod.mk.inj failed
      exact ⟨[], Except.error.inj isProblem ▸ .unstorable member isUnstorable, isAfter.symm⟩

/-- Rows are found in a table as they are stored, and no other key has changed. -/
structure HasGained (rows : List (String × Value)) (before after : Table) : Prop where
  found : ∀ row ∈ rows, after.find? row.1 = some (keptValue row.2)
  other : ∀ key, (∀ row ∈ rows, row.1 ≠ key) → after.find? key = before.find? key

/-- A table is as it was exactly if the rows that it has gained were in it before. -/
theorem HasGained.eq_iff {rows : List (String × Value)} {before after : Table}
    (gained : HasGained rows before after) :
    after = before ↔ ∀ row ∈ rows, before.find? row.1 = some (keptValue row.2) := by
  constructor
  · rintro rfl
    exact gained.found
  · refine fun there => KeyMap.ext_find? fun key => ?_
    by_cases isRow : ∃ row ∈ rows, row.1 = key
    · obtain ⟨row, member, rfl⟩ := isRow
      rw [gained.found row member, there row member]
    · exact gained.other key fun row member same => isRow ⟨row, member, same⟩

theorem hasGained_insertAll {rows : List (String × Value)} (sorted : KeyMap.Sorted rows)
    (table : Table) : HasGained rows table (table.insertAll (rows.map keptRow)) := by
  let entries : KeyMap Value := ⟨rows, sorted⟩
  have isOverlay : table.insertAll (rows.map keptRow) = table.overlay (entries.map keptValue) := rfl
  refine ⟨fun row member => ?_, fun key absent => ?_⟩
  · rw [isOverlay, KeyMap.find?_overlay, KeyMap.find?_map,
      (KeyMap.find?_eq_some_iff entries row.1 row.2).mpr member]
    rfl
  · have notThere : entries.find? key = none := by
      by_contra isThere
      obtain ⟨value, found⟩ := Option.ne_none_iff_exists'.mp isThere
      exact absent _ ((KeyMap.find?_eq_some_iff entries key value).mp found) rfl
    rw [isOverlay, KeyMap.find?_overlay, KeyMap.find?_map, notThere]
    rfl

end Table

namespace Database

/-- What is left of a bulk write of values under their keys that is refused in an open
transaction. -/
structure LeftBy (entries : KeyMap Value) (table : Table) (problem : StorageError)
    (store after : Database) (written : List (String × Value)) (seen : Table) : Prop where
  stops : Table.Stops table (chunksOf Table.statementSize entries.toList) problem written
  isAfter : after = { store with pending := some (some seen) }
  gained : Table.HasGained written table seen

theorem executeAll_error_of_pending {store after : Database} {table : Table}
    (isOpen : store.pending.isSome = true) (reached : store.reached = some table)
    (entries : KeyMap Value) (kind : Kind)
    (kinds : ∀ entry ∈ entries.toList, entry.2.kind = kind) {problem : StorageError}
    (failed : (executeAll entries.toList).on store = (.error problem, after)) :
    ∃ written seen, LeftBy entries table problem store after written seen := by
  cases empty : entries.toList.isEmpty with
  | true =>
    rw [executeAll_of_isEmpty empty] at failed
    cases failed
  | false =>
    rw [executeAll_of_pending isOpen empty, execute_on, reached] at failed
    dsimp only at failed
    rcases ran : Table.upsert entries.toList table with ⟨answer, seen⟩
    rw [ran] at failed
    obtain ⟨rfl, isAfter⟩ := Prod.mk.inj failed
    have flat := flatten_chunksOf Table.statementSize entries.toList
    obtain ⟨written, stops, isSeen⟩ := Table.runStatements_error (flat.symm ▸ kinds) ran
    have sorted : KeyMap.Sorted written := by
      have shorter := stops.sublist
      rw [flat] at shorter
      exact entries.sorted.sublist shorter
    refine ⟨written, seen, stops, ?_, isSeen ▸ Table.hasGained_insertAll sorted table⟩
    rw [← isAfter, withCurrent, if_pos isOpen]

section

variable {store after : Database} {table seen : Table} {problem : StorageError}
  {entries : KeyMap Value} {written : List (String × Value)}

/-- What is left is given up with the transaction. -/
theorem LeftBy.rollback_on (left : LeftBy entries table problem store after written seen) :
    (Repository.rollback : Action Database Unit).on after =
      (Repository.rollback : Action Database Unit).on store := by
  rw [left.isAfter]
  rfl

/-- What is left is kept with the transaction. -/
theorem LeftBy.commit_on (left : LeftBy entries table problem store after written seen)
    (reached : store.reached = some table) :
    (Repository.commit : Action Database Unit).on after = (.ok (), connect (some seen)) := by
  rw [left.isAfter]
  show (Except.ok (), (⟨store.connected, some seen, none⟩ : Database)) = _
  rw [(reached_eq_some_iff.mp reached).1]
  rfl

end

/-- A bulk write that is refused in an open transaction leaves what its statements have written
by then. What is seen in the transaction is as it was exactly if all of that was there before; a
commit keeps it, and a rollback gives it up. -/
theorem refused_bulk_write_leaves {store after : Database} {table : Table}
    {problem : StorageError} (isOpen : store.pending.isSome = true)
    (reached : store.reached = some table) (entries : KeyMap Value)
    (failed : (∃ totals, entries = totals.map Value.counter ∧
        (Repository.setCounters totals : Action Database Unit).on store =
          (.error problem, after)) ∨
      ∃ readings, entries = readings.map Value.gauge ∧
        (Repository.setGauges readings : Action Database Unit).on store =
          (.error problem, after)) :
    ∃ written seen, LeftBy entries table problem store after written seen ∧
      (after.current = store.current ↔
        ∀ row ∈ written, table.find? row.1 = some (Table.keptValue row.2)) ∧
      (Repository.commit : Action Database Unit).on after = (.ok (), connect (some seen)) ∧
      (Repository.rollback : Action Database Unit).on after =
        (Repository.rollback : Action Database Unit).on store := by
  have leaves : ∃ written seen, LeftBy entries table problem store after written seen := by
    rcases failed with ⟨totals, rfl, failed⟩ | ⟨readings, rfl, failed⟩
    · exact executeAll_error_of_pending isOpen reached (totals.map Value.counter) .counter
        (List.forall_mem_map.mpr fun _ _ => rfl) failed
    · exact executeAll_error_of_pending isOpen reached (readings.map Value.gauge) .gauge
        (List.forall_mem_map.mpr fun _ _ => rfl) failed
  obtain ⟨written, seen, left⟩ := leaves
  refine ⟨written, seen, left, ?_, left.commit_on reached, left.rollback_on⟩
  rw [(reached_eq_some_iff.mp reached).2, left.isAfter, ← left.gained.eq_iff]
  exact Option.some_inj

/-- Of three totals the first two stay, and what is seen has changed. -/
theorem refused_bulk_write_leaves_two_of_three :
    let table : Table := KeyMap.ofList [("c", .gauge ⟨0x3ff0000000000000⟩)]
    let store : Database := ⟨true, some table, some (some table)⟩
    let totals : KeyMap Int64 := KeyMap.ofList [("a", 1), ("b", 2), ("c", 3)]
    let result := (Repository.setCounters totals : Action Database Unit).on store
    store.pending.isSome = true ∧ store.reached = some table ∧
      result.1 = .error (.wrongKind "c") ∧ result.2.current ≠ store.current ∧
      (Repository.rollback : Action Database Unit).on result.2 =
        (Repository.rollback : Action Database Unit).on store := by
  intro table store totals result
  have refused : result.1 = .error (.wrongKind "c") := by decide +kernel
  have changed : result.2.current ≠ store.current := by decide +kernel
  have isOpen : store.pending.isSome = true := rfl
  have reached : store.reached = some table := rfl
  obtain ⟨_, _, _, _, _, givenUp⟩ := refused_bulk_write_leaves isOpen reached
    (totals.map Value.counter) (Or.inl ⟨totals, rfl, Prod.ext refused rfl⟩)
  exact ⟨isOpen, reached, refused, changed, givenUp⟩

/-- A bulk write that is refused in a transaction is not undone: some of its rows are seen in the
transaction, and are there after a commit. -/
theorem refused_bulk_write_not_undone :
    let table : Table := KeyMap.ofList [("c", .gauge ⟨0x3ff0000000000000⟩)]
    let store : Database := ⟨true, some table, some (some table)⟩
    let totals : KeyMap Int64 := KeyMap.ofList [("a", 1), ("b", 2), ("c", 3)]
    let result := (Repository.setCounters totals : Action Database Unit).on store
    let kept := (Repository.commit : Action Database Unit).on result.2
    result.1 = .error (.wrongKind "c") ∧
      (store.current.bind (·.find? "a")) = none ∧
      (result.2.current.bind (·.find? "a")) = some (.counter 1) ∧
      (kept.2.committed.bind (·.find? "a")) = some (.counter 1) := by
  decide +kernel

end Database

end Metering
