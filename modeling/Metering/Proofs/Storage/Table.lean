/-
What bulk writes make of a table. Rows of one kind that are all written never get in each
other's way, so a run of statements that succeeds comes to the same as putting all rows into the
table at once.
-/

import Metering.Proofs.Storage.Holdings

namespace Metering.Table

/-- What is left of a value that is stored. -/
def keptValue : Value → Value
  | .counter total => .counter total
  | .gauge reading => .gauge reading.unsignedZero

/-- What is left of a row that is stored. -/
def keptRow (row : String × Value) : String × Value := (row.1, keptValue row.2)

theorem kind_keptValue (value : Value) : (keptValue value).kind = value.kind := by
  cases value <;> rfl

theorem stored?_cases (value : Value) :
    stored? value = none ∨ stored? value = some (keptValue value) := by
  cases value with
  | counter total => exact Or.inr rfl
  | gauge reading =>
    rw [stored?]
    split
    · exact Or.inl rfl
    · exact Or.inr rfl

theorem storedRows?_of_storable {rows : List (String × Value)}
    (storable : ∀ row ∈ rows, stored? row.2 = some (keptValue row.2)) :
    storedRows? rows = some (rows.map keptRow) := by
  induction rows with
  | nil => rfl
  | cons row rest inductionHypothesis =>
    have restStored := inductionHypothesis fun another member =>
      storable another (List.mem_cons_of_mem row member)
    rw [storedRows?] at restStored ⊢
    rw [List.mapM_cons, storable row List.mem_cons_self, restStored]
    rfl

theorem storedRows?_of_unstorable {rows : List (String × Value)} {row : String × Value}
    (member : row ∈ rows) (unstorable : stored? row.2 = none) : storedRows? rows = none := by
  induction rows with
  | nil => cases member
  | cons first rest inductionHypothesis =>
    rw [storedRows?, List.mapM_cons]
    rcases List.mem_cons.mp member with rfl | inRest
    · rw [unstorable]
      rfl
    · have restNone := inductionHypothesis inRest
      rw [storedRows?] at restNone
      rw [restNone]
      cases stored? first.2 <;> rfl

/-- All rows can be stored, or one of them cannot. -/
theorem storable_or_unstorable (rows : List (String × Value)) :
    (∀ row ∈ rows, stored? row.2 = some (keptValue row.2)) ∨
      ∃ row ∈ rows, stored? row.2 = none := by
  by_contra neither
  obtain ⟨notAll, noneUnstorable⟩ := not_or.mp neither
  refine notAll fun row member => (stored?_cases row.2).resolve_left fun unstorable => ?_
  exact noneUnstorable ⟨row, member, unstorable⟩

/-! ### Conflicts -/

theorem conflicts_keptRow (table : Table) (row : String × Value) :
    table.conflicts (keptRow row) = table.conflicts row := by
  simp only [conflicts, keptRow, kind_keptValue]

theorem kinds_keptRow {rows : List (String × Value)} {kind : Kind}
    (kinds : ∀ row ∈ rows, row.2.kind = kind) : ∀ row ∈ rows.map keptRow, row.2.kind = kind := by
  intro kept member
  obtain ⟨row, inRows, rfl⟩ := List.mem_map.mp member
  exact (kind_keptValue row.2).trans (kinds row inRows)

theorem fit_keptRow {table : Table} {rows : List (String × Value)}
    (fit : ∀ row ∈ rows, table.conflicts row = false) :
    ∀ row ∈ rows.map keptRow, table.conflicts row = false := by
  intro kept member
  obtain ⟨row, inRows, rfl⟩ := List.mem_map.mp member
  exact (conflicts_keptRow table row).trans (fit row inRows)

/-- Whether a row is in a conflict does not depend on a row of its kind that is put in. -/
theorem conflicts_insert {table : Table} {row other : String × Value}
    (sameKind : row.2.kind = other.2.kind) (fits : table.conflicts row = false) :
    conflicts (table.insert row.1 row.2) other = table.conflicts other := by
  unfold conflicts at fits ⊢
  rw [KeyMap.find?_insert]
  by_cases same : other.1 = row.1
  · rw [if_pos same, same, ← sameKind, fits]
    simp
  · rw [if_neg same]

/-- Whether a row of a kind is in a conflict does not depend on rows of that kind that are put
in. -/
theorem conflicts_insertAll {rows : List (String × Value)} {kind : Kind}
    (kinds : ∀ row ∈ rows, row.2.kind = kind) {table : Table}
    (fit : ∀ row ∈ rows, table.conflicts row = false) {other : String × Value}
    (otherKind : other.2.kind = kind) :
    conflicts (table.insertAll rows) other = table.conflicts other := by
  induction rows generalizing table with
  | nil => rfl
  | cons row rest inductionHypothesis =>
    obtain ⟨rowKind, restKinds⟩ := List.forall_mem_cons.mp kinds
    obtain ⟨rowFits, restFit⟩ := List.forall_mem_cons.mp fit
    refine (inductionHypothesis restKinds fun another member => ?_).trans
      (conflicts_insert (rowKind.trans otherKind.symm) rowFits)
    exact (conflicts_insert (rowKind.trans (restKinds another member).symm) rowFits).trans
      (restFit another member)

/-! ### Statements -/

/-- Writing rows of one kind puts in those that are in no conflict. -/
theorem foldl_upsertRow {rows : List (String × Value)} {kind : Kind}
    (kinds : ∀ row ∈ rows, row.2.kind = kind) (table : Table) :
    rows.foldl upsertRow table = table.insertAll (rows.filter fun row => !table.conflicts row) := by
  induction rows generalizing table with
  | nil => rfl
  | cons row rest inductionHypothesis =>
    obtain ⟨rowKind, restKinds⟩ := List.forall_mem_cons.mp kinds
    rw [List.foldl_cons, inductionHypothesis restKinds, upsertRow]
    cases fits : table.conflicts row with
    | true => simp [fits]
    | false =>
      have sameFilter : rest.filter (fun another => !conflicts (table.insert row.1 row.2) another) =
          rest.filter fun another => !table.conflicts another :=
        List.filter_congr fun another member => by
          rw [conflicts_insert (rowKind.trans (restKinds another member).symm) fits]
      simp only [Bool.false_eq_true, if_false, List.filter_cons, fits, Bool.not_false, if_true]
      rw [sameFilter]
      rfl

/-- The answer to a write of rows, in their order. -/
def admitRows (table : Table) (rows : List (String × Value)) : Except StorageError Unit :=
  match rows.find? table.conflicts with
  | some row => .error (.wrongKind row.1)
  | none => .ok ()

/-- What a statement does whose rows can be stored. -/
theorem runStatement_of_storable {rows : List (String × Value)} {kind : Kind}
    (kinds : ∀ row ∈ rows, row.2.kind = kind)
    (storable : ∀ row ∈ rows, stored? row.2 = some (keptValue row.2)) (table : Table) :
    runStatement rows table = (table.admitRows rows,
      table.insertAll ((rows.filter fun row => !table.conflicts row).map keptRow)) := by
  have sameRow : table.conflicts ∘ keptRow = table.conflicts :=
    funext (conflicts_keptRow table)
  have written : (rows.map keptRow).foldl upsertRow table =
      table.insertAll ((rows.filter fun row => !table.conflicts row).map keptRow) := by
    rw [foldl_upsertRow (kinds_keptRow kinds), List.filter_map]
    simp only [Function.comp_def, conflicts_keptRow]
  rw [runStatement, storedRows?_of_storable storable, admitRows]
  simp only [List.find?_map, sameRow, written]
  cases rows.find? table.conflicts with
  | none => rfl
  | some row => rfl

/-- A statement with a row that cannot be stored does nothing. -/
theorem runStatement_of_unstorable {rows : List (String × Value)} {row : String × Value}
    (member : row ∈ rows) (unstorable : stored? row.2 = none) (table : Table) :
    runStatement rows table = (.error .database, table) := by
  rw [runStatement, storedRows?_of_unstorable member unstorable]

theorem fit_of_admitRows {table : Table} {rows : List (String × Value)}
    (admitted : table.admitRows rows = .ok ()) : ∀ row ∈ rows, table.conflicts row = false := by
  unfold admitRows at admitted
  split at admitted
  · cases admitted
  · next noneFound =>
    exact fun row member => Bool.eq_false_iff.mpr (List.find?_eq_none.mp noneFound row member)

theorem filter_of_fit {table : Table} {rows : List (String × Value)}
    (fit : ∀ row ∈ rows, table.conflicts row = false) :
    rows.filter (fun row => !table.conflicts row) = rows :=
  List.filter_eq_self.mpr fun row member => by rw [fit row member, Bool.not_false]

/-- A statement that succeeds has written all of its rows. -/
theorem runStatement_ok {rows : List (String × Value)} {kind : Kind}
    (kinds : ∀ row ∈ rows, row.2.kind = kind) {table after : Table}
    (done : runStatement rows table = (.ok (), after)) :
    after = table.insertAll (rows.map keptRow) ∧ ∀ row ∈ rows, table.conflicts row = false := by
  rcases storable_or_unstorable rows with storable | ⟨row, member, unstorable⟩
  · rw [runStatement_of_storable kinds storable] at done
    have fit := fit_of_admitRows (Prod.mk.inj done).1
    refine ⟨?_, fit⟩
    rw [← (Prod.mk.inj done).2, filter_of_fit fit]
  · rw [runStatement_of_unstorable member unstorable] at done
    cases done

/-- A run of statements that succeeds has written all rows of all of them. -/
theorem runStatements_ok {statements : List (List (String × Value))} {kind : Kind}
    (kinds : ∀ row ∈ statements.flatten, row.2.kind = kind) {table after : Table}
    (done : runStatements statements table = (.ok (), after)) :
    after = table.insertAll (statements.flatten.map keptRow) ∧
      ∀ row ∈ statements.flatten, table.conflicts row = false := by
  induction statements generalizing table with
  | nil =>
    refine ⟨(Prod.mk.inj done).2.symm, fun row member => ?_⟩
    cases member
  | cons statement rest inductionHypothesis =>
    have firstKinds : ∀ row ∈ statement, row.2.kind = kind := fun row member =>
      kinds row (List.mem_append_left _ member)
    have restKinds : ∀ row ∈ rest.flatten, row.2.kind = kind := fun row member =>
      kinds row (List.mem_append_right _ member)
    unfold runStatements at done
    split at done
    · next changed first =>
      obtain ⟨isChanged, fit⟩ := runStatement_ok firstKinds first
      obtain ⟨isAfter, restFit⟩ := inductionHypothesis restKinds done
      refine ⟨?_, fun row member => ?_⟩
      · rw [isAfter, isChanged, List.flatten_cons, List.map_append, KeyMap.insertAll_append]
      · rcases List.mem_append.mp member with inFirst | inRest
        · exact fit row inFirst
        · rw [← conflicts_insertAll (kinds_keptRow firstKinds) (fit_keptRow fit)
            (restKinds row inRest), ← isChanged]
          exact restFit row inRest
    · cases done

/-- A bulk write that succeeds has written all rows, however many statements it took. -/
theorem upsert_ok {rows : List (String × Value)} {kind : Kind}
    (kinds : ∀ row ∈ rows, row.2.kind = kind) {table after : Table}
    (done : upsert rows table = (.ok (), after)) :
    after = table.insertAll (rows.map keptRow) ∧ ∀ row ∈ rows, table.conflicts row = false := by
  have flat := flatten_chunksOf statementSize rows
  have result := runStatements_ok (flat.symm ▸ kinds) done
  rwa [flat] at result

end Metering.Table
