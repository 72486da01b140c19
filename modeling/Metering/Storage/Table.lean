/-
The table of the database backend: one row a key, with a value of exactly one kind. Rows are
written by statements of at most 400 rows. A statement leaves alone a row whose key is held
under the other kind, writes the others, and is then reported as a failure that names the first
key left alone. A reading that is not a number cannot be stored, and the statement it is in
writes nothing. The sign of a zero is lost.
-/

import Metering.Chunks
import Metering.KeyMap
import Metering.Metric.Basic
import Metering.Storage.Error

namespace Metering

/-- Rows by key. -/
abbrev Table := KeyMap Value

namespace Table

/-- The most rows of a statement. -/
def statementSize : Nat := 400

/-- What is stored of a value, if it can be. -/
def stored? : Value → Option Value
  | .counter total => some (.counter total)
  | .gauge reading => if reading.isNaN then none else some (.gauge reading.unsignedZero)

/-- Whether a key is held under another kind than that of a value. -/
def conflicts (table : Table) (row : String × Value) : Bool :=
  (table.find? row.1).any fun held => held.kind != row.2.kind

/-- Writes a row, unless its key is held under the other kind. -/
def upsertRow (table : Table) (row : String × Value) : Table :=
  if table.conflicts row then table else table.insert row.1 row.2

/-- The rows as they are stored, if all can be. -/
def storedRows? (rows : List (String × Value)) : Option (List (String × Value)) :=
  rows.mapM fun row => (stored? row.2).map fun value => (row.1, value)

/-- Runs the statement that writes rows. -/
def runStatement (rows : List (String × Value)) (table : Table) :
    Except StorageError Unit × Table :=
  match storedRows? rows with
  | none => (.error .database, table)
  | some rows =>
    match rows.find? table.conflicts with
    | some row => (.error (.wrongKind row.1), rows.foldl upsertRow table)
    | none => (.ok (), rows.foldl upsertRow table)

/-- Runs statements up to the first that fails, and keeps what they did. -/
def runStatements : List (List (String × Value)) → Table → Except StorageError Unit × Table
  | [], table => (.ok (), table)
  | statement :: rest, table =>
    match runStatement statement table with
    | (.ok (), changed) => runStatements rest changed
    | (.error problem, changed) => (.error problem, changed)

/-- Writes rows in statements. -/
def upsert (rows : List (String × Value)) (table : Table) : Except StorageError Unit × Table :=
  runStatements (chunksOf statementSize rows) table

/-- The total of a counter. -/
def counter (key : String) (table : Table) : Except StorageError Int64 :=
  match table.find? key with
  | some (.counter total) => .ok total
  | some (.gauge _) => .error (.wrongKind key)
  | none => .error (.notFound key)

/-- The reading of a gauge. -/
def gauge (key : String) (table : Table) : Except StorageError Binary64 :=
  match table.find? key with
  | some (.gauge reading) => .ok reading
  | some (.counter _) => .error (.wrongKind key)
  | none => .error (.notFound key)

end Table

end Metering
