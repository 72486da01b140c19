/-
The database backend: a table, the connection to it, and what an open transaction has made of
the table. Reads and writes see the table of the transaction, if one is open. A bulk write
outside a transaction is one of its own. Without a connection or without the table everything
fails.
-/

import Metering.Storage.Repository
import Metering.Storage.Table

namespace Metering

/-- The database backend. There is no table when its making was undone. -/
structure Database where
  connected : Bool
  committed : Option Table
  pending : Option (Option Table)
  deriving DecidableEq

namespace Database

/-- Connects to a database that may have the table; the table is made if it is missing. -/
def connect (table : Option Table) : Database := ⟨true, some (table.getD KeyMap.empty), none⟩

/-- The table that reads and writes see. -/
def current (database : Database) : Option Table := database.pending.getD database.committed

/-- The database with another table in the place that reads and writes see. -/
def withCurrent (database : Database) (table : Table) : Database :=
  if database.pending.isSome then { database with pending := some (some table) }
  else { database with committed := some table }

/-- The database where the making of the table is undone. -/
def dropTable (database : Database) : Database :=
  if database.pending.isSome then { database with pending := some none }
  else { database with committed := none }

/-- An action on the connection. -/
def whenConnected {Answer : Type} (answer : Answer) (change : Database → Database) :
    Action Database Answer := fun database =>
  if database.connected then (.ok answer, change database) else (.error .database, database)

/-- A read of the table. -/
def query {Answer : Type} (answer : Table → Except StorageError Answer) :
    Action Database Answer := fun database =>
  match database.connected, database.current with
  | true, some table => (answer table, database)
  | _, _ => (.error .database, database)

/-- A write to the table, as far as it gets. -/
def execute (statements : Table → Except StorageError Unit × Table) : Action Database Unit :=
  fun database =>
    match database.connected, database.current with
    | true, some table =>
      let (result, changed) := statements table
      (result, database.withCurrent changed)
    | _, _ => (.error .database, database)

/-- A write to the table that is kept as a whole or not at all, unless a transaction is
open. -/
def executeAll (rows : List (String × Value)) : Action Database Unit := fun database =>
  if rows.isEmpty then (.ok (), database)
  else
    match (execute (Table.upsert rows)).on database with
    | (.ok (), changed) => (.ok (), changed)
    | (.error problem, changed) =>
      (.error problem, if database.pending.isSome then changed else database)

instance : Repository Database where
  has key := query fun table => .ok (table.contains key)
  counter key := query (Table.counter key)
  gauge key := query (Table.gauge key)
  setCounter key total := execute (Table.upsert [(key, .counter total)])
  setCounters totals := executeAll (totals.toList.map fun entry => (entry.1, .counter entry.2))
  setGauge key reading := execute (Table.upsert [(key, .gauge reading)])
  setGauges readings := executeAll (readings.toList.map fun entry => (entry.1, .gauge entry.2))
  all := query fun table => .ok table
  ping := whenConnected () id
  close := fun database => (.ok (), { database with connected := false, pending := none })
  start := whenConnected .full fun database =>
    { database with pending := some database.committed }
  commit := fun database =>
    (.ok (), { database with committed := database.current, pending := none })
  rollback := fun database => (.ok (), { database with pending := none })

end Database

end Metering
