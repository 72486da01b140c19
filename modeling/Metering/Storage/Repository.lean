/-
What every backend offers: reads and writes of single metrics, bulk writes, a listing of all,
and transactions. An action on a store gives an answer or an error, and the store as it is
afterwards in both cases.
-/

import Metering.Storage.Contents

namespace Metering

/-- What may happen to a store of a type. -/
abbrev Action (Store Answer : Type) : Type := ExceptT StorageError (StateM Store) Answer

/-- What a transaction is worth. -/
inductive Isolation
  | none
  | full
  deriving DecidableEq, Repr

/-- A store of counters and gauges. -/
class Repository (Store : Type) where
  /-- Whether a key has a value of either kind. -/
  has : String → Action Store Bool
  /-- The total of a counter. -/
  counter : String → Action Store Int64
  /-- The reading of a gauge. -/
  gauge : String → Action Store Binary64
  /-- Writes the total of a counter. -/
  setCounter : String → Int64 → Action Store Unit
  /-- Writes the totals of several counters. -/
  setCounters : KeyMap Int64 → Action Store Unit
  /-- Writes the reading of a gauge. -/
  setGauge : String → Binary64 → Action Store Unit
  /-- Writes the readings of several gauges. -/
  setGauges : KeyMap Binary64 → Action Store Unit
  /-- All metrics in key order. -/
  all : Action Store (KeyMap Value)
  /-- Checks that the store can be reached. -/
  ping : Action Store Unit
  /-- Writes down what has to be, and lets go of the store. -/
  close : Action Store Unit
  /-- Starts a transaction. -/
  start : Action Store Isolation
  /-- Keeps what was done since the start. -/
  commit : Action Store Unit
  /-- Gives up what was done since the start, as far as the backend can. -/
  rollback : Action Store Unit

namespace Action

variable {Store Answer : Type}

/-- An answer that depends on the store and leaves it alone. -/
def reading (answer : Store → Except StorageError Answer) : Action Store Answer :=
  fun store => (answer store, store)

/-- A change of the store that may be refused. -/
def changing (change : Store → Except StorageError Store) : Action Store Unit :=
  fun store =>
    match change store with
    | .ok changed => (.ok (), changed)
    | .error problem => (.error problem, store)

/-- The answer of an action, and the store after it. -/
def on (store : Store) (action : Action Store Answer) : Except StorageError Answer × Store :=
  action store

end Action

end Metering
