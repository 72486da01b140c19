/-
The memory backend: contents, and a snapshot file that they are written to. Without a path
nothing is written. With the interval zero the snapshot follows every successful write, before
the write returns; with another interval a worker writes it on every tick since the opening and
once more when the store is closed or let go. A snapshot that cannot be written is no failure
of the call.
-/

import Metering.Storage.Repository
import Metering.Storage.SnapshotFile

namespace Metering

/-- The worker that writes snapshots, and the milliseconds to its next tick. -/
structure SnapshotWorker where
  interval : Nat
  untilTick : Nat
  deriving DecidableEq, Repr

/-- The memory backend and the files around it. -/
structure MemoryStore where
  contents : Contents
  files : Files
  path : Option Path
  afterEachWrite : Bool
  worker : Option SnapshotWorker
  deriving DecidableEq

namespace MemoryStore

/-- A store without a file. -/
def ephemeral : MemoryStore := ⟨Contents.empty, Files.empty, none, false, none⟩

/-- The contents that a store starts with: those of its file, if they are wanted and readable. -/
def initial (files : Files) (path : Option Path) (restore : Bool) : Contents :=
  match path, restore with
  | some path, true =>
    match SnapshotFile.read path files with
    | .ok (some contents) => contents
    | _ => Contents.empty
  | _, _ => Contents.empty

/-- Opens a store among files. -/
def «open» (files : Files) (path : Option Path) (interval : Nat) (restore : Bool) :
    MemoryStore :=
  ⟨initial files path restore, files, path, path.isSome && interval == 0,
    if path.isSome ∧ interval ≠ 0 then some ⟨interval, interval⟩ else none⟩

/-- Writes the snapshot, if there is a path. -/
def save (store : MemoryStore) : MemoryStore :=
  match store.path with
  | none => store
  | some path => { store with files := (SnapshotFile.write path store.contents store.files).2 }

/-- The store after a successful write. -/
def written (store : MemoryStore) (contents : Contents) : MemoryStore :=
  let changed := { store with contents }
  if store.afterEachWrite then changed.save else changed

/-- A write to the contents. -/
def write (change : Contents → Except StorageError Contents) : Action MemoryStore Unit :=
  Action.changing fun store => (change store.contents).map store.written

/-- A read of the contents. -/
def inspect {Answer : Type} (answer : Contents → Except StorageError Answer) :
    Action MemoryStore Answer :=
  Action.reading fun store => answer store.contents

/-- Lets milliseconds pass. Ticks with no write between them write the same snapshot, so one
of them stands for all. -/
def advance (milliseconds : Nat) (store : MemoryStore) : MemoryStore :=
  match store.worker with
  | none => store
  | some worker =>
    if milliseconds < worker.untilTick then
      { store with worker := some ⟨worker.interval, worker.untilTick - milliseconds⟩ }
    else
      let late := (milliseconds - worker.untilTick) % worker.interval
      { store.save with worker := some ⟨worker.interval, worker.interval - late⟩ }

/-- Writes the last snapshot and sends the worker away. -/
def closed (store : MemoryStore) : MemoryStore := { store.save with worker := none }

/-- The files after the store is let go without closing it. -/
def release (store : MemoryStore) : Files :=
  if store.worker.isSome then store.save.files else store.files

instance : Repository MemoryStore where
  has key := inspect fun contents => .ok (contents.has key)
  counter key := inspect fun contents => contents.counter key
  gauge key := inspect fun contents => contents.gauge key
  setCounter key total := write (Contents.setCounter key total)
  setCounters totals := if totals.isEmpty then pure () else write (Contents.setCounters totals)
  setGauge key reading := write (Contents.setGauge key reading)
  setGauges readings := if readings.isEmpty then pure () else write (Contents.setGauges readings)
  all := inspect fun contents => .ok contents.all
  ping := pure ()
  close := Action.changing fun store => .ok store.closed
  start := pure .none
  commit := pure ()
  rollback := pure ()

end MemoryStore

end Metering
