/-
The storage of a server: the database backend where a connection string is set, the memory
backend otherwise. What outlives a server is on its disk, snapshot files and databases.
-/

import Metering.Storage.Address
import Metering.Storage.Database
import Metering.Storage.Memory

namespace Metering

/-- How a server keeps its metrics. -/
structure StorageSettings where
  path : Option String
  interval : Nat
  restore : Bool
  dsn : Option String
  deriving DecidableEq, Repr

/-- A storage of either backend; a database knows the file it is in. -/
inductive Storage
  | memory (store : MemoryStore)
  | database (file : Option Path) (store : Database)
  deriving DecidableEq

/-- What outlives a server: its files, and the tables of the databases among them. -/
structure Disk where
  files : Files
  tables : List (Path × Option Table)

namespace Storage

/-- The action of either backend. -/
def either {Answer : Type} (onMemory : Action MemoryStore Answer)
    (onDatabase : Action Database Answer) : Action Storage Answer
  | .memory store =>
    let (answer, changed) := onMemory.on store
    (answer, .memory changed)
  | .database file store =>
    let (answer, changed) := onDatabase.on store
    (answer, .database file changed)

instance : Repository Storage where
  has key := either (Repository.has key) (Repository.has key)
  counter key := either (Repository.counter key) (Repository.counter key)
  gauge key := either (Repository.gauge key) (Repository.gauge key)
  setCounter key total := either (Repository.setCounter key total) (Repository.setCounter key total)
  setCounters totals := either (Repository.setCounters totals) (Repository.setCounters totals)
  setGauge key reading := either (Repository.setGauge key reading) (Repository.setGauge key reading)
  setGauges readings := either (Repository.setGauges readings) (Repository.setGauges readings)
  all := either Repository.all Repository.all
  ping := either Repository.ping Repository.ping
  close := either Repository.close Repository.close
  start := either Repository.start Repository.start
  commit := either Repository.commit Repository.commit
  rollback := either Repository.rollback Repository.rollback

/-- Opens the database in a file. -/
def openFile (disk : Disk) (path : Path) (makeMissing : Bool) : Except StorageError Storage :=
  match disk.files.checkAbove path, disk.files.node? path, disk.tables.lookup path with
  | .ok (), some (.file _), some table => .ok (.database (some path) (Database.connect table))
  | .ok (), none, _ =>
    if makeMissing then .ok (.database (some path) (Database.connect none)) else .error .database
  | _, _, _ => .error .database

/-- Opens a storage on a disk. -/
def «open» (settings : StorageSettings) (disk : Disk) : Except StorageError Storage :=
  match settings.dsn.filter (· != "") with
  | none =>
    .ok (.memory (MemoryStore.open disk.files (settings.path.map Path.ofText) settings.interval
      settings.restore))
  | some dsn =>
    match DatabasePlace.ofText? dsn with
    | none => .error .database
    | some .inMemory => .ok (.database none (Database.connect none))
    | some (.inFile path makeMissing) => openFile disk path makeMissing

/-- The disk after a storage on it is let go. -/
def release (disk : Disk) : Storage → Disk
  | .memory store => { disk with files := store.release }
  | .database none _ => disk
  | .database (some path) store =>
    { files := disk.files.put path (.file [])
      tables := (path, store.committed) :: disk.tables.filter fun entry => entry.1 != path }

end Storage

end Metering
