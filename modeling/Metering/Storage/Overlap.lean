/-
Calls that overlap in one memory store. The contents are changed under one lock; a snapshot is
made under another, held from before the contents are copied until the copy has taken the place
of the file. Between these moments anyone else may go on. Whoever makes snapshots goes through
the same stages, the worker as well as a call that has changed something; the states that the
store has had are kept in order, so that a snapshot can be told by the state that it holds.
-/

import Metering.Storage.Memory

namespace Metering

/-- How far someone is with a snapshot, and the number of the state that it has to hold or to
be newer than. -/
inductive SnapshotStage
  /-- Nothing is to be written. -/
  | away
  /-- Waits for the lock. -/
  | waiting (since : Nat)
  /-- Has the lock. -/
  | locked (since : Nat)
  /-- Has the lock and a copy of the contents. -/
  | copied (since : Nat) (copy : Contents)
  /-- Has the lock, and the copy is in the file. -/
  | replaced (since : Nat)
  /-- Has given up the lock and is about to return. -/
  | finished (since : Nat)
  deriving DecidableEq

/-- What happens in a store that several share; everyone in it has a number. -/
inductive OverlapEvent
  /-- A call changes the contents, unless the change is refused. -/
  | changed (who : Nat) (change : Contents → Except StorageError Contents)
  /-- The worker is to make a snapshot. -/
  | ticked (who : Nat)
  /-- The lock is taken. -/
  | locked (who : Nat)
  /-- The contents are copied. -/
  | copied (who : Nat)
  /-- The copy takes the place of the file. -/
  | replaced (who : Nat)
  /-- The lock is given up. -/
  | unlocked (who : Nat)
  /-- The call returns. -/
  | returned (who : Nat)

/-- A store that several share: the states before the present one, the present one, the files,
whether a snapshot follows each write, who has the lock of the snapshots, and how far everyone
is. -/
structure SharedStore where
  past : List Contents
  contents : Contents
  files : Files
  path : Path
  afterEachWrite : Bool
  holder : Option Nat
  stage : Nat → SnapshotStage

namespace SharedStore

/-- A store that nobody uses yet. -/
def opened (contents : Contents) (files : Files) (path : Path) (afterEachWrite : Bool) :
    SharedStore :=
  ⟨[], contents, files, path, afterEachWrite, none, fun _ => .away⟩

/-- The states that the store has had, oldest first. -/
def states (store : SharedStore) : List Contents := store.past ++ [store.contents]

/-- The number of the present state, counted from zero. -/
def present (store : SharedStore) : Nat := store.past.length

/-- The store with someone at another stage. -/
def enter (who : Nat) (stage : SnapshotStage) (store : SharedStore) : SharedStore :=
  { store with stage := fun other => if other = who then stage else store.stage other }

/-- The store in another state. -/
def change (contents : Contents) (store : SharedStore) : SharedStore :=
  { store with past := store.states, contents }

/-- The store after an event. Events that do not fit how far someone is change nothing; nor does
taking a lock that someone has. -/
def step [Gzip.Deflater] (store : SharedStore) : OverlapEvent → SharedStore
  | .changed who change =>
    match store.stage who, change store.contents with
    | .away, .ok contents =>
      let changed := store.change contents
      changed.enter who
        (if store.afterEachWrite then .waiting changed.present else .finished changed.present)
    | _, _ => store
  | .ticked who =>
    match store.stage who with
    | .away => store.enter who (.waiting store.present)
    | _ => store
  | .locked who =>
    match store.stage who, store.holder with
    | .waiting since, none => { store with holder := some who }.enter who (.locked since)
    | _, _ => store
  | .copied who =>
    match store.stage who with
    | .locked since => store.enter who (.copied since store.contents)
    | _ => store
  | .replaced who =>
    match store.stage who with
    | .copied since copy =>
      let (_, files) := SnapshotFile.write store.path copy store.files
      { store with files }.enter who (.replaced since)
    | _ => store
  | .unlocked who =>
    match store.stage who with
    | .replaced since => { store with holder := none }.enter who (.finished since)
    | _ => store
  | .returned who =>
    match store.stage who with
    | .finished _ => store.enter who .away
    | _ => store

/-- The store after events. -/
def run [Gzip.Deflater] (store : SharedStore) (events : List OverlapEvent) : SharedStore :=
  events.foldl step store

/-- The contents that the file of the store holds, if it is there and readable. -/
def saved? (store : SharedStore) : Option Contents :=
  match SnapshotFile.read store.path store.files with
  | .ok contents => contents
  | .error _ => none

end SharedStore

end Metering
