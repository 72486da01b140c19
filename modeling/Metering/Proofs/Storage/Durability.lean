/-
What outlives a memory backend. With the interval zero the file holds what the store holds at
every moment, so it makes no difference when the store is let go, or whether its process ends
without letting it go. With another interval this is so from the moment the store is closed until
something is written again.
-/

import Metering.Proofs.Storage.SnapshotFile
import Metering.Proofs.Storage.Writes

namespace Metering

/-- A write that the interface of repositories offers. -/
inductive RepositoryWrite
  | setCounter (key : String) (total : Int64)
  | setCounters (totals : KeyMap Int64)
  | setGauge (key : String) (reading : Binary64)
  | setGauges (readings : KeyMap Binary64)

/-- The action of a write. -/
def RepositoryWrite.action {Store : Type} [Repository Store] : RepositoryWrite → Action Store Unit
  | .setCounter key total => Repository.setCounter key total
  | .setCounters totals => Repository.setCounters totals
  | .setGauge key reading => Repository.setGauge key reading
  | .setGauges readings => Repository.setGauges readings

namespace MemoryStore

/-- The store that is opened on the same file after this one was let go. -/
def reopened (interval : Nat) (store : MemoryStore) : MemoryStore :=
  «open» store.release store.path interval true

/-- The store that is opened on the same file after the process of this one has ended. -/
def restarted (interval : Nat) (store : MemoryStore) : MemoryStore :=
  «open» store.files store.path interval true

/-- What happens to stores on one file, one after the other. -/
inductive Event
  | wrote (write : RepositoryWrite)
  | advanced (milliseconds : Nat)
  | closed
  | reopened (interval : Nat)
  | restarted (interval : Nat)

/-- The store after an event. -/
def step (store : MemoryStore) : Event → MemoryStore
  | .wrote write => (write.action.on store).2
  | .advanced milliseconds => store.advance milliseconds
  | .closed => ((Repository.close : Action MemoryStore Unit).on store).2
  | .reopened interval => store.reopened interval
  | .restarted interval => store.restarted interval

/-- The store after events. -/
def run (store : MemoryStore) (events : List Event) : MemoryStore := events.foldl step store

/-- Whether a write succeeds as an event. -/
def Succeeds (store : MemoryStore) (event : Event) : Prop :=
  ∃ write after, event = .wrote write ∧ write.action.on store = (.ok (), after)

/-- No write succeeds among events. -/
def IsQuiet (store : MemoryStore) : List Event → Prop
  | [] => True
  | event :: rest => ¬ store.Succeeds event ∧ IsQuiet (store.step event) rest

/-- The interval of the store that is open after an event. -/
def Event.interval (current : Nat) : Event → Nat
  | .wrote _ | .advanced _ | .closed => current
  | .reopened interval | .restarted interval => interval

/-- Whoever opens the file next finds what the store holds. -/
def Survives (store : MemoryStore) : Prop :=
  ∀ interval, (store.reopened interval).contents = store.contents ∧
    (store.restarted interval).contents = store.contents

/-! ### Stores on a file -/

/-- A store with a file that can be written to. -/
structure OnFile (path : Path) (store : MemoryStore) : Prop where
  isPath : store.path = some path
  writable : SnapshotFile.Writable path store.files

/-- What would be restored from the file of a store is what the store holds. -/
def InStep (store : MemoryStore) : Prop :=
  Snapshot.Fits store.contents → initial store.files store.path true = store.contents

variable {path : Path} {store : MemoryStore}

theorem onFile_open {files : Files} (writable : SnapshotFile.Writable path files)
    (interval : Nat) : OnFile path («open» files (some path) interval true) := ⟨rfl, writable⟩

theorem inStep_open (files : Files) (path : Option Path) (interval : Nat) :
    InStep («open» files path interval true) := fun _ => rfl

/-! ### Snapshots -/

theorem save_eq (onFile : OnFile path store) :
    ∃ files, store.save = { store with files } ∧
      SnapshotFile.write path store.contents store.files = (.ok (), files) :=
  ⟨(SnapshotFile.write path store.contents store.files).2, by rw [save, onFile.isPath],
    Prod.ext (onFile.writable store.contents) rfl⟩

theorem onFile_save (onFile : OnFile path store) : OnFile path store.save := by
  obtain ⟨files, saved, written⟩ := save_eq onFile
  rw [saved]
  exact ⟨onFile.isPath, (SnapshotFile.of_write written).2⟩

theorem inStep_save (onFile : OnFile path store) : InStep store.save := by
  intro fits
  obtain ⟨files, saved, written⟩ := save_eq onFile
  rw [saved] at fits ⊢
  have isRead := SnapshotFile.read_of_read fits (SnapshotFile.of_write written).1
  show initial files store.path true = store.contents
  rw [onFile.isPath, initial, isRead]

theorem onFile_release (onFile : OnFile path store) :
    SnapshotFile.Writable path store.release := by
  rw [release]
  split
  · exact (onFile_save onFile).writable
  · exact onFile.writable

/-- A store that its file is in step with survives. -/
theorem survives_of_inStep (onFile : OnFile path store) (inStep : InStep store)
    (fits : Snapshot.Fits store.contents) : store.Survives := by
  refine fun interval => ⟨?_, inStep fits⟩
  show initial store.release store.path true = store.contents
  rw [release]
  split
  · have saved := inStep_save onFile
    have isPath := (onFile_save onFile).isPath
    rw [InStep, contents_save, isPath, ← onFile.isPath] at saved
    exact saved fits
  · exact inStep fits

/-! ### Writes -/

/-- A write does nothing, or it is followed by a snapshot where one follows each write. -/
inductive Wrote (store : MemoryStore) : Except StorageError Unit × MemoryStore → Prop
  | refused (problem : StorageError) : Wrote store (.error problem, store)
  | nothing : Wrote store (.ok (), store)
  | changed (contents : Contents) : Wrote store (.ok (), store.written contents)

theorem wrote_write (change : Contents → Except StorageError Contents) (store : MemoryStore) :
    Wrote store ((write change).on store) := by
  rw [write_on]
  cases change store.contents with
  | error problem => exact .refused problem
  | ok contents => exact .changed contents

theorem wrote_action (write : RepositoryWrite) (store : MemoryStore) :
    Wrote store (write.action.on store) := by
  cases write with
  | setCounter key total => exact wrote_write _ store
  | setGauge key reading => exact wrote_write _ store
  | setCounters totals =>
    simp only [RepositoryWrite.action, Repository.setCounters]
    split
    · exact .nothing
    · exact wrote_write _ store
  | setGauges readings =>
    simp only [RepositoryWrite.action, Repository.setGauges]
    split
    · exact .nothing
    · exact wrote_write _ store

theorem onFile_written (onFile : OnFile path store) (contents : Contents) :
    OnFile path (store.written contents) := by
  have changed : OnFile path { store with contents } := ⟨onFile.isPath, onFile.writable⟩
  rw [written]
  split
  · exact onFile_save changed
  · exact changed

theorem inStep_written (onFile : OnFile path store) (follows : store.afterEachWrite = true)
    (contents : Contents) : InStep (store.written contents) := by
  have changed : OnFile path { store with contents } := ⟨onFile.isPath, onFile.writable⟩
  rw [written, if_pos follows]
  exact inStep_save changed

/-! ### Single events -/

theorem close_on (store : MemoryStore) :
    (Repository.close : Action MemoryStore Unit).on store = (.ok (), store.closed) := rfl

/-- What an event makes of a store: it stays as it is but for its worker, a write changes its
contents, a snapshot is made, or another store is opened on the file. -/
inductive Moved (store : MemoryStore) : Event → MemoryStore → Prop
  | stayed {event : Event} (keeps : ∀ interval, event.interval interval = interval)
    (worker : Option SnapshotWorker) : Moved store event { store with worker }
  | changed {write : RepositoryWrite} (succeeds : store.Succeeds (.wrote write))
    (contents : Contents) : Moved store (.wrote write) (store.written contents)
  | saved {event : Event} (keeps : ∀ interval, event.interval interval = interval)
    (worker : Option SnapshotWorker) : Moved store event { store.save with worker }
  | opened {event : Event} (interval : Nat) (opens : ∀ before, event.interval before = interval)
    {files : Files} (isLeft : files = store.files ∨ files = store.release) :
    Moved store event («open» files store.path interval true)

theorem moved_step (store : MemoryStore) (event : Event) :
    Moved store event (store.step event) := by
  cases event with
  | wrote write =>
    rw [step]
    have wrote := wrote_action write store
    cases result : write.action.on store with
    | mk answer after =>
      rw [result] at wrote
      cases wrote with
      | refused problem => exact .stayed (fun _ => rfl) store.worker
      | nothing => exact .stayed (fun _ => rfl) store.worker
      | changed contents => exact .changed ⟨write, _, rfl, result⟩ contents
  | advanced milliseconds =>
    rw [step, advance]
    split
    · exact .stayed (fun _ => rfl) store.worker
    · split
      · exact .stayed (fun _ => rfl) _
      · exact .saved (fun _ => rfl) _
  | closed => exact .saved (fun _ => rfl) none
  | reopened interval => exact .opened interval (fun _ => rfl) (Or.inr rfl)
  | restarted interval => exact .opened interval (fun _ => rfl) (Or.inl rfl)

namespace Moved

variable {event : Event} {after : MemoryStore} (moved : Moved store event after)

include moved

theorem onFile (onFile : OnFile path store) : OnFile path after := by
  cases moved with
  | stayed keeps worker => exact ⟨onFile.isPath, onFile.writable⟩
  | changed succeeds contents => exact onFile_written onFile contents
  | saved keeps worker =>
    have saved := onFile_save onFile
    exact ⟨saved.isPath, saved.writable⟩
  | opened interval opens isLeft =>
    refine ⟨onFile.isPath, ?_⟩
    rcases isLeft with rfl | rfl
    · exact onFile.writable
    · exact onFile_release onFile

/-- A file stays in step with its store, unless something is written that is not followed by a
snapshot. -/
theorem inStep (onFile : OnFile path store) (inStep : InStep store)
    (followed : store.afterEachWrite = true ∨ ¬ store.Succeeds event) : InStep after := by
  cases moved with
  | stayed keeps worker => exact inStep
  | changed succeeds contents =>
    exact inStep_written onFile (followed.resolve_right fun fails => fails succeeds) contents
  | saved keeps worker => exact inStep_save onFile
  | opened interval opens isLeft => exact inStep_open _ _ _

/-- A store that its file is in step with keeps its contents, unless something is written. -/
theorem contents (onFile : OnFile path store) (inStep : InStep store)
    (fits : Snapshot.Fits store.contents) (fails : ¬ store.Succeeds event) :
    after.contents = store.contents := by
  cases moved with
  | stayed keeps worker => rfl
  | changed succeeds contents => exact absurd succeeds fails
  | saved keeps worker => exact contents_save store
  | opened interval opens isLeft =>
    have survives := survives_of_inStep onFile inStep fits interval
    rcases isLeft with rfl | rfl
    · exact survives.2
    · exact survives.1

end Moved

/-! ### The interval zero -/

theorem afterEachWrite_save (store : MemoryStore) :
    store.save.afterEachWrite = store.afterEachWrite := by
  rw [save]
  split <;> rfl

/-- A store that was opened with an interval. With the interval zero a snapshot follows each
write, which keeps the file in step. -/
structure Opened (path : Path) (interval : Nat) (store : MemoryStore) : Prop where
  onFile : OnFile path store
  follows : store.afterEachWrite = (interval == 0)
  inStep : interval = 0 → InStep store

theorem opened_open {files : Files} (writable : SnapshotFile.Writable path files)
    (interval : Nat) : Opened path interval («open» files (some path) interval true) :=
  ⟨onFile_open writable interval, rfl, fun _ => inStep_open files _ interval⟩

theorem Moved.follows {event : Event} {after : MemoryStore} {interval : Nat}
    (moved : Moved store event after) (onFile : OnFile path store)
    (follows : store.afterEachWrite = (interval == 0)) :
    after.afterEachWrite = (event.interval interval == 0) := by
  cases moved with
  | stayed keeps worker =>
    rw [keeps]
    exact follows
  | changed succeeds contents =>
    rw [written]
    split
    · exact (afterEachWrite_save _).trans follows
    · exact follows
  | saved keeps worker =>
    rw [keeps]
    exact (afterEachWrite_save store).trans follows
  | opened interval opens isLeft =>
    rw [opens, onFile.isPath]
    rfl

theorem opened_step {interval : Nat} (opened : Opened path interval store) (event : Event) :
    Opened path (event.interval interval) (store.step event) := by
  have moved := moved_step store event
  refine ⟨moved.onFile opened.onFile, moved.follows opened.onFile opened.follows, fun zero => ?_⟩
  cases event with
  | reopened other => exact inStep_open _ _ other
  | restarted other => exact inStep_open _ _ other
  | _ =>
    have follows := opened.follows.trans (beq_iff_eq.mpr zero)
    exact moved.inStep opened.onFile (opened.inStep zero) (.inl follows)

theorem opened_run {interval : Nat} (opened : Opened path interval store) (events : List Event) :
    Opened path (events.foldl Event.interval interval) (store.run events) := by
  induction events generalizing store interval with
  | nil => exact opened
  | cons event rest inductionHypothesis => exact inductionHypothesis (opened_step opened event)

/-! ### Quiet events -/

/-- Until something is written a store that its file is in step with stays as it is, however
often it is let go and opened again. -/
theorem survives_of_quiet (onFile : OnFile path store) (inStep : InStep store)
    (fits : Snapshot.Fits store.contents) {later : List Event} (quiet : store.IsQuiet later) :
    (store.run later).contents = store.contents ∧ (store.run later).Survives := by
  induction later generalizing store with
  | nil => exact ⟨rfl, survives_of_inStep onFile inStep fits⟩
  | cons event rest inductionHypothesis =>
    obtain ⟨fails, others⟩ := quiet
    have moved := moved_step store event
    have same := moved.contents onFile inStep fits fails
    obtain ⟨contents, survives⟩ := inductionHypothesis (moved.onFile onFile)
      (moved.inStep onFile inStep (.inr fails)) (same ▸ fits) others
    exact ⟨contents.trans same, survives⟩

/-! ### Durability -/

/-- Where the file can be written to, and after any writes, whether they succeed or not, clock
advances, closings and openings: a store of the interval zero survives at every moment, and a
store of any interval does once it is closed, until something is written again. -/
theorem contents_survive {path : Path} {files : Files}
    (writable : SnapshotFile.Writable path files) (first : Nat) (events : List Event) :
    let store := run («open» files (some path) first true) events
    (events.foldl Event.interval first = 0 → Snapshot.Fits store.contents → store.Survives) ∧
      ∃ closed, (Repository.close : Action MemoryStore Unit).on store = (.ok (), closed) ∧
        closed.contents = store.contents ∧
        (Snapshot.Fits store.contents → ∀ later, closed.IsQuiet later →
          (closed.run later).contents = store.contents ∧ (closed.run later).Survives) := by
  intro store
  have opened : Opened path (events.foldl Event.interval first) store :=
    opened_run (opened_open writable first) events
  refine ⟨fun zero => survives_of_inStep opened.onFile (opened.inStep zero), store.closed,
    close_on store, contents_save store, fun fits later quiet => ?_⟩
  have same : store.closed.contents = store.contents := contents_save store
  rw [← same] at fits ⊢
  exact survives_of_quiet ((moved_step store .closed).onFile opened.onFile)
    (inStep_save opened.onFile) fits quiet

theorem contents_survive_odd_readings :
    let events : List Event :=
      [.wrote (.setGauge "load" ⟨0x7FF8000000000001⟩), .wrote (.setCounter "load" 1),
        .wrote (.setGauge "idle" ⟨0x8000000000000000⟩), .wrote (.setCounter "polls" (-1)),
        .advanced 500]
    let store := run («open» Files.empty (some ["metrics.db"]) 0 true) events
    store.contents.gauge "load" = .ok ⟨0x7FF8000000000001⟩ ∧
      store.contents.counter "polls" = .ok (-1) ∧
      (store.restarted 2).contents = store.contents ∧
      (store.closed.run [.wrote (.setCounter "idle" 1), .reopened 3]).contents =
        store.contents := by
  intro events store
  obtain ⟨always, closed, isClosed, _, after⟩ :=
    contents_survive (SnapshotFile.writable_empty "metrics.db" (by decide)) 0 events
  have fits : Snapshot.Fits store.contents := by decide
  refine ⟨rfl, rfl, (always rfl fits 2).2, ?_⟩
  obtain rfl : store.closed = closed := (Prod.mk.inj isClosed).2
  refine (after fits [.wrote (.setCounter "idle" 1), .reopened 3] ⟨?_, ?_, trivial⟩).1
  · rintro ⟨write, changed, same, done⟩
    cases same
    cases done
  · rintro ⟨write, changed, same, _⟩
    cases same

end MemoryStore

end Metering
