/-
What is left of a call that fails: nothing. A database gives up the transaction. The memory
backend has none, but there a single write that is refused changes nothing, and the second bulk
write of a batch is refused for no key that has passed the checks before the first one, unless
the key was held under both kinds before.
-/

import Metering.Proofs.Service.Applied

namespace Metering

variable {Answer : Type}

/-! ### Stores that are unchanged -/

namespace Storage

theorem either_error_memory {onMemory : Action MemoryStore Answer}
    {onDatabase : Action Database Answer} {store : MemoryStore} {after : Storage}
    {problem : StorageError}
    (failed : (either onMemory onDatabase).on (.memory store) = (.error problem, after)) :
    ∃ changed, onMemory.on store = (.error problem, changed) ∧ after = .memory changed := by
  obtain ⟨isError, isAfter⟩ := Prod.mk.inj failed
  exact ⟨(onMemory.on store).2, Prod.ext isError rfl, isAfter.symm⟩

/-- A store as it was, but for a transaction that was given up. -/
def Unchanged (store after : Storage) : Prop := after = store ∨ after = store.undone

theorem kept_of_unchanged {store after : Storage} (unchanged : Unchanged store after) :
    after.kept = store.kept := by
  rcases unchanged with rfl | rfl
  · rfl
  · exact kept_undone store

end Storage

namespace Service

open Storage (Unchanged)

theorem inTransaction_fst_of_unchanged (call : Call Storage Answer) {store after : Storage}
    (unchanged : Unchanged store after) :
    (inTransaction call after).1 = (inTransaction call store).1 := by
  rcases unchanged with rfl | rfl
  · rfl
  · exact inTransaction_undone_fst call store

/-! ### Calls on the memory backend that fail -/

theorem write_error_memory {change : Contents → Except StorageError Contents}
    {onDatabase : Action Database Unit} {store : MemoryStore} {after : Storage}
    {problem : ServiceError}
    (failed : storing (Storage.either (MemoryStore.write change) onDatabase) (.memory store) =
      (.error problem, after)) : after = .memory store := by
  obtain ⟨reason, refused⟩ := storing_error failed
  obtain ⟨changed, inMemory, rfl⟩ := Storage.either_error_memory refused
  rw [MemoryStore.write_error inMemory]

theorem apply_error_memory {request : Update} {store : MemoryStore} {after : Storage}
    {problem : ServiceError} (failed : apply request (.memory store) = (.error problem, after)) :
    after = .memory store := by
  unfold apply at failed
  cases asked : request.value with
  | gauge reading =>
    simp only [asked] at failed
    rcases Call.bind_error failed with refused | ⟨_, _, _, answered⟩
    · exact write_error_memory refused
    · cases answered
  | counter delta =>
    simp only [asked] at failed
    rcases Call.bind_error failed with unsummed | ⟨total, middle, summed, refused⟩
    · rw [← newTotal_snd request.key delta (.memory store), unsummed]
    · have isMiddle : middle = .memory store := by
        rw [← newTotal_snd request.key delta (.memory store), summed]
      rw [isMiddle] at refused
      rcases Call.bind_error refused with unwritten | ⟨_, _, _, answered⟩
      · exact write_error_memory unwritten
      · cases answered

/-- The counters of a batch are written, and its gauges are refused for one of the keys. -/
structure HalfWritten (batch : Batch) (before after : Holdings) (totals : KeyMap Int64)
    (key : String) : Prop where
  sum : (totals.find? key).map Int64.toInt =
    (batch.deltas.find? key).map fun delta => (before.total key).toInt + delta.toInt
  result : after = before.withCounters totals
  inBatch : batch.gauges.contains key = true
  passed : before.gauge? key = none → before.counter? key = none
  refused : after.counter? key ≠ none

theorem applyBatch_error_memory {batch : Batch} {store : MemoryStore} {after : Storage}
    {problem : ServiceError}
    (failed : applyBatch batch (.memory store) = (.error problem, after)) :
    after = .memory store ∨
      ∃ totals key, HalfWritten batch store.contents.holdings after.seen totals key := by
  rcases Call.bind_error failed with unsummed | ⟨totals, second, summed, checks⟩
  · left
    rw [← newTotals_snd batch.deltas (.memory store), unsummed]
  have isSecond : second = .memory store := by
    rw [← newTotals_snd batch.deltas (.memory store), summed]
  rw [isSecond] at checks
  rcases Call.bind_error checks with stopped | ⟨_, third, passed, writes⟩
  · left
    rw [← requireGauges_snd batch.gauges.keys (.memory store), stopped]
  have isThird : third = .memory store := by
    rw [← requireGauges_snd batch.gauges.keys (.memory store), passed]
  rw [isThird] at writes
  rcases Call.bind_error writes with unwritten | ⟨_, middle, first, last⟩
  · left
    obtain ⟨reason, refused⟩ := storing_error unwritten
    obtain ⟨changed, inMemory, rfl⟩ := Storage.either_error_memory refused
    rw [MemoryStore.setCounters_error inMemory]
  · right
    obtain ⟨counted, written, rfl⟩ := Storage.either_ok_memory (storing_ok first)
    obtain ⟨reason, refused⟩ := storing_error last
    obtain ⟨changed, inMemory, rfl⟩ := Storage.either_error_memory refused
    obtain ⟨rfl, key, inBatch, shared⟩ := MemoryStore.setGauges_error inMemory
    exact ⟨totals, key, newTotals_ok summed key, (MemoryStore.setCounters_ok written).1, inBatch,
      requireGauges_ok passed ((batch.gauges.mem_keys_iff key).mpr inBatch), shared⟩

/-- The second write of a batch is not refused after the first one, unless one of its gauges is
held under both kinds. -/
theorem not_halfWritten {batch : Batch} {before after : Holdings} {totals : KeyMap Int64}
    {key : String} (batchApart : batch.deltas.find? key = none ∨ batch.gauges.find? key = none)
    (apart : before.Apart key) : ¬ HalfWritten batch before after totals key := by
  intro half
  obtain ⟨reading, found⟩ := (KeyMap.contains_eq_true_iff _ _).mp half.inBatch
  have noDelta := batchApart.resolve_right (found ▸ Option.some_ne_none reading)
  have noTotal := half.sum
  rw [noDelta] at noTotal
  have noCounter : before.counter? key = none := by
    rcases apart with free | free
    · exact free
    · exact half.passed free
  apply half.refused
  rw [half.result]
  exact Option.or_eq_none_iff.mpr ⟨Option.map_eq_none_iff.mp noTotal, noCounter⟩

/-! ### Calls that fail -/

/-- A call that leaves the memory backend alone when it fails leaves every store alone when it
fails in a transaction. -/
theorem inTransaction_error_unchanged {call : Call Storage Answer}
    (within : Call.Keeps Storage.Within call) {store after : Storage} {problem : ServiceError}
    (onMemory : ∀ start done, store = .memory start →
      call (.memory start) = (.error problem, done) → done = .memory start)
    (failed : inTransaction call store = (.error problem, after)) : Unchanged store after := by
  rcases inTransaction_error failed with rfl | ⟨middle, called, rfl⟩
  · exact Or.inl rfl
  · have inside := within store.begun
    rw [called] at inside
    rcases Storage.undone_of_within inside with undone | ⟨start, done, rfl, rfl⟩
    · exact Or.inr undone
    · left
      rw [onMemory start (.memory done) rfl called]
      rfl

theorem update_error {request : Update} {store after : Storage} {problem : ServiceError}
    (failed : update request store = (.error problem, after)) : Unchanged store after :=
  inTransaction_error_unchanged (within_apply request)
    (fun _ _ _ refused => apply_error_memory refused) failed

theorem updateMetric_error {metric : Metric} {store after : Storage} {problem : ServiceError}
    (failed : updateMetric metric store = (.error problem, after)) : Unchanged store after := by
  rcases requiring_bind_error failed with same | ⟨request, _, failed⟩
  · exact Or.inl same
  · rcases Call.bind_error failed with refused | ⟨_, _, _, answered⟩
    · exact update_error refused
    · cases answered

/-- A list of updates fails before its transaction or in it. -/
theorem updateMany_error_cases {updates : List Update} {store after : Storage}
    {problem : ServiceError} (failed : updateMany updates store = (.error problem, after)) :
    after = store ∨ ∃ batch, Batch.ofUpdates updates = .ok batch ∧
      inTransaction (applyBatch batch) store = (.error problem, after) := by
  unfold updateMany at failed
  split at failed
  · cases failed
  · exact requiring_bind_error failed

theorem updateMany_error {updates : List Update} {store after : Storage}
    {problem : ServiceError}
    (apart : ∀ key, Update.readings key updates ≠ [] → store.kept.Apart key)
    (failed : updateMany updates store = (.error problem, after)) : Unchanged store after := by
  rcases updateMany_error_cases failed with same | ⟨batch, merged, failed⟩
  · exact Or.inl same
  · refine inTransaction_error_unchanged (within_applyBatch batch) ?_ failed
    rintro start done rfl refused
    rcases applyBatch_error_memory refused with unchanged | ⟨totals, key, half⟩
    · exact unchanged
    · have merges := Batch.ofUpdates_ok merged
      obtain ⟨reading, found⟩ := (KeyMap.contains_eq_true_iff _ _).mp half.inBatch
      have occurs : Update.readings key updates ≠ [] := fun none => by
        rw [merges.reading, none] at found
        cases found
      exact absurd half (not_halfWritten
        (Or.inl ((merges.absent key).mpr ((merges.apart key).resolve_right occurs)))
        (apart key occurs))

/-- Whatever a list of updates fails for, no gauge is changed. -/
theorem updateMany_error_gauge? {updates : List Update} {store after : Storage}
    {problem : ServiceError} (failed : updateMany updates store = (.error problem, after)) :
    after.kept.gauge? = store.kept.gauge? := by
  rcases updateMany_error_cases failed with rfl | ⟨batch, _, failed⟩
  · rfl
  rcases inTransaction_error failed with rfl | ⟨middle, called, rfl⟩
  · rfl
  have inside := within_applyBatch batch store.begun
  rw [called] at inside
  rcases Storage.undone_of_within inside with undone | ⟨start, done, rfl, rfl⟩
  · rw [undone, Storage.kept_undone]
  rcases applyBatch_error_memory called with unchanged | ⟨totals, key, half⟩
  · rw [unchanged]
    rfl
  · show (Storage.memory done).seen.gauge? = start.contents.holdings.gauge?
    rw [half.result]
    rfl

theorem updateMetrics_error {metrics : List Metric} {store after : Storage}
    {problem : ServiceError} (apart : store.KindsApart)
    (failed : updateMetrics metrics store = (.error problem, after)) : Unchanged store after := by
  rcases requiring_bind_error failed with same | ⟨updates, _, failed⟩
  · exact Or.inl same
  · exact updateMany_error (fun key _ => apart key) failed

/-- A call that fails leaves everything as it was, in a store that holds no key under both
kinds. -/
def Atomic (call : Call Storage Answer) : Prop :=
  ∀ store after problem, store.KindsApart → call store = (.error problem, after) →
    after.kept = store.kept ∧ (all after).1 = (all store).1

theorem unchanged_all {store after : Storage} (unchanged : Unchanged store after) :
    after.kept = store.kept ∧ (all after).1 = (all store).1 :=
  ⟨Storage.kept_of_unchanged unchanged, inTransaction_fst_of_unchanged _ unchanged⟩

/-- Every call that writes is atomic, for one update or many, on either backend. -/
theorem writes_atomic :
    (∀ request, Atomic (update request)) ∧ (∀ metric, Atomic (updateMetric metric)) ∧
    (∀ updates, Atomic (updateMany updates)) ∧ ∀ metrics, Atomic (updateMetrics metrics) := by
  refine ⟨?_, ?_, ?_, ?_⟩
  · exact fun request store after problem _ failed => unchanged_all (update_error failed)
  · exact fun metric store after problem _ failed => unchanged_all (updateMetric_error failed)
  · exact fun updates store after problem apart failed =>
      unchanged_all (updateMany_error (fun key _ => apart key) failed)
  · exact fun metrics store after problem apart failed =>
      unchanged_all (updateMetrics_error apart failed)

theorem writes_atomic_wrong_kind :
    let store := Storage.memory
      { MemoryStore.ephemeral with contents := ⟨KeyMap.ofList [("k", 7)], KeyMap.empty⟩ }
    ∃ after, updateMany [⟨"a", .counter 1⟩, ⟨"k", .gauge ⟨0⟩⟩] store =
      (.error (.storage (.wrongKind "k")), after) ∧ (all after).1 = (all store).1 := by
  refine ⟨_, rfl, ?_⟩
  exact (writes_atomic.2.2.1 [⟨"a", .counter 1⟩, ⟨"k", .gauge ⟨0⟩⟩] _ _ _
    (fun _ => Or.inr rfl) rfl).2

end Service

end Metering
