/-
When a list of updates is accepted. Its metrics have to be acceptable and its merging has to go
through; then it is enough that no key is held under the other kind and that every sum with the
total before is still a counter. All of this is checked before anything is written, and the writes
that follow are accepted where the checks have passed.
-/

import Metering.Proofs.Service.Applied
import Metering.Proofs.Storage.Answers

namespace Metering

/-! ### Merging -/

namespace Batch

theorem addTo_of_isCounter (key : String) {total delta : Int64}
    (inRange : Tally.IsCounter (total.toInt + delta.toInt)) :
    ∃ sum, addTo key total delta = .ok sum := by
  obtain ⟨sum, added⟩ := Tally.checkedAdd?_of_isCounter inRange
  exact ⟨sum, by rw [addTo, added]⟩

/-- An update of a key that is not in a batch yet is taken up. -/
theorem add_of_new {batch : Batch} {update : Update}
    (noDelta : batch.deltas.find? update.key = none)
    (noReading : batch.gauges.find? update.key = none) :
    ∃ after, batch.add update = .ok after := by
  have notDelta := (KeyMap.contains_eq_false_iff _ _).mpr noDelta
  have notReading := (KeyMap.contains_eq_false_iff _ _).mpr noReading
  unfold add
  cases isValue : update.value with
  | counter delta =>
    have alone : Tally.IsCounter ((0 : Int64).toInt + delta.toInt) := by
      rw [Int64.toInt_zero, Int.zero_add]
      exact Tally.isCounter_toInt delta
    obtain ⟨sum, added⟩ := addTo_of_isCounter update.key alone
    simp only [notReading, noDelta, Option.getD_none, added]
    exact ⟨_, rfl⟩
  | gauge reading =>
    simp only [notDelta]
    exact ⟨_, rfl⟩

/-- Updates of different keys can be merged. -/
theorem ofUpdates_of_nodup {updates : List Update} (different : (updates.map (·.key)).Nodup) :
    ∃ batch, ofUpdates updates = .ok batch := by
  induction updates using List.reverseRecOn with
  | nil => exact ⟨empty, rfl⟩
  | append_singleton earlier update inductionHypothesis =>
    rw [List.map_append, List.nodup_append] at different
    obtain ⟨earlierDifferent, _, apart⟩ := different
    obtain ⟨batch, merged⟩ := inductionHypothesis earlierDifferent
    have merges := ofUpdates_ok merged
    have absent : ∀ other ∈ earlier, other.key ≠ update.key := fun other member =>
      apart other.key (List.mem_map_of_mem member) update.key (List.mem_singleton_self _)
    have noReading : batch.gauges.find? update.key = none := by
      rw [merges.reading, Update.readings_eq_nil absent]
      rfl
    obtain ⟨after, added⟩ :=
      add_of_new ((merges.absent _).mpr (Update.deltas_eq_nil absent)) noReading
    refine ⟨after, ?_⟩
    rw [ofUpdates_concat, merged]
    exact added

end Batch

namespace Service

variable {store : Storage}

/-! ### The checks -/

theorem previousTotal_of_free (reached : store.isReached = true) {key : String}
    (free : store.seen.gauge? key = none) :
    previousTotal key store = (.ok (store.seen.total key), store) := by
  unfold previousTotal
  rw [Storage.counter_on, if_pos reached, Holdings.counter, Holdings.total]
  cases store.seen.counter? key with
  | some total => rfl
  | none => simp [free]

theorem newTotal_of_free (reached : store.isReached = true) {key : String} {delta : Int64}
    (free : store.seen.gauge? key = none)
    (inRange : Tally.IsCounter ((store.seen.total key).toInt + delta.toInt)) :
    ∃ total, newTotal key delta store = (.ok total, store) := by
  obtain ⟨total, added⟩ := Batch.addTo_of_isCounter key inRange
  refine ⟨total, ?_⟩
  rw [newTotal, Call.bind_apply, previousTotal_of_free reached free]
  exact congrArg (·, store) added

theorem foldlM_withTotal_of_free (reached : store.isReached = true)
    {entries : List (String × Int64)} (start : KeyMap Int64)
    (free : ∀ entry ∈ entries, store.seen.gauge? entry.1 = none ∧
      Tally.IsCounter ((store.seen.total entry.1).toInt + entry.2.toInt)) :
    ∃ totals, entries.foldlM withTotal start store = (.ok totals, store) := by
  induction entries generalizing start with
  | nil => exact ⟨start, rfl⟩
  | cons entry rest inductionHypothesis =>
    obtain ⟨entryFree, inRange⟩ := free entry List.mem_cons_self
    obtain ⟨total, summed⟩ := newTotal_of_free reached entryFree inRange
    obtain ⟨totals, others⟩ := inductionHypothesis (start.insert entry.1 total)
      fun other member => free other (List.mem_cons_of_mem entry member)
    refine ⟨totals, ?_⟩
    have first : withTotal start entry store = (.ok (start.insert entry.1 total), store) := by
      rw [withTotal, Call.bind_apply, summed]
      rfl
    rw [List.foldlM_cons, Call.bind_apply, first]
    exact others

/-- The totals of a batch can be worked out if every sum is a counter and no key holds a gauge. -/
theorem newTotals_of_free (reached : store.isReached = true) {deltas : KeyMap Int64}
    (free : ∀ key delta, deltas.find? key = some delta → store.seen.gauge? key = none ∧
      Tally.IsCounter ((store.seen.total key).toInt + delta.toInt)) :
    ∃ totals, newTotals deltas store = (.ok totals, store) :=
  foldlM_withTotal_of_free reached KeyMap.empty fun entry member =>
    free entry.1 entry.2 ((KeyMap.find?_eq_some_iff _ _ _).mpr member)

theorem requireGauges_of_free (reached : store.isReached = true) {keys : List String}
    (free : ∀ key ∈ keys, store.seen.counter? key = none) :
    keys.forM requireGauge store = (.ok (), store) := by
  induction keys with
  | nil => rfl
  | cons key rest inductionHypothesis =>
    have first : requireGauge key store = (.ok (), store) := by
      unfold requireGauge
      rw [Storage.gauge_on, if_pos reached, Holdings.gauge]
      cases store.seen.gauge? key with
      | some reading => rfl
      | none => simp [free key List.mem_cons_self]
    show (requireGauge key >>= fun _ => rest.forM requireGauge) store = _
    rw [Call.bind_apply, first]
    exact inductionHypothesis fun other member => free other (List.mem_cons_of_mem key member)

end Service

/-! ### The writes -/

theorem Database.reached_withCurrent {store : Database} (connected : store.connected = true)
    (table : Table) : (store.withCurrent table).reached = some table := by
  have stays : (store.withCurrent table).connected = true := by
    rw [(within_withCurrent store table).connected, connected]
  exact reached_eq_some_iff.mpr ⟨stays, current_withCurrent store table⟩

theorem Database.isSome_reached_execute {store : Database} (reached : store.reached.isSome = true)
    (statements : Table → Except StorageError Unit × Table) :
    ((execute statements).on store).2.reached.isSome = true := by
  obtain ⟨table, isTable⟩ := Option.isSome_iff_exists.mp reached
  have connected := (reached_eq_some_iff.mp isTable).1
  rw [execute_on, isTable]
  exact Option.isSome_of_eq_some (reached_withCurrent connected _)

theorem Database.isSome_reached_executeAll {store : Database}
    (reached : store.reached.isSome = true) (rows : List (String × Value)) :
    ((executeAll rows).on store).2.reached.isSome = true := by
  have written := isSome_reached_execute reached (Table.upsert rows)
  simp only [executeAll, Action.on] at written ⊢
  split
  · exact reached
  · split
    · next result => rwa [result] at written
    · next result =>
      rw [result] at written
      split
      · exact written
      · exact reached

namespace Storage

theorem isReached_setCounters {store : Storage} (reached : store.isReached = true)
    (totals : KeyMap Int64) :
    ((Repository.setCounters totals : Action Storage Unit).on store).2.isReached = true := by
  cases store with
  | memory store => rfl
  | database file store => exact Database.isSome_reached_executeAll reached _

theorem connected_of_begun {store : Storage} (reached : store.begun.isReached = true) :
    store.connected = true := by
  cases store with
  | memory store => rfl
  | database file store =>
    by_contra notConnected
    have unreached : store.begun.reached = none := if_neg notConnected
    rw [begun, isReached, unreached] at reached
    cases reached

end Storage

namespace Holdings

theorem admitKeys_of_free {held : Holdings} {kind : Kind} {keys : List String}
    (free : ∀ key ∈ keys, held.holdsOther kind key = false) :
    held.admitKeys kind keys = .ok () := by
  have none : keys.find? (held.holdsOther kind) = none := by
    simpa using free
  rw [admitKeys, none]

end Holdings

namespace Service

/-- A batch is applied if every sum is a counter, no key is held under the other kind, and no
reading is not a number. -/
theorem applyBatch_of_free {batch : Batch} {store : Storage} (reached : store.isReached = true)
    (counters : ∀ key delta, batch.deltas.find? key = some delta →
      store.seen.gauge? key = none ∧
        Tally.IsCounter ((store.seen.total key).toInt + delta.toInt))
    (gauges : ∀ key reading, batch.gauges.find? key = some reading →
      store.seen.counter? key = none ∧ batch.deltas.find? key = none ∧
        reading.isNaN = false) :
    ∃ after, applyBatch batch store = (.ok (), after) := by
  obtain ⟨totals, summed⟩ := newTotals_of_free reached counters
  have sameKeys : ∀ key, totals.find? key = none ↔ batch.deltas.find? key = none := fun key => by
    have found := newTotals_ok summed key
    rw [← Option.map_eq_none_iff (f := Int64.toInt), found, Option.map_eq_none_iff]
  have totalsFree : ∀ key ∈ totals.keys, store.seen.holdsOther .counter key = false := by
    intro key member
    obtain ⟨total, found⟩ := KeyMap.exists_of_mem_keys member
    obtain ⟨delta, isDelta⟩ := Option.ne_none_iff_exists'.mp
      (mt (sameKeys key).mpr (found ▸ Option.some_ne_none total))
    exact Option.isSome_eq_false_iff.mpr
      (Option.isNone_iff_eq_none.mpr (counters key delta isDelta).1)
  have gaugesFree : ∀ key ∈ batch.gauges.keys,
      store.seen.counter? key = none ∧ totals.find? key = none := fun key member => by
    obtain ⟨reading, found⟩ := KeyMap.exists_of_mem_keys member
    obtain ⟨free, noDelta, _⟩ := gauges key reading found
    exact ⟨free, (sameKeys key).mpr noDelta⟩
  have passed := requireGauges_of_free reached fun key member => (gaugesFree key member).1
  have first : storing (Repository.setCounters totals) store =
      (.ok (), ((Repository.setCounters totals : Action Storage Unit).on store).2) := by
    rw [storing_apply, Storage.setCounters_fst reached, Holdings.admitKeys_of_free totalsFree]
    rfl
  have sees := (Storage.setCounters_ok (storing_ok first)).1
  have numbers : ∀ entry ∈ batch.gauges.toList, entry.2.isNaN = false := fun entry member =>
    (gauges entry.1 entry.2 ((KeyMap.find?_eq_some_iff _ _ _).mpr member)).2.2
  have middleFree : ∀ key ∈ batch.gauges.keys,
      (store.seen.withCounters totals).holdsOther .gauge key = false := fun key member => by
    obtain ⟨free, noTotal⟩ := gaugesFree key member
    exact Option.isSome_eq_false_iff.mpr
      (Option.isNone_iff_eq_none.mpr (Option.or_eq_none_iff.mpr ⟨noTotal, free⟩))
  have last : (storing (Repository.setGauges batch.gauges)
      ((Repository.setCounters totals : Action Storage Unit).on store).2).1 = .ok () := by
    rw [storing_apply, Storage.setGauges_fst (Storage.isReached_setCounters reached totals) numbers,
      sees, Holdings.admitKeys_of_free middleFree]
    rfl
  refine ⟨_, Prod.ext ?_ rfl⟩
  rw [applyBatch, Call.bind_apply, summed]
  show ((batch.gauges.keys.forM requireGauge >>= fun _ => do
    storing (Repository.setCounters totals)
    storing (Repository.setGauges batch.gauges)) store).1 = .ok ()
  rw [Call.bind_apply, passed]
  show ((storing (Repository.setCounters totals) >>= fun _ =>
    storing (Repository.setGauges batch.gauges)) store).1 = .ok ()
  rw [Call.bind_apply, first]
  exact last

/-- A list of updates that can be merged is applied if every sum is a counter, no key is held
under the other kind, and no reading is not a number. -/
theorem updateMany_of_free {updates : List Update} {batch : Batch} {store : Storage}
    (reached : store.begun.isReached = true) (merged : Batch.ofUpdates updates = .ok batch)
    (counters : ∀ key, Update.deltas key updates ≠ [] → store.kept.gauge? key = none ∧
      Tally.IsCounter ((store.kept.total key).toInt + Update.deltaSum key updates))
    (gauges : ∀ key reading, ⟨key, .gauge reading⟩ ∈ updates →
      store.kept.counter? key = none ∧ reading.isNaN = false) :
    ∃ after, updateMany updates store = (.ok (), after) := by
  have merges := Batch.ofUpdates_ok merged
  have counted : ∀ key delta, batch.deltas.find? key = some delta →
      store.begun.seen.gauge? key = none ∧
        Tally.IsCounter ((store.begun.seen.total key).toInt + delta.toInt) :=
    fun key delta found => by
      have isSum := merges.sum key
      rw [found, Option.getD_some] at isSum
      rw [Storage.seen_begun, isSum]
      exact counters key (merges.deltas_ne_nil found)
  have gauged : ∀ key reading, batch.gauges.find? key = some reading →
      store.begun.seen.counter? key = none ∧ batch.deltas.find? key = none ∧
        reading.isNaN = false := fun key reading found => by
    rw [merges.reading] at found
    have member := List.mem_of_getLast? found
    obtain ⟨free, number⟩ := gauges key reading ((Update.mem_readings_iff _ _ _).mp member)
    rw [Storage.seen_begun]
    exact ⟨free, (merges.absent key).mpr ((merges.apart key).resolve_right
      (List.ne_nil_of_mem member)), number⟩
  cases empty : updates.isEmpty with
  | true =>
    rw [updateMany, if_pos empty]
    exact ⟨store, rfl⟩
  | false =>
    obtain ⟨after, applied⟩ := applyBatch_of_free reached counted gauged
    refine ⟨after.confirmed, ?_⟩
    rw [updateMany_of_merged merged empty, inTransaction_apply,
      if_pos (Storage.connected_of_begun reached), applied]

end Service

end Metering
