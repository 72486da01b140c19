/-
The kinds that an agent keeps under one key. Its counters and its gauges are two maps, and no
write to one looks into the other, so a key written under both kinds has a record of each. A
report carries such a key twice as long as neither value is acknowledged, and no server takes a
batch with a key under both kinds. A key written under one kind only is carried once at most.
-/

import Metering.Proofs.Agent.Acceptance
import Metering.Proofs.Service.Overflow

namespace Metering

/-! ### Calls -/

/-- A call to the metrics of an agent: a write, readings of several gauges at once, a report, or
the acknowledgement of some changes, whether a report has told them or not. -/
inductive LedgerCall
  | writing (write : Ledger.Write)
  | settingGauges (readings : List (String × Binary64))
  | reporting
  | committing (observed : Changes)

/-- The records that a call writes to, each by its kind and its key. -/
def LedgerCall.records : LedgerCall → List (Kind × String)
  | .writing write => [(if write.isGauge then .gauge else .counter, write.key)]
  | .settingGauges readings => readings.map fun reading => (.gauge, reading.1)
  | .reporting => []
  | .committing _ => []

namespace Ledger

/-- The ledger after a call. -/
def after (ledger : Ledger) : LedgerCall → Ledger
  | .writing write => ledger.write write
  | .settingGauges readings =>
    ledger.writeAll (readings.map fun reading => .setGauge reading.1 reading.2)
  | .reporting => ledger
  | .committing observed => ledger.commit observed

/-- The ledger after several calls. -/
def afterAll (ledger : Ledger) (calls : List LedgerCall) : Ledger := calls.foldl after ledger

/-- Whether there is a record of a kind under a key. -/
def hasRecord (ledger : Ledger) : Kind → String → Bool
  | .counter, key => ledger.counters.contains key
  | .gauge, key => ledger.gauges.contains key

/-- Whether the value of a kind under a key is there and is not the acknowledged one. -/
def owes (ledger : Ledger) : Kind → String → Bool
  | .counter, key => (ledger.counter? key).any fun total =>
      !(ledger.committedCounter? key == some total)
  | .gauge, key => (ledger.gauge? key).any fun reading =>
      !(ledger.committedGauge? key).any reading.agrees

/-! ### Records -/

section

variable (ledger : Ledger) (kind : Kind) (key : String)

theorem hasRecord_setCounter (other : String) (total : Int64) :
    (ledger.setCounter other total).hasRecord kind key = true ↔
      (kind = .counter ∧ key = other) ∨ ledger.hasRecord kind key = true := by
  cases kind with
  | counter =>
    rw [hasRecord, setCounter, KeyMap.contains_insert, Bool.or_eq_true, decide_eq_true_iff]
    exact or_congr_left (and_iff_right rfl).symm
  | gauge => exact (or_iff_right fun same => nomatch same.1).symm

theorem hasRecord_setGauge (other : String) (reading : Binary64) :
    (ledger.setGauge other reading).hasRecord kind key = true ↔
      (kind = .gauge ∧ key = other) ∨ ledger.hasRecord kind key = true := by
  cases kind with
  | counter => exact (or_iff_right fun same => nomatch same.1).symm
  | gauge =>
    rw [hasRecord, setGauge, KeyMap.contains_insert, Bool.or_eq_true, decide_eq_true_iff]
    exact or_congr_left (and_iff_right rfl).symm

/-- A write makes the record that it is about and no other. -/
theorem hasRecord_write (write : Write) :
    (ledger.write write).hasRecord kind key = true ↔
      (kind, key) ∈ (LedgerCall.writing write).records ∨ ledger.hasRecord kind key = true := by
  rw [LedgerCall.records, List.mem_singleton, Prod.mk.injEq]
  cases write with
  | setCounter other total => exact hasRecord_setCounter ledger kind key other total
  | addCounter other amount => exact hasRecord_setCounter ledger kind key other _
  | setGauge other reading => exact hasRecord_setGauge ledger kind key other reading

theorem hasRecord_settingGauges (readings : List (String × Binary64)) :
    (ledger.after (.settingGauges readings)).hasRecord kind key = true ↔
      (kind, key) ∈ (LedgerCall.settingGauges readings).records ∨
        ledger.hasRecord kind key = true := by
  induction readings generalizing ledger with
  | nil => exact (or_iff_right List.not_mem_nil).symm
  | cons reading rest inductionHypothesis =>
    refine (inductionHypothesis (ledger.setGauge reading.1 reading.2)).trans ?_
    rw [hasRecord_setGauge, LedgerCall.records, LedgerCall.records, List.map_cons, List.mem_cons,
      Prod.mk.injEq, or_left_comm, or_assoc]

theorem hasRecord_commit (observed : Changes) :
    (ledger.commit observed).hasRecord kind key = ledger.hasRecord kind key := by
  cases kind with
  | counter => exact contains_commit ledger .counter key observed
  | gauge => exact contains_commit ledger .gauge key observed

/-- A call makes the records that it writes to and no others, and it takes none away. -/
theorem hasRecord_after (call : LedgerCall) :
    (ledger.after call).hasRecord kind key = true ↔
      (kind, key) ∈ call.records ∨ ledger.hasRecord kind key = true := by
  cases call with
  | writing write => exact hasRecord_write ledger kind key write
  | settingGauges readings => exact hasRecord_settingGauges ledger kind key readings
  | reporting => exact (or_iff_right List.not_mem_nil).symm
  | committing observed =>
    rw [after, hasRecord_commit]
    exact (or_iff_right List.not_mem_nil).symm

/-- The records are those that were there and those that some call has written to. -/
theorem hasRecord_afterAll (calls : List LedgerCall) :
    (ledger.afterAll calls).hasRecord kind key = true ↔
      (kind, key) ∈ calls.flatMap LedgerCall.records ∨ ledger.hasRecord kind key = true := by
  induction calls generalizing ledger with
  | nil => exact (or_iff_right List.not_mem_nil).symm
  | cons call rest inductionHypothesis =>
    refine (inductionHypothesis (ledger.after call)).trans ?_
    rw [hasRecord_after, List.flatMap_cons, List.mem_append, or_left_comm, or_assoc]

theorem hasRecord_empty : Ledger.empty.hasRecord kind key = false := by
  cases kind <;> rfl

end

section

variable {ledger : Ledger} {kind : Kind} {key : String}

/-- What is not acknowledged has a record. -/
theorem hasRecord_of_owes (owed : ledger.owes kind key = true) :
    ledger.hasRecord kind key = true := by
  cases kind with
  | counter =>
    obtain ⟨total, present, _⟩ := Option.any_eq_true _ _ |>.mp owed
    exact Option.isSome_map.symm.trans (Option.isSome_of_eq_some present)
  | gauge =>
    obtain ⟨reading, present, _⟩ := Option.any_eq_true _ _ |>.mp owed
    exact Option.isSome_map.symm.trans (Option.isSome_of_eq_some present)

/-! ### Batches -/

theorem contains_changes_counters :
    ledger.changes.counters.contains key = ledger.owes .counter key := by
  rw [Bool.eq_iff_iff, KeyMap.contains_eq_true_iff, owes, Option.any_eq_true]
  simp [find?_changes_counters_eq_some]

theorem contains_changes_gauges :
    ledger.changes.gauges.contains key = ledger.owes .gauge key := by
  rw [Bool.eq_iff_iff, KeyMap.contains_eq_true_iff, owes, Option.any_eq_true]
  simp [find?_changes_gauges_eq_some, Option.any_eq_false]

end

end Ledger

theorem KeyMap.count_keys {Value : Type} (map : KeyMap Value) (key : String) :
    map.keys.count key = (map.contains key).toNat := by
  rw [map.nodup_keys.count]
  simp only [mem_keys_iff]
  cases map.contains key <;> rfl

/-- The keys in a batch, as often as they are there. -/
def Changes.batchKeys (changes : Changes) : List String := changes.batch.map (·.key)

theorem Changes.batchKeys_eq (changes : Changes) :
    changes.batchKeys = changes.updates.map (·.key) := by
  rw [batchKeys, batch_eq, List.map_map]
  refine List.map_congr_left fun update _ => ?_
  obtain ⟨key, value⟩ := update
  cases value <;> rfl

namespace Ledger

variable {ledger : Ledger}

/-- A key is in a batch once for each kind under which its value is not acknowledged. -/
theorem count_batchKeys (ledger : Ledger) (key : String) :
    ledger.changes.batchKeys.count key =
      (ledger.owes .counter key).toNat + (ledger.owes .gauge key).toNat := by
  rw [Changes.batchKeys_eq, Changes.keys_updates, List.count_append, KeyMap.count_keys,
    KeyMap.count_keys, contains_changes_counters, contains_changes_gauges]

/-- A batch repeats a key just if neither of its two values is acknowledged. -/
theorem nodup_batchKeys_iff :
    ledger.changes.batchKeys.Nodup ↔
      ∀ key, ¬ (ledger.owes .counter key = true ∧ ledger.owes .gauge key = true) := by
  simp only [List.nodup_iff_count_le_one, count_batchKeys]
  refine forall_congr' fun key => ?_
  cases ledger.owes .counter key <;> cases ledger.owes .gauge key <;> decide

theorem deltas_changes_ne_nil_iff {key : String} :
    Update.deltas key ledger.changes.updates ≠ [] ↔ ledger.owes .counter key = true := by
  rw [← contains_changes_counters, Changes.deltas_updates, KeyMap.contains]
  cases ledger.changes.counters.find? key <;> simp

theorem readings_changes_ne_nil_iff {key : String} :
    Update.readings key ledger.changes.updates ≠ [] ↔ ledger.owes .gauge key = true := by
  rw [← contains_changes_gauges, Changes.readings_updates, KeyMap.contains]
  cases ledger.changes.gauges.find? key <;> simp

/-- The updates of a batch are merged just if it repeats no key. -/
theorem ofUpdates_changes_ok_iff :
    (∃ batch, Batch.ofUpdates ledger.changes.updates = .ok batch) ↔
      ledger.changes.batchKeys.Nodup := by
  constructor
  · rintro ⟨batch, merged⟩
    refine nodup_batchKeys_iff.mpr fun key ⟨counterOwed, gaugeOwed⟩ => ?_
    rcases (Batch.ofUpdates_ok merged).apart key with noDelta | noReading
    · exact deltas_changes_ne_nil_iff.mpr counterOwed noDelta
    · exact readings_changes_ne_nil_iff.mpr gaugeOwed noReading
  · intro different
    rw [Changes.batchKeys_eq] at different
    exact Batch.ofUpdates_of_nodup different

/-- A batch has one change of a counter at most, so no sum on the way leaves the range. -/
theorem not_overruns_updates (observed : Changes) (key : String) :
    ¬ Update.Overruns key observed.updates := by
  rintro ⟨earlier, isPrefix, outside⟩
  rw [observed.deltas_updates] at isPrefix
  have short := isPrefix.length_le.trans Option.length_toList_le
  match earlier, short with
  | [], _ => exact outside (Tally.isCounter_toInt 0)
  | [delta], _ =>
    rw [Tally.exactSum_singleton] at outside
    exact outside (Tally.isCounter_toInt delta)

/-- A batch that repeats a key is refused by every server, which is left as it was, and for the
kind of a repeated key if each of its metrics is accepted on its own. -/
theorem updateMetrics_of_repeated (store : Storage)
    (repeated : ¬ ledger.changes.batchKeys.Nodup) :
    ∃ problem, Service.updateMetrics ledger.changes.batch store = (.error problem, store) ∧
      ((∀ metric ∈ ledger.changes.batch, ∃ update, metric.toUpdate = .ok update) →
        ∃ key, problem = .storage (.wrongKind key) ∧
          ledger.changes.batchKeys.count key = 2) := by
  cases merged : Batch.ofUpdates ledger.changes.updates with
  | ok batch => exact absurd (ofUpdates_changes_ok_iff.mp ⟨batch, merged⟩) repeated
  | error problem =>
    have unmerged : Service.updateMany ledger.changes.updates store = (.error problem, store) :=
      Service.updateMany_of_unmerged merged
    obtain ⟨key, isKind, changed, read⟩ :=
      Batch.ofUpdates_error_of_not_overruns (not_overruns_updates _) merged
    have twice : ledger.changes.batchKeys.count key = 2 := by
      rw [count_batchKeys, deltas_changes_ne_nil_iff.mp changed,
        readings_changes_ne_nil_iff.mp read]
      rfl
    -- a metric that is not accepted may be found before the updates are merged
    by_cases accepted : ∀ metric ∈ ledger.changes.batch, ∃ update, metric.toUpdate = .ok update
    · refine ⟨problem, ?_, fun _ => ⟨key, isKind, twice⟩⟩
      rw [Service.updateMetrics_of_accepted accepted, unmerged]
    · rcases Service.updateMetrics_report ledger.changes store with ⟨other, refused⟩ | ⟨_, same⟩
      · exact ⟨other, refused, fun each => absurd each accepted⟩
      · exact ⟨problem, same.trans unmerged, fun each => absurd each accepted⟩

/-! ### One key under both kinds -/

/-- What a ledger that is the outcome of calls tells of its keys. -/
structure TellsKinds (calls : List LedgerCall) (ledger : Ledger) : Prop where
  /-- The records are those that some call has written to. -/
  recorded : ∀ kind key, ledger.hasRecord kind key = true ↔
    (kind, key) ∈ calls.flatMap LedgerCall.records
  /-- Only what has a record can be owed. -/
  owed : ∀ kind key, ledger.owes kind key = true → ledger.hasRecord kind key = true
  /-- A key is in the batch once for each kind under which its value is not acknowledged. -/
  count : ∀ key, ledger.changes.batchKeys.count key =
    (ledger.owes .counter key).toNat + (ledger.owes .gauge key).toNat
  /-- The batch repeats no key that is written under one kind only. -/
  once : ∀ key, (.counter, key) ∉ calls.flatMap LedgerCall.records ∨
      (.gauge, key) ∉ calls.flatMap LedgerCall.records →
    ledger.changes.batchKeys.count key ≤ 1
  /-- A server merges the updates of the batch just if it repeats no key. -/
  merged : (∃ batch, Batch.ofUpdates ledger.changes.updates = .ok batch) ↔
    ledger.changes.batchKeys.Nodup
  /-- If it repeats one, every server refuses it as a whole, and for the kind of a repeated key
  if each of its metrics is accepted on its own. -/
  refused : ∀ store : Storage, ¬ ledger.changes.batchKeys.Nodup →
    ∃ problem, Service.updateMetrics ledger.changes.batch store = (.error problem, store) ∧
      ((∀ metric ∈ ledger.changes.batch, ∃ update, metric.toUpdate = .ok update) →
        ∃ key, problem = .storage (.wrongKind key) ∧ ledger.changes.batchKeys.count key = 2)

theorem count_batchKeys_le_one {key : String}
    (oneKind : ledger.hasRecord .counter key = false ∨ ledger.hasRecord .gauge key = false) :
    ledger.changes.batchKeys.count key ≤ 1 := by
  rw [count_batchKeys]
  rcases oneKind with noCounter | noGauge
  · rw [Bool.eq_false_iff.mpr (mt hasRecord_of_owes (Bool.eq_false_iff.mp noCounter))]
    cases ledger.owes .gauge key <;> decide
  · rw [Bool.eq_false_iff.mpr (mt hasRecord_of_owes (Bool.eq_false_iff.mp noGauge))]
    cases ledger.owes .counter key <;> decide

/-- Whatever calls are made, the batch of an agent has a key once for each kind under which the
key is written and not acknowledged. So it repeats just the keys of which neither value is, and
a batch that repeats a key is refused by every server as a whole. -/
theorem tellsKinds_afterAll (calls : List LedgerCall) :
    TellsKinds calls (Ledger.empty.afterAll calls) := by
  have recorded : ∀ kind key, (Ledger.empty.afterAll calls).hasRecord kind key = true ↔
      (kind, key) ∈ calls.flatMap LedgerCall.records := by
    intro kind key
    rw [hasRecord_afterAll, hasRecord_empty]
    exact or_iff_left Bool.false_ne_true
  refine {
    recorded
    owed := fun kind key => hasRecord_of_owes
    count := count_batchKeys _
    once := fun key oneKind => count_batchKeys_le_one ?_
    merged := ofUpdates_changes_ok_iff
    refused := updateMetrics_of_repeated }
  simpa only [Bool.eq_false_iff, Ne, recorded] using oneKind

/-- Two keys of one kind each are carried once each. A key under both kinds is carried once while
its total is acknowledged, and twice when the total has changed again. -/
theorem tellsKinds_afterAll_acknowledged :
    let apart : List LedgerCall := [.writing (.addCounter "a" 1), .settingGauges [("b", ⟨0⟩)]]
    let shared : List LedgerCall := [.writing (.setCounter "k" 1), .reporting,
      .committing ⟨KeyMap.ofList [("k", ⟨1, 1⟩)], KeyMap.empty⟩, .writing (.setGauge "k" ⟨0⟩)]
    let doubled := shared ++ [.writing (.addCounter "k" 1)]
    (Ledger.empty.afterAll apart).changes.batchKeys.count "a" ≤ 1 ∧
      (∃ batch, Batch.ofUpdates (Ledger.empty.afterAll shared).changes.updates = .ok batch) ∧
      ∃ key, Service.updateMetrics (Ledger.empty.afterAll doubled).changes.batch
          (Storage.memory .ephemeral) =
        (.error (.storage (.wrongKind key)), Storage.memory .ephemeral) := by
  intro apart shared doubled
  have tellsApart := tellsKinds_afterAll apart
  have tellsShared := tellsKinds_afterAll shared
  have tellsDoubled := tellsKinds_afterAll doubled
  refine ⟨tellsApart.once "a" (Or.inr (by decide)), tellsShared.merged.mpr (by decide), ?_⟩
  obtain ⟨problem, refused, isKind⟩ :=
    tellsDoubled.refused (Storage.memory .ephemeral) (by decide)
  have accepted : ∀ metric ∈ (Ledger.empty.afterAll doubled).changes.batch,
      ∃ update, metric.toUpdate = .ok update := by
    refine List.forall_mem_cons.mpr ⟨⟨⟨"k", .counter 1⟩, rfl⟩, ?_⟩
    exact List.forall_mem_cons.mpr ⟨⟨⟨"k", .gauge ⟨0⟩⟩, rfl⟩, nofun⟩
  obtain ⟨key, rfl, _⟩ := isKind accepted
  exact ⟨key, refused⟩

/-- A counter and a gauge of one key are both in the batch, and every server refuses it. -/
theorem batch_repeats_key :
    let calls : List LedgerCall :=
      [.writing (.setCounter "k" 1), .writing (.setGauge "k" ⟨0x3ff0000000000000⟩), .reporting]
    (Ledger.empty.afterAll calls).changes.batchKeys = ["k", "k"] ∧
      ∀ store : Storage, Service.updateMetrics (Ledger.empty.afterAll calls).changes.batch store =
        (.error (.storage (.wrongKind "k")), store) :=
  ⟨by decide, fun _ => rfl⟩

end Ledger

end Metering
