/-
What the batch of a report asks a server for: one update of each metric in the report. A batch
with a metric that no server accepts is refused as a whole.
-/

import Metering.Proofs.Agent.Ledger
import Metering.Proofs.Metric.Updates
import Metering.Proofs.Service.Atomicity

namespace Metering

namespace Changes

/-- The updates that a report asks for. -/
def updates (observed : Changes) : List Update :=
  (observed.counters.toList.map fun entry => ⟨entry.1, .counter entry.2.delta⟩) ++
    observed.gauges.toList.map fun entry => ⟨entry.1, .gauge entry.2⟩

theorem batch_eq (observed : Changes) :
    observed.batch = observed.updates.map fun update => Metric.ofValue update.key update.value := by
  rw [batch, updates, List.map_append, List.map_map, List.map_map]
  rfl

theorem keys_updates (observed : Changes) :
    observed.updates.map (·.key) = observed.counters.keys ++ observed.gauges.keys := by
  rw [updates, List.map_append, List.map_map, List.map_map]
  rfl

/-- A report asks for at most one change of a counter. -/
theorem deltas_updates (observed : Changes) (key : String) :
    Update.deltas key observed.updates =
      ((observed.counters.find? key).map (·.delta)).toList := by
  rw [Update.deltas, updates, List.filterMap_append, List.filterMap_map, List.filterMap_map]
  have fromCounters := KeyMap.filterMap_entries observed.counters.sorted key (·.delta)
  have fromGauges : observed.gauges.toList.filterMap
      (Update.delta? key ∘ fun entry => (⟨entry.1, .gauge entry.2⟩ : Update)) = [] :=
    List.filterMap_eq_nil_iff.mpr fun entry _ => ite_self none
  rw [fromGauges, List.append_nil]
  exact fromCounters

/-- A report asks for at most one reading of a gauge. -/
theorem readings_updates (observed : Changes) (key : String) :
    Update.readings key observed.updates = (observed.gauges.find? key).toList := by
  rw [Update.readings, updates, List.filterMap_append, List.filterMap_map, List.filterMap_map]
  have fromGauges := KeyMap.filterMap_entries observed.gauges.sorted key id
  have fromCounters : observed.counters.toList.filterMap
      (Update.reading? key ∘ fun entry => (⟨entry.1, .counter entry.2.delta⟩ : Update)) = [] :=
    List.filterMap_eq_nil_iff.mpr fun entry _ => ite_self none
  rw [fromCounters, List.nil_append]
  rw [Option.map_id] at fromGauges
  exact fromGauges

end Changes

namespace Metric

theorem query_ofValue {key : String} {value : Value} {kind : Kind}
    (accepted : (ofValue key value).query = .ok kind) : kind = value.kind := by
  unfold query at accepted
  cases checked : validateKey (ofValue key value).key with
  | error problem => rw [checked] at accepted; cases accepted
  | ok _ =>
    rw [checked] at accepted
    cases value <;> exact (Except.ok.inj accepted).symm

/-- A metric that reports a value asks, if it is accepted, for an update with that value, which
is finite. -/
theorem toUpdate_ofValue {key : String} {value : Value} {update : Update}
    (accepted : (ofValue key value).toUpdate = .ok update) :
    update = ⟨key, value⟩ ∧ ∀ reading, value = .gauge reading → reading.isFinite = true := by
  unfold toUpdate at accepted
  cases asked : (ofValue key value).query with
  | error problem => rw [asked] at accepted; cases accepted
  | ok kind =>
    have isKind := query_ofValue asked
    subst isKind
    rw [asked] at accepted
    cases value with
    | counter total => exact ⟨(Except.ok.inj accepted).symm, nofun⟩
    | gauge reading =>
      change (do validateReading key reading; pure (⟨key, .gauge reading⟩ : Update)) =
        .ok update at accepted
      by_cases finite : reading.isFinite = true
      · rw [validateReading, if_pos finite] at accepted
        exact ⟨(Except.ok.inj accepted).symm, fun other same => Value.gauge.inj same ▸ finite⟩
      · rw [validateReading, if_neg finite] at accepted
        cases accepted

/-- A list of metrics that report values asks, if it is accepted, for updates with those values,
which are finite. -/
theorem mapM_toUpdate_ofValue {updates result : List Update}
    (accepted : (updates.map fun update => ofValue update.key update.value).mapM toUpdate =
      .ok result) :
    result = updates ∧
      ∀ key reading, ⟨key, .gauge reading⟩ ∈ updates → reading.isFinite = true := by
  induction updates generalizing result with
  | nil => exact ⟨(Except.ok.inj accepted).symm, nofun⟩
  | cons update rest inductionHypothesis =>
    obtain ⟨head, tail, first, others, rfl⟩ := mapM_cons_ok accepted
    obtain ⟨isHead, headFinite⟩ := toUpdate_ofValue first
    obtain ⟨isTail, tailFinite⟩ := inductionHypothesis others
    refine ⟨by rw [isHead, isTail], fun key reading member => ?_⟩
    rcases List.mem_cons.mp member with rfl | inRest
    · exact headFinite reading rfl
    · exact tailFinite key reading inRest

end Metric

namespace Service

open Storage (Unchanged)

/-- A report is refused at once, or it is finite and treated as the list of its updates. -/
theorem updateMetrics_report (observed : Changes) (store : Storage) :
    (∃ problem, updateMetrics observed.batch store = (.error problem, store)) ∨
      (∀ key reading, ⟨key, .gauge reading⟩ ∈ observed.updates → reading.isFinite = true) ∧
        updateMetrics observed.batch store = updateMany observed.updates store := by
  rw [updateMetrics, Call.bind_apply, observed.batch_eq]
  cases converted : (observed.updates.map fun update =>
      Metric.ofValue update.key update.value).mapM Metric.toUpdate with
  | error problem => exact Or.inl ⟨.metric problem, rfl⟩
  | ok result =>
    obtain ⟨same, finite⟩ := Metric.mapM_toUpdate_ofValue converted
    rw [same]
    exact Or.inr ⟨finite, rfl⟩

/-- A report that is applied takes the store through all its updates. -/
theorem updateMetrics_report_ok {observed : Changes} {store after : Storage}
    (done : updateMetrics observed.batch store = (.ok (), after)) :
    Holdings.Takes observed.updates store.stored store.kept after.kept := by
  rcases updateMetrics_report observed store with ⟨problem, refused⟩ | ⟨_, same⟩
  · rw [refused] at done
    cases done
  · rw [same] at done
    exact updateMany_ok done

/-- All readings in a report that is applied are finite. -/
theorem finite_of_updateMetrics_report_ok {observed : Changes} {store after : Storage}
    (done : updateMetrics observed.batch store = (.ok (), after)) {key : String}
    {reading : Binary64} (found : observed.gauges.find? key = some reading) :
    reading.isFinite = true := by
  rcases updateMetrics_report observed store with ⟨problem, refused⟩ | ⟨finite, _⟩
  · rw [refused] at done
    cases done
  · refine finite key reading ((Update.mem_readings_iff key reading observed.updates).mp ?_)
    rw [observed.readings_updates, found]
    exact List.mem_singleton_self reading

/-- A report that is refused leaves the store as it was, unless the store has one of its gauges
under both kinds. -/
theorem updateMetrics_report_error {observed : Changes} {store after : Storage}
    {problem : ServiceError}
    (apart : ∀ key, observed.gauges.contains key = true → store.kept.Apart key)
    (failed : updateMetrics observed.batch store = (.error problem, after)) :
    Unchanged store after := by
  rcases updateMetrics_report observed store with ⟨other, refused⟩ | ⟨_, same⟩
  · rw [refused] at failed
    exact Or.inl (Prod.mk.inj failed).2.symm
  · rw [same] at failed
    refine updateMany_error (fun key occurs => apart key ?_) failed
    rw [observed.readings_updates] at occurs
    exact Option.isSome_iff_ne_none.mpr fun none => occurs (by rw [none]; rfl)

theorem updateMetrics_error_gauge? {metrics : List Metric} {store after : Storage}
    {problem : ServiceError} (failed : updateMetrics metrics store = (.error problem, after)) :
    after.kept.gauge? = store.kept.gauge? := by
  rcases requiring_bind_error failed with rfl | ⟨updates, _, failed⟩
  · rfl
  · exact updateMany_error_gauge? failed

theorem stored_updateMany (updates : List Update) (store : Storage) :
    (updateMany updates store).2.stored = store.stored := by
  unfold updateMany
  split
  · rfl
  · rw [Call.bind_apply]
    cases Batch.ofUpdates updates with
    | error problem => rfl
    | ok batch => exact stored_inTransaction (within_applyBatch batch) store

theorem stored_updateMetrics (metrics : List Metric) (store : Storage) :
    (updateMetrics metrics store).2.stored = store.stored := by
  rw [updateMetrics, Call.bind_apply]
  cases metrics.mapM Metric.toUpdate with
  | error problem => rfl
  | ok updates => exact stored_updateMany updates store

end Service

end Metering
