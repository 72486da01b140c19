/-
What a batch that is applied makes of a store. Its totals are worked out from what is seen
before anything is written, so the two bulk writes together come to one step from what was held
before the batch to what is held after it.
-/

import Metering.Proofs.Service.Merging
import Metering.Proofs.Service.Transaction
import Metering.Proofs.Storage.Writes

namespace Metering

/-- What is held before and after updates that are applied as one, by a store that keeps of a
reading what an image tells. -/
structure Holdings.Takes (updates : List Update) (image : Binary64 → Binary64)
    (before after : Holdings) : Prop where
  apart : ∀ key, Update.deltas key updates = [] ∨ Update.readings key updates = []
  noGauge : ∀ key, Update.deltas key updates ≠ [] → before.gauge? key = none
  noCounter : ∀ key, Update.readings key updates ≠ [] → before.counter? key = none
  total : ∀ key, Update.deltas key updates ≠ [] → ∃ total, after.counter? key = some total ∧
    total.toInt = (before.total key).toInt + Update.deltaSum key updates
  sameCounter : ∀ key, Update.deltas key updates = [] → after.counter? key = before.counter? key
  gauge : ∀ key, after.gauge? key =
    ((Update.readings key updates).getLast?.map image).or (before.gauge? key)

namespace Holdings.Takes

/-- No updates take what is held nowhere. -/
theorem nil (image : Binary64 → Binary64) (held : Holdings) : Takes [] image held held where
  apart _ := Or.inl rfl
  noGauge _ changed := absurd rfl changed
  noCounter _ changed := absurd rfl changed
  total _ changed := absurd rfl changed
  sameCounter _ _ := rfl
  gauge _ := rfl

section

variable {updates : List Update} {image : Binary64 → Binary64} {before after : Holdings}
  (takes : Takes updates image before after) (key : String)

include takes

/-- A counter that updates change is not a gauge afterwards. -/
theorem gauge?_of_changed (changed : Update.deltas key updates ≠ []) :
    after.gauge? key = none := by
  rw [takes.gauge, (takes.apart key).resolve_left changed, takes.noGauge key changed]
  rfl

/-- A gauge that updates set is not a counter afterwards. -/
theorem counter?_of_read (read : Update.readings key updates ≠ []) :
    after.counter? key = none := by
  rw [takes.sameCounter key ((takes.apart key).resolve_right read), takes.noCounter key read]

/-- Every total grows by the exact sum of its changes. -/
theorem toInt_total :
    (after.total key).toInt = (before.total key).toInt + Update.deltaSum key updates := by
  by_cases unchanged : Update.deltas key updates = []
  · rw [Holdings.total, Holdings.total, takes.sameCounter key unchanged, Update.deltaSum,
      unchanged]
    exact (Int.add_zero _).symm
  · obtain ⟨result, found, isSum⟩ := takes.total key unchanged
    rw [Holdings.total, found, Option.getD_some, isSum]

/-- Updates put no second kind under a key. -/
theorem apart_after (apart : before.Apart key) : after.Apart key := by
  by_cases unchanged : Update.deltas key updates = []
  · by_cases unread : Update.readings key updates = []
    · rw [Apart, takes.sameCounter key unchanged, takes.gauge, unread]
      exact apart
    · exact Or.inl (takes.counter?_of_read key unread)
  · exact Or.inr (takes.gauge?_of_changed key unchanged)

end

end Holdings.Takes

namespace Service

/-! ### The steps of a batch -/

/-- The totals that a batch writes, and what its writes make of the store. -/
structure Writes (batch : Batch) (before after : Holdings) (image : Binary64 → Binary64)
    (totals : KeyMap Int64) : Prop where
  sum : ∀ key, (totals.find? key).map Int64.toInt =
    (batch.deltas.find? key).map fun delta => (before.total key).toInt + delta.toInt
  noGauge : ∀ key, totals.contains key = true → before.gauge? key = none
  noCounter : ∀ key, batch.gauges.contains key = true →
    (before.withCounters totals).counter? key = none
  result : after = (before.withCounters totals).withGauges (batch.gauges.map image)

theorem applyBatch_ok {batch : Batch} {store after : Storage}
    (done : applyBatch batch store = (.ok (), after)) :
    ∃ totals, Writes batch store.seen after.seen store.stored totals := by
  obtain ⟨totals, second, summed, checks⟩ := Call.bind_ok done
  obtain ⟨_, third, passed, writes⟩ := Call.bind_ok checks
  obtain ⟨_, middle, first, last⟩ := Call.bind_ok writes
  have isSecond : second = store := by rw [← newTotals_snd batch.deltas store, summed]
  have isThird : third = store := by
    rw [← isSecond, ← requireGauges_snd batch.gauges.keys second, passed]
  rw [isThird] at first
  have within := within_setCounters totals store
  rw [first] at within
  obtain ⟨isMiddle, noGauge⟩ := Storage.setCounters_ok (storing_ok first)
  obtain ⟨isAfter, noCounter⟩ := Storage.setGauges_ok (storing_ok last)
  rw [isMiddle, Storage.stored_of_within within] at isAfter
  rw [isMiddle] at noCounter
  exact ⟨totals, newTotals_ok summed, noGauge, noCounter, isAfter⟩

/-! ### From what was held before to what is held after -/

section

variable {updates : List Update} {batch : Batch} {before after : Holdings}
  {image : Binary64 → Binary64} {totals : KeyMap Int64}

theorem total_of_writes (merges : batch.Merges updates)
    (writes : Writes batch before after image totals) {key : String}
    (changed : Update.deltas key updates ≠ []) :
    ∃ total, totals.find? key = some total ∧
      total.toInt = (before.total key).toInt + Update.deltaSum key updates := by
  cases found : batch.deltas.find? key with
  | none => exact absurd ((merges.absent key).mp found) changed
  | some delta =>
    have isSum := merges.sum key
    have isTotal := writes.sum key
    rw [found] at isSum isTotal
    obtain ⟨total, isFound, equal⟩ := Option.map_eq_some_iff.mp isTotal
    exact ⟨total, isFound, by rw [equal, ← isSum, Option.getD_some]⟩

theorem noTotal_of_writes (merges : batch.Merges updates)
    (writes : Writes batch before after image totals) {key : String}
    (unchanged : Update.deltas key updates = []) : totals.find? key = none := by
  have isTotal := writes.sum key
  rw [(merges.absent key).mpr unchanged] at isTotal
  exact Option.map_eq_none_iff.mp isTotal

theorem takes_of_writes (merges : batch.Merges updates)
    (writes : Writes batch before after image totals) :
    Holdings.Takes updates image before after where
  apart := merges.apart
  noGauge key changed := by
    obtain ⟨total, found, _⟩ := total_of_writes merges writes changed
    exact writes.noGauge key ((KeyMap.contains_eq_true_iff _ _).mpr ⟨total, found⟩)
  noCounter key changed := by
    obtain ⟨reading, isLast⟩ := Option.ne_none_iff_exists'.mp
      (mt List.getLast?_eq_none_iff.mp changed)
    rw [← merges.reading] at isLast
    have free := writes.noCounter key ((KeyMap.contains_eq_true_iff _ _).mpr ⟨reading, isLast⟩)
    exact (Option.or_eq_none_iff.mp free).2
  total key changed := by
    obtain ⟨total, found, equal⟩ := total_of_writes merges writes changed
    refine ⟨total, ?_, equal⟩
    rw [writes.result]
    show (totals.find? key).or (before.counter? key) = some total
    rw [found, Option.some_or]
  sameCounter key unchanged := by
    rw [writes.result]
    show (totals.find? key).or (before.counter? key) = before.counter? key
    rw [noTotal_of_writes merges writes unchanged, Option.none_or]
  gauge key := by
    rw [writes.result, ← merges.reading, ← KeyMap.find?_map]
    rfl

end

/-! ### Lists of updates -/

theorem updateMany_of_merged {store : Storage} {updates : List Update} {batch : Batch}
    (merged : Batch.ofUpdates updates = .ok batch) (more : updates.isEmpty = false) :
    updateMany updates store = inTransaction (applyBatch batch) store := by
  rw [updateMany, if_neg (by rw [more]; exact Bool.false_ne_true), merged]
  rfl

theorem updateMany_of_unmerged {store : Storage} {updates : List Update} {problem : ServiceError}
    (failed : Batch.ofUpdates updates = .error problem) :
    updateMany updates store = (.error problem, store) := by
  cases updates with
  | nil => cases failed
  | cons update rest =>
    rw [updateMany, failed]
    rfl

/-- A list of updates that succeeds takes the store from what it kept to what it keeps. -/
theorem updateMany_ok {updates : List Update} {store after : Storage}
    (done : updateMany updates store = (.ok (), after)) :
    Holdings.Takes updates store.stored store.kept after.kept := by
  unfold updateMany at done
  split at done
  · next none =>
    rw [List.isEmpty_iff.mp none, ← (Prod.mk.inj done).2]
    exact Holdings.Takes.nil _ _
  · obtain ⟨batch, same, merged, done⟩ := Call.bind_ok done
    obtain ⟨isMerged, isSame⟩ := Prod.mk.inj merged
    subst isSame
    obtain ⟨middle, applied, isAfter⟩ := inTransaction_ok done
    obtain ⟨totals, writes⟩ := applyBatch_ok applied
    rw [Storage.seen_begun, Storage.stored_begun] at writes
    rw [isAfter, Storage.kept_confirmed]
    exact takes_of_writes (Batch.ofUpdates_ok isMerged) writes

end Service

end Metering
