/-
What a list of updates means. A counter that occurs in it gets the exact sum of its changes added
to its total, a gauge its last reading, no key can occur under both kinds, and no other key is
touched.
-/

import Metering.Proofs.Service.Applied

namespace Metering

namespace Holdings.Takes

/-! ### What is held after updates -/

variable {updates : List Update} {image : Binary64 → Binary64} {before after : Holdings}
  {key : String}

theorem counter?_of_mem (takes : Takes updates image before after) {delta : Int64}
    (member : ⟨key, .counter delta⟩ ∈ updates) :
    (∃ total, after.counter? key = some total ∧
      total.toInt = (before.total key).toInt + Update.deltaSum key updates) ∧
    after.gauge? key = none := by
  have changed := List.ne_nil_of_mem ((Update.mem_deltas_iff key delta updates).mpr member)
  exact ⟨takes.total key changed, takes.gauge?_of_changed key changed⟩

theorem gauge?_of_last (takes : Takes updates image before after) {reading : Binary64}
    (isLast : (Update.readings key updates).getLast? = some reading) :
    after.gauge? key = some (image reading) ∧ after.counter? key = none := by
  have changed : Update.readings key updates ≠ [] :=
    List.ne_nil_of_mem (List.mem_of_getLast? isLast)
  refine ⟨?_, takes.counter?_of_read key changed⟩
  rw [takes.gauge, isLast]
  rfl

theorem not_both_kinds (takes : Takes updates image before after) {delta : Int64}
    {reading : Binary64} (member : ⟨key, .counter delta⟩ ∈ updates) :
    ⟨key, .gauge reading⟩ ∉ updates := by
  rw [← Update.mem_readings_iff, (takes.apart key).resolve_left
    (List.ne_nil_of_mem ((Update.mem_deltas_iff key delta updates).mpr member))]
  exact List.not_mem_nil

theorem same_of_absent (takes : Takes updates image before after)
    (absent : ∀ update ∈ updates, update.key ≠ key) :
    after.counter? key = before.counter? key ∧ after.gauge? key = before.gauge? key := by
  refine ⟨takes.sameCounter key (Update.deltas_eq_nil absent), ?_⟩
  rw [takes.gauge, Update.readings_eq_nil absent]
  rfl

end Holdings.Takes

namespace Service

/-- After a list of updates that succeeds, every counter in it has its previous total and the
exact sum of its changes, every gauge its last reading, and every other key what it had. -/
theorem updateMany_merges {updates : List Update} {store after : Storage}
    (done : updateMany updates store = (.ok (), after)) (key : String) :
    (∀ delta, ⟨key, .counter delta⟩ ∈ updates →
      (∃ total, after.kept.counter? key = some total ∧
        total.toInt = (store.kept.total key).toInt + Update.deltaSum key updates) ∧
      after.kept.gauge? key = none) ∧
    (∀ reading, (Update.readings key updates).getLast? = some reading →
      after.kept.gauge? key = some (store.stored reading) ∧ after.kept.counter? key = none) ∧
    (∀ delta reading, ⟨key, .counter delta⟩ ∈ updates → ⟨key, .gauge reading⟩ ∉ updates) ∧
    ((∀ update ∈ updates, update.key ≠ key) →
      after.kept.counter? key = store.kept.counter? key ∧
      after.kept.gauge? key = store.kept.gauge? key) := by
  have takes := updateMany_ok done
  exact ⟨fun delta member => takes.counter?_of_mem member,
    fun reading isLast => takes.gauge?_of_last isLast,
    fun delta reading member => takes.not_both_kinds member,
    fun absent => takes.same_of_absent absent⟩

theorem updateMany_merges_two_deltas :
    let updates : List Update :=
      [⟨"a", .counter 2⟩, ⟨"g", .gauge ⟨0⟩⟩, ⟨"a", .counter 3⟩]
    let result := updateMany updates (Storage.memory .ephemeral)
    result.1 = .ok () ∧
      ∃ total, result.2.kept.counter? "a" = some total ∧ total.toInt = 5 := by
  intro updates result
  have done : updateMany updates (Storage.memory .ephemeral) = (.ok (), result.2) := rfl
  obtain ⟨⟨total, found, isSum⟩, _⟩ := (updateMany_merges done "a").1 2 (by decide)
  exact ⟨rfl, total, found, isSum.trans (by decide)⟩

end Service

end Metering
