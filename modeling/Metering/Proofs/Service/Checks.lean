/-
The checks that come before a write. They read the store and leave it as it is; what they let
through is told by what is seen of the store at that moment.
-/

import Metering.Proofs.Numeral.Tally
import Metering.Proofs.Service.Call
import Metering.Proofs.Storage.Holdings

namespace Metering

theorem Batch.addTo_ok {key : String} {total delta sum : Int64}
    (added : Batch.addTo key total delta = .ok sum) : sum.toInt = total.toInt + delta.toInt := by
  unfold Batch.addTo at added
  split at added
  · next exact => rw [← Except.ok.inj added, Tally.toInt_of_checkedAdd? exact]
  · cases added

namespace Service

/-- The store is the same afterwards. -/
def Unmoved (store after : Storage) : Prop := after = store

theorem Unmoved.refl (store : Storage) : Unmoved store store := rfl

theorem Unmoved.trans (first second third : Storage) (earlier : Unmoved first second)
    (later : Unmoved second third) : Unmoved first third :=
  Eq.trans later earlier

/-! ### The total of one counter -/

theorem previousTotal_snd (key : String) (store : Storage) :
    (previousTotal key store).2 = store := by
  unfold previousTotal
  rw [Storage.counter_on]
  split <;> next result => exact (Prod.mk.inj result).2.symm

theorem previousTotal_ok {key : String} {store after : Storage} {total : Int64}
    (read : previousTotal key store = (.ok total, after)) :
    after = store ∧ total = store.seen.total key := by
  have same := previousTotal_snd key store
  rw [read] at same
  refine ⟨same, ?_⟩
  unfold previousTotal at read
  rw [Storage.counter_on] at read
  cases reached : store.isReached with
  | false => simp only [reached, Bool.false_eq_true, if_false] at read; cases read
  | true =>
    simp only [reached, if_true, Holdings.counter] at read
    rw [Holdings.total]
    cases found : store.seen.counter? key with
    | some held =>
      simp only [found] at read
      exact (Except.ok.inj (Prod.mk.inj read).1).symm
    | none =>
      simp only [found] at read
      cases other : (store.seen.gauge? key).isSome with
      | true => simp only [other, if_true] at read; cases read
      | false =>
        simp only [other, Bool.false_eq_true, if_false] at read
        exact (Except.ok.inj (Prod.mk.inj read).1).symm

theorem newTotal_snd (key : String) (delta : Int64) (store : Storage) :
    (newTotal key delta store).2 = store := by
  have unmoved : Call.Keeps Unmoved (newTotal key delta) :=
    Call.keeps_bind Unmoved.trans (previousTotal_snd key) fun _ _ => rfl
  exact unmoved store

/-- A new total is the exact sum. -/
theorem newTotal_ok {key : String} {delta : Int64} {store after : Storage} {total : Int64}
    (done : newTotal key delta store = (.ok total, after)) :
    total.toInt = (store.seen.total key).toInt + delta.toInt := by
  obtain ⟨previous, middle, read, added⟩ := Call.bind_ok done
  obtain ⟨_, isPrevious⟩ := previousTotal_ok read
  rw [← isPrevious]
  exact Batch.addTo_ok (Prod.mk.inj added).1

/-! ### The totals of a batch -/

/-- The totals of a batch with one more. -/
abbrev withTotal (totals : KeyMap Int64) (entry : String × Int64) : Call Storage (KeyMap Int64) :=
  do return totals.insert entry.1 (← newTotal entry.1 entry.2)

theorem withTotal_snd (totals : KeyMap Int64) (entry : String × Int64) (store : Storage) :
    (withTotal totals entry store).2 = store := by
  have unmoved : Call.Keeps Unmoved (withTotal totals entry) :=
    Call.keeps_bind Unmoved.trans (newTotal_snd entry.1 entry.2) fun _ _ => rfl
  exact unmoved store

theorem newTotals_snd (deltas : KeyMap Int64) (store : Storage) :
    (newTotals deltas store).2 = store := by
  have unmoved : Call.Keeps Unmoved (newTotals deltas) :=
    Call.keeps_foldlM Unmoved.refl Unmoved.trans withTotal_snd deltas.toList KeyMap.empty
  exact unmoved store

theorem foldlM_withTotal_ok {entries : List (String × Int64)} (sorted : KeyMap.Sorted entries)
    {start totals : KeyMap Int64} {store after : Storage}
    (done : entries.foldlM withTotal start store = (.ok totals, after)) (key : String) :
    (totals.find? key).map Int64.toInt =
      ((KeyMap.lookupEntry key entries).map
        fun delta => (store.seen.total key).toInt + delta.toInt).or
          ((start.find? key).map Int64.toInt) := by
  induction entries generalizing start with
  | nil => cases done; rfl
  | cons entry rest inductionHypothesis =>
    obtain ⟨other, delta⟩ := entry
    rw [List.foldlM_cons] at done
    obtain ⟨next, middle, first, others⟩ := Call.bind_ok done
    have same : middle = store := by rw [← withTotal_snd start (other, delta) store, first]
    rw [same] at first others
    obtain ⟨total, _, summed, inserted⟩ := Call.bind_ok first
    have isNext : start.insert other total = next := Except.ok.inj (Prod.mk.inj inserted).1
    rw [inductionHypothesis (List.pairwise_cons.mp sorted).2 others, ← isNext,
      KeyMap.find?_insert]
    by_cases equal : key = other
    · subst equal
      rw [KeyMap.lookupEntry_rest_eq_none sorted, KeyMap.lookupEntry_cons_self, if_pos rfl,
        Option.map_some, newTotal_ok summed]
      rfl
    · rw [KeyMap.lookupEntry_cons_other equal, if_neg equal]

/-- The totals of a batch are those that are seen with the changes of the batch added. -/
theorem newTotals_ok {deltas totals : KeyMap Int64} {store after : Storage}
    (done : newTotals deltas store = (.ok totals, after)) (key : String) :
    (totals.find? key).map Int64.toInt =
      (deltas.find? key).map fun delta => (store.seen.total key).toInt + delta.toInt := by
  have found := foldlM_withTotal_ok deltas.sorted done key
  rwa [KeyMap.find?_empty, Option.map_none, Option.or_none] at found

/-! ### The keys of gauges -/

theorem requireGauge_snd (key : String) (store : Storage) :
    (requireGauge key store).2 = store := by
  unfold requireGauge
  rw [Storage.gauge_on]
  split <;> next result => exact (Prod.mk.inj result).2.symm

theorem requireGauges_snd (keys : List String) (store : Storage) :
    (keys.forM requireGauge store).2 = store := by
  have unmoved : Call.Keeps Unmoved (keys.forM requireGauge) :=
    Call.keeps_forM Unmoved.refl Unmoved.trans requireGauge_snd keys
  exact unmoved store

/-- A key that can hold a gauge and holds none does not hold a counter. -/
theorem requireGauge_ok {key : String} {store after : Storage}
    (passed : requireGauge key store = (.ok (), after)) (free : store.seen.gauge? key = none) :
    store.seen.counter? key = none := by
  unfold requireGauge at passed
  rw [Storage.gauge_on] at passed
  cases reached : store.isReached with
  | false => simp only [reached, Bool.false_eq_true, if_false] at passed; cases passed
  | true =>
    simp only [reached, if_true, Holdings.gauge, free] at passed
    cases other : store.seen.counter? key with
    | none => rfl
    | some total =>
      simp only [other, Option.isSome_some, if_true] at passed
      cases passed

theorem requireGauges_ok {keys : List String} {store after : Storage}
    (passed : keys.forM requireGauge store = (.ok (), after)) {key : String}
    (member : key ∈ keys) (free : store.seen.gauge? key = none) :
    store.seen.counter? key = none := by
  induction keys with
  | nil => cases member
  | cons other rest inductionHypothesis =>
    obtain ⟨_, middle, first, others⟩ := Call.bind_ok passed
    have same : middle = store := by rw [← requireGauge_snd other store, first]
    rw [same] at first others
    rcases List.mem_cons.mp member with rfl | inRest
    · exact requireGauge_ok first free
    · exact inductionHypothesis others inRest

end Service

end Metering
