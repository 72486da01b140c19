/-
How updates are merged. Of a counter the merged batch has the exact sum of all its changes, of a
gauge the last reading, and no key stands in it under both kinds.
-/

import Mathlib.Data.List.Induction
import Metering.Proofs.Service.Checks

namespace Metering

namespace Update

/-- The change that an update asks for of the counter of a key. -/
def delta? (key : String) (update : Update) : Option Int64 :=
  if update.key = key then update.value.total? else none

/-- The reading that an update gives to the gauge of a key. -/
def reading? (key : String) (update : Update) : Option Binary64 :=
  if update.key = key then update.value.reading? else none

/-- The changes of the counter of a key, in the order of the updates. -/
def deltas (key : String) (updates : List Update) : List Int64 := updates.filterMap (delta? key)

/-- The readings of the gauge of a key, in the order of the updates. -/
def readings (key : String) (updates : List Update) : List Binary64 :=
  updates.filterMap (reading? key)

/-- The exact sum of the changes of the counter of a key. -/
def deltaSum (key : String) (updates : List Update) : Int :=
  Tally.exactSum (deltas key updates)

theorem deltas_append (key : String) (earlier later : List Update) :
    deltas key (earlier ++ later) = deltas key earlier ++ deltas key later :=
  List.filterMap_append

theorem readings_append (key : String) (earlier later : List Update) :
    readings key (earlier ++ later) = readings key earlier ++ readings key later :=
  List.filterMap_append

theorem deltaSum_append (key : String) (earlier later : List Update) :
    deltaSum key (earlier ++ later) = deltaSum key earlier + deltaSum key later := by
  rw [deltaSum, deltas_append, Tally.exactSum_append, deltaSum, deltaSum]

/-! ### One more update -/

variable {update : Update} {key : String}

theorem deltas_other (different : update.key ≠ key) : deltas key [update] = [] := by
  simp only [deltas, delta?, List.filterMap_cons, if_neg different, List.filterMap_nil]

theorem readings_other (different : update.key ≠ key) : readings key [update] = [] := by
  simp only [readings, reading?, List.filterMap_cons, if_neg different, List.filterMap_nil]

theorem deltas_counter {delta : Int64} (isCounter : update.value = .counter delta) :
    deltas update.key [update] = [delta] := by
  simp only [deltas, delta?, List.filterMap_cons, if_true, isCounter, Value.total?,
    List.filterMap_nil]

theorem readings_counter {delta : Int64} (isCounter : update.value = .counter delta) :
    readings key [update] = [] := by
  simp only [readings, reading?, List.filterMap_cons, isCounter, Value.reading?, ite_self,
    List.filterMap_nil]

theorem deltas_gauge {reading : Binary64} (isGauge : update.value = .gauge reading) :
    deltas key [update] = [] := by
  simp only [deltas, delta?, List.filterMap_cons, isGauge, Value.total?, ite_self,
    List.filterMap_nil]

theorem readings_gauge {reading : Binary64} (isGauge : update.value = .gauge reading) :
    readings update.key [update] = [reading] := by
  simp only [readings, reading?, List.filterMap_cons, if_true, isGauge, Value.reading?,
    List.filterMap_nil]

/-! ### Occurrences -/

theorem mem_deltas_iff (key : String) (delta : Int64) (updates : List Update) :
    delta ∈ deltas key updates ↔ ⟨key, .counter delta⟩ ∈ updates := by
  rw [deltas, List.mem_filterMap]
  constructor
  · rintro ⟨⟨other, value⟩, member, asked⟩
    obtain ⟨same, isDelta⟩ := Option.ite_none_right_eq_some.mp asked
    cases value with
    | counter held => exact Option.some.inj isDelta ▸ same ▸ member
    | gauge reading => cases isDelta
  · exact fun member => ⟨_, member, if_pos rfl⟩

theorem mem_readings_iff (key : String) (reading : Binary64) (updates : List Update) :
    reading ∈ readings key updates ↔ ⟨key, .gauge reading⟩ ∈ updates := by
  rw [readings, List.mem_filterMap]
  constructor
  · rintro ⟨⟨other, value⟩, member, asked⟩
    obtain ⟨same, isReading⟩ := Option.ite_none_right_eq_some.mp asked
    cases value with
    | counter total => cases isReading
    | gauge held => exact Option.some.inj isReading ▸ same ▸ member
  · exact fun member => ⟨_, member, if_pos rfl⟩

theorem deltas_eq_nil {key : String} {updates : List Update}
    (absent : ∀ update ∈ updates, update.key ≠ key) : deltas key updates = [] :=
  List.filterMap_eq_nil_iff.mpr fun update member => if_neg (absent update member)

theorem readings_eq_nil {key : String} {updates : List Update}
    (absent : ∀ update ∈ updates, update.key ≠ key) : readings key updates = [] :=
  List.filterMap_eq_nil_iff.mpr fun update member => if_neg (absent update member)

end Update

namespace Batch

/-- A batch is what updates come to. -/
structure Merges (updates : List Update) (batch : Batch) : Prop where
  sum : ∀ key, ((batch.deltas.find? key).getD 0).toInt = Update.deltaSum key updates
  absent : ∀ key, batch.deltas.find? key = none ↔ Update.deltas key updates = []
  reading : ∀ key, batch.gauges.find? key = (Update.readings key updates).getLast?
  apart : ∀ key, Update.deltas key updates = [] ∨ Update.readings key updates = []

theorem merges_nil : Merges [] empty where
  sum _ := rfl
  absent _ := Iff.intro (fun _ => rfl) (fun _ => rfl)
  reading _ := rfl
  apart _ := Or.inl rfl

theorem Merges.readings_ne_nil {updates : List Update} {batch : Batch}
    (merges : batch.Merges updates) {key : String} {reading : Binary64}
    (found : batch.gauges.find? key = some reading) : Update.readings key updates ≠ [] := by
  rw [merges.reading] at found
  exact List.ne_nil_of_mem (List.mem_of_getLast? found)

theorem Merges.deltas_ne_nil {updates : List Update} {batch : Batch}
    (merges : batch.Merges updates) {key : String} {delta : Int64}
    (found : batch.deltas.find? key = some delta) : Update.deltas key updates ≠ [] :=
  mt (merges.absent key).mpr (found ▸ Option.some_ne_none delta)

/-- What an update that is taken up makes of a batch. -/
theorem add_ok {batch after : Batch} {update : Update} (added : batch.add update = .ok after) :
    (∃ delta sum, update.value = .counter delta ∧ batch.gauges.find? update.key = none ∧
      sum.toInt = ((batch.deltas.find? update.key).getD 0).toInt + delta.toInt ∧
      after = ⟨batch.deltas.insert update.key sum, batch.gauges⟩) ∨
    ∃ reading, update.value = .gauge reading ∧ batch.deltas.find? update.key = none ∧
      after = ⟨batch.deltas, batch.gauges.insert update.key reading⟩ := by
  unfold add at added
  cases isValue : update.value with
  | counter delta =>
    simp only [isValue] at added
    cases other : batch.gauges.contains update.key with
    | true => simp only [other, if_true] at added; cases added
    | false =>
      simp only [other, Bool.false_eq_true, if_false] at added
      cases summed : addTo update.key ((batch.deltas.find? update.key).getD 0) delta with
      | error problem => rw [summed] at added; cases added
      | ok sum =>
        rw [summed] at added
        exact Or.inl ⟨delta, sum, rfl, (KeyMap.contains_eq_false_iff _ _).mp other,
          addTo_ok summed, (Except.ok.inj added).symm⟩
  | gauge reading =>
    simp only [isValue] at added
    cases other : batch.deltas.contains update.key with
    | true => simp only [other, if_true] at added; cases added
    | false =>
      simp only [other, Bool.false_eq_true, if_false] at added
      exact Or.inr ⟨reading, rfl, (KeyMap.contains_eq_false_iff _ _).mp other,
        (Except.ok.inj added).symm⟩

theorem merges_counter {updates : List Update} {batch : Batch} (merges : Merges updates batch)
    {update : Update} {delta sum : Int64} (isCounter : update.value = .counter delta)
    (noReading : batch.gauges.find? update.key = none)
    (isSum : sum.toInt = ((batch.deltas.find? update.key).getD 0).toInt + delta.toInt) :
    Merges (updates ++ [update]) ⟨batch.deltas.insert update.key sum, batch.gauges⟩ where
  sum key := by
    rw [KeyMap.find?_insert, Update.deltaSum_append]
    by_cases same : key = update.key
    · subst same
      rw [if_pos rfl, Option.getD_some, isSum, merges.sum]
      simp only [Update.deltaSum, Update.deltas_counter isCounter, Tally.exactSum_singleton]
    · rw [if_neg same, merges.sum]
      simp only [Update.deltaSum, Update.deltas_other (Ne.symm same), Tally.exactSum_nil,
        Int.add_zero]
  absent key := by
    rw [KeyMap.find?_insert, Update.deltas_append]
    by_cases same : key = update.key
    · subst same
      rw [if_pos rfl, Update.deltas_counter isCounter]
      simp only [reduceCtorEq, List.append_eq_nil_iff, List.cons_ne_self, and_false]
    · rw [if_neg same, Update.deltas_other (Ne.symm same), List.append_nil]
      exact merges.absent key
  reading key := by
    rw [Update.readings_append, Update.readings_counter isCounter, List.append_nil]
    exact merges.reading key
  apart key := by
    rw [Update.deltas_append, Update.readings_append, Update.readings_counter isCounter,
      List.append_nil]
    by_cases same : key = update.key
    · subst same
      rw [merges.reading, List.getLast?_eq_none_iff] at noReading
      exact Or.inr noReading
    · rw [Update.deltas_other (Ne.symm same), List.append_nil]
      exact merges.apart key

theorem merges_gauge {updates : List Update} {batch : Batch} (merges : Merges updates batch)
    {update : Update} {reading : Binary64} (isGauge : update.value = .gauge reading)
    (noDelta : batch.deltas.find? update.key = none) :
    Merges (updates ++ [update]) ⟨batch.deltas, batch.gauges.insert update.key reading⟩ where
  sum key := by
    rw [merges.sum]
    simp only [Update.deltaSum, Update.deltas_append, Update.deltas_gauge isGauge, List.append_nil]
  absent key := by
    rw [Update.deltas_append, Update.deltas_gauge isGauge, List.append_nil]
    exact merges.absent key
  reading key := by
    rw [KeyMap.find?_insert, Update.readings_append]
    by_cases same : key = update.key
    · subst same
      rw [if_pos rfl, Update.readings_gauge isGauge, List.getLast?_concat]
    · rw [if_neg same, Update.readings_other (Ne.symm same), List.append_nil]
      exact merges.reading key
  apart key := by
    rw [Update.deltas_append, Update.readings_append, Update.deltas_gauge isGauge,
      List.append_nil]
    by_cases same : key = update.key
    · subst same
      exact Or.inl ((merges.absent _).mp noDelta)
    · rw [Update.readings_other (Ne.symm same), List.append_nil]
      exact merges.apart key

theorem merges_add {updates : List Update} {batch after : Batch} (merges : Merges updates batch)
    {update : Update} (added : batch.add update = .ok after) :
    Merges (updates ++ [update]) after := by
  rcases add_ok added with
    ⟨delta, sum, isCounter, noReading, isSum, rfl⟩ | ⟨reading, isGauge, noDelta, rfl⟩
  · exact merges_counter merges isCounter noReading isSum
  · exact merges_gauge merges isGauge noDelta

theorem ofUpdates_concat (earlier : List Update) (update : Update) :
    ofUpdates (earlier ++ [update]) = ofUpdates earlier >>= fun batch => batch.add update := by
  rw [ofUpdates, ofUpdates, List.foldlM_append]
  refine congrArg _ (funext fun batch => ?_)
  exact bind_pure (batch.add update)

/-- A batch that is not refused is what its updates come to. -/
theorem ofUpdates_ok {updates : List Update} {batch : Batch}
    (merged : ofUpdates updates = .ok batch) : Merges updates batch := by
  induction updates using List.reverseRecOn generalizing batch with
  | nil => exact Except.ok.inj merged ▸ merges_nil
  | append_singleton earlier update inductionHypothesis =>
    rw [ofUpdates_concat] at merged
    cases before : ofUpdates earlier with
    | error problem => rw [before] at merged; cases merged
    | ok middle =>
      rw [before] at merged
      exact merges_add (inductionHypothesis before) merged

end Batch

end Metering
