/-
When a list of updates overflows. The changes of a counter are summed up among themselves first,
in the order of the list, and every sum on the way has to be a counter; their sum is added to the
total last. So a list is refused although every total it asks for is a counter, if the changes
leave the range before they come back to it. Where no sum on the way does that, the order of the
changes makes no difference.
-/

import Metering.Proofs.Service.Admission

namespace Metering

namespace Update

variable {key : String} {updates : List Update}

/-- The changes of a counter leave the range of counters when they are summed up among
themselves in their order. -/
def Overruns (key : String) (updates : List Update) : Prop :=
  ∃ earlier, earlier <+: deltas key updates ∧ ¬ Tally.IsCounter (Tally.exactSum earlier)

theorem Overruns.append (overruns : Overruns key updates) (later : List Update) :
    Overruns key (updates ++ later) := by
  obtain ⟨earlier, isPrefix, outside⟩ := overruns
  refine ⟨earlier, isPrefix.trans ?_, outside⟩
  rw [deltas_append]
  exact List.prefix_append _ _

theorem not_overruns_nil : ¬ Overruns key [] := by
  rintro ⟨earlier, isPrefix, outside⟩
  obtain rfl := List.prefix_nil.mp isPrefix
  exact outside (by unfold Tally.IsCounter; decide)

/-- One more update overruns only with the sum of all changes. -/
theorem overruns_concat {update : Update} (overruns : Overruns key (updates ++ [update])) :
    Overruns key updates ∨ ¬ Tally.IsCounter (deltaSum key (updates ++ [update])) := by
  obtain ⟨earlier, isPrefix, outside⟩ := overruns
  rw [deltas_append] at isPrefix
  have oneAtMost : deltas key [update] = [] ∨ ∃ delta, deltas key [update] = [delta] := by
    rw [deltas, List.filterMap_cons]
    cases delta? key update with
    | none => exact Or.inl rfl
    | some delta => exact Or.inr ⟨delta, rfl⟩
  rcases oneAtMost with unchanged | ⟨delta, changed⟩
  · rw [unchanged, List.append_nil] at isPrefix
    exact Or.inl ⟨earlier, isPrefix, outside⟩
  · rw [changed, List.prefix_concat_iff] at isPrefix
    rcases isPrefix with rfl | isPrefix
    · right
      rwa [deltaSum, deltas_append, changed]
    · exact Or.inl ⟨earlier, isPrefix, outside⟩

end Update

namespace Batch

theorem addTo_error {key : String} {total delta : Int64} {problem : ServiceError}
    (failed : addTo key total delta = .error problem) :
    problem = .overflow key ∧ ¬ Tally.IsCounter (total.toInt + delta.toInt) := by
  unfold addTo at failed
  split at failed
  · cases failed
  · next outside =>
    exact ⟨(Except.error.inj failed).symm, (Tally.checkedAdd?_eq_none_iff _ _).mp outside⟩

/-- An update that is not taken up is one of a sum that is no counter, or of the other kind. -/
theorem add_error {batch : Batch} {update : Update} {problem : ServiceError}
    (failed : batch.add update = .error problem) :
    (∃ delta, update.value = .counter delta ∧ problem = .overflow update.key ∧
      ¬ Tally.IsCounter (((batch.deltas.find? update.key).getD 0).toInt + delta.toInt)) ∨
    problem = .storage (.wrongKind update.key) ∧
      ((∃ delta reading, update.value = .counter delta ∧
          batch.gauges.find? update.key = some reading) ∨
        ∃ reading delta, update.value = .gauge reading ∧
          batch.deltas.find? update.key = some delta) := by
  unfold add at failed
  cases isValue : update.value with
  | counter delta =>
    simp only [isValue] at failed
    cases other : batch.gauges.contains update.key with
    | true =>
      simp only [other, if_true] at failed
      obtain ⟨reading, found⟩ := (KeyMap.contains_eq_true_iff _ _).mp other
      exact Or.inr ⟨(Except.error.inj failed).symm, Or.inl ⟨delta, reading, rfl, found⟩⟩
    | false =>
      simp only [other, Bool.false_eq_true, if_false] at failed
      cases summed : addTo update.key ((batch.deltas.find? update.key).getD 0) delta with
      | ok sum => rw [summed] at failed; cases failed
      | error raised =>
        rw [summed] at failed
        obtain rfl : raised = problem := Except.error.inj failed
        obtain ⟨isOverflow, outside⟩ := addTo_error summed
        exact Or.inl ⟨delta, rfl, isOverflow, outside⟩
  | gauge reading =>
    simp only [isValue] at failed
    cases other : batch.deltas.contains update.key with
    | true =>
      simp only [other, if_true] at failed
      obtain ⟨delta, found⟩ := (KeyMap.contains_eq_true_iff _ _).mp other
      exact Or.inr ⟨(Except.error.inj failed).symm, Or.inr ⟨reading, delta, rfl, found⟩⟩
    | false =>
      simp only [other, Bool.false_eq_true, if_false] at failed
      cases failed

/-- Updates that are merged do not overrun. -/
theorem not_overruns_of_ofUpdates {updates : List Update} {batch : Batch}
    (merged : ofUpdates updates = .ok batch) (key : String) : ¬ Update.Overruns key updates := by
  -- the sum of all changes is in the batch, and every earlier one was in the batch before
  induction updates using List.reverseRecOn generalizing batch with
  | nil => exact Update.not_overruns_nil
  | append_singleton earlier update inductionHypothesis =>
    have isSum := (ofUpdates_ok merged).sum key
    rw [ofUpdates_concat] at merged
    cases before : ofUpdates earlier with
    | error problem => rw [before] at merged; cases merged
    | ok middle =>
      intro overruns
      rcases Update.overruns_concat overruns with already | outside
      · exact inductionHypothesis before already
      · exact outside (isSum ▸ Tally.isCounter_toInt _)

/-- Updates that are not merged overrun, or have a key under both kinds. -/
theorem ofUpdates_error {updates : List Update} {problem : ServiceError}
    (failed : ofUpdates updates = .error problem) :
    (∃ key, problem = .overflow key ∧ Update.Overruns key updates) ∨
      ∃ key, problem = .storage (.wrongKind key) ∧ Update.deltas key updates ≠ [] ∧
        Update.readings key updates ≠ [] := by
  -- the last update is the one that is not taken up, or an earlier one is
  induction updates using List.reverseRecOn generalizing problem with
  | nil => cases failed
  | append_singleton earlier update inductionHypothesis =>
    rw [ofUpdates_concat] at failed
    cases before : ofUpdates earlier with
    | error raised =>
      rw [before] at failed
      obtain rfl : raised = problem := Except.error.inj failed
      rcases inductionHypothesis before with ⟨key, same, overruns⟩ | ⟨key, same, changed, read⟩
      · exact Or.inl ⟨key, same, overruns.append _⟩
      · refine Or.inr ⟨key, same, ?_, ?_⟩
        · rw [Update.deltas_append]
          exact List.append_ne_nil_of_left_ne_nil changed _
        · rw [Update.readings_append]
          exact List.append_ne_nil_of_left_ne_nil read _
    | ok batch =>
      rw [before] at failed
      have merges := ofUpdates_ok before
      rcases add_error failed with ⟨delta, isCounter, same, outside⟩ | ⟨same, otherKind⟩
      · refine Or.inl ⟨update.key, same, _, List.prefix_refl _, ?_⟩
        rw [merges.sum] at outside
        rwa [Update.deltas_append, Update.deltas_counter isCounter, Tally.exactSum_append,
          Tally.exactSum_singleton]
      · refine Or.inr ⟨update.key, same, ?_⟩
        rw [Update.deltas_append, Update.readings_append]
        rcases otherKind with ⟨delta, reading, isCounter, found⟩ | ⟨reading, delta, isGauge, found⟩
        · have read := merges.readings_ne_nil found
          rw [Update.deltas_counter isCounter]
          exact ⟨List.append_ne_nil_of_right_ne_nil _ (List.cons_ne_nil _ _),
            List.append_ne_nil_of_left_ne_nil read _⟩
        · have changed := merges.deltas_ne_nil found
          rw [Update.readings_gauge isGauge]
          exact ⟨List.append_ne_nil_of_left_ne_nil changed _,
            List.append_ne_nil_of_right_ne_nil _ (List.cons_ne_nil _ _)⟩

/-- Updates in another order come to the same batch, if the readings of every gauge stay in
theirs. -/
theorem Merges.eq_of_perm {updates others : List Update} {batch other : Batch}
    (merges : batch.Merges updates) (otherMerges : other.Merges others)
    (perm : updates.Perm others)
    (sameReadings : ∀ key, Update.readings key updates = Update.readings key others) :
    batch = other := by
  have permDeltas : ∀ key, (Update.deltas key updates).Perm (Update.deltas key others) :=
    fun key => perm.filterMap _
  have sameDeltas : batch.deltas = other.deltas := KeyMap.ext_find? fun key => by
    have isSum := merges.sum key
    rw [Update.deltaSum, Tally.exactSum_perm (permDeltas key)] at isSum
    have sameSum := Int64.toInt_inj.mp (isSum.trans (otherMerges.sum key).symm)
    have sameAbsent : batch.deltas.find? key = none ↔ other.deltas.find? key = none := by
      rw [merges.absent, otherMerges.absent]
      exact ⟨fun absent => List.nil_perm.mp (absent ▸ permDeltas key),
        fun absent => List.perm_nil.mp (absent ▸ permDeltas key)⟩
    cases found : batch.deltas.find? key with
    | none => exact (sameAbsent.mp found).symm
    | some sum =>
      obtain ⟨otherSum, otherFound⟩ := Option.ne_none_iff_exists'.mp
        (mt sameAbsent.mpr (found ▸ Option.some_ne_none sum))
      rw [found, otherFound, Option.getD_some, Option.getD_some] at sameSum
      rw [otherFound, sameSum]
  have sameGauges : batch.gauges = other.gauges := KeyMap.ext_find? fun key => by
    rw [merges.reading, otherMerges.reading, sameReadings]
  cases batch
  cases other
  exact congr (congrArg Batch.mk sameDeltas) sameGauges

/-- Updates that are not merged though they do not overrun have a key under both kinds. -/
theorem ofUpdates_error_of_not_overruns {updates : List Update} {problem : ServiceError}
    (noneOverruns : ∀ key, ¬ Update.Overruns key updates)
    (failed : ofUpdates updates = .error problem) :
    ∃ key, problem = .storage (.wrongKind key) ∧ Update.deltas key updates ≠ [] ∧
      Update.readings key updates ≠ [] := by
  rcases ofUpdates_error failed with ⟨key, _, overruns⟩ | bothKinds
  · exact absurd overruns (noneOverruns key)
  · exact bothKinds

/-- Updates that are merged are merged to the same batch in every order in which they do not
overrun and in which the readings of every gauge stay in theirs. -/
theorem ofUpdates_of_perm {updates others : List Update} {batch : Batch}
    (merged : ofUpdates updates = .ok batch) (perm : updates.Perm others)
    (sameReadings : ∀ key, Update.readings key updates = Update.readings key others)
    (noneOverruns : ∀ key, ¬ Update.Overruns key others) : ofUpdates others = .ok batch := by
  have merges := ofUpdates_ok merged
  cases otherMerged : ofUpdates others with
  | ok other => rw [merges.eq_of_perm (ofUpdates_ok otherMerged) perm sameReadings]
  | error problem =>
    obtain ⟨key, _, changed, read⟩ := ofUpdates_error_of_not_overruns noneOverruns otherMerged
    have permDeltas : (Update.deltas key updates).Perm (Update.deltas key others) :=
      perm.filterMap _
    rw [← sameReadings key] at read
    have unchanged := (merges.apart key).resolve_right read
    exact absurd (List.nil_perm.mp (unchanged ▸ permDeltas)) changed

end Batch

namespace Service

variable {store : Storage}

/-! ### Totals that are no counters -/

theorem newTotal_error_of_free (reached : store.isReached = true) {key : String} {delta : Int64}
    (free : store.seen.gauge? key = none) {after : Storage} {problem : ServiceError}
    (failed : newTotal key delta store = (.error problem, after)) :
    problem = .overflow key ∧
      ¬ Tally.IsCounter ((store.seen.total key).toInt + delta.toInt) := by
  rw [newTotal, Call.bind_apply, previousTotal_of_free reached free] at failed
  exact Batch.addTo_error (Prod.mk.inj failed).1

theorem foldlM_withTotal_error_of_free (reached : store.isReached = true)
    {entries : List (String × Int64)} (free : ∀ entry ∈ entries, store.seen.gauge? entry.1 = none)
    {start : KeyMap Int64} {after : Storage} {problem : ServiceError}
    (failed : entries.foldlM withTotal start store = (.error problem, after)) :
    ∃ entry ∈ entries, problem = .overflow entry.1 ∧
      ¬ Tally.IsCounter ((store.seen.total entry.1).toInt + entry.2.toInt) := by
  induction entries generalizing start with
  | nil => cases failed
  | cons entry rest inductionHypothesis =>
    obtain ⟨entryFree, restFree⟩ := List.forall_mem_cons.mp free
    rw [List.foldlM_cons] at failed
    rcases Call.bind_error failed with first | ⟨totals, middle, first, others⟩
    · rcases Call.bind_error first with summed | ⟨_, _, _, inserted⟩
      · exact ⟨entry, List.mem_cons_self, newTotal_error_of_free reached entryFree summed⟩
      · cases inserted
    · obtain rfl : middle = store := by rw [← withTotal_snd start entry store, first]
      obtain ⟨other, member, overflows⟩ := inductionHypothesis restFree others
      exact ⟨other, List.mem_cons_of_mem entry member, overflows⟩

theorem newTotals_error_of_free (reached : store.isReached = true) {deltas : KeyMap Int64}
    (free : ∀ key delta, deltas.find? key = some delta → store.seen.gauge? key = none)
    {after : Storage} {problem : ServiceError}
    (failed : newTotals deltas store = (.error problem, after)) :
    ∃ key delta, deltas.find? key = some delta ∧ problem = .overflow key ∧
      ¬ Tally.IsCounter ((store.seen.total key).toInt + delta.toInt) := by
  have found : ∀ entry ∈ deltas.toList, deltas.find? entry.1 = some entry.2 :=
    fun entry member => (KeyMap.find?_eq_some_iff deltas entry.1 entry.2).mpr member
  obtain ⟨entry, member, overflows⟩ := foldlM_withTotal_error_of_free reached
    (fun entry member => free entry.1 entry.2 (found entry member)) failed
  exact ⟨entry.1, entry.2, found entry member, overflows⟩

/-! ### Lists of updates -/

/-- In a list that succeeds no sum on the way and no total leaves the range of counters. -/
theorem inRange_of_updateMany_ok {updates : List Update} {after : Storage}
    (done : updateMany updates store = (.ok (), after)) (key : String) :
    ¬ Update.Overruns key updates ∧
      Tally.IsCounter ((store.kept.total key).toInt + Update.deltaSum key updates) := by
  constructor
  · cases merged : Batch.ofUpdates updates with
    | ok batch => exact Batch.not_overruns_of_ofUpdates merged key
    | error problem =>
      rw [updateMany_of_unmerged merged] at done
      cases done
  · rw [← (updateMany_ok done).toInt_total key]
    exact Tally.isCounter_toInt _

theorem applyBatch_error_of_updateMany {updates : List Update} {batch : Batch}
    (reached : store.begun.isReached = true) (merged : Batch.ofUpdates updates = .ok batch)
    {after : Storage} {problem : ServiceError}
    (failed : updateMany updates store = (.error problem, after)) :
    ∃ middle, applyBatch batch store.begun = (.error problem, middle) := by
  cases empty : updates.isEmpty with
  | true =>
    rw [updateMany, if_pos empty] at failed
    cases failed
  | false =>
    rw [updateMany_of_merged merged empty, inTransaction_apply,
      if_pos (Storage.connected_of_begun reached)] at failed
    rcases applied : applyBatch batch store.begun with ⟨_ | raised, middle⟩
    · rw [applied] at failed
      exact ⟨middle, by rw [Except.error.inj (Prod.mk.inj failed).1]⟩
    · rw [applied] at failed
      cases failed

theorem inRange_of_newTotals_ok {updates : List Update} {batch : Batch} {after : Storage}
    {totals : KeyMap Int64} (merges : batch.Merges updates)
    (summed : newTotals batch.deltas store.begun = (.ok totals, after)) {key : String}
    (changed : Update.deltas key updates ≠ []) :
    Tally.IsCounter ((store.kept.total key).toInt + Update.deltaSum key updates) := by
  obtain ⟨delta, found⟩ := Option.ne_none_iff_exists'.mp (mt (merges.absent key).mp changed)
  have isSum := merges.sum key
  have isTotal := newTotals_ok summed key
  rw [found, Option.getD_some] at isSum
  rw [found, Storage.seen_begun, Option.map_some, isSum] at isTotal
  obtain ⟨total, _, equal⟩ := Option.map_eq_some_iff.mp isTotal
  exact equal ▸ Tally.isCounter_toInt total

/-- A list of changes of counters that is refused overflows, at a key of which a sum on the way or
the total leaves the range of counters. -/
theorem overflow_of_updateMany_error {updates : List Update}
    (reached : store.begun.isReached = true)
    (counters : ∀ update ∈ updates, (∃ delta, update.value = .counter delta) ∧
      store.kept.gauge? update.key = none) {after : Storage} {problem : ServiceError}
    (failed : updateMany updates store = (.error problem, after)) :
    ∃ key, problem = .overflow key ∧ (Update.Overruns key updates ∨
      ¬ Tally.IsCounter ((store.kept.total key).toInt + Update.deltaSum key updates)) := by
  have noGauge : ∀ key reading, ⟨key, .gauge reading⟩ ∉ updates := fun key reading member => by
    obtain ⟨⟨delta, isCounter⟩, _⟩ := counters _ member
    cases isCounter
  have free : ∀ key, Update.deltas key updates ≠ [] → store.kept.gauge? key = none := by
    intro key changed
    obtain ⟨delta, member⟩ := List.exists_mem_of_ne_nil _ changed
    exact (counters _ ((Update.mem_deltas_iff key delta updates).mp member)).2
  cases merged : Batch.ofUpdates updates with
  | error raised =>
    rw [updateMany_of_unmerged merged] at failed
    obtain rfl : raised = problem := Except.error.inj (Prod.mk.inj failed).1
    rcases Batch.ofUpdates_error merged with ⟨key, same, overruns⟩ | ⟨key, _, _, read⟩
    · exact ⟨key, same, Or.inl overruns⟩
    · obtain ⟨reading, member⟩ := List.exists_mem_of_ne_nil _ read
      exact absurd ((Update.mem_readings_iff key reading updates).mp member) (noGauge key reading)
  | ok batch =>
    have merges := Batch.ofUpdates_ok merged
    have deltaFree : ∀ key delta, batch.deltas.find? key = some delta →
        store.begun.seen.gauge? key = none := fun key delta found => by
      rw [Storage.seen_begun]
      exact free key (merges.deltas_ne_nil found)
    obtain ⟨middle, applied⟩ := applyBatch_error_of_updateMany reached merged failed
    rcases Call.bind_error applied with unsummed | ⟨totals, _, summed, _⟩
    · obtain ⟨key, delta, found, same, outside⟩ :=
        newTotals_error_of_free reached deltaFree unsummed
      have isSum := merges.sum key
      rw [found, Option.getD_some] at isSum
      rw [Storage.seen_begun, isSum] at outside
      exact ⟨key, same, Or.inr outside⟩
    · -- with all totals worked out nothing stands against the writes
      have inRange : ∀ key, Update.deltas key updates ≠ [] → store.kept.gauge? key = none ∧
          Tally.IsCounter ((store.kept.total key).toInt + Update.deltaSum key updates) :=
        fun key changed => ⟨free key changed, inRange_of_newTotals_ok merges summed changed⟩
      obtain ⟨_, done⟩ := updateMany_of_free reached merged inRange
        fun key reading member => absurd member (noGauge key reading)
      rw [done] at failed
      cases failed

/-- In an order in which it does not overrun either a list does the same, or has a key under both
kinds and is refused for one such key. -/
theorem updateMany_of_perm {updates others : List Update} (perm : updates.Perm others)
    (sameReadings : ∀ key, Update.readings key updates = Update.readings key others)
    (noneOverruns : ∀ key, ¬ Update.Overruns key updates ∧ ¬ Update.Overruns key others) :
    updateMany updates store = updateMany others store ∨
      ∃ key other, updateMany updates store = (.error (.storage (.wrongKind key)), store) ∧
        updateMany others store = (.error (.storage (.wrongKind other)), store) := by
  cases merged : Batch.ofUpdates updates with
  | ok batch =>
    left
    have otherMerged := Batch.ofUpdates_of_perm merged perm sameReadings
      fun key => (noneOverruns key).2
    cases empty : updates.isEmpty with
    | true =>
      obtain rfl := List.isEmpty_iff.mp empty
      rw [List.nil_perm.mp perm]
    | false =>
      have otherMore : others.isEmpty = false := by rw [← perm.isEmpty_eq, empty]
      rw [updateMany_of_merged merged empty, updateMany_of_merged otherMerged otherMore]
  | error problem =>
    obtain ⟨key, rfl, _⟩ := Batch.ofUpdates_error_of_not_overruns
      (fun key => (noneOverruns key).1) merged
    cases otherMerged : Batch.ofUpdates others with
    | ok batch =>
      rw [Batch.ofUpdates_of_perm otherMerged perm.symm (fun key => (sameReadings key).symm)
        fun key => (noneOverruns key).1] at merged
      cases merged
    | error otherProblem =>
      obtain ⟨other, rfl, _⟩ := Batch.ofUpdates_error_of_not_overruns
        (fun key => (noneOverruns key).2) otherMerged
      exact Or.inr ⟨key, other, updateMany_of_unmerged merged, updateMany_of_unmerged otherMerged⟩

/-- A list of changes of counters overflows exactly if, for some key, a sum of its changes on the
way or its total in the end leaves the range of counters. Lists of updates that are the same but
for the order of the changes do the same if in neither order a sum on the way leaves the range: both
succeed or both fail, and the same is held afterwards. -/
theorem updateMany_overflows_on_the_way (store : Storage) (updates : List Update)
    (reached : store.begun.isReached = true) :
    ((∀ update ∈ updates, (∃ delta, update.value = .counter delta) ∧
        store.kept.gauge? update.key = none) →
      ((∃ key, (updateMany updates store).1 = .error (.overflow key)) ↔
        ∃ key, Update.Overruns key updates ∨
          ¬ Tally.IsCounter ((store.kept.total key).toInt + Update.deltaSum key updates))) ∧
    ∀ others : List Update, updates.Perm others →
      (∀ key, Update.readings key updates = Update.readings key others) →
      (∀ key, ¬ Update.Overruns key updates ∧ ¬ Update.Overruns key others) →
      ((updateMany updates store).1 = .ok () ↔ (updateMany others store).1 = .ok ()) ∧
        (updateMany updates store).2 = (updateMany others store).2 := by
  constructor
  · intro counters
    constructor
    · rintro ⟨key, failed⟩
      obtain ⟨other, _, outside⟩ :=
        overflow_of_updateMany_error reached counters (Prod.ext failed rfl)
      exact ⟨other, outside⟩
    · rintro ⟨key, outside⟩
      cases answered : (updateMany updates store).1 with
      | ok _ =>
        obtain ⟨noneOverruns, inRange⟩ := inRange_of_updateMany_ok (Prod.ext answered rfl) key
        exact absurd inRange (outside.resolve_left noneOverruns)
      | error problem =>
        obtain ⟨other, rfl, _⟩ :=
          overflow_of_updateMany_error reached counters (Prod.ext answered rfl)
        exact ⟨other, rfl⟩
  · intro others perm sameReadings noneOverruns
    rcases updateMany_of_perm perm sameReadings noneOverruns with
      same | ⟨key, other, refused, otherRefused⟩
    · rw [same]
      exact ⟨Iff.rfl, rfl⟩
    · rw [refused, otherRefused]
      exact ⟨⟨nofun, nofun⟩, rfl⟩

/-- Changes that leave the range on the way are refused, and changes that do not may change
places, also around a reading. -/
theorem updateMany_overflows_on_the_way_two_lists :
    let store := Storage.memory .ephemeral
    let overrunning : List Update := [⟨"k", .counter 9223372036854775807⟩, ⟨"k", .counter 1⟩]
    let updates : List Update := [⟨"k", .counter 1⟩, ⟨"g", .gauge ⟨0⟩⟩, ⟨"k", .counter 2⟩]
    let others : List Update := [⟨"k", .counter 2⟩, ⟨"k", .counter 1⟩, ⟨"g", .gauge ⟨0⟩⟩]
    (∃ key, (updateMany overrunning store).1 = .error (.overflow key)) ∧
      (∃ key, Update.Overruns key overrunning ∨
        ¬ Tally.IsCounter ((store.kept.total key).toInt + Update.deltaSum key overrunning)) ∧
      (updateMany updates store).1 = .ok () ∧ (updateMany others store).1 = .ok () ∧
      (updateMany updates store).2 = (updateMany others store).2 := by
  intro store overrunning updates others
  have counters : ∀ update ∈ overrunning, (∃ delta, update.value = .counter delta) ∧
      store.kept.gauge? update.key = none := by
    refine List.forall_mem_cons.mpr ⟨⟨⟨_, rfl⟩, rfl⟩, List.forall_mem_cons.mpr ⟨?_, nofun⟩⟩
    exact ⟨⟨_, rfl⟩, rfl⟩
  have overflows : ∃ key, (updateMany overrunning store).1 = .error (.overflow key) := ⟨"k", rfl⟩
  have outside := ((updateMany_overflows_on_the_way store overrunning rfl).1 counters).mp overflows
  have perm : updates.Perm others := by decide
  have sameReadings : ∀ key, Update.readings key updates = Update.readings key others := by
    intro key
    by_cases isGauge : "g" = key <;>
      simp [updates, others, Update.readings, Update.reading?, Value.reading?, isGauge]
  have noneOverruns : ∀ key, ¬ Update.Overruns key updates ∧ ¬ Update.Overruns key others :=
    fun key => ⟨Batch.not_overruns_of_ofUpdates rfl key, Batch.not_overruns_of_ofUpdates rfl key⟩
  have same := (updateMany_overflows_on_the_way store updates rfl).2 others perm sameReadings
    noneOverruns
  have done : (updateMany updates store).1 = .ok () := rfl
  exact ⟨overflows, outside, done, same.1.mp done, same.2⟩

/-- A list is refused though the total it asks for is a counter, though its updates go through
one after the other, and though other lists of the same changes go through. -/
theorem overflow_of_total_in_range :
    let store := Storage.memory
      { MemoryStore.ephemeral with contents := ⟨KeyMap.ofList [("k", -5)], KeyMap.empty⟩ }
    let updates : List Update := [⟨"k", .counter 9223372036854775807⟩, ⟨"k", .counter 1⟩]
    let longer : List Update := updates ++ [⟨"k", .counter (-1)⟩]
    (updateMany updates store).1 = .error (.overflow "k") ∧
      (∀ key, store.kept.gauge? key = none ∧
        Tally.IsCounter ((store.kept.total key).toInt + Update.deltaSum key updates)) ∧
      (updates.mapM update store).1 =
        .ok [.counter 9223372036854775802, .counter 9223372036854775803] ∧
      (updateMany longer store).1 = .error (.overflow "k") ∧
      longer.Perm longer.reverse ∧ (updateMany longer.reverse store).1 = .ok () := by
  intro store updates longer
  refine ⟨rfl, fun key => ⟨rfl, ?_⟩, rfl, rfl, (List.reverse_perm longer).symm, rfl⟩
  by_cases isCounter : key = "k"
  · subst isCounter
    unfold Tally.IsCounter
    decide
  · have noTotal : store.kept.total key = 0 := by
      show ((KeyMap.ofList [("k", -5)]).find? key).getD 0 = 0
      rw [KeyMap.ofList, KeyMap.insertAll, List.foldl_cons, List.foldl_nil, KeyMap.find?_insert,
        if_neg isCounter]
      rfl
    have unchanged : Update.deltas key updates = [] := by
      simp [updates, Update.deltas, Update.delta?, Ne.symm isCounter]
    rw [noTotal, Update.deltaSum, unchanged]
    unfold Tally.IsCounter
    decide

end Service

end Metering
