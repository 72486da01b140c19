/-
Updates one after the other against the same updates as one list. Each of several updates takes
the store a step further, and the steps together take it where the list takes it at once; where
both go through, the same is held afterwards. A list of a single update comes to that update
alone, whether it goes through or not. Only a reading that is not a number, for the key of a
counter in a database, is refused for another reason: the list finds the counter before the table
is asked to take the reading.
-/

import Metering.Proofs.Service.Outcome
import Metering.Proofs.Storage.Bulk

namespace Metering

variable {Answer First Second : Type}

namespace Holdings.Takes

variable {updates earlier later : List Update} {image : Binary64 → Binary64}
  {before middle after other : Holdings}

/-- A counter that updates change is there afterwards. -/
theorem counter?_ne_none (takes : Takes updates image before after) {key : String}
    (changed : Update.deltas key updates ≠ []) : after.counter? key ≠ none := by
  obtain ⟨total, found, _⟩ := takes.total key changed
  exact found ▸ Option.some_ne_none total

/-- A gauge that updates set is there afterwards. -/
theorem gauge?_ne_none (takes : Takes updates image before after) {key : String}
    (read : Update.readings key updates ≠ []) : after.gauge? key ≠ none := by
  obtain ⟨reading, isLast⟩ := Option.ne_none_iff_exists'.mp
    (mt List.getLast?_eq_none_iff.mp read)
  rw [takes.gauge, isLast]
  exact Option.some_ne_none (image reading)

/-- What is no gauge after updates was none before them. -/
theorem noGauge_before (takes : Takes updates image before after) {key : String}
    (free : after.gauge? key = none) : before.gauge? key = none := by
  rw [takes.gauge] at free
  exact (Option.or_eq_none_iff.mp free).2

/-- What is no counter after updates was none before them. -/
theorem noCounter_before (takes : Takes updates image before after) {key : String}
    (free : after.counter? key = none) : before.counter? key = none := by
  by_cases unchanged : Update.deltas key updates = []
  · rwa [takes.sameCounter key unchanged] at free
  · exact absurd free (takes.counter?_ne_none unchanged)

/-- Updates and more updates after them are all of them. -/
theorem trans (first : Takes earlier image before middle)
    (second : Takes later image middle after) : Takes (earlier ++ later) image before after where
  apart key := by
    rw [Update.deltas_append, Update.readings_append, List.append_eq_nil_iff,
      List.append_eq_nil_iff]
    -- what the earlier updates have made a counter cannot be set as a gauge later, nor the reverse
    rcases first.apart key with earlierNot | earlierNot <;>
      rcases second.apart key with laterNot | laterNot
    · exact Or.inl ⟨earlierNot, laterNot⟩
    · by_cases read : Update.readings key earlier = []
      · exact Or.inr ⟨read, laterNot⟩
      · refine Or.inl ⟨earlierNot, by_contra fun changed => ?_⟩
        exact first.gauge?_ne_none read (second.noGauge key changed)
    · by_cases changed : Update.deltas key earlier = []
      · exact Or.inl ⟨changed, laterNot⟩
      · refine Or.inr ⟨earlierNot, by_contra fun read => ?_⟩
        exact first.counter?_ne_none changed (second.noCounter key read)
    · exact Or.inr ⟨earlierNot, laterNot⟩
  noGauge key changed := by
    by_cases changedFirst : Update.deltas key earlier = []
    · rw [Update.deltas_append, changedFirst, List.nil_append] at changed
      exact first.noGauge_before (second.noGauge key changed)
    · exact first.noGauge key changedFirst
  noCounter key read := by
    by_cases readFirst : Update.readings key earlier = []
    · rw [Update.readings_append, readFirst, List.nil_append] at read
      exact first.noCounter_before (second.noCounter key read)
    · exact first.noCounter key readFirst
  total key changed := by
    rw [Update.deltaSum_append, ← Int.add_assoc, ← first.toInt_total]
    by_cases unchanged : Update.deltas key later = []
    · rw [Update.deltas_append, unchanged, List.append_nil] at changed
      obtain ⟨total, found, isSum⟩ := first.total key changed
      have noMore : Update.deltaSum key later = 0 := by
        rw [Update.deltaSum, unchanged, Tally.exactSum_nil]
      refine ⟨total, (second.sameCounter key unchanged).trans found, ?_⟩
      rw [noMore, Int.add_zero, first.toInt_total, isSum]
    · exact second.total key unchanged
  sameCounter key unchanged := by
    rw [Update.deltas_append, List.append_eq_nil_iff] at unchanged
    rw [second.sameCounter key unchanged.2, first.sameCounter key unchanged.1]
  gauge key := by
    rw [second.gauge, first.gauge, Update.readings_append, List.getLast?_append, Option.map_or,
      Option.or_assoc]

/-- What is held before updates tells what is held after them. -/
theorem unique (takes : Takes updates image before after)
    (takesOther : Takes updates image before other) : after = other := by
  refine Holdings.ext (funext fun key => ?_) (funext fun key => ?_)
  · by_cases unchanged : Update.deltas key updates = []
    · rw [takes.sameCounter key unchanged, takesOther.sameCounter key unchanged]
    · obtain ⟨total, found, isSum⟩ := takes.total key unchanged
      obtain ⟨another, otherFound, otherSum⟩ := takesOther.total key unchanged
      rw [found, otherFound, Int64.toInt_inj.mp (isSum.trans otherSum.symm)]
  · rw [takes.gauge, takesOther.gauge]

end Holdings.Takes

namespace Storage

/-- In a transaction a bulk write of a single row does what the write of that row does. -/
theorem bulk_single {many one : Contents → Except StorageError Contents} (same : many = one)
    (row : String × Value) (store : Storage) :
    (either (MemoryStore.write many) (Database.executeAll [row])).on store.begun =
      (either (MemoryStore.write one) (Database.execute (Table.upsert [row]))).on store.begun := by
  cases store with
  | memory store =>
    rw [same]
    rfl
  | database file store =>
    have isOpen : store.begun.pending.isSome = true := rfl
    have more : [row].isEmpty = false := rfl
    have written := Database.executeAll_of_pending isOpen more
    exact congrArg (fun result => (result.1, Storage.database file result.2)) written

/-- In a transaction a single total is written like several. -/
theorem setCounters_single (key : String) (total : Int64) (store : Storage) :
    (Repository.setCounters (KeyMap.ofList [(key, total)]) : Action Storage Unit).on store.begun =
      (Repository.setCounter key total : Action Storage Unit).on store.begun :=
  bulk_single (Contents.setCounter_eq key total).symm (key, .counter total) store

/-- In a transaction a single reading is written like several. -/
theorem setGauges_single (key : String) (reading : Binary64) (store : Storage) :
    (Repository.setGauges (KeyMap.ofList [(key, reading)]) : Action Storage Unit).on store.begun =
      (Repository.setGauge key reading : Action Storage Unit).on store.begun :=
  bulk_single (Contents.setGauge_eq key reading).symm (key, .gauge reading) store

end Storage

/-! ### The batch of a single update -/

/-- The batch of a single update. -/
def Batch.single (request : Update) : Batch :=
  match request.value with
  | .counter delta => ⟨KeyMap.ofList [(request.key, delta)], KeyMap.empty⟩
  | .gauge reading => ⟨KeyMap.empty, KeyMap.ofList [(request.key, reading)]⟩

theorem Batch.ofUpdates_single (request : Update) :
    ofUpdates [request] = .ok (single request) := by
  show (empty.add request >>= pure) = _
  rw [bind_pure, add, single]
  cases request.value with
  | counter delta =>
    show (addTo request.key 0 delta >>= _) = _
    rw [addTo, Tally.checkedAdd?_zero]
    rfl
  | gauge reading => rfl

namespace Call

/-- Calls that first do the same, and leave the store alone in it, are the same if what they do
next is. -/
theorem bind_congr_of_unmoved {Store : Type} {call : Call Store First} {store : Store}
    (same : (call store).2 = store) {next other : First → Call Store Second}
    (alike : ∀ value, next value store = other value store) :
    (call >>= next) store = (call >>= other) store := by
  rw [bind_apply, bind_apply]
  revert same
  rcases call store with ⟨_ | value, middle⟩
  · exact fun _ => rfl
  · rintro rfl
    exact alike value

end Call

namespace Service

theorem setCounters_empty :
    (storing (Repository.setCounters KeyMap.empty) : Call Storage Unit) = pure () := by
  funext store
  rw [storing_apply, Storage.setCounters_empty]
  rfl

theorem setGauges_empty :
    (storing (Repository.setGauges KeyMap.empty) : Call Storage Unit) = pure () := by
  funext store
  rw [storing_apply, Storage.setGauges_empty]
  rfl

theorem newTotals_single (key : String) (delta : Int64) :
    newTotals (KeyMap.ofList [(key, delta)]) =
      (newTotal key delta >>= fun total => pure (KeyMap.ofList [(key, total)])
        : Call Storage (KeyMap Int64)) := by
  have unfolded : newTotals (KeyMap.ofList [(key, delta)]) =
      (withTotal KeyMap.empty (key, delta) >>= pure : Call Storage (KeyMap Int64)) := rfl
  rw [unfolded, bind_pure]
  rfl

/-- The batch of one change of a counter does what the change does. -/
theorem applyBatch_single_counter {request : Update} {delta : Int64}
    (isCounter : request.value = .counter delta) (store : Storage) :
    applyBatch (Batch.single request) store.begun =
      (apply request >>= fun _ => pure ()) store.begun := by
  simp only [applyBatch, apply, Batch.single, isCounter, newTotals_single, bind_assoc, pure_bind]
  refine Call.bind_congr_of_unmoved (newTotal_snd _ _ _) fun total => ?_
  show (storing (Repository.setCounters (KeyMap.ofList [(request.key, total)])) >>= fun _ =>
    storing (Repository.setGauges KeyMap.empty)) store.begun = _
  rw [setGauges_empty, Call.bind_apply, Call.bind_apply, storing_apply, storing_apply,
    Storage.setCounters_single]

/-- A check for a gauge passes, or the table is not reached, or the key is that of a counter. -/
theorem requireGauge_cases (key : String) (store : Storage) :
    requireGauge key store = (.ok (), store) ∨
    (store.isReached = false ∧ requireGauge key store = (.error (.storage .database), store)) ∨
    store.isReached = true ∧ (store.seen.counter? key).isSome = true ∧
      requireGauge key store = (.error (.storage (.wrongKind key)), store) := by
  unfold requireGauge
  rw [Storage.gauge_on, Holdings.gauge]
  cases store.isReached with
  | false => exact Or.inr (Or.inl ⟨rfl, rfl⟩)
  | true =>
    cases store.seen.gauge? key with
    | some reading => exact Or.inl rfl
    | none =>
      cases store.seen.counter? key with
      | none => exact Or.inl rfl
      | some total => exact Or.inr (Or.inr ⟨rfl, rfl, rfl⟩)

theorem requireGauges_single (key : String) (reading : Binary64) :
    ((KeyMap.ofList [(key, reading)]).keys.forM requireGauge : Call Storage PUnit) =
      requireGauge key :=
  bind_pure (requireGauge key : Call Storage PUnit)

theorem newTotals_empty :
    newTotals KeyMap.empty = (pure KeyMap.empty : Call Storage (KeyMap Int64)) := rfl

/-- A reading that is not a number, for the key of a counter in a database. -/
structure NotNumberForCounter (request : Update) (store : Storage) : Prop where
  onDatabase : ∃ file database, store = .database file database
  notNumber : ∃ reading, request.value = .gauge reading ∧ reading.isNaN = true
  isCounter : (store.kept.counter? request.key).isSome = true

/-- Under the key of a counter a reading is refused as a list refuses it, unless it is not a
number. -/
theorem apply_gauge_of_counter {request : Update} {reading : Binary64} {store : Storage}
    (isGauge : request.value = .gauge reading) (reached : store.begun.isReached = true)
    (isCounter : (store.begun.seen.counter? request.key).isSome = true) :
    apply request store.begun = (.error (.storage (.wrongKind request.key)), store.begun) ∨
      NotNumberForCounter request store ∧
        apply request store.begun = (.error (.storage .database), store.begun) := by
  have refused := Storage.setGauge_of_counter reached isCounter reading
  simp only [apply, isGauge]
  rw [Call.bind_apply, storing_apply, refused]
  cases store with
  | memory store => exact Or.inl rfl
  | database file database =>
    cases notNumber : reading.isNaN with
    | false => exact Or.inl rfl
    | true =>
      rw [Storage.seen_begun] at isCounter
      exact Or.inr ⟨⟨⟨file, database, rfl⟩, ⟨reading, isGauge, notNumber⟩, isCounter⟩, rfl⟩

/-- The batch of one reading does what the reading does, but may refuse it for another reason. -/
theorem applyBatch_single_gauge {request : Update} {reading : Binary64}
    (isGauge : request.value = .gauge reading) (store : Storage) :
    applyBatch (Batch.single request) store.begun =
        (apply request >>= fun _ => pure ()) store.begun ∨
      NotNumberForCounter request store ∧
        apply request store.begun = (.error (.storage .database), store.begun) ∧
        applyBatch (Batch.single request) store.begun =
          (.error (.storage (.wrongKind request.key)), store.begun) := by
  have checked : (applyBatch (Batch.single request) : Call Storage Unit) =
      (requireGauge request.key >>= fun _ =>
        storing (Repository.setGauges (KeyMap.ofList [(request.key, reading)]))) := by
    simp only [applyBatch, Batch.single, isGauge, newTotals_empty, requireGauges_single,
      setCounters_empty, pure_bind]
  have written : (apply request >>= fun _ => pure () : Call Storage Unit) =
      storing (Repository.setGauge request.key reading) := by
    simp only [apply, isGauge, bind_assoc, pure_bind]
    exact bind_pure _
  rw [checked, Call.bind_apply]
  -- the check passes, fails as the write does, or finds the counter before the write
  rcases requireGauge_cases request.key store.begun with
    passed | ⟨unreached, refused⟩ | ⟨reached, isCounter, refused⟩
  · left
    rw [passed, written]
    show storing _ store.begun = _
    rw [storing_apply, storing_apply, Storage.setGauges_single]
  · left
    rw [refused, written, storing_apply, Storage.setGauge_of_unreached unreached]
    rfl
  · rw [refused]
    rcases apply_gauge_of_counter isGauge reached isCounter with alike | ⟨unfit, failed⟩
    · left
      rw [Call.bind_apply, alike]
    · exact Or.inr ⟨unfit, failed, rfl⟩

/-- A call that does what another one does, and says no more than that, does so in a transaction
too. -/
theorem inTransaction_of_same {call : Call Storage Answer} {other : Call Storage Unit}
    {store : Storage} (same : other store.begun = (call >>= fun _ => pure ()) store.begun) :
    inTransaction other store =
      ((inTransaction call store).1.map fun _ => (), (inTransaction call store).2) := by
  rw [inTransaction_apply, inTransaction_apply, same, Call.bind_pure_apply]
  split
  · rcases call store.begun with ⟨_ | _, after⟩ <;> rfl
  · rfl

theorem updateMany_single_eq (request : Update) (store : Storage) :
    updateMany [request] store = inTransaction (applyBatch (Batch.single request)) store :=
  updateMany_of_merged (Batch.ofUpdates_single request) rfl

/-- A list of a single update against the update alone. -/
theorem updateMany_single (request : Update) (store : Storage) :
    updateMany [request] store =
        ((update request store).1.map fun _ => (), (update request store).2) ∨
      NotNumberForCounter request store ∧ (update request store).1 = .error (.storage .database) ∧
        (updateMany [request] store).1 = .error (.storage (.wrongKind request.key)) ∧
        (updateMany [request] store).2 = (update request store).2 := by
  rw [updateMany_single_eq, update]
  cases asked : request.value with
  | counter delta => exact Or.inl (inTransaction_of_same (applyBatch_single_counter asked store))
  | gauge reading =>
    rcases applyBatch_single_gauge asked store with same | ⟨unfit, failed, refused⟩
    · exact Or.inl (inTransaction_of_same same)
    · rw [inTransaction_apply, inTransaction_apply, failed, refused]
      cases connected : store.connected with
      | false => exact Or.inl rfl
      | true => exact Or.inr ⟨unfit, rfl, rfl, rfl⟩

/-! ### Updates one after the other -/

theorem stored_update (request : Update) (store : Storage) :
    (update request store).2.stored = store.stored :=
  stored_inTransaction (within_apply request) store

/-- Updates that all succeed take the store from what it kept to what it keeps. -/
theorem mapM_update_ok {updates : List Update} {store after : Storage} {values : List Value}
    (done : updates.mapM update store = (.ok values, after)) :
    Holdings.Takes updates store.stored store.kept after.kept := by
  induction updates generalizing store values with
  | nil =>
    cases done
    exact Holdings.Takes.nil _ _
  | cons request rest inductionHypothesis =>
    rw [List.mapM_cons] at done
    obtain ⟨value, middle, first, done⟩ := Call.bind_ok done
    obtain ⟨others, last, second, answered⟩ := Call.bind_ok done
    obtain rfl : last = after := (Prod.mk.inj answered).2
    have same : middle.stored = store.stored := by rw [← stored_update request store, first]
    have takesRest := inductionHypothesis second
    rw [same] at takesRest
    exact (update_ok first).trans takesRest

/-! ### One by one and all at once -/

/-- Updates that go through one after the other leave what they leave as one list, where that goes
through too. A list of a single update leaves what the update leaves alone, and is answered like
it, unless it gives a database a reading that is not a number for the key of a counter: both are
refused then, but for different reasons. -/
theorem singly_or_together :
    (∀ (updates : List Update) (store : Storage) (values : List Value) (singly together : Storage),
      updates.mapM update store = (.ok values, singly) →
      updateMany updates store = (.ok (), together) → singly.kept = together.kept) ∧
    ∀ (request : Update) (store : Storage),
      (updateMany [request] store).2 = (update request store).2 ∧
      ((updateMany [request] store).1 = (update request store).1.map (fun _ => ()) ∨
        NotNumberForCounter request store ∧
          (update request store).1 = .error (.storage .database) ∧
          (updateMany [request] store).1 = .error (.storage (.wrongKind request.key))) := by
  constructor
  · intro updates store values singly together oneByOne atOnce
    exact (mapM_update_ok oneByOne).unique (updateMany_ok atOnce)
  · intro request store
    rcases updateMany_single request store with same | ⟨unfit, failed, refused, sameStore⟩
    · rw [same]
      exact ⟨rfl, Or.inl rfl⟩
    · exact ⟨sameStore, Or.inr ⟨unfit, failed, refused⟩⟩

/-- Two changes of a counter and a reading between them, singly and together, and the first of
them alone. -/
theorem singly_or_together_three_updates :
    let updates : List Update :=
      [⟨"a", .counter 2⟩, ⟨"g", .gauge ⟨0x3fe0000000000000⟩⟩, ⟨"a", .counter 3⟩]
    let store := Storage.memory .ephemeral
    let singly := updates.mapM update store
    let together := updateMany updates store
    singly.1 = .ok [.counter 2, .gauge ⟨0x3fe0000000000000⟩, .counter 5] ∧
      together.1 = .ok () ∧ singly.2.kept = together.2.kept ∧
      together.2.kept.counter? "a" = some 5 ∧
      (updateMany [⟨"a", .counter 2⟩] store).2 = (update ⟨"a", .counter 2⟩ store).2 := by
  intro updates store singly together
  have oneByOne : singly.1 = .ok [.counter 2, .gauge ⟨0x3fe0000000000000⟩, .counter 5] := rfl
  have atOnce : together.1 = .ok () := rfl
  have same := singly_or_together.1 updates store _ singly.2 together.2 (Prod.ext oneByOne rfl)
    (Prod.ext atOnce rfl)
  exact ⟨oneByOne, atOnce, same, rfl, (singly_or_together.2 _ store).1⟩

/-- A database takes no reading that is not a number, and a list finds the counter under its key
before that. -/
theorem refused_for_other_reason :
    let store := Storage.database none
      (Database.connect (some (KeyMap.ofList [("k", Value.counter 1)])))
    let request : Update := ⟨"k", .gauge ⟨0x7ff8000000000000⟩⟩
    (update request store).1 = .error (.storage .database) ∧
      (updateMany [request] store).1 = .error (.storage (.wrongKind "k")) ∧
      (updateMany [request] store).1 ≠ (update request store).1.map fun _ => () := by
  decide +kernel

end Service

end Metering
