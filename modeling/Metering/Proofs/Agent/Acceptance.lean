/-
When a server that knows just what an agent has acknowledged accepts the agent's next report. The
changes of counters wrap around, and the server's sums must not; a change leads from the
acknowledged total to the present one just if the difference is a counter, and any other change is
refused. Nothing else that collectors report can make a server refuse it. Once accepted, the
server has what the agent has.
-/

import Metering.Agent.Reading
import Metering.Proofs.Agent.Commit
import Metering.Proofs.Agent.Readings
import Metering.Proofs.Service.Admission

namespace Metering

/-! ### What happens to an agent's metrics -/

/-- Readings are taken, a report is made, or one of the reports made so far is acknowledged. -/
inductive LedgerEvent
  | taken (readings : List Reading)
  | reported
  | acknowledged (number : Nat)

/-- The metrics of an agent, and the reports made of them so far. -/
structure Reporter where
  ledger : Ledger
  reports : List Changes

namespace Reporter

/-- An agent without metrics. -/
def fresh : Reporter := ⟨Ledger.empty, []⟩

/-- The agent after an event. -/
def step (reporter : Reporter) : LedgerEvent → Reporter
  | .taken readings => { reporter with ledger := reporter.ledger.take readings }
  | .reported => { reporter with reports := reporter.reports ++ [reporter.ledger.changes] }
  | .acknowledged number =>
    match reporter.reports[number]? with
    | some observed => { reporter with ledger := reporter.ledger.commit observed }
    | none => reporter

/-- The agent after several events. -/
def run (reporter : Reporter) (events : List LedgerEvent) : Reporter := events.foldl step reporter

end Reporter

namespace Ledger

/-- All readings are finite. -/
def IsFinite (ledger : Ledger) : Prop :=
  ∀ key reading, ledger.gauge? key = some reading → reading.isFinite = true

theorem isFinite_empty : Ledger.empty.IsFinite := by
  intro key reading present
  cases present

theorem gauge?_setGauge (ledger : Ledger) (key wanted : String) (reading : Binary64) :
    (ledger.setGauge key reading).gauge? wanted =
      if wanted = key then some reading else ledger.gauge? wanted := by
  rw [gauge?, find?_setGauge]
  by_cases same : wanted = key
  · rw [if_pos same, if_pos same]
    cases ledger.gauges.find? key <;> rfl
  · rw [if_neg same, if_neg same, gauge?]

theorem isFinite_write {ledger : Ledger} (finite : ledger.IsFinite) {reading : Reading}
    {write : Write} (asked : reading.write? = some write) : (ledger.write write).IsFinite := by
  cases reading with
  | increment name amount =>
    obtain rfl := Option.some.inj asked
    exact finite
  | gauge name value =>
    obtain ⟨isFinite, isWrite⟩ := Option.ite_none_right_eq_some.mp asked
    obtain rfl := Option.some.inj isWrite
    intro key held present
    rw [write, gauge?_setGauge] at present
    by_cases same : key = name
    · rw [if_pos same] at present
      exact Option.some.inj present ▸ isFinite
    · rw [if_neg same] at present
      exact finite key held present

theorem isFinite_take {ledger : Ledger} (finite : ledger.IsFinite) (readings : List Reading) :
    (ledger.take readings).IsFinite := by
  rw [take, Reading.writes]
  induction readings generalizing ledger with
  | nil => exact finite
  | cons reading rest inductionHypothesis =>
    rw [List.filterMap_cons]
    cases asked : reading.write? with
    | none => exact inductionHypothesis finite
    | some write => exact inductionHypothesis (isFinite_write finite asked)

end Ledger

/-- Whatever happens to an agent's metrics, its readings are finite. -/
theorem Reporter.isFinite_step {reporter : Reporter} (finite : reporter.ledger.IsFinite)
    (event : LedgerEvent) : (reporter.step event).ledger.IsFinite := by
  cases event with
  | taken readings => exact Ledger.isFinite_take finite readings
  | reported => exact finite
  | acknowledged number =>
    rw [step]
    cases reporter.reports[number]? with
    | none => exact finite
    | some observed =>
      intro key reading present
      exact finite key reading ((Ledger.present?_commit _ .gauge key observed).symm.trans present)

theorem Reporter.isFinite_run {reporter : Reporter} (finite : reporter.ledger.IsFinite)
    (events : List LedgerEvent) : (reporter.run events).ledger.IsFinite := by
  induction events generalizing reporter with
  | nil => exact finite
  | cons event rest inductionHypothesis =>
    exact inductionHypothesis (isFinite_step finite event)

/-! ### What a server holds of an agent's metrics -/

/-- What is held under a key is what is told: the same total, and a reading that agrees. -/
structure Holdings.Matches (held told : Holdings) (key : String) : Prop where
  counter : held.counter? key = told.counter? key
  gauge : Option.Rel (fun reading other => reading.agrees other = true) (held.gauge? key)
    (told.gauge? key)

namespace Ledger

/-- The present values of an agent's metrics. -/
def present (ledger : Ledger) : Holdings := ⟨ledger.counter?, ledger.gauge?⟩

/-- The acknowledged values of an agent's metrics. -/
def committed (ledger : Ledger) : Holdings := ⟨ledger.committedCounter?, ledger.committedGauge?⟩

/-- Whether a key is one of an agent's metrics. -/
def Has (ledger : Ledger) (key : String) : Prop :=
  ledger.counter? key ≠ none ∨ ledger.gauge? key ≠ none

theorem mem_keys_of_has {ledger : Ledger} {key : String} (has : ledger.Has key) :
    key ∈ ledger.counters.keys ++ ledger.gauges.keys := by
  rw [List.mem_append, KeyMap.mem_keys_iff, KeyMap.mem_keys_iff]
  refine has.imp (fun isCounter => ?_) fun isGauge => ?_
  · exact Option.isSome_iff_ne_none.mpr fun absent => isCounter (Option.map_eq_none_iff.mpr absent)
  · exact Option.isSome_iff_ne_none.mpr fun absent => isGauge (Option.map_eq_none_iff.mpr absent)

/-- The keys of an agent's metrics are acceptable, and none is used for both kinds. -/
structure WellKeyed (ledger : Ledger) : Prop where
  length : ∀ key, ledger.Has key → 1 ≤ key.length ∧ key.length ≤ Metric.longestKey
  apart : ∀ key, ledger.present.Apart key

end Ledger

/-! ### The updates of a report -/

theorem Changes.exists_change_of_deltas {observed : Changes} {key : String}
    (carried : Update.deltas key observed.updates ≠ []) :
    ∃ change, observed.counters.find? key = some change := by
  rw [observed.deltas_updates] at carried
  cases found : observed.counters.find? key with
  | none => rw [found] at carried; exact absurd rfl carried
  | some change => exact ⟨change, rfl⟩

theorem Changes.deltaSum_updates {observed : Changes} {key : String} {change : CounterChange}
    (found : observed.counters.find? key = some change) :
    Update.deltaSum key observed.updates = change.delta.toInt := by
  rw [Update.deltaSum, observed.deltas_updates, found]
  exact Tally.exactSum_singleton change.delta

theorem Changes.mem_updates_gauge {observed : Changes} {key : String} {reading : Binary64}
    (member : ⟨key, .gauge reading⟩ ∈ observed.updates) :
    observed.gauges.find? key = some reading := by
  rw [← Update.mem_readings_iff, observed.readings_updates] at member
  exact Option.mem_toList.mp member

namespace Ledger

variable {ledger : Ledger}

/-- A report has one update of each metric in it. -/
theorem nodup_updates (wellKeyed : ledger.WellKeyed) :
    (ledger.changes.updates.map (·.key)).Nodup := by
  rw [Changes.keys_updates, List.nodup_append]
  refine ⟨KeyMap.nodup_keys _, KeyMap.nodup_keys _, ?_⟩
  rintro key isCounter _ isGauge rfl
  obtain ⟨change, carried⟩ := KeyMap.exists_of_mem_keys isCounter
  obtain ⟨reading, carriedGauge⟩ := KeyMap.exists_of_mem_keys isGauge
  obtain ⟨total, isTotal, _⟩ := find?_changes_counters_eq_some.mp carried
  have isReading := (find?_changes_gauges_eq_some.mp carriedGauge).1
  rcases wellKeyed.apart key with noCounter | noGauge
  · cases noCounter.symm.trans isTotal
  · cases noGauge.symm.trans isReading

/-- Every update of a report is acceptable. -/
theorem acceptable_updates (wellKeyed : ledger.WellKeyed) (finite : ledger.IsFinite)
    {update : Update} (member : update ∈ ledger.changes.updates) :
    Metric.validateKey update.key = .ok () ∧ update.IsFinite := by
  obtain ⟨key, value⟩ := update
  cases value with
  | counter delta =>
    have carried := List.ne_nil_of_mem ((Update.mem_deltas_iff _ _ _).mpr member)
    obtain ⟨change, found⟩ := Changes.exists_change_of_deltas carried
    obtain ⟨total, isTotal, _⟩ := find?_changes_counters_eq_some.mp found
    obtain ⟨least, most⟩ := wellKeyed.length key (Or.inl (isTotal ▸ Option.some_ne_none total))
    exact ⟨Metric.validateKey_of_length least most, nofun⟩
  | gauge reading =>
    have isReading := (find?_changes_gauges_eq_some.mp (Changes.mem_updates_gauge member)).1
    obtain ⟨least, most⟩ := wellKeyed.length key (Or.inr (isReading ▸ Option.some_ne_none reading))
    exact ⟨Metric.validateKey_of_length least most,
      fun other same => Value.gauge.inj same ▸ finite key reading isReading⟩

end Ledger

/-- A report of metrics that are accepted is treated as the list of its updates. -/
theorem Service.updateMetrics_of_accepted {observed : Changes}
    (accepted : ∀ metric ∈ observed.batch, ∃ update, metric.toUpdate = .ok update)
    (store : Storage) :
    updateMetrics observed.batch store = updateMany observed.updates store := by
  obtain ⟨updates, converted⟩ := Metric.mapM_ok_iff.mpr accepted
  rw [updateMetrics, Call.bind_apply, converted]
  rw [observed.batch_eq] at converted
  rw [(Metric.mapM_toUpdate_ofValue converted).1]
  rfl

/-- A report of acceptable updates is treated as the list of these. -/
theorem Service.updateMetrics_of_acceptable {observed : Changes}
    (acceptable : ∀ update ∈ observed.updates,
      Metric.validateKey update.key = .ok () ∧ update.IsFinite) (store : Storage) :
    updateMetrics observed.batch store = updateMany observed.updates store := by
  refine updateMetrics_of_accepted (fun metric member => ?_) store
  rw [observed.batch_eq] at member
  obtain ⟨update, isUpdate, rfl⟩ := List.mem_map.mp member
  obtain ⟨validKey, finite⟩ := acceptable update isUpdate
  exact ⟨update, Metric.toUpdate_of_finite validKey finite⟩

/-! ### A server that knows what was acknowledged -/

namespace Ledger

/-- Every change of a counter to report is one from the acknowledged total to the present one
that does not wrap around. -/
def Unwrapped (ledger : Ledger) : Prop :=
  ∀ key change total, ledger.changes.counters.find? key = some change →
    ledger.counter? key = some total →
    Tally.IsCounter (total.toInt - (ledger.committedTotal key).toInt)

section

variable {ledger : Ledger} {held : Holdings}

theorem total_of_matches {key : String} (matched : held.Matches ledger.committed key) :
    held.total key = ledger.committedTotal key := by
  rw [Holdings.total, matched.counter]
  rfl

theorem noGauge_of_matches {key : String} {total : Int64} (wellKeyed : ledger.WellKeyed)
    (present : ledger.counter? key = some total)
    (matched : held.Matches ledger.committed key) : held.gauge? key = none := by
  have noGauge : ledger.gauge? key = none :=
    (wellKeyed.apart key).resolve_left fun none => nomatch present.symm.trans none
  have agreed : Option.Rel _ (held.gauge? key) (ledger.committedGauge? key) := matched.gauge
  rw [show ledger.committedGauge? key = none from
    ledger.committed?_of_absent .gauge key noGauge] at agreed
  cases isHeld : held.gauge? key with
  | none => rfl
  | some reading => rw [isHeld] at agreed; cases agreed

theorem noCounter_of_matches {key : String} {reading : Binary64} (wellKeyed : ledger.WellKeyed)
    (present : ledger.gauge? key = some reading)
    (matched : held.Matches ledger.committed key) : held.counter? key = none := by
  have noCounter : ledger.counter? key = none :=
    (wellKeyed.apart key).resolve_right fun none => nomatch present.symm.trans none
  rw [matched.counter]
  exact ledger.committed?_of_absent .counter key noCounter

variable {after : Holdings} {image : Binary64 → Binary64} {key : String}

/-- A counter that is reported gets a total that the change leads to. -/
theorem total_of_takes (takes : Holdings.Takes ledger.changes.updates image held after)
    {change : CounterChange} {total : Int64}
    (carried : ledger.changes.counters.find? key = some change)
    (present : ledger.counter? key = some total)
    (matched : held.Matches ledger.committed key) :
    ∃ result, after.counter? key = some result ∧ result.toInt =
      (ledger.committedTotal key).toInt + (total - ledger.committedTotal key).toInt := by
  obtain ⟨other, isOther, _, rfl⟩ := find?_changes_counters_eq_some.mp carried
  obtain rfl := Option.some.inj (present.symm.trans isOther)
  have changed : Update.deltas key ledger.changes.updates ≠ [] := by
    rw [ledger.changes.deltas_updates, carried]
    exact List.cons_ne_nil _ _
  obtain ⟨result, isResult, isSum⟩ := takes.total key changed
  rw [total_of_matches matched, Changes.deltaSum_updates carried] at isSum
  exact ⟨result, isResult, isSum⟩

theorem matches_present_of_counter
    (takes : Holdings.Takes ledger.changes.updates image held after)
    (wellKeyed : ledger.WellKeyed) {total : Int64} (present : ledger.counter? key = some total)
    (matched : held.Matches ledger.committed key) : after.Matches ledger.present key where
  counter := by
    refine Eq.trans ?_ present.symm
    cases carried : ledger.changes.counters.find? key with
    | some change =>
      obtain ⟨result, isResult, isSum⟩ := total_of_takes takes carried present matched
      have congruent : result.toInt ≡ total.toInt [ZMOD 2 ^ 64] := by
        have wraps := (Tally.toInt_sub_modEq total (ledger.committedTotal key)).add_left
          (ledger.committedTotal key).toInt
        rwa [← isSum, add_sub_cancel] at wraps
      rw [isResult, Tally.eq_of_toInt_modEq congruent]
    | none =>
      have unchanged : Update.deltas key ledger.changes.updates = [] := by
        rw [ledger.changes.deltas_updates, carried]
        rfl
      rw [takes.sameCounter key unchanged, matched.counter]
      by_contra differs
      cases carried.symm.trans
        (find?_changes_counters_eq_some.mpr ⟨total, present, differs, rfl⟩)
  gauge := by
    have noGauge : ledger.gauge? key = none :=
      (wellKeyed.apart key).resolve_left fun none => nomatch present.symm.trans none
    have unread : Update.readings key ledger.changes.updates = [] := by
      rw [ledger.changes.readings_updates, find?_changes_gauges,
        Option.map_eq_none_iff.mp noGauge]
      rfl
    have told : ledger.present.gauge? key = none := noGauge
    rw [takes.gauge, unread, noGauge_of_matches wellKeyed present matched, told]
    exact Option.Rel.none

theorem matches_present_of_gauge
    (takes : Holdings.Takes ledger.changes.updates image held after)
    (keepsNumber : ∀ reading other, (image reading).agrees other = reading.agrees other)
    (wellKeyed : ledger.WellKeyed) (finite : ledger.IsFinite) {reading : Binary64}
    (present : ledger.gauge? key = some reading)
    (matched : held.Matches ledger.committed key) : after.Matches ledger.present key where
  counter := by
    have noCounter : ledger.counter? key = none :=
      (wellKeyed.apart key).resolve_right fun none => nomatch present.symm.trans none
    have unchanged : Update.deltas key ledger.changes.updates = [] := by
      rw [ledger.changes.deltas_updates, find?_changes_counters,
        Option.map_eq_none_iff.mp noCounter]
      rfl
    rw [takes.sameCounter key unchanged, noCounter_of_matches wellKeyed present matched]
    exact noCounter.symm
  gauge := by
    have told : ledger.present.gauge? key = some reading := present
    rw [takes.gauge, ledger.changes.readings_updates, told]
    cases carried : ledger.changes.gauges.find? key with
    | some other =>
      obtain ⟨isOther, _⟩ := find?_changes_gauges_eq_some.mp carried
      obtain rfl := Option.some.inj (present.symm.trans isOther)
      refine Option.Rel.some ?_
      rw [keepsNumber]
      exact Binary64.agrees_self (Binary64.isNaN_of_isFinite (finite key reading present))
    | none =>
      obtain carries | ⟨_, known, isKnown, agree⟩ := current_changes ledger key reading present
      · cases carried.symm.trans carries
      have agreed : Option.Rel (fun reading other => reading.agrees other = true)
          (held.gauge? key) (ledger.committedGauge? key) := matched.gauge
      rw [isKnown] at agreed
      cases isHeld : held.gauge? key with
      | none => rw [isHeld] at agreed; cases agreed
      | some other =>
        rw [isHeld] at agreed
        cases agreed with
        | some same =>
          exact Option.Rel.some (Binary64.agrees_trans same (Binary64.agrees_symm agree))

end

end Ledger

/-! ### Accepted reports -/

namespace Service

section

variable {ledger : Ledger} {store : Storage} (wellKeyed : ledger.WellKeyed)
  (finite : ledger.IsFinite)
  (matched : ∀ key, ledger.Has key → store.kept.Matches ledger.committed key)

include wellKeyed finite matched

/-- A report of changes that do not wrap around is applied. -/
theorem updateMetrics_of_unwrapped (reached : store.begun.isReached = true)
    (unwrapped : ledger.Unwrapped) :
    ∃ after, updateMetrics ledger.changes.batch store = (.ok (), after) := by
  obtain ⟨batch, merged⟩ := Batch.ofUpdates_of_nodup (Ledger.nodup_updates wellKeyed)
  rw [updateMetrics_of_acceptable fun update member =>
    Ledger.acceptable_updates wellKeyed finite member]
  refine updateMany_of_free reached merged (fun key changed => ?_) fun key reading member => ?_
  · obtain ⟨change, carried⟩ := Changes.exists_change_of_deltas changed
    obtain ⟨total, present, _, rfl⟩ := Ledger.find?_changes_counters_eq_some.mp carried
    have keyMatched := matched key (Or.inl (present ▸ Option.some_ne_none total))
    refine ⟨Ledger.noGauge_of_matches wellKeyed present keyMatched, ?_⟩
    rw [Ledger.total_of_matches keyMatched, Changes.deltaSum_updates carried,
      Tally.isCounter_add_sub_iff]
    exact unwrapped key _ total carried present
  · obtain ⟨present, _⟩ :=
      Ledger.find?_changes_gauges_eq_some.mp (Changes.mem_updates_gauge member)
    have keyMatched := matched key (Or.inr (present ▸ Option.some_ne_none reading))
    exact ⟨Ledger.noCounter_of_matches wellKeyed present keyMatched,
      Binary64.isNaN_of_isFinite (finite key reading present)⟩

omit wellKeyed finite in
/-- No report with a change that wraps around is applied. -/
theorem unwrapped_of_updateMetrics {after : Storage}
    (done : updateMetrics ledger.changes.batch store = (.ok (), after)) : ledger.Unwrapped := by
  intro key change total carried present
  obtain ⟨result, _, isSum⟩ := Ledger.total_of_takes (updateMetrics_report_ok done) carried present
    (matched key (Or.inl (present ▸ Option.some_ne_none total)))
  rw [← Tally.isCounter_add_sub_iff, ← isSum]
  exact Tally.isCounter_toInt result

/-- After a report that is applied the server has what the agent has. -/
theorem matches_of_updateMetrics {after : Storage}
    (done : updateMetrics ledger.changes.batch store = (.ok (), after)) {key : String}
    (has : ledger.Has key) : after.kept.Matches ledger.present key := by
  have takes := updateMetrics_report_ok done
  rcases has with isCounter | isGauge
  · obtain ⟨total, present⟩ := Option.ne_none_iff_exists'.mp isCounter
    exact Ledger.matches_present_of_counter takes wellKeyed present (matched key (Or.inl isCounter))
  · obtain ⟨reading, present⟩ := Option.ne_none_iff_exists'.mp isGauge
    exact Ledger.matches_present_of_gauge takes store.agrees_stored wellKeyed finite present
      (matched key (Or.inr isGauge))

end

/-- A server that has just what an agent's acknowledged values tell applies the agent's report
exactly if no change of a counter in it wraps around, and then it has the agent's present values. -/
theorem updateMetrics_changes_ok_iff (events : List LedgerEvent) (store : Storage)
    (reached : store.begun.isReached = true)
    (wellKeyed : (Reporter.fresh.run events).ledger.WellKeyed)
    (matched : ∀ key, (Reporter.fresh.run events).ledger.Has key →
      store.kept.Matches (Reporter.fresh.run events).ledger.committed key) :
    let ledger := (Reporter.fresh.run events).ledger
    ((∃ after, updateMetrics ledger.changes.batch store = (.ok (), after)) ↔
        ledger.Unwrapped) ∧
      ∀ after, updateMetrics ledger.changes.batch store = (.ok (), after) →
        ∀ key, ledger.Has key → after.kept.Matches ledger.present key := by
  intro ledger
  have finite : ledger.IsFinite :=
    Reporter.isFinite_run Ledger.isFinite_empty events
  refine ⟨⟨?_, updateMetrics_of_unwrapped wellKeyed finite matched reached⟩, ?_⟩
  · rintro ⟨after, done⟩
    exact unwrapped_of_updateMetrics matched done
  · exact fun after done key has => matches_of_updateMetrics wellKeyed finite matched done has

theorem updateMetrics_changes_ok_iff_second_report :
    let events : List LedgerEvent :=
      [.taken [.increment "a" 5, .gauge "g" ⟨0x3ff0000000000000⟩], .reported, .acknowledged 0,
        .taken [.increment "a" 2, .gauge "g" ⟨0x4000000000000000⟩, .increment "b" (-1)]]
    let contents : Contents :=
      ⟨KeyMap.ofList [("a", 5)], KeyMap.ofList [("g", ⟨0x3ff0000000000000⟩)]⟩
    ∃ after : Storage, updateMetrics (Reporter.fresh.run events).ledger.changes.batch
        (Storage.memory { MemoryStore.ephemeral with contents }) = (.ok (), after) ∧
      after.kept.counter? "a" = some 7 := by
  intro events contents
  have isKey : ∀ key, (Reporter.fresh.run events).ledger.Has key →
      key = "a" ∨ key = "b" ∨ key = "g" := by
    intro key has
    have member := Ledger.mem_keys_of_has has
    rw [show (Reporter.fresh.run events).ledger.counters.keys ++
      (Reporter.fresh.run events).ledger.gauges.keys = ["a", "b", "g"] by decide] at member
    simpa using member
  have wellKeyed : (Reporter.fresh.run events).ledger.WellKeyed := by
    refine ⟨fun key has => ?_, fun key => ?_⟩
    · rcases isKey key has with rfl | rfl | rfl <;> decide
    · by_cases has : (Reporter.fresh.run events).ledger.Has key
      · rcases isKey key has with rfl | rfl | rfl
        · exact Or.inr (by decide)
        · exact Or.inr (by decide)
        · exact Or.inl (by decide)
      · exact Or.inl (not_ne_iff.mp (not_or.mp has).1)
  have matched : ∀ key, (Reporter.fresh.run events).ledger.Has key →
      (Storage.memory { MemoryStore.ephemeral with contents }).kept.Matches
        (Reporter.fresh.run events).ledger.committed key := by
    intro key has
    rcases isKey key has with rfl | rfl | rfl
    · exact ⟨by decide, .none⟩
    · exact ⟨by decide, .none⟩
    · exact ⟨by decide, .some (by decide)⟩
  obtain ⟨accepted, same⟩ := updateMetrics_changes_ok_iff events
    (Storage.memory { MemoryStore.ephemeral with contents }) rfl wellKeyed matched
  have unwrapped : (Reporter.fresh.run events).ledger.Unwrapped := by
    intro key change total _ present
    rcases isKey key (Or.inl (present ▸ Option.some_ne_none total)) with rfl | rfl | rfl
    · obtain rfl : 7 = total := Option.some.inj present
      exact ⟨by decide, by decide⟩
    · obtain rfl : -1 = total := Option.some.inj present
      exact ⟨by decide, by decide⟩
    · cases present
  obtain ⟨after, done⟩ := accepted.mpr unwrapped
  have isCounter : (Reporter.fresh.run events).ledger.Has "a" := Or.inl (by decide)
  exact ⟨after, done, (same after done "a" isCounter).counter.trans (by decide)⟩

end Service

end Metering
