/-
What is left to report once a report is acknowledged. The commit changes no value; it makes what
the report observed the acknowledged values of the metrics in it. Whatever was written while the
report was on its way is told by the next one: of a counter just the change since it was
observed, of a gauge the reading, unless it agrees with the one that was observed.
-/

import Metering.Proofs.Agent.Ledger
import Metering.Proofs.Numeral.Binary64

namespace Metering

namespace Record

theorem changed_counter_iff (record : Record Int64) :
    record.changed (· == ·) = true ↔ record.committed ≠ some record.present := by
  obtain ⟨present, committed⟩ := record
  cases committed with
  | none => simp [changed]
  | some known => simpa [changed] using ne_comm

theorem changed_gauge_iff (record : Record Binary64) :
    record.changed Binary64.agrees = true ↔
      ∀ known, record.committed = some known → record.present.agrees known = false := by
  obtain ⟨present, committed⟩ := record
  cases committed <;> simp [changed]

end Record

namespace Ledger

/-! ### What a report carries -/

section

variable {ledger : Ledger} {key : String}

/-- A report carries the counters whose total is not the acknowledged one. -/
theorem find?_changes_counters_eq_some {change : CounterChange} :
    ledger.changes.counters.find? key = some change ↔
      ∃ total, ledger.counter? key = some total ∧ ledger.committedCounter? key ≠ some total ∧
        change = ⟨total - ledger.committedTotal key, total⟩ := by
  rw [find?_changes_counters, counter?, committedTotal, committedCounter?]
  cases ledger.counters.find? key with
  | none => simp
  | some record =>
    simp only [Option.bind_some, Option.map_some, Option.some.injEq, counterChange?,
      Option.ite_none_right_eq_some, record.changed_counter_iff]
    constructor
    · rintro ⟨differs, rfl⟩
      exact ⟨_, rfl, differs, rfl⟩
    · rintro ⟨_, rfl, differs, rfl⟩
      exact ⟨differs, rfl⟩

/-- A report carries the gauges whose reading does not agree with the acknowledged one. -/
theorem find?_changes_gauges_eq_some {reading : Binary64} :
    ledger.changes.gauges.find? key = some reading ↔
      ledger.gauge? key = some reading ∧
        ∀ known, ledger.committedGauge? key = some known → reading.agrees known = false := by
  rw [find?_changes_gauges, gauge?, committedGauge?]
  cases ledger.gauges.find? key with
  | none => simp
  | some record =>
    simp only [Option.bind_some, Option.map_some, Option.some.injEq, gaugeChange?,
      Option.ite_none_right_eq_some, record.changed_gauge_iff]
    constructor
    · rintro ⟨differs, rfl⟩
      exact ⟨rfl, differs⟩
    · rintro ⟨rfl, differs⟩
      exact ⟨differs, rfl⟩

end

/-! ### After an acknowledgement -/

section

variable (ledger : Ledger) (key : String)

/-- The total that is acknowledged with a report: the one that the report has observed, or else the
one that was acknowledged before. -/
def adoptedCounter? (observed : Changes) : Option Int64 :=
  ((observed.counters.find? key).map (·.total)).or (ledger.committedCounter? key)

/-- The reading that is acknowledged with a report: the one that the report has observed, or else
the one that was acknowledged before. -/
def adoptedGauge? (observed : Changes) : Option Binary64 :=
  (observed.gauges.find? key).or (ledger.committedGauge? key)

theorem committed?_of_absent (kind : Kind) (key : String)
    (absent : ledger.present? kind key = none) :
    ledger.committed? kind key = none := by
  rw [committed?, Option.map_eq_none_iff.mp absent, Option.bind_none]

/-- What is acknowledged with a report of a counter is its total at the time of the report, whether
the report carries it or not. -/
theorem adoptedCounter?_changes :
    ledger.adoptedCounter? key ledger.changes = ledger.counter? key := by
  rw [adoptedCounter?]
  cases carried : ledger.changes.counters.find? key with
  | some change =>
    obtain ⟨total, present, _, rfl⟩ := find?_changes_counters_eq_some.mp carried
    exact present.symm
  | none =>
    cases present : ledger.counter? key with
    | none => exact ledger.committed?_of_absent .counter key present
    | some total =>
      by_contra differs
      cases carried.symm.trans (find?_changes_counters_eq_some.mpr ⟨total, present, differs, rfl⟩)

/-- What is acknowledged with a report of a gauge is its reading at the time of the report, or, if
the report does not carry it, one that this reading agrees with. -/
theorem adoptedGauge?_changes {reading : Binary64} (present : ledger.gauge? key = some reading) :
    ∃ known, ledger.adoptedGauge? key ledger.changes = some known ∧
      (known = reading ∨ reading.agrees known = true) := by
  rw [adoptedGauge?]
  by_cases differs :
      ∀ known, ledger.committedGauge? key = some known → reading.agrees known = false
  · have carried := find?_changes_gauges_eq_some.mpr ⟨present, differs⟩
    exact ⟨reading, by rw [carried, Option.some_or], Or.inl rfl⟩
  · push Not at differs
    obtain ⟨known, isKnown, agree⟩ := differs
    rw [Bool.ne_false_iff] at agree
    cases carried : ledger.changes.gauges.find? key with
    | none => exact ⟨known, by rw [isKnown, Option.none_or], Or.inr agree⟩
    | some other =>
      have isOther := (find?_changes_gauges_eq_some.mp carried).1
      exact ⟨other, Option.some_or, Or.inl (Option.some.inj (isOther.symm.trans present))⟩

theorem adoptedGauge?_of_absent (absent : ledger.gauge? key = none) :
    ledger.adoptedGauge? key ledger.changes = none := by
  rw [adoptedGauge?, find?_changes_gauges, Option.map_eq_none_iff.mp absent, Option.bind_none,
    Option.none_or]
  exact ledger.committed?_of_absent .gauge key absent

/-- After writes and then the acknowledgement of a report that was made before them, what the report
observed is acknowledged, and of other metrics what was. -/
theorem committed?_commit_writeAll (kind : Kind) (writes : List Write) :
    ((ledger.writeAll writes).commit ledger.changes).committed? kind key =
      (ledger.changes.observed? kind key).or (ledger.committed? kind key) := by
  rw [committed?_commit (reported_writeAll (reported_changes ledger) writes), committed?_writeAll]

end

/-- What the next report carries of a key, after writes and then the acknowledgement of a report
that was made before them. -/
structure Carries (before written after : Ledger) (key : String) : Prop where
  /-- The acknowledgement changes no value. -/
  sameTotal : after.counter? key = written.counter? key
  sameReading : after.gauge? key = written.gauge? key
  /-- What the report has observed is acknowledged now, and of other metrics what was. -/
  adoptedTotal : after.committedCounter? key = before.adoptedCounter? key before.changes
  adoptedReading : after.committedGauge? key = before.adoptedGauge? key before.changes
  /-- A counter is carried if its total is not the acknowledged one, with the difference. -/
  counter : ∀ change, after.changes.counters.find? key = some change ↔
    ∃ total, written.counter? key = some total ∧
      before.adoptedCounter? key before.changes ≠ some total ∧
      change = ⟨total - (before.adoptedCounter? key before.changes).getD 0, total⟩
  /-- A counter of which nothing is acknowledged is carried with its total. -/
  newCounter : before.adoptedCounter? key before.changes = none →
    ∀ total, written.counter? key = some total →
      after.changes.counters.find? key = some ⟨total, total⟩
  /-- A gauge is carried if its reading does not agree with the acknowledged one. -/
  gauge : ∀ reading, after.changes.gauges.find? key = some reading ↔
    written.gauge? key = some reading ∧
      ∀ known, before.adoptedGauge? key before.changes = some known →
        reading.agrees known = false
  /-- No write to a counter since the report is lost: the change since then is carried. -/
  counterSince : ∀ total, written.counter? key = some total → before.counter? key ≠ some total →
    after.changes.counters.find? key = some ⟨total - (before.counter? key).getD 0, total⟩
  /-- No write to a gauge since the report is lost. -/
  gaugeSince : ∀ reading, written.gauge? key = some reading →
    (∀ earlier, before.gauge? key = some earlier → reading.agrees earlier = false) →
    after.changes.gauges.find? key = some reading

section

variable (ledger : Ledger) (writes : List Write) (key : String)

/-- The counters that are left to report. -/
theorem find?_changes_counters_commit {change : CounterChange} :
    ((ledger.writeAll writes).commit ledger.changes).changes.counters.find? key = some change ↔
      ∃ total, (ledger.writeAll writes).counter? key = some total ∧
        ledger.counter? key ≠ some total ∧
        change = ⟨total - (ledger.counter? key).getD 0, total⟩ := by
  have same : ((ledger.writeAll writes).commit ledger.changes).counter? key =
      (ledger.writeAll writes).counter? key := present?_commit _ .counter key _
  have adopted : ((ledger.writeAll writes).commit ledger.changes).committedCounter? key =
      ledger.adoptedCounter? key ledger.changes :=
    committed?_commit_writeAll ledger key .counter writes
  rw [find?_changes_counters_eq_some, committedTotal, same, adopted, adoptedCounter?_changes]

/-- The gauges that are left to report. -/
theorem find?_changes_gauges_commit {reading : Binary64} :
    ((ledger.writeAll writes).commit ledger.changes).changes.gauges.find? key = some reading ↔
      (ledger.writeAll writes).gauge? key = some reading ∧
        ∀ known, ledger.adoptedGauge? key ledger.changes = some known →
          reading.agrees known = false := by
  have same : ((ledger.writeAll writes).commit ledger.changes).gauge? key =
      (ledger.writeAll writes).gauge? key := present?_commit _ .gauge key _
  have adopted : ((ledger.writeAll writes).commit ledger.changes).committedGauge? key =
      ledger.adoptedGauge? key ledger.changes :=
    committed?_commit_writeAll ledger key .gauge writes
  rw [find?_changes_gauges_eq_some, same, adopted]

theorem carries_commit_writeAll :
    Carries ledger (ledger.writeAll writes) ((ledger.writeAll writes).commit ledger.changes)
      key where
  sameTotal := present?_commit _ .counter key _
  sameReading := present?_commit _ .gauge key _
  adoptedTotal := committed?_commit_writeAll ledger key .counter writes
  adoptedReading := committed?_commit_writeAll ledger key .gauge writes
  counter change := by
    rw [adoptedCounter?_changes]
    exact find?_changes_counters_commit ledger writes key
  newCounter nothing total present := by
    rw [adoptedCounter?_changes] at nothing
    refine (find?_changes_counters_commit ledger writes key).mpr ⟨total, present, ?_, ?_⟩
    · rw [nothing]
      exact Option.some_ne_none total |>.symm
    · rw [nothing, Option.getD_none, Int64.sub_zero]
  gauge reading := find?_changes_gauges_commit ledger writes key
  counterSince total present differs :=
    (find?_changes_counters_commit ledger writes key).mpr ⟨total, present, differs, rfl⟩
  gaugeSince reading present differs := by
    refine (find?_changes_gauges_commit ledger writes key).mpr ⟨present, fun known adopted => ?_⟩
    cases wasPresent : ledger.gauge? key with
    | none => cases (adoptedGauge?_of_absent ledger key wasPresent).symm.trans adopted
    | some earlier =>
      obtain ⟨other, isOther, atReport⟩ := adoptedGauge?_changes ledger key wasPresent
      obtain rfl := Option.some.inj (adopted.symm.trans isOther)
      rcases atReport with rfl | agree
      · exact differs _ wasPresent
      · by_contra same
        rw [Bool.not_eq_false] at same
        have still := Binary64.agrees_trans same (Binary64.agrees_symm agree)
        rw [differs earlier wasPresent] at still
        cases still

end

/-- With nothing written since a report was made, its acknowledgement leaves nothing to report. -/
theorem isEmpty_changes_commit {ledger : Ledger}
    (numbers : ∀ key reading, ledger.gauge? key = some reading → reading.isNaN = false) :
    (ledger.commit ledger.changes).changes.isEmpty = true := by
  rw [Changes.isEmpty, Bool.and_eq_true]
  refine ⟨KeyMap.isEmpty_of_find? fun key => ?_, KeyMap.isEmpty_of_find? fun key => ?_⟩
  · refine Option.eq_none_iff_forall_ne_some.mpr fun change carried => ?_
    obtain ⟨total, present, differs, _⟩ := (find?_changes_counters_commit ledger [] key).mp carried
    exact differs present
  · refine Option.eq_none_iff_forall_ne_some.mpr fun reading carried => ?_
    obtain ⟨present, differs⟩ := (find?_changes_gauges_commit ledger [] key).mp carried
    obtain ⟨known, adopted, same | agree⟩ := adoptedGauge?_changes ledger key present
    · have agree := Binary64.agrees_self (numbers key reading present)
      rw [same] at adopted
      rw [differs reading adopted] at agree
      cases agree
    · rw [differs known adopted] at agree
      cases agree

/-- Once a report is acknowledged, the next one carries just what differs from it, whatever was
written in between. With nothing written in between, and no gauge that is not a number, there is
nothing left to carry. -/
theorem carries_commit (ledger : Ledger) :
    (∀ writes key, Carries ledger (ledger.writeAll writes)
      ((ledger.writeAll writes).commit ledger.changes) key) ∧
    ((∀ key reading, ledger.gauge? key = some reading → reading.isNaN = false) →
      (ledger.commit ledger.changes).changes.isEmpty = true) :=
  ⟨fun writes key => carries_commit_writeAll ledger writes key, isEmpty_changes_commit⟩

end Ledger

end Metering
