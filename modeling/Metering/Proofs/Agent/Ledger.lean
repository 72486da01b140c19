/-
What reports and commits mean for the metrics of an agent. Writing keeps what was acknowledged;
a report has the changed metrics and a commit adopts what it reports.
-/

import Metering.Proofs.KeyMap
import Metering.Agent.Ledger

namespace Metering

namespace Ledger

/-- The acknowledged total of a counter, if there is one. -/
def committedCounter? (ledger : Ledger) (key : String) : Option Int64 :=
  (ledger.counters.find? key).bind (·.committed)

/-- The acknowledged reading of a gauge, if there is one. -/
def committedGauge? (ledger : Ledger) (key : String) : Option Binary64 :=
  (ledger.gauges.find? key).bind (·.committed)

/-- The acknowledged total of a counter; zero where there is none. -/
def committedTotal (ledger : Ledger) (key : String) : Int64 :=
  (ledger.committedCounter? key).getD 0

end Ledger

/-- What a value of a kind consists of. -/
abbrev Kind.Amount : Kind → Type
  | .counter => Int64
  | .gauge => Binary64

/-- The value that a report has observed of a metric, if the metric is in it. -/
def Changes.observed? (observed : Changes) : (kind : Kind) → String → Option kind.Amount
  | .counter, key => (observed.counters.find? key).map (·.total)
  | .gauge, key => observed.gauges.find? key

namespace Ledger

/-- The records of a kind. -/
def records (ledger : Ledger) : (kind : Kind) → KeyMap (Record kind.Amount)
  | .counter => ledger.counters
  | .gauge => ledger.gauges

/-- The value of a metric of a kind, if there is one. -/
def present? (ledger : Ledger) (kind : Kind) (key : String) : Option kind.Amount :=
  ((ledger.records kind).find? key).map (·.present)

/-- The acknowledged value of a metric of a kind, if there is one. -/
def committed? (ledger : Ledger) (kind : Kind) (key : String) : Option kind.Amount :=
  ((ledger.records kind).find? key).bind (·.committed)

theorem committed?_counter (ledger : Ledger) (key : String) :
    ledger.committed? .counter key = ledger.committedCounter? key := rfl

theorem committed?_gauge (ledger : Ledger) (key : String) :
    ledger.committed? .gauge key = ledger.committedGauge? key := rfl

/-- The key that a write is about. -/
def Write.key : Write → String
  | .setCounter key _ => key
  | .addCounter key _ => key
  | .setGauge key _ => key

/-- Whether a write is about a gauge. -/
def Write.isGauge : Write → Bool
  | .setGauge _ _ => true
  | _ => false

end Ledger

namespace Record

variable {Amount : Type}

theorem committed_set (amount : Amount) (record : Option (Record Amount)) :
    (set amount record).committed = record.bind (·.committed) := by
  cases record <;> rfl

/-- A record that has not changed agrees with what was acknowledged. -/
theorem not_changed {same : Amount → Amount → Bool} {record : Record Amount}
    (unchanged : record.changed same = false) :
    ∃ acknowledged, record.committed = some acknowledged ∧
      same record.present acknowledged = true := by
  rw [changed, Bool.not_eq_false', Option.any_eq_true] at unchanged
  exact unchanged

end Record

namespace Ledger

variable (ledger : Ledger) (kind : Kind) (key : String)

/-! ### Writing -/

theorem find?_setGauge (wanted : String) (reading : Binary64) :
    (ledger.setGauge key reading).gauges.find? wanted =
      if wanted = key then some (Record.set reading (ledger.gauges.find? key))
      else ledger.gauges.find? wanted :=
  KeyMap.find?_insert _ _ _ _

/-- A write sets the value of its key, in the records of one kind. -/
theorem records_write (write : Write) :
    (ledger.write write).records kind = ledger.records kind ∨
      ∃ amount, (ledger.write write).records kind = (ledger.records kind).insert write.key
        (Record.set amount ((ledger.records kind).find? write.key)) := by
  cases write with
  | setCounter other total =>
    cases kind with
    | counter => exact Or.inr ⟨_, rfl⟩
    | gauge => exact Or.inl rfl
  | addCounter other amount =>
    cases kind with
    | counter => exact Or.inr ⟨_, rfl⟩
    | gauge => exact Or.inl rfl
  | setGauge other reading =>
    cases kind with
    | counter => exact Or.inl rfl
    | gauge => exact Or.inr ⟨_, rfl⟩

/-- What was acknowledged stays when the ledger is written to. -/
theorem committed?_write (write : Write) :
    (ledger.write write).committed? kind key = ledger.committed? kind key := by
  rcases ledger.records_write kind write with same | ⟨amount, isSet⟩
  · rw [committed?, committed?, same]
  · rw [committed?, committed?, isSet, KeyMap.find?_insert]
    by_cases isKey : key = write.key
    · rw [if_pos isKey, isKey]
      exact Record.committed_set amount _
    · rw [if_neg isKey]

theorem committed?_writeAll (writes : List Write) :
    (ledger.writeAll writes).committed? kind key = ledger.committed? kind key := by
  induction writes generalizing ledger with
  | nil => rfl
  | cons write rest inductionHypothesis =>
    exact (inductionHypothesis (ledger.write write)).trans (committed?_write ledger kind key write)

theorem committedTotal_write (write : Write) :
    (ledger.write write).committedTotal key = ledger.committedTotal key :=
  congrArg (Option.getD · 0) (committed?_write ledger .counter key write)

theorem contains_write (write : Write) (known : (ledger.records kind).contains key = true) :
    ((ledger.write write).records kind).contains key = true := by
  rcases ledger.records_write kind write with same | ⟨amount, isSet⟩
  · rwa [same]
  · rw [isSet, KeyMap.contains_insert, known, Bool.or_true]

/-- A write makes no record but that of its key. -/
theorem contains_of_write {ledger : Ledger} {kind : Kind} {key : String} {write : Write}
    (known : ((ledger.write write).records kind).contains key = true) :
    (ledger.records kind).contains key = true ∨ key = write.key := by
  rcases ledger.records_write kind write with same | ⟨amount, isSet⟩
  · exact Or.inl (same ▸ known)
  · rw [isSet, KeyMap.contains_insert, Bool.or_eq_true, decide_eq_true_iff] at known
    exact known.symm

theorem gauges_write {write : Write} (notGauge : write.isGauge = false) :
    (ledger.write write).gauges = ledger.gauges := by
  cases write with
  | setGauge other reading => cases notGauge
  | setCounter other total => rfl
  | addCounter other amount => rfl

/-! ### Reporting -/

/-- What a report says of a ledger, whatever was written to the ledger since: its metrics are
there, and the changes of its counters are those since the acknowledged totals. -/
structure Reported (ledger : Ledger) (observed : Changes) : Prop where
  delta : ∀ key change, observed.counters.find? key = some change →
    change.delta = change.total - ledger.committedTotal key
  known : ∀ kind key, observed.observed? kind key ≠ none →
    (ledger.records kind).contains key = true

theorem find?_changes_counters :
    ledger.changes.counters.find? key = (ledger.counters.find? key).bind counterChange? :=
  KeyMap.find?_filterMap _ _ _

theorem find?_changes_gauges :
    ledger.changes.gauges.find? key = (ledger.gauges.find? key).bind gaugeChange? :=
  KeyMap.find?_filterMap _ _ _

theorem reported_changes : ledger.Reported ledger.changes where
  delta key change found := by
    rw [find?_changes_counters, Option.bind_eq_some_iff] at found
    obtain ⟨record, isRecord, isChange⟩ := found
    obtain ⟨_, isChange⟩ := Option.ite_none_right_eq_some.mp isChange
    rw [← Option.some.inj isChange, committedTotal, committedCounter?, isRecord]
    rfl
  known kind key member := by
    cases kind with
    | counter =>
      rw [Changes.observed?, find?_changes_counters, Ne, Option.map_eq_none_iff,
        ← Ne, ← Option.isSome_iff_ne_none] at member
      exact Option.isSome_of_isSome_bind member
    | gauge =>
      rw [Changes.observed?, find?_changes_gauges, ← Option.isSome_iff_ne_none] at member
      exact Option.isSome_of_isSome_bind member

theorem reported_write {ledger : Ledger} {observed : Changes}
    (reported : ledger.Reported observed) (write : Write) :
    (ledger.write write).Reported observed where
  delta key change found := by
    rw [committedTotal_write]
    exact reported.delta key change found
  known kind key member := contains_write ledger kind key write (reported.known kind key member)

theorem reported_writeAll {ledger : Ledger} {observed : Changes}
    (reported : ledger.Reported observed) (writes : List Write) :
    (ledger.writeAll writes).Reported observed := by
  induction writes generalizing ledger with
  | nil => exact reported
  | cons write rest inductionHypothesis => exact inductionHypothesis (reported_write reported write)

/-! ### Committing -/

theorem find?_commit (observed : Changes) :
    ((ledger.commit observed).records kind).find? key =
      ((ledger.records kind).find? key).map (Record.commit (observed.observed? kind key)) := by
  have mapped := (ledger.records kind).find?_mapWithKey
    (fun key => Record.commit (observed.observed? kind key)) key
  cases kind <;> exact mapped

/-- A commit adopts the values that were reported. -/
theorem committed?_commit {ledger : Ledger} {observed : Changes}
    (reported : ledger.Reported observed) (kind : Kind) (key : String) :
    (ledger.commit observed).committed? kind key =
      (observed.observed? kind key).or (ledger.committed? kind key) := by
  rw [committed?, committed?, find?_commit]
  cases isRecord : (ledger.records kind).find? key with
  | some record => exact Option.orElse_eq_or
  | none =>
    cases isObserved : observed.observed? kind key with
    | none => rfl
    | some amount =>
      have known := reported.known kind key (isObserved ▸ Option.some_ne_none amount)
      rw [KeyMap.contains, isRecord] at known
      cases known

theorem present?_commit (observed : Changes) :
    (ledger.commit observed).present? kind key = ledger.present? kind key := by
  rw [present?, present?, find?_commit]
  cases (ledger.records kind).find? key <;> rfl

theorem contains_commit (observed : Changes) :
    ((ledger.commit observed).records kind).contains key = (ledger.records kind).contains key := by
  rw [KeyMap.contains, find?_commit, Option.isSome_map, KeyMap.contains]

end Ledger

end Metering
