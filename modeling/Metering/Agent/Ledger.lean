/-
What an agent remembers. Every metric has its present value and, beside it, the value that the
server has acknowledged. The difference between the two is what the agent has still to report:
of a counter the change since the acknowledged total, of a gauge its reading. A commit adopts
the values that were observed when the report was made, so what was written in the meantime
stays to be reported.
-/

import Metering.KeyMap
import Metering.Metric.Basic

namespace Metering

/-- The present value of a metric, and the one that the server has acknowledged. -/
structure Record (Amount : Type) where
  present : Amount
  committed : Option Amount
  deriving DecidableEq, Repr

namespace Record

variable {Amount : Type}

/-- The record of a metric that is new. -/
def new (amount : Amount) : Record Amount := ⟨amount, none⟩

/-- The record with another present value. -/
def set (amount : Amount) : Option (Record Amount) → Record Amount
  | none => new amount
  | some record => { record with present := amount }

/-- Whether the present value is not the acknowledged one. -/
def changed (same : Amount → Amount → Bool) (record : Record Amount) : Bool :=
  !(record.committed.any (same record.present))

/-- The record with the observed value, if there is one, as the acknowledged one. -/
def commit (observed : Option Amount) (record : Record Amount) : Record Amount :=
  { record with committed := observed <|> record.committed }

end Record

/-- What a counter has to report: the change since the acknowledged total, and the total
observed. -/
structure CounterChange where
  delta : Int64
  total : Int64
  deriving DecidableEq, Repr

/-- What there is to report at one moment. -/
structure Changes where
  counters : KeyMap CounterChange
  gauges : KeyMap Binary64
  deriving DecidableEq

namespace Changes

/-- The number of metrics to report. -/
def size (changes : Changes) : Nat := changes.counters.size + changes.gauges.size

/-- Whether there is nothing to report. -/
def isEmpty (changes : Changes) : Bool := changes.counters.isEmpty && changes.gauges.isEmpty

/-- The batch to send: counters, then gauges, both in key order. -/
def batch (changes : Changes) : List Metric :=
  (changes.counters.toList.map fun (key, change) => Metric.ofValue key (.counter change.delta)) ++
    changes.gauges.toList.map fun (key, reading) => Metric.ofValue key (.gauge reading)

end Changes

/-- The metrics of an agent. -/
structure Ledger where
  counters : KeyMap (Record Int64)
  gauges : KeyMap (Record Binary64)
  deriving DecidableEq

namespace Ledger

/-- No metrics. -/
def empty : Ledger := ⟨KeyMap.empty, KeyMap.empty⟩

instance : Inhabited Ledger := ⟨empty⟩

/-! ### Reading -/

/-- The total of a counter, if there is one. -/
def counter? (ledger : Ledger) (key : String) : Option Int64 :=
  (ledger.counters.find? key).map (·.present)

/-- The reading of a gauge, if there is one. -/
def gauge? (ledger : Ledger) (key : String) : Option Binary64 :=
  (ledger.gauges.find? key).map (·.present)

/-! ### Writing -/

/-- Replaces the total of a counter. -/
def setCounter (key : String) (total : Int64) (ledger : Ledger) : Ledger :=
  { ledger with
    counters := ledger.counters.insert key (Record.set total (ledger.counters.find? key)) }

/-- Adds to the total of a counter; a total stays at the end of the range it runs into. -/
def addCounter (key : String) (amount : Int64) (ledger : Ledger) : Ledger :=
  ledger.setCounter key (Tally.saturatingAdd ((ledger.counter? key).getD 0) amount)

/-- Replaces the reading of a gauge. -/
def setGauge (key : String) (reading : Binary64) (ledger : Ledger) : Ledger :=
  { ledger with
    gauges := ledger.gauges.insert key (Record.set reading (ledger.gauges.find? key)) }

/-- A write to the metrics of an agent. -/
inductive Write
  | setCounter (key : String) (total : Int64)
  | addCounter (key : String) (amount : Int64)
  | setGauge (key : String) (reading : Binary64)
  deriving DecidableEq, Repr

/-- The ledger after a write. -/
def write (ledger : Ledger) : Write → Ledger
  | .setCounter key total => ledger.setCounter key total
  | .addCounter key amount => ledger.addCounter key amount
  | .setGauge key reading => ledger.setGauge key reading

/-- The ledger after several writes. -/
def writeAll (ledger : Ledger) (writes : List Write) : Ledger := writes.foldl write ledger

/-! ### Reporting -/

/-- What a counter has to report, if anything. The change wraps around the range of counters. -/
def counterChange? (record : Record Int64) : Option CounterChange :=
  if record.changed (· == ·) then
    some ⟨record.present - record.committed.getD 0, record.present⟩
  else none

/-- What a gauge has to report, if anything. -/
def gaugeChange? (record : Record Binary64) : Option Binary64 :=
  if record.changed Binary64.agrees then some record.present else none

/-- What there is to report. -/
def changes (ledger : Ledger) : Changes :=
  ⟨ledger.counters.filterMap counterChange?, ledger.gauges.filterMap gaugeChange?⟩

/-- The ledger after the values observed in a report were acknowledged. -/
def commit (observed : Changes) (ledger : Ledger) : Ledger :=
  ⟨ledger.counters.mapWithKey fun key record =>
      record.commit ((observed.counters.find? key).map (·.total)),
    ledger.gauges.mapWithKey fun key record => record.commit (observed.gauges.find? key)⟩

end Ledger

end Metering
