/-
What the memory backend holds: one map of counters and one of gauges. A write is refused when
its key is in the other map, and a bulk write as a whole when one of its keys is; the refusal
names the first such key.
-/

import Metering.KeyMap
import Metering.Metric.Basic
import Metering.Storage.Error

namespace Metering

/-- Counters and gauges by key. -/
structure Contents where
  counters : KeyMap Int64
  gauges : KeyMap Binary64
  deriving DecidableEq

namespace Contents

/-- No metrics. -/
def empty : Contents := ⟨KeyMap.empty, KeyMap.empty⟩

instance : Inhabited Contents := ⟨empty⟩

/-- Whether a key is in either map. -/
def has (contents : Contents) (key : String) : Bool :=
  contents.counters.contains key || contents.gauges.contains key

/-- The total of a counter. -/
def counter (contents : Contents) (key : String) : Except StorageError Int64 :=
  match contents.counters.find? key with
  | some total => .ok total
  | none =>
    if contents.gauges.contains key then .error (.wrongKind key) else .error (.notFound key)

/-- The reading of a gauge. -/
def gauge (contents : Contents) (key : String) : Except StorageError Binary64 :=
  match contents.gauges.find? key with
  | some reading => .ok reading
  | none =>
    if contents.counters.contains key then .error (.wrongKind key) else .error (.notFound key)

/-- The first key of a map that another map holds. -/
def firstShared? {Value Other : Type} (values : KeyMap Value) (others : KeyMap Other) :
    Option String :=
  values.keys.find? others.contains

/-- Writes several counters. -/
def setCounters (totals : KeyMap Int64) (contents : Contents) : Except StorageError Contents :=
  match firstShared? totals contents.gauges with
  | some key => .error (.wrongKind key)
  | none => .ok { contents with counters := contents.counters.overlay totals }

/-- Writes several gauges. -/
def setGauges (readings : KeyMap Binary64) (contents : Contents) :
    Except StorageError Contents :=
  match firstShared? readings contents.counters with
  | some key => .error (.wrongKind key)
  | none => .ok { contents with gauges := contents.gauges.overlay readings }

/-- Writes a counter. -/
def setCounter (key : String) (total : Int64) (contents : Contents) :
    Except StorageError Contents :=
  if contents.gauges.contains key then .error (.wrongKind key)
  else .ok { contents with counters := contents.counters.insert key total }

/-- Writes a gauge. -/
def setGauge (key : String) (reading : Binary64) (contents : Contents) :
    Except StorageError Contents :=
  if contents.counters.contains key then .error (.wrongKind key)
  else .ok { contents with gauges := contents.gauges.insert key reading }

/-- All metrics in key order; of a key in both maps, the gauge. -/
def all (contents : Contents) : KeyMap Value :=
  (contents.counters.map Value.counter).overlay (contents.gauges.map Value.gauge)

end Contents

end Metering
