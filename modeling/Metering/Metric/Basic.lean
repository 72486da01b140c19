/-
Metrics as they travel between agents and servers, and what makes one acceptable. A metric
names its kind by a text and carries two optional fields, the change of a counter and the
reading of a gauge. It asks for an update when the key has 1 to 63 characters, the kind is
known, and exactly the field of that kind is there, with a finite reading in the case of a
gauge. What is stored under a key is a total or a reading.
-/

import Metering.Metric.Kind
import Metering.Numeral.Layout
import Metering.Numeral.Tally

namespace Metering

/-- A metric as it travels. -/
structure Metric where
  key : String
  kindName : String
  delta : Option Int64
  reading : Option Binary64
  deriving DecidableEq, Repr, Inhabited

/-- What is stored under a key. -/
inductive Value
  | counter (total : Int64)
  | gauge (reading : Binary64)
  deriving DecidableEq, Repr, Inhabited

/-- What an update asks for: to add to a counter or to replace the reading of a gauge. -/
structure Update where
  key : String
  value : Value
  deriving DecidableEq, Repr, Inhabited

/-- Why a metric is not acceptable. -/
inductive MetricError
  | emptyKey
  | keyTooLong (characters : Nat)
  | unknownKind (name : String)
  | wrongFields (key : String) (kind : Kind)
  | nonFinite (key : String)
  deriving DecidableEq, Repr

/-- The most characters a key may have. -/
def Metric.longestKey : Nat := 63

/-- The text of an error. -/
def MetricError.message : MetricError → String
  | .emptyKey => "metric key is empty"
  | .keyTooLong characters =>
    "metric key is " ++ toString characters ++ " characters long, limit is " ++
      toString Metric.longestKey
  | .unknownKind name => "non-existent metric type '" ++ name ++ "'"
  | .wrongFields key kind => "wrong value type for " ++ kind.name ++ " metric '" ++ key ++ "'"
  | .nonFinite key => "non-finite value for gauge '" ++ key ++ "'"

namespace Value

/-- The kind of metric that stores a value. -/
def kind : Value → Kind
  | .counter _ => .counter
  | .gauge _ => .gauge

/-- The text of a value for people. -/
def display : Value → String
  | .counter total => Tally.text total
  | .gauge reading => reading.display

end Value

namespace Metric

/-- Checks the length of a key in characters. -/
def validateKey (key : String) : Except MetricError Unit :=
  if key.isEmpty then .error .emptyKey
  else if longestKey < key.length then .error (.keyTooLong key.length)
  else .ok ()

/-- Checks that a reading is finite. -/
def validateReading (key : String) (reading : Binary64) : Except MetricError Unit :=
  if reading.isFinite then .ok () else .error (.nonFinite key)

/-- The kind with a name. -/
def kindOfName (name : String) : Except MetricError Kind :=
  match Kind.ofName? name with
  | some kind => .ok kind
  | none => .error (.unknownKind name)

/-- The kind that a metric names. -/
def kind (metric : Metric) : Except MetricError Kind := kindOfName metric.kindName

/-- The kind that a metric asks about, under an acceptable key. -/
def query (metric : Metric) : Except MetricError Kind := do
  validateKey metric.key
  metric.kind

/-- The update that a metric asks for. -/
def toUpdate (metric : Metric) : Except MetricError Update := do
  let kind ← metric.query
  match kind, metric.delta, metric.reading with
  | .counter, some delta, none => return ⟨metric.key, .counter delta⟩
  | .gauge, none, some reading =>
    validateReading metric.key reading
    return ⟨metric.key, .gauge reading⟩
  | kind, _, _ => .error (.wrongFields metric.key kind)

/-- The metric that reports a value under a key. -/
def ofValue (key : String) : Value → Metric
  | .counter total => ⟨key, Kind.counter.name, some total, none⟩
  | .gauge reading => ⟨key, Kind.gauge.name, none, some reading⟩

end Metric

end Metering
