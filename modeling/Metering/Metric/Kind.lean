/-
The two kinds of metric: counters, which add up, and gauges, which hold their last reading.
-/

namespace Metering

/-- What a metric does with a new reading. -/
inductive Kind
  | counter
  | gauge
  deriving DecidableEq, Repr, Inhabited

namespace Kind

/-- The name of a kind in every text format. -/
def name : Kind → String
  | .counter => "counter"
  | .gauge => "gauge"

/-- The kind with a name. Names are compared as they stand. -/
def ofName? (name : String) : Option Kind :=
  if name = "counter" then some .counter
  else if name = "gauge" then some .gauge
  else none

@[simp] theorem ofName?_name (kind : Kind) : ofName? kind.name = some kind := by
  cases kind <;> rfl

end Kind

end Metering
