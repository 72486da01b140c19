/-
What collectors report: a reading to replace that of a gauge, or an amount to add to a counter.
A reading that is not finite is passed over, since a server refuses every batch with one.
-/

import Metering.Agent.Ledger

namespace Metering

/-- A single value that was sampled. -/
inductive Reading
  | gauge (name : String) (reading : Binary64)
  | increment (name : String) (amount : Int64)
  deriving DecidableEq, Repr

namespace Reading

/-- The name of the metric. -/
def name : Reading → String
  | .gauge name _ => name
  | .increment name _ => name

/-- The write that a reading asks for, if any. -/
def write? : Reading → Option Ledger.Write
  | .gauge name reading => if reading.isFinite then some (.setGauge name reading) else none
  | .increment name amount => some (.addCounter name amount)

/-- The writes that readings ask for. -/
def writes (readings : List Reading) : List Ledger.Write := readings.filterMap write?

end Reading

/-- The ledger after readings. -/
def Ledger.take (ledger : Ledger) (readings : List Reading) : Ledger :=
  ledger.writeAll (Reading.writes readings)

end Metering
