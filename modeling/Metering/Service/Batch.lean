/-
Batches of updates, merged by key: the sum of the changes of a counter, and the last reading of
a gauge. A batch that uses one key under both kinds, or in which a sum leaves the range of
counters at any point of the way, is refused.
-/

import Metering.KeyMap
import Metering.Numeral.Tally
import Metering.Service.Error

namespace Metering

/-- The merged updates of a batch. -/
structure Batch where
  deltas : KeyMap Int64
  gauges : KeyMap Binary64
  deriving DecidableEq

namespace Batch

/-- No updates. -/
def empty : Batch := ⟨KeyMap.empty, KeyMap.empty⟩

/-- The exact sum of a counter, or the overflow. -/
def addTo (key : String) (total delta : Int64) : Except ServiceError Int64 :=
  match Tally.checkedAdd? total delta with
  | some sum => .ok sum
  | none => .error (.overflow key)

/-- The batch with one more update. -/
def add (batch : Batch) (update : Update) : Except ServiceError Batch :=
  match update.value with
  | .counter delta => do
    if batch.gauges.contains update.key then throw (.storage (.wrongKind update.key))
    let sum ← addTo update.key ((batch.deltas.find? update.key).getD 0) delta
    return { batch with deltas := batch.deltas.insert update.key sum }
  | .gauge reading => do
    if batch.deltas.contains update.key then throw (.storage (.wrongKind update.key))
    return { batch with gauges := batch.gauges.insert update.key reading }

/-- The batch of a list of updates. -/
def ofUpdates (updates : List Update) : Except ServiceError Batch := updates.foldlM add empty

end Batch

end Metering
