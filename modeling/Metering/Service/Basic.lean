/-
The service that both front ends call. Every call runs in one transaction of the storage, which
is kept when the call succeeds and given up when it fails. A batch is checked against the
storage before anything of it is written, so that a backend without transactions is left
untouched by a batch that fails.
-/

import Metering.Service.Batch
import Metering.Storage.Repository

namespace Metering

/-- A call of the service: an answer or an error, and the store as it is afterwards. -/
abbrev Call (Store Answer : Type) : Type := ExceptT ServiceError (StateM Store) Answer

namespace Service

variable {Store Answer : Type}

/-- An action of the storage as part of a call. -/
def storing (action : Action Store Answer) : Call Store Answer := fun store =>
  match action.on store with
  | (.ok answer, changed) => (.ok answer, changed)
  | (.error problem, changed) => (.error (.storage problem), changed)

/-- A check that does not touch the store. -/
def requiring (result : Except ServiceError Answer) : Call Store Answer := fun store =>
  (result, store)

/-- A check of a metric as part of a call. -/
def checking (result : Except MetricError Answer) : Call Store Answer :=
  requiring (result.mapError ServiceError.metric)

variable [Repository Store]

/-- Runs a call in a transaction. -/
def inTransaction (call : Call Store Answer) : Call Store Answer := do
  let _ ← storing (Repository.start : Action Store Isolation)
  fun store =>
    match call store with
    | (.ok answer, done) => (do storing Repository.commit; return answer : Call Store Answer) done
    | (.error problem, failed) =>
      (.error problem, ((Repository.rollback : Action Store Unit).on failed).2)

/-- The stored total of a counter; zero for a key not seen yet. -/
def previousTotal (key : String) : Call Store Int64 := fun store =>
  match (Repository.counter key : Action Store Int64).on store with
  | (.error (.notFound _), same) => (.ok 0, same)
  | (.ok total, same) => (.ok total, same)
  | (.error problem, same) => (.error (.storage problem), same)

/-- The total of a counter with a change added. -/
def newTotal (key : String) (delta : Int64) : Call Store Int64 := do
  requiring (Batch.addTo key (← previousTotal key) delta)

/-- Applies an update, and gives the value stored. -/
def apply (update : Update) : Call Store Value :=
  match update.value with
  | .gauge reading => do
    storing (Repository.setGauge update.key reading)
    return .gauge reading
  | .counter delta => do
    let total ← newTotal update.key delta
    storing (Repository.setCounter update.key total)
    return .counter total

/-- Applies one update. -/
def update (request : Update) : Call Store Value := inTransaction (apply request)

/-- Applies the update that a metric asks for, and gives the metric as stored. -/
def updateMetric (metric : Metric) : Call Store Metric := do
  let request ← checking metric.toUpdate
  return Metric.ofValue request.key (← update request)

/-- The totals after the changes of a batch. -/
def newTotals (deltas : KeyMap Int64) : Call Store (KeyMap Int64) :=
  deltas.toList.foldlM
    (fun totals entry => do return totals.insert entry.1 (← newTotal entry.1 entry.2))
    KeyMap.empty

/-- Checks that a key can hold a gauge. -/
def requireGauge (key : String) : Call Store Unit := fun store =>
  match (Repository.gauge key : Action Store Binary64).on store with
  | (.error (.notFound _), same) => (.ok (), same)
  | (.ok _, same) => (.ok (), same)
  | (.error problem, same) => (.error (.storage problem), same)

/-- Applies a merged batch: all checks, then all counters, then all gauges. -/
def applyBatch (batch : Batch) : Call Store Unit := do
  let totals ← newTotals batch.deltas
  batch.gauges.keys.forM requireGauge
  storing (Repository.setCounters totals)
  storing (Repository.setGauges batch.gauges)

/-- Applies a list of updates; nothing happens for the empty list. -/
def updateMany (updates : List Update) : Call Store Unit :=
  if updates.isEmpty then pure ()
  else do
    let batch ← requiring (Batch.ofUpdates updates)
    inTransaction (applyBatch batch)

/-- Applies the updates that metrics ask for, all or none. -/
def updateMetrics (metrics : List Metric) : Call Store Unit := do
  updateMany (← checking (metrics.mapM Metric.toUpdate))

/-- Reads the value of a kind under a key. -/
def read (kind : Kind) (key : String) : Call Store Value :=
  match kind with
  | .counter => return .counter (← storing (Repository.counter key))
  | .gauge => return .gauge (← storing (Repository.gauge key))

/-- The value of a kind under a key. -/
def value (kind : Kind) (key : String) : Call Store Value := inTransaction (read kind key)

/-- The metric that a metric asks about, with its value. -/
def valueMetric (metric : Metric) : Call Store Metric := do
  let kind ← checking metric.query
  return Metric.ofValue metric.key (← value kind metric.key)

/-- All metrics in key order. -/
def all : Call Store (KeyMap Value) := inTransaction (storing Repository.all)

/-- Checks that the storage can be reached. -/
def ping : Call Store Unit := storing Repository.ping

end Service

end Metering
