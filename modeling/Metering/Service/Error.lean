/-
Why the service refuses a request, what it says of it, and the status of the answer over the
web. What the JSON reader says of a bad document is not passed on.
-/

import Metering.Metric.Basic
import Metering.Numeral.Rounding
import Metering.Numeral.Whole
import Metering.Storage.Error

namespace Metering

/-- What cannot be read of a request. -/
inductive ReadingError
  | document
  | counter (raw : String) (fault : Whole.Fault)
  | gauge (raw : String) (fault : Binary64.Fault)
  deriving DecidableEq, Repr

/-- The text of an error. -/
def ReadingError.message : ReadingError → String
  | .document => "<json>"
  | .counter raw fault => "counter value '" ++ raw ++ "': " ++ fault.message
  | .gauge raw fault => "gauge value '" ++ raw ++ "': " ++ fault.message

/-- Why a request is refused. -/
inductive ServiceError
  | unreadable (problem : ReadingError)
  | metric (problem : MetricError)
  | missingKey
  | overflow (key : String)
  | storage (problem : StorageError)
  deriving DecidableEq, Repr

namespace ServiceError

/-- The text of an error. -/
def message : ServiceError → String
  | .unreadable problem => "parse error: " ++ problem.message
  | .metric problem => problem.message
  | .missingKey => "metric key is missing"
  | .overflow key => "counter '" ++ key ++ "' overflows"
  | .storage problem => problem.message

/-- The status of the answer: the key is not there, the request is bad, or the storage fails. -/
def status : ServiceError → Nat
  | .missingKey | .storage (.notFound _) => 404
  | .unreadable _ | .metric _ | .overflow _ | .storage (.wrongKind _) => 400
  | .storage .database | .storage .io | .storage .encode => 500

end ServiceError

end Metering
