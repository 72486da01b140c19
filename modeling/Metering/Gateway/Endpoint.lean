/-
What is done at each route: reading the parameters or the body, one call of the service, and
the response. Bodies are read whatever type they claim to have.
-/

import Metering.Gateway.Message
import Metering.Gateway.Page
import Metering.Gateway.Route
import Metering.Metric.Json
import Metering.Service.Basic

namespace Metering

/-- What answers requests, on a store. -/
abbrev Handler (Store : Type) : Type := Request → StateM Store Response

namespace Endpoint

variable {Store Answer : Type}

/-! ### Reading requests -/

/-- The longest body that an endpoint takes. -/
def bodyLimit : Nat := 2097152

/-- A key from a path; an empty one is a place that is not there. -/
def requireKey (key : String) : Except ServiceError Unit :=
  match Metric.validateKey key with
  | .ok () => .ok ()
  | .error .emptyKey => .error .missingKey
  | .error problem => .error (.metric problem)

/-- The kind that a path names. -/
def requireKind (name : String) : Except ServiceError Kind :=
  (Metric.kindOfName name).mapError ServiceError.metric

/-- The value that a path writes for a kind. -/
def readValue (kind : Kind) (key raw : String) : Except ServiceError Value :=
  match kind with
  | .counter =>
    match Whole.read Whole.Range.signed64 raw with
    | .ok whole => .ok (.counter (Int64.ofInt whole))
    | .error fault => .error (.unreadable (.counter raw fault))
  | .gauge =>
    match Binary64.read raw with
    | .error fault => .error (.unreadable (.gauge raw fault))
    | .ok reading =>
      match Metric.validateReading key reading with
      | .ok () => .ok (.gauge reading)
      | .error problem => .error (.metric problem)

/-- The update that a path asks for. -/
def readUpdate (kind key raw : String) : Except ServiceError Update := do
  requireKey key
  return ⟨key, ← readValue (← requireKind kind) key raw⟩

/-- What a path asks about. -/
def readQuery (kind key : String) : Except ServiceError (Kind × String) := do
  requireKey key
  return (← requireKind kind, key)

/-- What a body writes. -/
def readBody (decode? : Bytes → Option Answer) (body : Bytes) : Except ServiceError Answer :=
  match decode? body with
  | some answer => .ok answer
  | none => .error (.unreadable .document)

/-! ### Responding -/

/-- The response for a refusal. -/
def refused (problem : ServiceError) : Response := .plain problem.status problem.message

/-- The response for the result of a call. -/
def responding (respond : Answer → Response) (call : Call Store Answer) : StateM Store Response :=
  fun store =>
    match call store with
    | (.ok answer, after) => (respond answer, after)
    | (.error problem, after) => (refused problem, after)

/-- Works on a body that is not too long. -/
def withBody (request : Request) (work : Bytes → StateM Store Response) : StateM Store Response :=
  if bodyLimit < request.body.length then
    pure (.plain 413 "Failed to buffer the request body: length limit exceeded")
  else work request.body

/-- Works on parameters that are text. -/
def withParameters (parameters : Except String Answer) (work : Answer → StateM Store Response) :
    StateM Store Response :=
  match parameters with
  | .ok values => work values
  | .error name => pure (.plain 400 ("Invalid URL: Invalid UTF-8 in `" ++ name ++ "`"))

variable [Repository Store]

/-- The answer of a route to a request. -/
def answer (route : Route) (request : Request) : StateM Store Response :=
  match route with
  | .listing => responding (fun metrics => .page (Page.render metrics)) Service.all
  | .ping => responding (fun _ => .plain 200 "OK") Service.ping
  | .updateOne => withBody request fun body =>
    responding (fun metric : Metric => .json metric.encodeJson) do
      Service.updateMetric (← Service.requiring (readBody Metric.decodeJson? body))
  | .updateBatch => withBody request fun body =>
    responding (fun _ => .bare 200) do
      Service.updateMetrics (← Service.requiring (readBody Metric.decodeBatchJson? body))
  | .query => withBody request fun body =>
    responding (fun metric : Metric => .json metric.encodeJson) do
      Service.valueMetric (← Service.requiring (readBody Metric.decodeJson? body))
  | .updatePath kind key number =>
    let parameters := do
      return (← Route.parameter "mtype" kind, ← Route.parameter "key" key,
        ← Route.parameter "value" number)
    withParameters parameters fun (kind, key, number) =>
      responding (fun _ => .plain 200 "") do
        Service.update (← Service.requiring (readUpdate kind key number))
  | .valuePath kind key =>
    let parameters := do return (← Route.parameter "mtype" kind, ← Route.parameter "key" key)
    withParameters parameters fun (kind, key) =>
      responding (fun value : Value => .plain 200 value.display) do
        let (kind, key) ← Service.requiring (readQuery kind key)
        Service.value kind key

end Endpoint

end Metering
