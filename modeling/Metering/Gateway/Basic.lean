/-
The two front ends of a server. Over the web a request passes admission, decryption, the check
of its tag and expansion, in this order, before it is routed; all stages stand also around
requests that lead nowhere. Remote calls carry batches of metrics and pass admission only; what
the service says against a batch is part of the answer.
-/

import Metering.Gateway.Stage
import Metering.Metric.Wire

namespace Metering

/-- What a server asks of its clients: a subnet, a shared secret, a key to decrypt with. -/
structure Gateway where
  subnet : Option Subnet
  signingKey : Option SigningKey
  privateKey : Option Rsa.PrivateKey

namespace Gateway

variable {Store : Type}

/-- Drops the body of the response to one who asked for the head alone. -/
def withoutBody (request : Request) (response : Response) : Response :=
  if request.method = "HEAD" then { response with body := [] } else response

variable [Repository Store]

/-- Answers at the route that the path leads to. -/
def routed [Gzip.Deflater] : Handler Store := fun request =>
  match Route.ofPath? request.path with
  | none => pure (.bare 404)
  | some route =>
    let endpoint : Handler Store := fun request =>
      if route.takes request.method then Endpoint.answer route request
      else pure { Response.bare 405 with allowed := some route.allowed }
    if route.isCompressed then Stage.compressing endpoint request else endpoint request

/-- Answers behind all stages. -/
def staged [Gzip.Deflater] (gateway : Gateway) : Handler Store :=
  Stage.optionally Stage.admitted gateway.subnet
    (Stage.optionally Stage.decrypted gateway.privateKey
      (Stage.optionally Stage.vouched gateway.signingKey (Stage.expanded routed)))

/-- Answers a request over the web; the response bears the number that the request is logged
under. -/
def serve [Gzip.Deflater] (gateway : Gateway) (number : UInt64) : Handler Store :=
  fun request => do
  let response ← gateway.staged request
  let trace := Hex.encode (Bytes.bigEndian 8 number.toNat)
  return withoutBody request { response with trace := some trace }

/-- Admission of a remote call from a reported address. -/
def admission (gateway : Gateway) (realIp : Option String) : Except AdmissionError Unit :=
  match gateway.subnet with
  | none => .ok ()
  | some subnet => (subnet.accept (realIp.bind Request.readable?)).map fun _ => ()

/-- Answers a remote call: denied by admission, or the text of what the service says against
the batch, empty if nothing. -/
def call (gateway : Gateway) (realIp : Option String) (batch : List Metric.Message) :
    StateM Store (Except AdmissionError String) := fun store =>
  match gateway.admission realIp with
  | .error problem => (.error problem, store)
  | .ok () =>
    match (Service.updateMetrics (batch.map Metric.Message.toMetric) : Call Store Unit) store with
    | (.ok (), after) => (.ok "", after)
    | (.error problem, after) => (.ok problem.message, after)

end Gateway

end Metering
