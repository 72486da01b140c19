/-
Batches over the web: a JSON document, compressed, then tagged, then encrypted, posted to the
route for batches. The server checks the three in the opposite order. What the server answers
decides how the sender takes it: success is an acknowledgement, a few statuses are worth another
attempt, and all others are final.
-/

import Metering.Address.Authority
import Metering.Gateway.Basic
import Metering.Transport.Error
import Metering.Transport.Status

namespace Metering

/-- How an agent reaches a server over the web: the address, the address it reports of itself,
the shared secret, and the key to encrypt with. -/
structure WebTransport where
  address : String
  realIp : Option String
  signingKey : Option SigningKey
  publicKey : Option Rsa.PublicKey

namespace WebTransport

variable {Store : Type}

/-- The name of the transport. -/
def name : String := "http"

/-- The path that batches are posted to, behind the base address. -/
def route : String := "/updates/"

/-- The body for a batch, and the tag of what is compressed. -/
def encode [Gzip.Deflater] (transport : WebTransport) (seeds : Nat → Oaep.Seed)
    (batch : List Metric) : Except TransportError (Bytes × Option String) :=
  let packed := Gzip.compress (Metric.encodeBatchJson batch)
  let tag := transport.signingKey.map fun key => key.tag packed
  match transport.publicKey with
  | none => .ok (packed, tag)
  | some key =>
    match key.seal seeds packed with
    | .ok body => .ok (body, tag)
    | .error problem => .error (.permanent problem.message)

/-- Whether a text can be sent in a header. -/
def isSendable (value : String) : Bool :=
  value.toList.all fun character =>
    character = '\t' || (32 ≤ character.toNat && character.toNat ≠ 127)

/-- The headers around a batch. -/
def headers (transport : WebTransport) (tag : Option String) : List (String × String) :=
  [("Content-Type", "application/json"), (headerNames.bodyCoding, Request.gzipCoding)] ++
    (transport.realIp.map fun ip => (headerNames.realIp, ip)).toList ++
    (tag.map fun tag => (headerNames.bodyTag, tag)).toList

/-- The path of the request for batches. -/
def target (transport : WebTransport) : String :=
  String.ofList (ServerAddress.parts transport.address).2.2 ++ route

/-- The request for a batch. -/
def request [Gzip.Deflater] (transport : WebTransport) (seeds : Nat → Oaep.Seed)
    (batch : List Metric) : Except TransportError Request := do
  let (body, tag) ← transport.encode seeds batch
  if ServerAddress.isWebAddress transport.address ∧ transport.realIp.all isSendable then
    return ⟨"POST", transport.target, transport.headers tag, body⟩
  else throw (.permanent "builder error")

/-- How the sender takes an answer. -/
def judge (status : Nat) (text : String) : Acknowledgement :=
  let reason := "HTTP " ++ Status.text status ++ ": " ++ Text.trim text
  if Status.isSuccess status then .ok ()
  else if Status.isTransient status then .error (.transient reason)
  else .error (.permanent reason)

/-- The text of an answer. -/
def textOf (response : Response) : String := (Bytes.toText? response.body).getD ""

/-- Hands a batch to a server, with nothing lost on the way. -/
def deliver [Gzip.Deflater] [Repository Store] (transport : WebTransport) (gateway : Gateway)
    (number : UInt64) (seeds : Nat → Oaep.Seed) (batch : List Metric) :
    StateM Store Acknowledgement :=
  match transport.request seeds batch with
  | .error problem => pure (.error problem)
  | .ok request => do
    let response ← gateway.serve number request
    return judge response.status (textOf response)

end WebTransport

end Metering
