/-
Batches as remote calls, in the binary message format, with the reported address beside them.
A call fails with a code, and a few codes are worth another attempt; a call that succeeds may
still say in its answer what the service has against the batch, which is final.
-/

import Metering.Address.Authority
import Metering.Gateway.Basic
import Metering.Transport.Error
import Metering.Transport.Web

namespace Metering

/-- The codes that remote calls end with. -/
inductive CallCode
  | ok
  | cancelled
  | unknown
  | invalidArgument
  | deadlineExceeded
  | notFound
  | alreadyExists
  | permissionDenied
  | resourceExhausted
  | failedPrecondition
  | aborted
  | outOfRange
  | unimplemented
  | internal
  | unavailable
  | dataLoss
  | unauthenticated
  deriving DecidableEq, Repr

namespace CallCode

/-- The name of a code. -/
def name : CallCode → String
  | .ok => "Ok"
  | .cancelled => "Cancelled"
  | .unknown => "Unknown"
  | .invalidArgument => "InvalidArgument"
  | .deadlineExceeded => "DeadlineExceeded"
  | .notFound => "NotFound"
  | .alreadyExists => "AlreadyExists"
  | .permissionDenied => "PermissionDenied"
  | .resourceExhausted => "ResourceExhausted"
  | .failedPrecondition => "FailedPrecondition"
  | .aborted => "Aborted"
  | .outOfRange => "OutOfRange"
  | .unimplemented => "Unimplemented"
  | .internal => "Internal"
  | .unavailable => "Unavailable"
  | .dataLoss => "DataLoss"
  | .unauthenticated => "Unauthenticated"

/-- Whether a code asks to come back later. -/
def isTransient (code : CallCode) : Bool :=
  code ∈ [.unavailable, .deadlineExceeded, .resourceExhausted, .aborted]

end CallCode

/-- How a remote call fails. -/
structure CallFailure where
  code : CallCode
  text : String
  deriving DecidableEq, Repr

/-- The failure of a call to a server that cannot be connected to. -/
def CallFailure.unreachable : CallFailure := ⟨.unavailable, "tcp connect error"⟩

/-- How an agent reaches a server by remote calls. -/
structure RemoteTransport where
  address : String
  realIp : Option String
  deriving DecidableEq, Repr

/-- Why there can be no remote calls. -/
inductive RemoteSetupError
  | badAddress
  | badRealIp
  deriving DecidableEq, Repr

namespace RemoteTransport

variable {Store : Type}

/-- The name of the transport. -/
def name : String := "grpc"

/-- The transport to an address that reports an address. -/
def make (address : String) (realIp : Option String) :
    Except RemoteSetupError RemoteTransport :=
  if !ServerAddress.isEndpoint address then .error .badAddress
  else if realIp.all WebTransport.isSendable then .ok ⟨address, realIp⟩
  else .error .badRealIp

/-- The messages of a batch. -/
def encode (batch : List Metric) : Except TransportError (List Metric.Message) :=
  (batch.mapM Metric.Message.ofMetric).mapError fun problem => .permanent problem.message

/-- How the sender takes what a call comes to: an answer with the text of a problem, or a
failure. -/
def judge : Except CallFailure String → Acknowledgement
  | .ok problem => if problem.isEmpty then .ok () else .error (.permanent problem)
  | .error failure =>
    let reason := failure.code.name ++ ": " ++ failure.text
    .error (if failure.code.isTransient then .transient reason else .permanent reason)

/-- Hands a batch to a server, with nothing lost on the way. -/
def deliver [Repository Store] (transport : RemoteTransport) (gateway : Gateway)
    (batch : List Metric) : StateM Store Acknowledgement :=
  match encode batch with
  | .error problem => pure (.error problem)
  | .ok messages => do
    match ← gateway.call transport.realIp messages with
    | .ok problem => return judge (.ok problem)
    | .error denied => return judge (.error ⟨.permissionDenied, denied.message⟩)

end RemoteTransport

end Metering
