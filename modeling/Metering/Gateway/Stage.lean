/-
The stages that requests and responses pass between the network and the endpoints: admission of
the source, decryption of the body, the check of the body's tag and the tag of the response,
and compression either way. A stage stands around a handler; one that refuses a request answers
it itself.
-/

import Metering.Address.Subnet
import Metering.Cipher.Envelope
import Metering.Digest.Tag
import Metering.Gateway.Endpoint
import Metering.Gzip.Member

namespace Metering

/-- The longest body that a stage takes up. -/
def stageLimit : Nat := 16 * 1024 * 1024

/-- The headers that agents and servers tell each other things in. -/
structure HeaderNames where
  realIp : String
  bodyTag : String
  bodyCoding : String
  wantedCoding : String

/-- The names of the headers. -/
def headerNames : HeaderNames := ⟨"X-Real-IP", "HashSHA256", "Content-Encoding", "Accept-Encoding"⟩

namespace Stage

variable {Store : Type}

/-- The answer of a stage that refuses a request. -/
def refusal (reason : String) : Response := .plain 400 reason

/-- Hands a request on if its body is not too long to take up. -/
def buffered (next : Handler Store) : Handler Store := fun request =>
  if stageLimit < request.body.length then
    pure (refusal "cannot read request body: length limit exceeded")
  else next request

/-- Hands on requests from a subnet. -/
def admitted (subnet : Subnet) (next : Handler Store) : Handler Store := fun request =>
  match subnet.accept (request.header? headerNames.realIp) with
  | .ok _ => next request
  | .error problem => pure (refusal problem.message)

/-- Hands on requests with their bodies decrypted; there is nothing to do for an empty one. -/
def decrypted (key : Rsa.PrivateKey) (next : Handler Store) : Handler Store :=
  buffered fun request =>
    if request.body.isEmpty then next request
    else
      match key.unseal request.body with
      | .ok body => next { request with body }
      | .error problem => pure (refusal ("cannot decrypt body: " ++ problem.message))

/-- The tag that comes with a request. -/
def givenTag? (request : Request) : Option String :=
  (request.header? headerNames.bodyTag).filter fun tag => !tag.isEmpty

/-- The response with the tag of its body. -/
def signed (key : SigningKey) (response : Response) : Response :=
  if stageLimit < response.body.length then .bare 500
  else { response with tag := some (key.tag response.body) }

/-- Hands on requests with the right tag or without one, and signs the responses. -/
def vouched (key : SigningKey) (next : Handler Store) : Handler Store := fun request =>
  let signing : Handler Store := fun request => do return signed key (← next request)
  match givenTag? request with
  | none => signing request
  | some tag =>
    buffered
      (fun request =>
        match key.verify request.body tag with
        | .ok () => signing request
        | .error problem => pure (refusal ("body hash: " ++ problem.message)))
      request

/-- Hands on requests with compressed bodies expanded. -/
def expanded (next : Handler Store) : Handler Store := fun request =>
  if request.listsGzip headerNames.bodyCoding then
    buffered
      (fun request =>
        match Gzip.decompress request.body with
        | .ok body => next { request with body }
        | .error fault => pure (refusal ("cannot gunzip body: " ++ fault.message)))
      request
  else next request

/-- The response with its body compressed; an empty one stays as it is. -/
def compress [Gzip.Deflater] (response : Response) : Response :=
  if response.compressed then response
  else if stageLimit < response.body.length then .bare 500
  else if response.body.isEmpty then response
  else { response with compressed := true, body := Gzip.compress response.body }

/-- Compresses the responses to those who want it. -/
def compressing [Gzip.Deflater] (next : Handler Store) : Handler Store := fun request => do
  let response ← next request
  return if request.listsGzip headerNames.wantedCoding then compress response else response

/-- A stage that is there only with its setting. -/
def optionally {Setting : Type} (stage : Setting → Handler Store → Handler Store) :
    Option Setting → Handler Store → Handler Store
  | none, next => next
  | some setting, next => stage setting next

end Stage

end Metering
