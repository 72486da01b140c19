/-
What the stages do to a request does not depend on what stands behind them. Each stage comes to
a step that hands the request on, with another body perhaps, or answers it; the steps follow one
another in the order of the stages, and of the answers those are signed that were given behind
the check of the tag.
-/

import Metering.Gateway.Basic

namespace Metering

variable {Store : Type}

namespace Stage

/-! ### Stages as steps -/

/-- The handler behind a step. -/
def behind (step : Request → Except Response Request) (next : Handler Store) : Handler Store :=
  fun request =>
    match step request with
    | .ok handed => next handed
    | .error response => pure response

/-- The responses of a handler with their tags. -/
def signing (key : SigningKey) (next : Handler Store) : Handler Store :=
  fun request => do return signed key (← next request)

/-- Takes up a body that is not too long. -/
def take (request : Request) : Except Response Request :=
  if stageLimit < request.body.length then
    .error (refusal "cannot read request body: length limit exceeded")
  else .ok request

/-- Decrypts a body that is not empty. -/
def decrypt (key : Rsa.PrivateKey) (request : Request) : Except Response Request := do
  let taken ← take request
  if taken.body.isEmpty then .ok taken
  else
    match key.unseal taken.body with
    | .ok body => .ok { taken with body }
    | .error problem => .error (refusal ("cannot decrypt body: " ++ problem.message))

/-- Checks the tag that comes with a request. -/
def check (key : SigningKey) (request : Request) : Except Response Request :=
  match givenTag? request with
  | none => .ok request
  | some tag => do
    let taken ← take request
    match key.verify taken.body tag with
    | .ok () => .ok taken
    | .error problem => .error (refusal ("body hash: " ++ problem.message))

/-- Expands a compressed body. -/
def expand (request : Request) : Except Response Request :=
  if request.listsGzip headerNames.bodyCoding then do
    let taken ← take request
    match Gzip.decompress taken.body with
    | .ok body => .ok { taken with body }
    | .error fault => .error (refusal ("cannot gunzip body: " ++ fault.message))
  else .ok request

variable (next : Handler Store)

theorem buffered_eq : buffered next = behind take next := by
  funext request
  rw [buffered, behind, take]
  split <;> rfl

theorem decrypted_eq (key : Rsa.PrivateKey) :
    decrypted key next = behind (decrypt key) next := by
  funext request
  rw [decrypted, buffered_eq, behind, behind, decrypt]
  cases take request with
  | error response => rfl
  | ok taken =>
    dsimp only [bind, Except.bind]
    split
    · rfl
    · cases key.unseal taken.body <;> rfl

theorem vouched_eq (key : SigningKey) :
    vouched key next = behind (check key) (signing key next) := by
  funext request
  rw [vouched, behind, check]
  cases givenTag? request with
  | none => rfl
  | some tag =>
    dsimp only
    rw [buffered_eq, behind]
    cases take request with
    | error response => rfl
    | ok taken =>
      dsimp only [bind, Except.bind]
      cases key.verify taken.body tag <;> rfl

theorem expanded_eq : expanded next = behind expand next := by
  funext request
  rw [expanded, behind, expand]
  split
  · rw [buffered_eq, behind]
    cases take request with
    | error response => rfl
    | ok taken =>
      dsimp only [bind, Except.bind]
      cases Gzip.decompress taken.body <;> rfl
  · rfl

/-! ### Requests that are handed on -/

theorem take_ok {request : Request} (short : request.body.length ≤ stageLimit) :
    take request = .ok request := if_neg (Nat.not_lt.mpr short)

theorem decrypt_ok {key : Rsa.PrivateKey} {request : Request} {body : Bytes}
    (short : request.body.length ≤ stageLimit) (some : request.body.isEmpty = false)
    (opened : key.unseal request.body = .ok body) :
    decrypt key request = .ok { request with body } := by
  rw [decrypt, take_ok short]
  dsimp only [bind, Except.bind]
  rw [if_neg (Bool.eq_false_iff.mp some), opened]

theorem check_untagged {key : SigningKey} {request : Request}
    (untagged : givenTag? request = none) : check key request = .ok request := by
  rw [check, untagged]

theorem check_ok {key : SigningKey} {request : Request} {tag : String}
    (given : givenTag? request = some tag) (short : request.body.length ≤ stageLimit)
    (vouches : key.verify request.body tag = .ok ()) : check key request = .ok request := by
  rw [check, given]
  dsimp only
  rw [take_ok short]
  dsimp only [bind, Except.bind]
  rw [vouches]

theorem expand_ok {request : Request} {body : Bytes}
    (compressed : request.listsGzip headerNames.bodyCoding = true)
    (short : request.body.length ≤ stageLimit) (opened : Gzip.decompress request.body = .ok body) :
    expand request = .ok { request with body } := by
  rw [expand, if_pos compressed, take_ok short]
  dsimp only [bind, Except.bind]
  rw [opened]

/-! ### What was handed on -/

theorem of_take_bind {step : Request → Except Response Request} {request handed : Request}
    (done : (take request >>= step) = .ok handed) : step request = .ok handed := by
  rw [take] at done
  split at done
  · cases done
  · exact done

theorem of_decrypt_ok {key : Rsa.PrivateKey} {request handed : Request}
    (done : decrypt key request = .ok handed) :
    ∃ body, handed = { request with body } ∧
      if request.body.isEmpty then body = request.body
      else key.unseal request.body = .ok body := by
  have taken := of_take_bind done
  split at taken
  · next empty => exact ⟨request.body, (Except.ok.inj taken).symm, if_pos empty ▸ rfl⟩
  · next some =>
    split at taken
    · next body opened => exact ⟨body, (Except.ok.inj taken).symm, by rwa [if_neg some]⟩
    · cases taken

theorem of_check_ok {key : SigningKey} {request handed : Request}
    (done : check key request = .ok handed) :
    handed = request ∧
      ∀ tag, givenTag? request = some tag → key.verify request.body tag = .ok () := by
  unfold check at done
  split at done
  · next untagged =>
    refine ⟨(Except.ok.inj done).symm, fun tag given => ?_⟩
    rw [untagged] at given
    cases given
  · next tag given =>
    have taken := of_take_bind done
    split at taken
    · next vouches =>
      refine ⟨(Except.ok.inj taken).symm, fun other isOther => ?_⟩
      rw [given] at isOther
      rwa [← Option.some.inj isOther]
    · cases taken

theorem of_expand_ok {request handed : Request} (done : expand request = .ok handed) :
    ∃ body, handed = { request with body } ∧
      if request.listsGzip headerNames.bodyCoding then Gzip.decompress request.body = .ok body
      else body = request.body := by
  unfold expand at done
  split at done
  · next lists =>
    have taken := of_take_bind done
    split at taken
    · next body opened => exact ⟨body, (Except.ok.inj taken).symm, by rwa [if_pos lists]⟩
    · cases taken
  · next plain => exact ⟨request.body, (Except.ok.inj done).symm, by rw [if_neg plain]⟩

end Stage

namespace Gateway

/-! ### All stages behind the admission -/

/-- The stages that open a request, around a handler. -/
def opening (gateway : Gateway) (next : Handler Store) : Handler Store :=
  Stage.optionally Stage.decrypted gateway.privateKey
    (Stage.optionally Stage.vouched gateway.signingKey (Stage.expanded next))

/-- The response as it is told to the sender. -/
def told (gateway : Gateway) (response : Response) : Response :=
  match gateway.signingKey with
  | none => response
  | some key => Stage.signed key response

/-- The responses of a handler as they are told to the sender. -/
def telling (gateway : Gateway) (next : Handler Store) : Handler Store :=
  fun request => do return gateway.told (← next request)

/-- The step of a stage that is there only with its setting. -/
def optionally {Setting : Type} (step : Setting → Request → Except Response Request) :
    Option Setting → Request → Except Response Request
  | none, request => .ok request
  | some setting, request => step setting request

/-- What is handed on of a request, or the answer of the stage that stops it. -/
def opened (gateway : Gateway) (request : Request) : Except Response Request := do
  let decrypted ← optionally Stage.decrypt gateway.privateKey request
  let checked ← optionally Stage.check gateway.signingKey decrypted
  (Stage.expand checked).mapError gateway.told

theorem telling_behind (gateway : Gateway) (step : Request → Except Response Request)
    (next : Handler Store) :
    gateway.telling (Stage.behind step next) =
      Stage.behind (fun request => (step request).mapError gateway.told)
        (gateway.telling next) := by
  funext request
  rw [telling, Stage.behind, Stage.behind]
  cases step request <;> rfl

theorem behind_behind (first second : Request → Except Response Request)
    (next : Handler Store) :
    Stage.behind first (Stage.behind second next) =
      Stage.behind (fun request => first request >>= second) next := by
  funext request
  rw [Stage.behind, Stage.behind]
  cases first request <;> rfl

theorem optionally_decrypted (setting : Option Rsa.PrivateKey) (next : Handler Store) :
    Stage.optionally Stage.decrypted setting next =
      Stage.behind (optionally Stage.decrypt setting) next := by
  cases setting with
  | none => rfl
  | some key => exact Stage.decrypted_eq next key

theorem optionally_vouched (gateway : Gateway) (next : Handler Store) :
    Stage.optionally Stage.vouched gateway.signingKey next =
      Stage.behind (optionally Stage.check gateway.signingKey) (gateway.telling next) := by
  have tells : gateway.telling next = match gateway.signingKey with
      | none => next
      | some key => Stage.signing key next := by
    funext request
    rw [telling]
    simp only [told]
    cases gateway.signingKey <;> rfl
  rw [tells]
  cases gateway.signingKey with
  | none => rfl
  | some key => exact Stage.vouched_eq next key

/-- The stages come to one step, and to the tag of the response. -/
theorem opening_eq (gateway : Gateway) (next : Handler Store) :
    gateway.opening next = Stage.behind gateway.opened (gateway.telling next) := by
  rw [opening, Stage.expanded_eq, optionally_vouched, telling_behind, behind_behind,
    optionally_decrypted, behind_behind]
  rfl

variable [Repository Store]

theorem staged_eq [Gzip.Deflater] (gateway : Gateway) :
    (gateway.staged : Handler Store) =
      Stage.optionally Stage.admitted gateway.subnet (gateway.opening routed) := rfl

/-- Whom the subnet takes in passes the admission. -/
theorem staged_of_accepted [Gzip.Deflater] {gateway : Gateway} {request : Request}
    (accepted : ∀ subnet, gateway.subnet = some subnet →
      ∃ ip, subnet.accept (request.header? headerNames.realIp) = .ok ip) :
    (gateway.staged request : StateM Store Response) = gateway.opening routed request := by
  rw [staged_eq]
  cases isSubnet : gateway.subnet with
  | none => rfl
  | some subnet =>
    obtain ⟨ip, isAccepted⟩ := accepted subnet isSubnet
    rw [Stage.optionally, Stage.admitted, isAccepted]

/-- A server lets in who reports an address, or its subnet says why it does not. -/
theorem accepted_or_denied (gateway : Gateway) (reported : Option String) :
    (∀ subnet, gateway.subnet = some subnet → ∃ ip, subnet.accept reported = .ok ip) ∨
    ∃ subnet problem, gateway.subnet = some subnet ∧ subnet.accept reported = .error problem := by
  cases isSubnet : gateway.subnet with
  | none => exact Or.inl nofun
  | some subnet =>
    cases answer : subnet.accept reported with
    | ok ip => exact Or.inl fun other same => Option.some.inj same ▸ ⟨ip, answer⟩
    | error problem => exact Or.inr ⟨subnet, problem, rfl, answer⟩

/-- Whom the subnet does not take in is told why. -/
theorem staged_of_denied [Gzip.Deflater] {gateway : Gateway} {request : Request} {subnet : Subnet}
    {problem : AdmissionError} (isSubnet : gateway.subnet = some subnet)
    (denied : subnet.accept (request.header? headerNames.realIp) = .error problem)
    (store : Store) :
    gateway.staged request store = (Stage.refusal problem.message, store) := by
  rw [staged_eq, isSubnet, Stage.optionally, Stage.admitted, denied]
  rfl

theorem staged_of_stopped [Gzip.Deflater] {gateway : Gateway} {request : Request}
    (accepted : ∀ subnet, gateway.subnet = some subnet →
      ∃ ip, subnet.accept (request.header? headerNames.realIp) = .ok ip)
    {response : Response} (stopped : gateway.opened request = .error response) (store : Store) :
    gateway.staged request store = (response, store) := by
  rw [staged_of_accepted accepted, opening_eq, Stage.behind, stopped]
  rfl

/-- What passes all stages is answered at its route. -/
theorem staged_of_opened [Gzip.Deflater] {gateway : Gateway} {request handed : Request}
    (accepted : ∀ subnet, gateway.subnet = some subnet →
      ∃ ip, subnet.accept (request.header? headerNames.realIp) = .ok ip)
    (opened : gateway.opened request = .ok handed) (store : Store) :
    gateway.staged request store =
      (gateway.told (routed handed store).1, (routed handed store).2) := by
  rw [staged_of_accepted accepted, opening_eq, Stage.behind, opened]
  rfl

/-- A request that a route takes is answered there, at a route that is no read route without
compression. -/
theorem routed_of_takes [Gzip.Deflater] {request : Request} {route : Route}
    (isRoute : Route.ofPath? request.path = some route) (plain : route.isCompressed = false)
    (takes : route.takes request.method = true) :
    (routed request : StateM Store Response) = Endpoint.answer route request := by
  simp only [routed, isRoute, plain, takes, Bool.false_eq_true, if_false, if_true]

end Gateway

end Metering
