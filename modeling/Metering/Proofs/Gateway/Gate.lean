/-
Nothing gets into the store past the stages. A request over the web that has changed what is kept
was posted to a route for updates, has passed every stage that the server has, and is told of its
success; what it has changed is what the body that came through asks for, or the path. Whoever is
told anything else has changed nothing, and nor has one whose remote call is denied or answered
with a text.
-/

import Metering.Proofs.Gateway.Endpoints
import Metering.Proofs.Gateway.Intake
import Metering.Proofs.Gzip.Member
import Metering.Transport.Status

namespace Metering

/-- Whether requests to a route can change what is kept. -/
def Route.isUpdate : Route → Bool
  | .updateOne | .updateBatch | .updatePath .. => true
  | .listing | .ping | .query | .valuePath .. => false

theorem Endpoint.Asks.isUpdate {body : Bytes} {route : Route} {updates : List Update}
    (asks : Endpoint.Asks body route updates) : route.isUpdate = true := by
  cases asks <;> rfl

namespace Gateway

/-! ### Requests that pass -/

/-- How the body of a request is opened: what is left of it when it is decrypted, and what is
left when it is expanded. -/
structure Opens (gateway : Gateway) (request : Request) (packed body : Bytes) : Prop where
  decrypted : ∀ key, gateway.privateKey = some key → request.body ≠ [] →
    key.unseal request.body = .ok packed
  asSent : gateway.privateKey = none ∨ request.body = [] → packed = request.body
  vouched : ∀ key tag, gateway.signingKey = some key →
    request.header? headerNames.bodyTag = some tag → tag ≠ "" → key.verify packed tag = .ok ()
  expanded : request.listsGzip headerNames.bodyCoding = true → Gzip.BeginsWith body packed
  plain : request.listsGzip headerNames.bodyCoding = false → body = packed

/-- How a request passes all stages. -/
structure Passes (gateway : Gateway) (request : Request) (packed body : Bytes) : Prop
    extends Opens gateway request packed body where
  accepted : ∀ subnet, gateway.subnet = some subnet →
    ∃ ip, subnet.accept (request.header? headerNames.realIp) = .ok ip

/-- The body behind the stage that decrypts. -/
theorem of_decrypted {setting : Option Rsa.PrivateKey} {request handed : Request}
    (done : optionally Stage.decrypt setting request = .ok handed) :
    ∃ packed, handed = { request with body := packed } ∧
      (∀ key, setting = some key → request.body ≠ [] → key.unseal request.body = .ok packed) ∧
      (setting = none ∨ request.body = [] → packed = request.body) := by
  cases setting with
  | none =>
    obtain rfl := Except.ok.inj done
    exact ⟨request.body, rfl, nofun, fun _ => rfl⟩
  | some key =>
    obtain ⟨packed, isHanded, opened⟩ := Stage.of_decrypt_ok done
    refine ⟨packed, isHanded, fun other isKey some => ?_, fun asSent => ?_⟩
    · rw [if_neg (mt List.isEmpty_iff.mp some)] at opened
      rwa [← Option.some.inj isKey]
    · rcases asSent with none | empty
      · cases none
      · rwa [empty] at opened ⊢

theorem opens_of_opened {gateway : Gateway} {request handed : Request}
    (done : gateway.opened request = .ok handed) :
    ∃ packed body, handed = { request with body } ∧ gateway.Opens request packed body := by
  obtain ⟨first, isFirst, behindFirst⟩ := Service.ok_of_bind done
  obtain ⟨second, isSecond, behindSecond⟩ := Service.ok_of_bind behindFirst
  obtain ⟨packed, rfl, decrypted, asSent⟩ := of_decrypted isFirst
  have isExpanded := Service.ok_of_mapError behindSecond
  have checked : second = { request with body := packed } ∧
      ∀ key tag, gateway.signingKey = some key → Stage.givenTag? request = some tag →
        key.verify packed tag = .ok () := by
    cases isKey : gateway.signingKey with
    | none =>
      rw [isKey] at isSecond
      exact ⟨(Except.ok.inj isSecond).symm, nofun⟩
    | some key =>
      rw [isKey] at isSecond
      obtain ⟨same, vouches⟩ := Stage.of_check_ok isSecond
      exact ⟨same, fun other tag isOther => Option.some.inj isOther ▸ vouches tag⟩
  obtain ⟨rfl, vouches⟩ := checked
  obtain ⟨body, rfl, expanded⟩ := Stage.of_expand_ok isExpanded
  change if request.listsGzip headerNames.bodyCoding then Gzip.decompress packed = .ok body
    else body = packed at expanded
  refine ⟨packed, body, rfl, decrypted, asSent, fun key tag isKey given some => ?_,
    fun lists => ?_, fun plain => ?_⟩
  · refine vouches key tag isKey ?_
    rw [Stage.givenTag?, given]
    have notEmpty : (!tag.isEmpty) = true := by
      rw [Bool.not_eq_true', Bool.eq_false_iff, ne_eq, String.isEmpty_iff]
      exact some
    exact if_pos notEmpty
  · rw [if_pos lists] at expanded
    exact Gzip.decompress_ok_iff.mp expanded
  · rwa [if_neg (Bool.eq_false_iff.mp plain)] at expanded

/-! ### What has become of a request -/

/-- A change of what is kept that a request has made, told with a status. -/
structure Changes (gateway : Gateway) (request : Request) (store after : Storage)
    (status : Nat) : Prop where
  posted : request.method = "POST"
  success : Status.isSuccess status = true
  asked : ∃ route packed body updates, Route.ofPath? request.path = some route ∧
    route.isUpdate = true ∧ gateway.Passes request packed body ∧
    Endpoint.Asks body route updates ∧
    Holdings.Takes updates store.stored store.kept after.kept

theorem post_of_takes {route : Route} {method : String} (isUpdate : route.isUpdate = true)
    (takes : route.takes method = true) : method = "POST" := by
  cases route with
  | updateOne | updateBatch | updatePath _ _ _ => exact beq_iff_eq.mp takes
  | listing | ping | query | valuePath _ _ => cases isUpdate

theorem compressing_snd [Gzip.Deflater] (next : Handler Storage) (request : Request)
    (store : Storage) :
    (Stage.compressing next request store).2 = (next request store).2 := rfl

/-- Behind the stages nothing is done, or what an update route asks for. -/
theorem done_routed [Gzip.Deflater] (request : Request) {store : Storage}
    (apart : store.KindsApart) :
    ((routed request : StateM Storage Response) store).2.kept = store.kept ∨
      ∃ route, Route.ofPath? request.path = some route ∧ route.takes request.method = true ∧
        Endpoint.Done request.body route store (routed request store) := by
  cases isRoute : Route.ofPath? request.path with
  | none =>
    left
    rw [routed, isRoute]
    rfl
  | some route =>
    cases takes : route.takes request.method with
    | false =>
      left
      simp only [routed, isRoute, takes, Bool.false_eq_true, if_false, Stage.compressing]
      cases route.isCompressed <;> rfl
    | true =>
      have done := Endpoint.done_answer route request apart
      cases plain : route.isCompressed with
      | false =>
        right
        rw [routed_of_takes isRoute plain takes]
        exact ⟨route, rfl, takes, done⟩
      | true =>
        left
        rcases done with same | ⟨_, _, updates, asks, _⟩
        · simp only [routed, isRoute, plain, if_true, compressing_snd, takes]
          exact same
        · cases asks <;> cases plain

theorem status_told {gateway : Gateway} {response : Response}
    (short : response.body.length ≤ stageLimit) :
    (gateway.told response).status = response.status := by
  rw [told]
  split
  · rfl
  · rw [Stage.signed, if_neg (Nat.not_lt.mpr short)]

/-- Whom the subnet does not take in has changed nothing. -/
theorem accepted_of_changed [Gzip.Deflater] {gateway : Gateway} {request : Request}
    {store : Storage} (changed : (gateway.staged request store).2.kept ≠ store.kept) :
    ∀ subnet, gateway.subnet = some subnet →
      ∃ ip, subnet.accept (request.header? headerNames.realIp) = .ok ip := by
  refine (accepted_or_denied gateway (request.header? headerNames.realIp)).resolve_right ?_
  rintro ⟨subnet, problem, isSubnet, denied⟩
  rw [staged_of_denied isSubnet denied] at changed
  exact changed rfl

/-- What is kept is changed only by requests that pass all stages. -/
theorem changes_of_staged [Gzip.Deflater] {gateway : Gateway} {request : Request} {store : Storage}
    (apart : store.KindsApart)
    (changed : (gateway.staged request store).2.kept ≠ store.kept) :
    gateway.Changes request store (gateway.staged request store).2
      (gateway.staged request store).1.status := by
  have accepted := accepted_of_changed changed
  cases done : gateway.opened request with
  | error response =>
    rw [staged_of_stopped accepted done] at changed
    exact absurd rfl changed
  | ok handed =>
    obtain ⟨packed, body, rfl, opens⟩ := opens_of_opened done
    have behind := done_routed { request with body } apart
    rw [staged_of_opened accepted done] at changed ⊢
    generalize (routed { request with body } : StateM Storage Response) store = result
      at behind changed ⊢
    rcases behind with same | ⟨route, isRoute, takes, same | ⟨success, short, updates, asks, taken⟩⟩
    · exact absurd same changed
    · exact absurd same changed
    · refine ⟨post_of_takes asks.isUpdate takes, ?_,
        route, packed, body, updates, isRoute, asks.isUpdate, ⟨opens, accepted⟩, asks, taken⟩
      show Status.isSuccess (gateway.told result.1).status = true
      rw [status_told short, success]
      rfl

theorem status_withoutBody (request : Request) (response : Response) :
    (withoutBody request response).status = response.status := by
  rw [withoutBody]
  split <;> rfl

/-- The response that is served has the status that the stages gave it. -/
theorem of_serve [Gzip.Deflater] {gateway : Gateway} {number : UInt64} {request : Request}
    {store after : Storage} {response : Response}
    (served : gateway.serve number request store = (response, after)) :
    response.status = (gateway.staged request store).1.status ∧
      after = (gateway.staged request store).2 := by
  generalize isTold : gateway.staged request store = told
  have isServed : gateway.serve number request store = (withoutBody request
      { told.1 with trace := some (Hex.encode (Bytes.bigEndian 8 number.toNat)) }, told.2) := by
    rw [← isTold]
    rfl
  obtain ⟨isResponse, isAfter⟩ := Prod.mk.inj (isServed.symm.trans served)
  rw [← isResponse, status_withoutBody]
  exact ⟨rfl, isAfter.symm⟩

/-! ### Remote calls -/

/-- What has become of a remote call. -/
inductive Called (gateway : Gateway) (realIp : Option String) (batch : List Metric.Message)
    (store : Storage) : Except AdmissionError String → Storage → Prop
  | denied {problem : AdmissionError} (refused : gateway.admission realIp = .error problem) :
    Called gateway realIp batch store (.error problem) store
  | failed {problem : ServiceError} {after : Storage}
    (accepted : gateway.admission realIp = .ok ()) (some : problem.message ≠ "")
    (same : after.kept = store.kept) :
    Called gateway realIp batch store (.ok problem.message) after
  | applied {updates : List Update} {after : Storage}
    (accepted : gateway.admission realIp = .ok ())
    (asked : (batch.map Metric.Message.toMetric).mapM Metric.toUpdate = .ok updates)
    (taken : Holdings.Takes updates store.stored store.kept after.kept) :
    Called gateway realIp batch store (.ok "") after

theorem called_of_call {gateway : Gateway} {realIp : Option String}
    {batch : List Metric.Message} {store : Storage} (apart : store.KindsApart) :
    Called gateway realIp batch store (gateway.call realIp batch store).1
      (gateway.call realIp batch store).2 := by
  rw [call]
  cases isAdmission : gateway.admission realIp with
  | error problem => exact .denied isAdmission
  | ok _ =>
    dsimp only
    split
    · next after done =>
      obtain ⟨updates, accepted, taken⟩ := Service.requiring_bind_ok done
      exact .applied isAdmission (Service.ok_of_mapError accepted) (Service.updateMany_ok taken)
    · next problem after failed =>
      exact .failed isAdmission problem.message_ne_empty
        (Storage.kept_of_unchanged (Service.updateMetrics_error apart failed))

/-! ### The gate -/

/-- What is kept is changed only by requests that pass all stages and are told of their success,
and by remote calls that are answered with no text. -/
theorem kept_unless_passed [Gzip.Deflater] (gateway : Gateway) {store : Storage}
    (apart : store.KindsApart) :
    (∀ number request response after, gateway.serve number request store = (response, after) →
      (after.kept ≠ store.kept → gateway.Changes request store after response.status) ∧
      (Status.isSuccess response.status = false → after.kept = store.kept) ∧
      ((∀ route, Route.ofPath? request.path = some route → route.isUpdate = false) →
        after.kept = store.kept)) ∧
    ∀ realIp batch, Called gateway realIp batch store (gateway.call realIp batch store).1
      (gateway.call realIp batch store).2 := by
  refine ⟨fun number request response after served => ?_, fun _ _ => called_of_call apart⟩
  obtain ⟨isStatus, rfl⟩ := of_serve served
  have changes (changed : (gateway.staged request store).2.kept ≠ store.kept) :
      gateway.Changes request store (gateway.staged request store).2 response.status := by
    rw [isStatus]
    exact changes_of_staged apart changed
  refine ⟨changes, fun failed => ?_, fun reads => ?_⟩
  · by_contra changed
    have success := (changes changed).success
    rw [failed] at success
    cases success
  · by_contra changed
    obtain ⟨route, _, _, _, isRoute, isUpdate, _⟩ := (changes changed).asked
    rw [reads route isRoute] at isUpdate
    cases isUpdate

theorem kept_unless_passed_posted_counter :
    ∃ response after,
      Gateway.serve ⟨some ⟨.v4 #v[10, 0, 0, 0], 8⟩, some (SigningKey.ofText "secret"), none⟩ 7
        ⟨"POST", "/update/counter/hits/3", [("X-Real-IP", "10.1.2.3")], []⟩
        (Storage.memory MemoryStore.ephemeral) = (response, after) ∧
      Gateway.Changes ⟨some ⟨.v4 #v[10, 0, 0, 0], 8⟩, some (SigningKey.ofText "secret"), none⟩
        ⟨"POST", "/update/counter/hits/3", [("X-Real-IP", "10.1.2.3")], []⟩
        (Storage.memory MemoryStore.ephemeral) after response.status := by
  have counted : ((Gateway.serve
      ⟨some ⟨.v4 #v[10, 0, 0, 0], 8⟩, some (SigningKey.ofText "secret"), none⟩ 7
      ⟨"POST", "/update/counter/hits/3", [("X-Real-IP", "10.1.2.3")], []⟩
      (Storage.memory MemoryStore.ephemeral)).2.kept.counter? "hits").isSome = true := by
    decide +kernel
  have apart : (Storage.memory MemoryStore.ephemeral).KindsApart := fun _ => Or.inl rfl
  have empty : ((Storage.memory MemoryStore.ephemeral).kept.counter? "hits").isSome = false := rfl
  have gate := (kept_unless_passed
    ⟨some ⟨.v4 #v[10, 0, 0, 0], 8⟩, some (SigningKey.ofText "secret"), none⟩ apart).1 7
    ⟨"POST", "/update/counter/hits/3", [("X-Real-IP", "10.1.2.3")], []⟩
  generalize Gateway.mk (some ⟨.v4 #v[10, 0, 0, 0], 8⟩) (some (SigningKey.ofText "secret")) none
    = gateway at counted gate ⊢
  generalize Request.mk "POST" "/update/counter/hits/3" [("X-Real-IP", "10.1.2.3")] [] = request
    at counted gate ⊢
  generalize Storage.memory MemoryStore.ephemeral = store at counted gate empty ⊢
  refine ⟨_, _, Prod.mk.eta.symm, (gate _ _ Prod.mk.eta.symm).1 fun same => ?_⟩
  rw [same, empty] at counted
  cases counted

end Gateway

end Metering
