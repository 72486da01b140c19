/-
It makes no difference to a server, nor to an agent, which way a report goes. JSON has no word
for a reading that is not finite, so such a reading is lost over the web while a remote call
carries it; but the service refuses the metric without a reading just as it refuses the reading,
before anything is done to the store. All other readings arrive both ways as they were, and both
ways the same address is admitted or denied.
-/

import Metering.Proofs.Agent.Report
import Metering.Proofs.Gateway.Delivery
import Metering.Proofs.Gateway.Gate
import Metering.Proofs.Metric.Wire
import Metering.Transport.Remote

namespace Metering

/-! ### Reports as JSON -/

namespace Metric

/-- A metric that reports a value is not accepted without its reading. -/
theorem hasFinite_of_toUpdate_asRead {key : String} {value : Value} {update : Update}
    (accepted : (ofValue key value).asRead.toUpdate = .ok update) :
    (ofValue key value).HasFinite := by
  cases value with
  | counter total => exact nofun
  | gauge reading =>
    intro given isGiven
    obtain rfl : reading = given := Option.some.inj isGiven
    by_contra notFinite
    have dropped : (ofValue key (.gauge reading)).asRead = ⟨key, Kind.gauge.name, none, none⟩ := by
      rw [asRead, ofValue, Option.filter_some, if_neg notFinite]
    rw [dropped, toUpdate, query] at accepted
    cases isValid : validateKey key with
    | error problem =>
      rw [isValid] at accepted
      cases accepted
    | ok _ =>
      rw [isValid] at accepted
      cases accepted

theorem hasFinite_of_mapM_asRead {observed : Changes} {updates : List Update}
    (accepted : (observed.batch.map asRead).mapM toUpdate = .ok updates) :
    ∀ metric ∈ observed.batch, metric.HasFinite := by
  intro metric member
  obtain ⟨update, isUpdate⟩ := mapM_ok_iff.mp ⟨updates, accepted⟩ metric.asRead
    (List.mem_map_of_mem member)
  rw [observed.batch_eq] at member
  obtain ⟨asked, _, rfl⟩ := List.mem_map.mp member
  exact hasFinite_of_toUpdate_asRead isUpdate

theorem hasFinite_of_updates {observed : Changes}
    (finite : ∀ key reading, ⟨key, .gauge reading⟩ ∈ observed.updates → reading.isFinite = true) :
    ∀ metric ∈ observed.batch, metric.HasFinite := by
  rw [observed.batch_eq]
  refine List.forall_mem_map.mpr fun ⟨key, value⟩ member reading isReading => ?_
  cases value with
  | counter total => cases isReading
  | gauge given => exact Option.some.inj isReading ▸ finite key given member

end Metric

/-- A report that is read back from JSON is treated like the report, or both are refused at
once. -/
theorem Service.updateMetrics_asRead (observed : Changes) (store : Storage) :
    updateMetrics (observed.batch.map Metric.asRead) store = updateMetrics observed.batch store ∨
      (∃ problem, updateMetrics (observed.batch.map Metric.asRead) store =
        (.error problem, store)) ∧
      ∃ problem, updateMetrics observed.batch store = (.error problem, store) := by
  -- A list is converted as a whole before the store is looked at.
  rcases updateMetrics_report observed store with refused | ⟨finite, _⟩
  · cases converted : (observed.batch.map Metric.asRead).mapM Metric.toUpdate with
    | error problem =>
      refine Or.inr ⟨⟨.metric problem, ?_⟩, refused⟩
      rw [updateMetrics, Call.bind_apply, converted]
      rfl
    | ok updates =>
      left
      rw [Metric.map_asRead (Metric.hasFinite_of_mapM_asRead converted)]
  · left
    rw [Metric.map_asRead (Metric.hasFinite_of_updates finite)]

/-! ### Reports as messages -/

namespace Metric.Message

theorem ofMetric_ofValue (key : String) (value : Value) :
    ∃ message, ofMetric (ofValue key value) = .ok message := by
  cases value <;> exact ⟨_, rfl⟩

/-- Every report can be made into messages, and they mean its metrics. -/
theorem mapM_ofMetric_batch (observed : Changes) :
    ∃ messages, observed.batch.mapM ofMetric = .ok messages ∧
      messages.map toMetric = observed.batch := by
  have each : ∀ metric ∈ observed.batch, ∃ message, ofMetric metric = .ok message := by
    rw [observed.batch_eq]
    exact List.forall_mem_map.mpr fun update _ => ofMetric_ofValue update.key update.value
  obtain ⟨messages, made⟩ := mapM_ok_iff.mpr each
  exact ⟨messages, made, map_toMetric made⟩

end Metric.Message

/-! ### What a sender hears -/

namespace Acknowledgement

/-- What a sender hears of the result of a call: that all of the batch was taken, or that it is
refused for good. -/
inductive Tells : Except ServiceError Unit → Acknowledgement → Prop
  | taken : Tells (.ok ()) (.ok ())
  | refused (problem : ServiceError) (reason : String) :
    Tells (.error problem) (.error (.permanent reason))

/-- Two answers of which a sender thinks the same. -/
inductive Alike : Acknowledgement → Acknowledgement → Prop
  | taken : Alike (.ok ()) (.ok ())
  | refused (first second : String) : Alike (.error (.permanent first)) (.error (.permanent second))

theorem Tells.alike {result : Except ServiceError Unit} {first second : Acknowledgement}
    (isFirst : Tells result first) (isSecond : Tells result second) : Alike first second := by
  cases isFirst with
  | taken =>
    cases isSecond
    exact .taken
  | refused problem reason =>
    cases isSecond
    exact .refused _ _

theorem Tells.alike_of_error {problem other : ServiceError} {first second : Acknowledgement}
    (isFirst : Tells (.error problem) first) (isSecond : Tells (.error other) second) :
    Alike first second := by
  cases isFirst
  cases isSecond
  exact .refused _ _

end Acknowledgement

open Acknowledgement (Alike Tells)

/-- A report that is read back from JSON leaves a store as the report does, and a sender thinks the
same of what it hears of the two. -/
theorem alike_of_asRead (observed : Changes) (store : Storage) :
    (Service.updateMetrics (observed.batch.map Metric.asRead) store).2 =
        (Service.updateMetrics observed.batch store).2 ∧
      ∀ {first second : Acknowledgement},
        Tells (Service.updateMetrics (observed.batch.map Metric.asRead) store).1 first →
        Tells (Service.updateMetrics observed.batch store).1 second → Alike first second := by
  rcases Service.updateMetrics_asRead observed store with same | ⟨⟨_, isLost⟩, _, isGiven⟩
  · rw [same]
    exact ⟨rfl, Tells.alike⟩
  · rw [isLost, isGiven]
    exact ⟨rfl, Tells.alike_of_error⟩

/-! ### Over the web -/

theorem Gateway.status_told_cases (gateway : Gateway) (response : Response) :
    (gateway.told response).status = response.status ∨ (gateway.told response).status = 500 := by
  rw [told]
  split
  · exact Or.inl rfl
  · rw [Stage.signed]
    split
    · exact Or.inr rfl
    · exact Or.inl rfl

namespace WebTransport

theorem judge_of_refused {status : Nat} (refused : status = 400 ∨ status = 404 ∨ status = 500)
    (text : String) : ∃ reason, judge status text = .error (.permanent reason) := by
  rcases refused with rfl | rfl | rfl <;> exact ⟨_, rfl⟩

/-- The result of a call at the route for batches, as the sender hears it. -/
theorem tells_told (gateway : Gateway) (call : Call Storage Unit) (store : Storage)
    (text : String) :
    Tells (call store).1 (judge (gateway.told
      (Endpoint.responding (fun _ => .bare 200) call store).1).status text) := by
  rw [Endpoint.responding]
  rcases call store with ⟨_ | ⟨⟩, after⟩
  · next problem =>
    have refused : (gateway.told (Endpoint.refused problem)).status = 400 ∨
        (gateway.told (Endpoint.refused problem)).status = 404 ∨
        (gateway.told (Endpoint.refused problem)).status = 500 := by
      rcases gateway.status_told_cases (Endpoint.refused problem) with same | failed
      · rw [same]
        exact problem.status_cases
      · exact Or.inr (Or.inr failed)
    obtain ⟨reason, isReason⟩ := judge_of_refused refused text
    dsimp only
    rw [isReason]
    exact .refused problem reason
  · dsimp only
    rw [Gateway.status_told (Nat.zero_le _)]
    exact .taken

/-- The header of the reported address is none of the others in other letters. -/
theorem realIp_differs :
    ("Content-Type".toLower == headerNames.realIp.toLower) = false ∧
    (headerNames.bodyCoding.toLower == headerNames.realIp.toLower) = false ∧
    (headerNames.bodyTag.toLower == headerNames.realIp.toLower) = false := by
  decide +kernel

/-- Over the web the reported address is what it is in a remote call. -/
theorem header?_realIp (transport : WebTransport) (tag : Option String) (target : String)
    (body : Bytes) :
    (transport.around tag target body).header? headerNames.realIp =
      transport.realIp.bind Request.readable? := by
  have values : (transport.around tag target body).headerValues headerNames.realIp =
      transport.realIp.toList := by
    rw [Request.headerValues, around, headers]
    cases transport.realIp <;> cases tag <;> simp [realIp_differs]
  rw [Request.header?, values]
  cases transport.realIp <;> rfl

/-- A sender takes the answer by the status that the stages give it. -/
theorem deliver_of_request [Gzip.Deflater] {web : WebTransport} {gateway : Gateway}
    {seeds : Nat → Oaep.Seed} {batch : List Metric} {request : Request}
    (isRequest : web.request seeds batch = .ok request) (number : UInt64) (store : Storage) :
    ∃ text, web.deliver gateway number seeds batch store =
      (judge (gateway.staged request store).1.status text, (gateway.staged request store).2) := by
  obtain ⟨isStatus, isAfter⟩ := Gateway.of_serve
    (Prod.mk.eta (p := gateway.serve number request store)).symm
  refine ⟨textOf (gateway.serve number request store).1, ?_⟩
  rw [deliver, isRequest, ← isStatus, ← isAfter]
  rfl

end WebTransport

/-! ### By remote calls -/

namespace Gateway

variable {gateway : Gateway} {realIp : Option String}

theorem admission_of_accepted
    (accepted : ∀ subnet, gateway.subnet = some subnet →
      ∃ ip, subnet.accept (realIp.bind Request.readable?) = .ok ip) :
    gateway.admission realIp = .ok () := by
  rw [admission]
  cases isSubnet : gateway.subnet with
  | none => rfl
  | some subnet =>
    obtain ⟨ip, isAccepted⟩ := accepted subnet isSubnet
    dsimp only
    rw [isAccepted]
    rfl

theorem admission_of_denied {subnet : Subnet} {problem : AdmissionError}
    (isSubnet : gateway.subnet = some subnet)
    (denied : subnet.accept (realIp.bind Request.readable?) = .error problem) :
    gateway.admission realIp = .error problem := by
  rw [admission, isSubnet]
  dsimp only
  rw [denied]
  rfl

end Gateway

namespace RemoteTransport

/-- The longest message that a remote call takes. -/
def callLimit : Nat := 4 * 1024 * 1024

theorem of_make {address : String} {realIp : Option String}
    {remote : RemoteTransport} (made : make address realIp = .ok remote) :
    remote.realIp = realIp ∧ realIp.all WebTransport.isSendable = true := by
  rw [make] at made
  split at made
  · cases made
  · split at made
    · next sendable => exact ⟨by rw [← Except.ok.inj made], sendable⟩
    · cases made

/-- What a sender hears of what a call comes to. -/
def heard : Except AdmissionError String → Acknowledgement
  | .ok problem => judge (.ok problem)
  | .error denied => judge (.error ⟨.permissionDenied, denied.message⟩)

theorem encode_of_mapM {batch : List Metric} {messages : List Metric.Message}
    (made : batch.mapM Metric.Message.ofMetric = .ok messages) : encode batch = .ok messages := by
  rw [encode, made]
  rfl

/-- The bytes of the messages of a report are read back as the messages. -/
theorem readBatchWire?_encode (observed : Changes)
    (short : ∀ bytes, Metric.encodeBatchWire observed.batch = .ok bytes →
      bytes.length ≤ callLimit) :
    ∃ messages bytes, encode observed.batch = .ok messages ∧
      Metric.encodeBatchWire observed.batch = .ok bytes ∧
      Metric.readBatchWire? bytes = some messages := by
  obtain ⟨messages, made, _⟩ := Metric.Message.mapM_ofMetric_batch observed
  have encoded : Metric.encodeBatchWire observed.batch =
      .ok (Wire.encode (messages.map Metric.batchField)) := by
    rw [Metric.encodeBatchWire, made]
    rfl
  have small : Bytes.IsSmall callLimit := by decide
  obtain ⟨others, same, isRead⟩ := Metric.readBatchWire?_encodeBatchWire encoded
    (small.of_le (short _ encoded))
  obtain rfl : messages = others := Except.ok.inj (made.symm.trans same)
  exact ⟨messages, _, encode_of_mapM made, encoded, isRead⟩

variable (remote : RemoteTransport) {gateway : Gateway} (observed : Changes) (store : Storage)

theorem deliver_of_mapM {batch : List Metric} {messages : List Metric.Message}
    (made : batch.mapM Metric.Message.ofMetric = .ok messages) :
    remote.deliver gateway batch store =
      (heard (gateway.call remote.realIp messages store).1,
        (gateway.call remote.realIp messages store).2) := by
  rw [deliver, encode_of_mapM made]
  dsimp only [bind, StateT.bind]
  rcases gateway.call remote.realIp messages store with ⟨_ | _, after⟩ <;> rfl

/-- What a report by remote call comes to, for an agent that is let in. -/
theorem deliver_of_admitted (admitted : gateway.admission remote.realIp = .ok ()) :
    Tells (Service.updateMetrics observed.batch store).1
        (remote.deliver gateway observed.batch store).1 ∧
      (remote.deliver gateway observed.batch store).2 =
        (Service.updateMetrics observed.batch store).2 := by
  obtain ⟨messages, made, means⟩ := Metric.Message.mapM_ofMetric_batch observed
  rw [remote.deliver_of_mapM store made, Gateway.call, admitted, means]
  dsimp only
  rcases Service.updateMetrics observed.batch store with ⟨_ | ⟨⟩, after⟩
  · next problem =>
    have some : problem.message.isEmpty = false := by
      rw [Bool.eq_false_iff, ne_eq, String.isEmpty_iff]
      exact problem.message_ne_empty
    refine ⟨?_, rfl⟩
    dsimp only
    rw [heard, judge, some]
    exact .refused problem problem.message
  · exact ⟨.taken, rfl⟩

/-- What a report by remote call comes to, for an agent that is not let in. -/
theorem deliver_of_refused {problem : AdmissionError}
    (refused : gateway.admission remote.realIp = .error problem) :
    ∃ reason, remote.deliver gateway observed.batch store =
      (.error (.permanent reason), store) := by
  obtain ⟨messages, made, _⟩ := Metric.Message.mapM_ofMetric_batch observed
  rw [remote.deliver_of_mapM store made, Gateway.call, refused]
  exact ⟨_, rfl⟩

end RemoteTransport

/-! ### Both ways -/

/-- An agent that reaches a server over the web, at its route for batches, and by remote calls,
and reports the same address of itself. -/
structure ReachesBoth (web : WebTransport) (remote : RemoteTransport) (gateway : Gateway) :
    Prop where
  fits : web.Fits gateway
  isWeb : ServerAddress.isWebAddress web.address = true
  route : Route.ofPath? (Request.path ⟨"POST", web.target, [], []⟩) = some .updateBatch
  made : ∃ address, RemoteTransport.make address web.realIp = .ok remote

/-- A batch that is not too long for the server: the document, the body it is sent in, and the
message. -/
structure WithinLimits [Gzip.Deflater] (web : WebTransport) (seeds : Nat → Oaep.Seed)
    (batch : List Metric) : Prop where
  document : (Metric.encodeBatchJson batch).length ≤ Endpoint.bodyLimit
  posted : ∀ body tag, web.encode seeds batch = .ok (body, tag) → body.length ≤ stageLimit
  called : ∀ bytes, Metric.encodeBatchWire batch = .ok bytes →
    bytes.length ≤ RemoteTransport.callLimit

namespace ReachesBoth

variable {web : WebTransport} {remote : RemoteTransport} {gateway : Gateway}
  (reaches : ReachesBoth web remote gateway)

include reaches

section

variable [Gzip.Deflater] [Gzip.LawfulDeflater]

/-- The request for a batch, and what the stages make of it. -/
theorem request_made {seeds : Nat → Oaep.Seed} {batch : List Metric}
    (limits : WithinLimits web seeds batch) :
    ∃ body, web.request seeds batch = .ok (web.around (web.tagOf batch) web.target body) ∧
      gateway.opened (web.around (web.tagOf batch) web.target body) =
        .ok (web.around (web.tagOf batch) web.target (Metric.encodeBatchJson batch)) := by
  obtain ⟨body, encoded, undone⟩ := WebTransport.opened_encode reaches.fits seeds batch
  obtain ⟨address, made⟩ := reaches.made
  have sendable := (RemoteTransport.of_make made).2
  refine ⟨body, ?_, undone (limits.posted body _ encoded) web.target⟩
  rw [WebTransport.request, encoded]
  dsimp only [bind, Except.bind]
  rw [if_pos ⟨reaches.isWeb, sendable⟩]
  rfl

/-- What a report over the web comes to, for an agent that is let in. -/
theorem deliver_of_accepted {seeds : Nat → Oaep.Seed} {batch : List Metric}
    (readsBack : ∀ metric ∈ batch, metric.ReadsBack)
    (limits : WithinLimits web seeds batch) (number : UInt64) (store : Storage)
    (accepted : ∀ subnet, gateway.subnet = some subnet →
      ∃ ip, subnet.accept (web.realIp.bind Request.readable?) = .ok ip) :
    Tells (Service.updateMetrics (batch.map Metric.asRead) store).1
        (web.deliver gateway number seeds batch store).1 ∧
      (web.deliver gateway number seeds batch store).2 =
        (Service.updateMetrics (batch.map Metric.asRead) store).2 := by
  obtain ⟨body, isRequest, opened⟩ := reaches.request_made limits
  obtain ⟨text, isTold⟩ := WebTransport.deliver_of_request isRequest number store
  rw [← web.header?_realIp (web.tagOf batch) web.target body] at accepted
  have isRoute : Route.ofPath? (web.around (web.tagOf batch) web.target
      (Metric.encodeBatchJson batch)).path = some .updateBatch := reaches.route
  have takes : Route.updateBatch.takes "POST" = true := beq_self_eq_true "POST"
  rw [isTold, Gateway.staged_of_opened accepted opened, Gateway.routed_of_takes isRoute rfl takes,
    WebTransport.answer_readBack readsBack rfl limits.document]
  refine ⟨WebTransport.tells_told gateway _ store text, ?_⟩
  rw [Endpoint.responding]
  split <;> next done => rw [done]

/-- What a report over the web comes to, for an agent that is not let in. -/
theorem deliver_of_denied {seeds : Nat → Oaep.Seed} {batch : List Metric}
    (limits : WithinLimits web seeds batch) (number : UInt64) (store : Storage)
    {subnet : Subnet} {problem : AdmissionError} (isSubnet : gateway.subnet = some subnet)
    (denied : subnet.accept (web.realIp.bind Request.readable?) = .error problem) :
    ∃ reason, web.deliver gateway number seeds batch store =
      (.error (.permanent reason), store) := by
  obtain ⟨body, isRequest, _⟩ := reaches.request_made limits
  obtain ⟨text, isTold⟩ := WebTransport.deliver_of_request isRequest number store
  rw [← web.header?_realIp (web.tagOf batch) web.target body] at denied
  obtain ⟨reason, isReason⟩ := WebTransport.judge_of_refused (Or.inl rfl) text
  refine ⟨reason, ?_⟩
  rw [isTold, Gateway.staged_of_denied isSubnet denied store, ← isReason]
  rfl

/-- Which way a report goes makes no difference: the server is left with the same store, and the
sender hears that all was taken both ways, or that it is refused for good both ways. For an agent
that is let in this is what the service makes of the report. The messages of a call are read from
their bytes as they were. -/
theorem delivered_alike (observed : Changes)
    (readsBack : ∀ metric ∈ observed.batch, metric.ReadsBack) {seeds : Nat → Oaep.Seed}
    (limits : WithinLimits web seeds observed.batch) (number : UInt64) (store : Storage) :
    let posted := web.deliver gateway number seeds observed.batch store
    let called := remote.deliver gateway observed.batch store
    let served := Service.updateMetrics observed.batch store
    posted.2 = called.2 ∧ Alike posted.1 called.1 ∧
      (gateway.admission web.realIp = .ok () → Tells served.1 called.1 ∧ called.2 = served.2) ∧
      ∃ messages bytes, RemoteTransport.encode observed.batch = .ok messages ∧
        Metric.encodeBatchWire observed.batch = .ok bytes ∧
        Metric.readBatchWire? bytes = some messages := by
  intro posted called served
  obtain ⟨address, made⟩ := reaches.made
  have sameIp := (RemoteTransport.of_make made).1
  have readBack := RemoteTransport.readBatchWire?_encode observed limits.called
  rcases gateway.accepted_or_denied (web.realIp.bind Request.readable?) with
    accepted | ⟨subnet, problem, isSubnet, denied⟩
  · have admitted := Gateway.admission_of_accepted accepted
    rw [← sameIp] at admitted
    obtain ⟨postTells, postAfter⟩ :=
      reaches.deliver_of_accepted readsBack limits number store accepted
    obtain ⟨callTells, callAfter⟩ := remote.deliver_of_admitted observed store admitted
    obtain ⟨sameAfter, alike⟩ := alike_of_asRead observed store
    exact ⟨postAfter.trans (sameAfter.trans callAfter.symm), alike postTells callTells,
      fun _ => ⟨callTells, callAfter⟩, readBack⟩
  · have refused := Gateway.admission_of_denied isSubnet denied
    obtain ⟨postReason, isPosted⟩ :=
      reaches.deliver_of_denied limits number store isSubnet denied
    obtain ⟨callReason, isCalled⟩ := remote.deliver_of_refused observed store (sameIp ▸ refused)
    refine ⟨?_, ?_, fun admitted => ?_, readBack⟩
    · exact (congrArg Prod.snd isPosted).trans (congrArg Prod.snd isCalled).symm
    · rw [show posted.1 = _ from congrArg Prod.fst isPosted,
        show called.1 = _ from congrArg Prod.fst isCalled]
      exact .refused postReason callReason
    · rw [refused] at admitted
      cases admitted

end

omit reaches in
theorem delivered_alike_not_a_number :
    let gateway : Gateway :=
      ⟨some ⟨.v4 #v[10, 0, 0, 0], 8⟩, some (SigningKey.ofText "secret"), none⟩
    let web : WebTransport :=
      ⟨"localhost:8080", some "10.1.2.3", some (SigningKey.ofText "secret"), none⟩
    let remote : RemoteTransport := ⟨"localhost:8081", some "10.1.2.3"⟩
    let seeds (_ : Nat) : Oaep.Seed := Vector.replicate _ 0
    let observed : Changes :=
      ⟨KeyMap.empty.insert "hits" ⟨3, 3⟩, KeyMap.empty.insert "load" ⟨0x7ff8000000000000⟩⟩
    let store := Storage.memory MemoryStore.ephemeral
    let posted := web.deliver gateway 7 seeds observed.batch store
    let called := remote.deliver gateway observed.batch store
    let served := Service.updateMetrics observed.batch store
    posted.2 = called.2 ∧ Alike posted.1 called.1 ∧
      (gateway.admission web.realIp = .ok () → Tells served.1 called.1 ∧ called.2 = served.2) ∧
      ∃ messages bytes, RemoteTransport.encode observed.batch = .ok messages ∧
        Metric.encodeBatchWire observed.batch = .ok bytes ∧
        Metric.readBatchWire? bytes = some messages := by
  intro gateway web remote seeds observed store
  have fits : web.Fits gateway := {
    secrets := fun key own isKey isOwn => by
      rw [← Option.some.inj isKey, ← Option.some.inj isOwn]
    sealing := rfl
    opens := nofun }
  have reaches : ReachesBoth web remote gateway :=
    ⟨fits, by decide +kernel, by decide +kernel, "localhost:8081", by decide +kernel⟩
  have limits : WithinLimits web seeds observed.batch := {
    document := by decide +kernel
    posted := fun body tag encoded => by
      obtain rfl := (Prod.mk.inj (Except.ok.inj encoded)).1
      decide +kernel
    called := fun bytes encoded => by
      obtain rfl := Except.ok.inj encoded
      decide +kernel }
  have readsBack : ∀ metric ∈ observed.batch, metric.ReadsBack := by
    have isBatch : observed.batch =
        [⟨"hits", "counter", some 3, none⟩,
          ⟨"load", "gauge", none, some ⟨0x7ff8000000000000⟩⟩] := by decide +kernel
    rw [isBatch]
    refine List.forall_mem_cons.mpr ⟨nofun, List.forall_mem_singleton.mpr ?_⟩
    rintro reading ⟨⟩ finite
    cases finite
  exact delivered_alike reaches observed readsBack limits 7 store

end ReachesBoth

end Metering
