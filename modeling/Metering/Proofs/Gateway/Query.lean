/-
What is answered to one who asks for a metric. What is stored can be written as JSON with nothing
lost, since readings that are stored are finite; so the answer tells the very metric that is stored,
compressed on the way or not. It is read back as that metric wherever the literal of the reading
comes to the reading again.
-/

import Metering.Proofs.Gateway.Validity
import Metering.Proofs.Gzip.Torn

namespace Metering

/-! ### Values that are stored -/

theorem Holdings.read_of_value? {held : Holdings} {key : String} {value : Value}
    (isHeld : held.value? key = some value) : held.read key value.kind = .ok value := by
  rw [value?] at isHeld
  cases isGauge : held.gauge? key with
  | some reading =>
    rw [isGauge] at isHeld
    cases isHeld
    rw [Value.kind, read, gauge, isGauge]
    rfl
  | none =>
    rw [isGauge, Option.map_none, Option.none_or] at isHeld
    obtain ⟨total, isCounter, rfl⟩ := Option.map_eq_some_iff.mp isHeld
    rw [Value.kind, read, counter, isCounter]
    rfl

theorem Holdings.not_lacks_of_value? {held : Holdings} {key : String} {value : Value}
    (isHeld : held.value? key = some value) : ¬ held.Lacks key := by
  rintro ⟨noCounter, noGauge⟩
  rw [value?, noCounter, noGauge] at isHeld
  cases isHeld

theorem Holdings.Valid.hasFinite {held : Holdings} (valid : held.Valid) {key : String}
    {value : Value} (isHeld : held.value? key = some value) :
    (Metric.ofValue key value).HasFinite := by
  cases value with
  | counter total => exact nofun
  | gauge reading =>
    rintro other isOther
    obtain rfl : reading = other := Option.some.inj isOther
    refine valid.readings key reading ?_
    rw [value?] at isHeld
    rcases Option.or_eq_some_iff.mp isHeld with isGauge | ⟨_, isCounter⟩
    · obtain ⟨same, isReading, isValue⟩ := Option.map_eq_some_iff.mp isGauge
      rw [isReading, Value.gauge.inj isValue]
    · obtain ⟨_, _, isValue⟩ := Option.map_eq_some_iff.mp isCounter
      cases isValue

namespace Service

/-- One who asks for a metric is told what is kept. -/
theorem valueMetric_fst {asked : Metric} {value : Value} {store : Storage}
    (orderly : store.Orderly) (isQuery : asked.query = .ok value.kind)
    (isHeld : store.kept.value? asked.key = some value) :
    (valueMetric asked store).1 = .ok (Metric.ofValue asked.key value) := by
  have told := value_fst value.kind asked.key store
  rw [orderly.connected, orderly.begun.isReached, Bool.and_self, if_pos rfl,
    Holdings.read_of_value? isHeld] at told
  rw [valueMetric, isQuery, checking, Call.bind_apply]
  dsimp only [Except.mapError, requiring]
  rw [Call.bind_apply]
  revert told
  rcases Service.value value.kind asked.key store with ⟨answer, after⟩
  rintro rfl
  rfl

end Service

/-! ### Responses on their way -/

/-- What a response carries: its body, expanded if it is compressed. -/
def Response.content? (response : Response) : Option Bytes :=
  if response.compressed then (Gzip.decompress response.body).toOption else some response.body

/-- A response that has passed on a content with success. -/
structure Response.Carries (response : Response) (content : Bytes) : Prop where
  status : response.status = 200
  content : response.content? = some content
  short : response.body.length ≤ stageLimit

/-- A response of an endpoint that the stages pass on, compressed or not. -/
structure Response.Fits [Gzip.Deflater] (response : Response) : Prop where
  plain : response.compressed = false
  short : response.body.length ≤ stageLimit
  packed : (Gzip.compress response.body).length ≤ stageLimit

/-- A response of an endpoint that is short enough for every stage. -/
structure Response.Short (response : Response) : Prop where
  plain : response.compressed = false
  short : response.body.length ≤ 100000

theorem Response.Short.fits [Gzip.Deflater] [Gzip.LawfulDeflater] {response : Response}
    (short : response.Short) : response.Fits := by
  obtain ⟨plain, short⟩ := short
  have longer := Gzip.length_compress_le response.body
  refine ⟨plain, ?_, ?_⟩
  · rw [stageLimit]
    omega
  · rw [stageLimit]
    omega

theorem Response.Fits.content? [Gzip.Deflater] {response : Response} (fits : response.Fits) :
    response.content? = some response.body := by
  rw [Response.content?, fits.plain]
  rfl

theorem Stage.fits_compress [Gzip.Deflater] [Gzip.LawfulDeflater] {response : Response}
    (fits : response.Fits) :
    (compress response).status = response.status ∧
      (compress response).content? = some response.body ∧
      (compress response).body.length ≤ stageLimit := by
  rw [compress, fits.plain, if_neg Bool.false_ne_true, if_neg (Nat.not_lt.mpr fits.short)]
  split
  · exact ⟨rfl, fits.content?, fits.short⟩
  · refine ⟨rfl, ?_, fits.packed⟩
    show (Gzip.decompress (Gzip.compress response.body)).toOption = _
    rw [Gzip.decompress_compress]
    rfl

namespace Gateway

/-- The response of an endpoint as it leaves the server: compressed if that is wanted, with the tag
of its body and with the number of its request. -/
def sent [Gzip.Deflater] (gateway : Gateway) (number : UInt64) (wanted : Bool)
    (response : Response) : Response :=
  { gateway.told (if wanted then Stage.compress response else response) with
    trace := some (Hex.encode (Bytes.bigEndian 8 number.toNat)) }

/-- The tag is all that telling adds to a response that is short enough. -/
theorem told_of_short (gateway : Gateway) {response : Response}
    (short : response.body.length ≤ stageLimit) :
    gateway.told response =
      { response with tag := (gateway.signingKey.map (·.tag response.body)).or response.tag } := by
  rw [told]
  cases gateway.signingKey with
  | none => rfl
  | some key => exact if_neg (Nat.not_lt.mpr short)

section

variable [Gzip.Deflater] [Gzip.LawfulDeflater]

/-- What a response carries that fits, and its status, are what they are for the endpoint. -/
theorem sent_of_fits (gateway : Gateway) (number : UInt64) (wanted : Bool) {response : Response}
    (fits : response.Fits) :
    (gateway.sent number wanted response).status = response.status ∧
      (gateway.sent number wanted response).content? = some response.body ∧
      (gateway.sent number wanted response).body.length ≤ stageLimit := by
  rw [sent]
  cases wanted with
  | true =>
    obtain ⟨status, content, short⟩ := Stage.fits_compress fits
    rw [if_pos rfl, gateway.told_of_short short]
    exact ⟨status, content, short⟩
  | false =>
    rw [if_neg Bool.false_ne_true, gateway.told_of_short fits.short]
    exact ⟨rfl, fits.content?, fits.short⟩

theorem sent_of_short (gateway : Gateway) (number : UInt64) (wanted : Bool) {response : Response}
    (short : response.Short) :
    (gateway.sent number wanted response).status = response.status ∧
      (gateway.sent number wanted response).content? = some response.body ∧
      (gateway.sent number wanted response).body.length ≤ stageLimit :=
  gateway.sent_of_fits number wanted short.fits

/-- A content that an endpoint answers with success gets through to the sender. -/
theorem carries_sent (gateway : Gateway) (number : UInt64) (wanted : Bool) (contentType : String)
    {content : Bytes} (short : content.length ≤ 100000) :
    (gateway.sent number wanted (.typed 200 contentType content)).Carries content := by
  have isShort : (Response.typed 200 contentType content).Short := ⟨rfl, short⟩
  obtain ⟨status, isContent, isShort⟩ := gateway.sent_of_short number wanted isShort
  exact ⟨status, isContent, isShort⟩

end

section Served

variable [Gzip.Deflater] {Store : Type} [Repository Store] {gateway : Gateway} {request : Request}
  {body : Bytes}
  (accepted : ∀ subnet, gateway.subnet = some subnet →
    ∃ ip, subnet.accept (request.header? headerNames.realIp) = .ok ip)
  (opened : gateway.opened request = .ok { request with body }) (notHead : request.method ≠ "HEAD")
  (number : UInt64) (store : Store)

include accepted opened notHead

/-- What passes all stages is served with what is routed for it. -/
theorem serve_of_opened :
    gateway.serve number request store =
      ({ gateway.told (routed ({ request with body } : Request) store).1 with
          trace := some (Hex.encode (Bytes.bigEndian 8 number.toNat)) },
        (routed ({ request with body } : Request) store).2) := by
  have served : gateway.serve number request store =
      (withoutBody request { (gateway.staged request store).1 with
        trace := some (Hex.encode (Bytes.bigEndian 8 number.toNat)) },
        (gateway.staged request store).2) := rfl
  rw [served, withoutBody, if_neg notHead, staged_of_opened accepted opened]

/-- A request that gets through all stages is answered at its route. -/
theorem serve_of_takes {route : Route} (isRoute : Route.ofPath? request.path = some route)
    (takes : route.takes request.method = true) :
    gateway.serve number request store =
      (gateway.sent number (route.isCompressed && request.listsGzip headerNames.wantedCoding)
          (Endpoint.answer route { request with body } store).1,
        (Endpoint.answer route { request with body } store).2) := by
  have isPath : Route.ofPath? ({ request with body } : Request).path = some route := isRoute
  have routed : (routed ({ request with body } : Request) : StateM Store Response) store =
      (if route.isCompressed && request.listsGzip headerNames.wantedCoding then
          Stage.compress (Endpoint.answer route { request with body } store).1
        else (Endpoint.answer route { request with body } store).1,
        (Endpoint.answer route { request with body } store).2) := by
    cases compressed : route.isCompressed with
    | false =>
      rw [routed_of_takes isPath compressed takes]
      rfl
    | true =>
      simp only [Gateway.routed, isPath, compressed, if_true, Stage.compressing, takes,
        Bool.true_and]
      rfl
  rw [serve_of_opened accepted opened notHead, routed]
  rfl

/-- A request for a path that leads nowhere gets through to nothing. -/
theorem serve_of_noRoute (noRoute : Route.ofPath? request.path = none) :
    gateway.serve number request store = (gateway.sent number false (.bare 404), store) := by
  have isPath : Route.ofPath? ({ request with body } : Request).path = none := noRoute
  rw [serve_of_opened accepted opened notHead]
  simp only [routed, isPath]
  rfl

end Served

/-! ### Questions for a metric -/

/-- A request that passes all stages and asks for the value of a metric. -/
structure Queries (gateway : Gateway) (request : Request) (asked : Metric) : Prop where
  posted : request.method = "POST"
  isRoute : Route.ofPath? request.path = some .query
  accepted : ∀ subnet, gateway.subnet = some subnet →
    ∃ ip, subnet.accept (request.header? headerNames.realIp) = .ok ip
  opened : ∃ handed, gateway.opened request = .ok handed ∧
    handed.body.length ≤ Endpoint.bodyLimit ∧ Metric.decodeJson? handed.body = some asked

variable {gateway : Gateway} {store : Storage} {asked : Metric} {value : Value}

/-- The answer to one who asks for a metric that is kept carries it. -/
theorem carries_query [Gzip.Deflater] [Gzip.LawfulDeflater] (sound : IsSound store)
    {request : Request} (queries : gateway.Queries request asked)
    (isKind : asked.kind = .ok value.kind) (isHeld : store.kept.value? asked.key = some value)
    (number : UInt64) :
    (gateway.serve number request store).1.Carries
      (Metric.ofValue asked.key value).encodeJson := by
  obtain ⟨posted, isRoute, accepted, handed, opened, short, reads⟩ := queries
  have validKey := sound.valid.keys asked.key (Holdings.not_lacks_of_value? isHeld)
  have isQuery : asked.query = .ok value.kind := by
    rw [Metric.query, validKey]
    exact isKind
  have brief := Metric.length_encodeJson_ofValue (Metric.length_of_validateKey_ok validKey) value
  have told := Service.valueMetric_fst sound.orderly isQuery isHeld
  obtain ⟨packed, body, rfl, _⟩ := opens_of_opened opened
  have takes : Route.query.takes request.method = true := beq_iff_eq.mpr posted
  have notHead : request.method ≠ "HEAD" := by
    rw [posted]
    decide
  have answered : Endpoint.answer .query ({ request with body } : Request) store =
      Endpoint.responding (fun metric : Metric => .json metric.encodeJson)
        (Service.valueMetric asked) store :=
    congrFun (Endpoint.withBody_of_reads short reads _ Service.valueMetric) store
  rw [serve_of_takes accepted opened notHead number store isRoute takes, answered,
    Endpoint.responding_eq, told]
  exact gateway.carries_sent number _ _ (brief.trans (by decide))

/-! ### Only valid metrics -/

/-- An answer that tells a metric with a value. Its document is that of the metric, in which the
literal of a reading means just the reading, so what is read back has every part of the metric but
may have a neighbour for the reading. It is the metric itself just if the literal comes to the
reading again, as a short one does. -/
structure TellsOf (content : Bytes) (key : String) (value : Value) : Prop where
  document : Json.read? content = some (Metric.ofValue key value).toJson
  meant : ∀ reading, value = .gauge reading → (Json.ofReading reading).Means reading
  readBack : Metric.decodeJson? content = some (Metric.ofValue key value) ↔ value.ReadsBack
  ofShort : ∀ reading, value = .gauge reading → Json.IsShort reading → value.ReadsBack

theorem tellsOf_encodeJson {key : String} {value : Value}
    (finite : (Metric.ofValue key value).HasFinite) :
    TellsOf (Metric.ofValue key value).encodeJson key value where
  document := Json.read?_print (Metric.legible_toJson _)
  meant := by
    rintro reading rfl
    exact Json.means_ofReading (finite reading rfl)
  readBack := Metric.decodeJson?_ofValue_iff key value
  ofShort := by
    rintro reading rfl short
    exact short.readsBack (finite reading rfl)

/-- Whatever reaches the front ends of a server that starts with an empty store: every key that
is stored has 1 to 63 characters, every reading is finite, and whoever asks for a metric that is
stored is told so with success and with the numeric field of its kind, which means the very value
that is stored. The answer is read back as that metric just if the literal of the value comes to
the value again, as it does for a total and for a reading with a short literal. -/
theorem valid_of_run [Gzip.Deflater] [Gzip.LawfulDeflater] (gateway : Gateway)
    {store : Storage} (isNew : store.IsNew) (arrivals : List Arrival) :
    let after := gateway.run store arrivals
    (∀ key, ¬ after.kept.Lacks key → 1 ≤ key.length ∧ key.length ≤ 63) ∧
    (∀ key reading, after.kept.gauge? key = some reading → reading.isFinite = true) ∧
    ∀ number request asked value, gateway.Queries request asked →
      asked.kind = .ok value.kind → after.kept.value? asked.key = some value →
      ∃ content, (gateway.serve number request after).1.Carries content ∧
        TellsOf content asked.key value := by
  intro after
  have sound : IsSound after := sound_run (.of_isNew isNew) arrivals
  refine ⟨fun key something => ?_, sound.valid.readings,
    fun number request asked value queries isKind isHeld => ?_⟩
  · have validKey := sound.valid.keys key something
    exact ⟨Metric.length_pos_of_validateKey_ok validKey, Metric.length_of_validateKey_ok validKey⟩
  · exact ⟨_, carries_query sound queries isKind isHeld number,
      tellsOf_encodeJson (sound.valid.hasFinite isHeld)⟩

/-- A negative zero that is posted to a database is told as the zero that it has stored. -/
theorem valid_of_run_posted_zero :
    let gateway : Gateway := ⟨none, none, none⟩
    let arrivals := [Arrival.web 1 ⟨"POST", "/update/gauge/load/-0.0", [], []⟩]
    let after := gateway.run (.database none (Database.connect none)) arrivals
    let request : Request := ⟨"POST", "/value/", [], Bytes.ofText "[\"load\",\"gauge\"]"⟩
    ∃ content, (gateway.serve 2 request after).1.Carries content ∧
      Metric.decodeJson? content = some ⟨"load", "gauge", none, some ⟨0⟩⟩ := by
  intro gateway arrivals after request
  have isNew : (Storage.database none (Database.connect none)).IsNew := rfl
  have queries : gateway.Queries request ⟨"load", "gauge", none, none⟩ :=
    ⟨rfl, by decide +kernel, nofun, request, rfl, by decide +kernel, by decide +kernel⟩
  have isHeld : after.kept.value? "load" = some (.gauge ⟨0⟩) := by decide +kernel
  obtain ⟨content, carries, tells⟩ :=
    (valid_of_run gateway isNew arrivals).2.2 2 request _ (.gauge ⟨0⟩) queries rfl isHeld
  have short : Json.IsShort ⟨0⟩ := ⟨by decide +kernel, by decide +kernel⟩
  exact ⟨content, carries, tells.readBack.mpr (tells.ofShort ⟨0⟩ rfl short)⟩

/-- A reading with many digits is stored as it is posted, but what is answered for it is read back
as its neighbour, which is a hundred. -/
theorem read_back_as_neighbour :
    let gateway : Gateway := ⟨none, none, none⟩
    let arrivals := [Arrival.web 1 ⟨"POST", "/update/gauge/load/99.99999999999999", [], []⟩]
    let after := gateway.run (.memory MemoryStore.ephemeral) arrivals
    let request : Request := ⟨"POST", "/value/", [], Bytes.ofText "[\"load\",\"gauge\"]"⟩
    after.kept.gauge? "load" = some ⟨0x4058ffffffffffff⟩ ∧
      (gateway.serve 2 request after).1.content?.bind Metric.decodeJson? =
        some ⟨"load", "gauge", none, some ⟨0x4059000000000000⟩⟩ := by
  decide +kernel

end Gateway

end Metering
