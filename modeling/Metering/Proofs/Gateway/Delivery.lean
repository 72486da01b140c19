/-
What an agent makes of a batch is undone by the stages of the server, one after the other in the
opposite order: the body is decrypted, its tag is checked against what was compressed, and the
rest is expanded to the JSON document that the batch was written as.
-/

import Metering.Proofs.Cipher.Envelope
import Metering.Proofs.Digest.Tag
import Metering.Proofs.Gateway.Endpoints
import Metering.Proofs.Gateway.Intake
import Metering.Proofs.Gzip.Torn
import Metering.Proofs.Metric.Json
import Metering.Storage.Basic
import Metering.Transport.Web

namespace Metering

/-! ### The headers around a batch -/

namespace WebTransport

variable (transport : WebTransport) (tag : Option String) (target : String) (body : Bytes)

/-- The request around a body. -/
def around : Request := ⟨"POST", target, transport.headers tag, body⟩

/-- Neither of the two headers that the server looks for is another one in other letters. -/
theorem headers_differ :
    ("Content-Type".toLower == headerNames.bodyCoding.toLower) = false ∧
    ("Content-Type".toLower == headerNames.bodyTag.toLower) = false ∧
    (headerNames.bodyCoding.toLower == headerNames.bodyTag.toLower) = false ∧
    (headerNames.realIp.toLower == headerNames.bodyCoding.toLower) = false ∧
    (headerNames.realIp.toLower == headerNames.bodyTag.toLower) = false ∧
    (headerNames.bodyTag.toLower == headerNames.bodyCoding.toLower) = false := by
  decide +kernel

theorem codings_around :
    (transport.around tag target body).headerValues headerNames.bodyCoding =
      [Request.gzipCoding] := by
  rw [Request.headerValues, around, headers]
  cases transport.realIp <;> cases tag <;>
    simp [headers_differ]

theorem tags_around :
    (transport.around tag target body).headerValues headerNames.bodyTag = tag.toList := by
  rw [Request.headerValues, around, headers]
  cases transport.realIp <;> cases tag <;>
    simp [headers_differ]

theorem listsGzip_around :
    (transport.around tag target body).listsGzip headerNames.bodyCoding = true := by
  rw [Request.listsGzip, codings_around]
  decide +kernel

end WebTransport

/-! ### Tags in headers -/

theorem SigningKey.readable?_tag (key : SigningKey) (body : Bytes) :
    Request.readable? (key.tag body) = some (key.tag body) := by
  refine if_pos (List.all_eq_true.mpr fun character member => ?_)
  rw [tag, Hex.encode, String.toList_ofList] at member
  obtain ⟨half, small, rfl⟩ := Hex.mem_digits member
  obtain ⟨ascii, visible, notDelete, _⟩ := Hex.digit_cases small
  have below : (Hex.digit half).toNat < 127 := by omega
  rw [Request.isReadable, decide_eq_true visible, decide_eq_true below]
  exact Bool.or_true _

theorem SigningKey.isEmpty_tag (key : SigningKey) (body : Bytes) :
    (key.tag body).isEmpty = false := by
  have size : (key.tag body).toList.length = 2 * Sha256.hashSize := by
    rw [tag, Hex.encode, String.toList_ofList, ← Hmac.length_sign key.secret body]
    exact Hex.length_digits _
  rw [Bool.eq_false_iff, ne_eq, String.isEmpty_iff]
  intro empty
  rw [empty] at size
  cases size

theorem WebTransport.givenTag?_around (transport : WebTransport) (key : SigningKey)
    (packed : Bytes) (target : String) (body : Bytes) :
    Stage.givenTag? (transport.around (some (key.tag packed)) target body) =
      some (key.tag packed) := by
  rw [Stage.givenTag?, Request.header?, tags_around]
  show ((Request.readable? (key.tag packed)).filter fun tag => !tag.isEmpty) = _
  rw [key.readable?_tag]
  have some : (!(key.tag packed).isEmpty) = true := by
    rw [key.isEmpty_tag]
    rfl
  exact if_pos some

/-! ### What fits together -/

namespace WebTransport

/-- An agent and a server that understand each other: where both have a secret it is the same,
and either nothing is encrypted or the server opens what the agent seals, in blocks that have
room for a byte. -/
structure Fits (transport : WebTransport) (gateway : Gateway) : Prop where
  secrets : ∀ key own, transport.signingKey = some key → gateway.signingKey = some own → own = key
  sealing : transport.publicKey = gateway.privateKey.map Rsa.PrivateKey.publicKey
  opens : ∀ key, gateway.privateKey = some key →
    Oaep.overhead + 1 ≤ key.blockSize ∧ key.OpensBlocks

/-- What is compressed for a batch. -/
def packed [Gzip.Deflater] (batch : List Metric) : Bytes :=
  Gzip.compress (Metric.encodeBatchJson batch)

/-- The tag for a batch. -/
def tagOf [Gzip.Deflater] (transport : WebTransport) (batch : List Metric) : Option String :=
  transport.signingKey.map fun key => key.tag (packed batch)

theorem encode_of_seal [Gzip.Deflater] {transport : WebTransport} {key : Rsa.PublicKey}
    (isKey : transport.publicKey = some key) {seeds : Nat → Oaep.Seed} {batch : List Metric}
    {body : Bytes} (isSealed : key.seal seeds (packed batch) = .ok body) :
    transport.encode seeds batch = .ok (body, transport.tagOf batch) := by
  rw [packed] at isSealed
  rw [encode, isKey]
  dsimp only
  rw [isSealed]
  rfl

variable {transport : WebTransport} {gateway : Gateway} (fits : transport.Fits gateway)

include fits

/-- A body is made for every batch, and the server decrypts it. -/
theorem decrypt_encode [Gzip.Deflater] (seeds : Nat → Oaep.Seed) (batch : List Metric) :
    ∃ body, transport.encode seeds batch = .ok (body, transport.tagOf batch) ∧
      (body.length ≤ stageLimit → (packed batch).length ≤ stageLimit ∧
        ∀ target, Gateway.optionally Stage.decrypt gateway.privateKey
            (transport.around (transport.tagOf batch) target body) =
          .ok (transport.around (transport.tagOf batch) target (packed batch))) := by
  cases isKey : gateway.privateKey with
  | none =>
    have noKey := fits.sealing
    rw [isKey] at noKey
    refine ⟨packed batch, ?_, fun short => ⟨short, fun _ => rfl⟩⟩
    rw [encode, noKey]
    rfl
  | some key =>
    have isPublic := fits.sealing
    rw [isKey] at isPublic
    obtain ⟨room, opens⟩ := fits.opens key isKey
    have room : key.publicKey.longestMessage ≠ 0 := by
      rw [Rsa.PublicKey.longestMessage, ← Rsa.PrivateKey.blockSize]
      omega
    obtain ⟨body, isSealed, longer, some, isOpened⟩ :=
      Rsa.unseal_seal opens room seeds (packed batch)
    refine ⟨body, encode_of_seal isPublic isSealed, fun short => ⟨longer.trans short, ?_⟩⟩
    exact fun target => Stage.decrypt_ok short some isOpened

/-- The tag vouches for what was compressed, or there is none to check. -/
theorem check_packed [Gzip.Deflater] (batch : List Metric)
    (short : (packed batch).length ≤ stageLimit) (target : String) :
    Gateway.optionally Stage.check gateway.signingKey
        (transport.around (transport.tagOf batch) target (packed batch)) =
      .ok (transport.around (transport.tagOf batch) target (packed batch)) := by
  cases isOwn : gateway.signingKey with
  | none => rfl
  | some own =>
    show Stage.check own _ = _
    cases isKey : transport.signingKey with
    | none =>
      refine Stage.check_untagged ?_
      rw [Stage.givenTag?, Request.header?, tags_around, tagOf, isKey]
      rfl
    | some key =>
      obtain rfl := fits.secrets key own isKey isOwn
      have isTag : transport.tagOf batch = some (own.tag (packed batch)) := by
        rw [tagOf, isKey]
        rfl
      rw [isTag]
      exact Stage.check_ok (givenTag?_around ..) short (own.verify_tag (packed batch))

omit fits in
theorem expand_packed [Gzip.Deflater] [Gzip.LawfulDeflater] (batch : List Metric)
    (short : (packed batch).length ≤ stageLimit) (tag : Option String) (target : String) :
    Stage.expand (transport.around tag target (packed batch)) =
      .ok (transport.around tag target (Metric.encodeBatchJson batch)) :=
  Stage.expand_ok (listsGzip_around ..) short (Gzip.decompress_compress _)

/-- The stages that open a request undo what the agent made of a batch. -/
theorem opened_encode [Gzip.Deflater] [Gzip.LawfulDeflater] (seeds : Nat → Oaep.Seed)
    (batch : List Metric) :
    ∃ body, transport.encode seeds batch = .ok (body, transport.tagOf batch) ∧
      (body.length ≤ stageLimit → ∀ target,
        gateway.opened (transport.around (transport.tagOf batch) target body) =
          .ok (transport.around (transport.tagOf batch) target
            (Metric.encodeBatchJson batch))) := by
  obtain ⟨body, encoded, undone⟩ := decrypt_encode fits seeds batch
  refine ⟨body, encoded, fun short target => ?_⟩
  obtain ⟨packedShort, decrypted⟩ := undone short
  rw [Gateway.opened, decrypted target]
  dsimp only [bind, Except.bind]
  rw [check_packed fits batch packedShort target]
  dsimp only
  rw [expand_packed batch packedShort]
  rfl

/-! ### Batches on their way -/

omit fits in
/-- The route for batches takes up what is read back of the document of a batch. -/
theorem answer_readBack {Store : Type} [Repository Store] {batch : List Metric}
    (readsBack : ∀ metric ∈ batch, metric.ReadsBack) {request : Request}
    (isJson : request.body = Metric.encodeBatchJson batch)
    (short : (Metric.encodeBatchJson batch).length ≤ Endpoint.bodyLimit) :
    (Endpoint.answer .updateBatch request : StateM Store Response) =
      Endpoint.responding (fun _ => .bare 200)
        (Service.updateMetrics (batch.map Metric.asRead)) := by
  rw [← isJson] at short
  have reads : Metric.decodeBatchJson? request.body = some (batch.map Metric.asRead) := by
    rw [isJson, Metric.decodeBatchJson?_of_readsBack readsBack]
  exact Endpoint.withBody_of_reads short reads _ Service.updateMetrics

omit fits in
/-- The route for batches takes up just the batch that the document was written for. -/
theorem answer_encodeBatchJson {Store : Type} [Repository Store] {batch : List Metric}
    (finite : ∀ metric ∈ batch, metric.HasFinite)
    (readsBack : ∀ metric ∈ batch, metric.ReadsBack) {request : Request}
    (isJson : request.body = Metric.encodeBatchJson batch)
    (short : (Metric.encodeBatchJson batch).length ≤ Endpoint.bodyLimit) :
    (Endpoint.answer .updateBatch request : StateM Store Response) =
      Endpoint.responding (fun _ => .bare 200) (Service.updateMetrics batch) := by
  rw [answer_readBack readsBack isJson short, Metric.map_asRead finite]

/-- What an agent makes of a batch passes every stage of the server and arrives as the same
batch: for every batch whose readings are read back from their literals there is a body, it is
opened to the document of the batch whatever stands behind the stages, and what is done at the
route for batches is to apply that batch. -/
theorem stages_undo_encode [Gzip.Deflater] [Gzip.LawfulDeflater] (Store : Type)
    [Repository Store] (seeds : Nat → Oaep.Seed) {batch : List Metric}
    (finite : ∀ metric ∈ batch, metric.HasFinite) (readsBack : ∀ metric ∈ batch, metric.ReadsBack)
    (short : (Metric.encodeBatchJson batch).length ≤ Endpoint.bodyLimit) :
    ∃ body tag, transport.encode seeds batch = .ok (body, tag) ∧
      (body.length ≤ stageLimit → ∀ target,
        let request : Request := ⟨"POST", target, transport.headers tag, body⟩
        let handed : Request := { request with body := Metric.encodeBatchJson batch }
        (∀ next : Handler Store,
          gateway.opening next request = do return gateway.told (← next handed)) ∧
        Metric.decodeBatchJson? handed.body = some batch ∧
        (Route.ofPath? request.path = some .updateBatch →
          (∀ subnet, gateway.subnet = some subnet →
            ∃ ip, subnet.accept (request.header? headerNames.realIp) = .ok ip) →
          gateway.staged request = do
            return gateway.told (← Endpoint.responding (fun _ => .bare 200)
              (Service.updateMetrics batch : Call Store Unit)))) := by
  obtain ⟨body, encoded, undone⟩ := opened_encode fits seeds batch
  refine ⟨body, _, encoded, fun bodyShort target => ?_⟩
  intro request handed
  have opens (next : Handler Store) :
      gateway.opening next request = do return gateway.told (← next handed) := by
    have opened : gateway.opened request = .ok handed := undone bodyShort target
    rw [Gateway.opening_eq, Stage.behind, opened]
    rfl
  have decoded : Metric.decodeBatchJson? handed.body = some batch :=
    (Metric.decodeBatchJson?_of_readsBack readsBack).trans
      (congrArg some (Metric.map_asRead finite))
  refine ⟨opens, decoded, fun path accepted => ?_⟩
  have isRoute : Route.ofPath? handed.path = some .updateBatch := path
  have takes : Route.updateBatch.takes handed.method = true := beq_self_eq_true "POST"
  rw [Gateway.staged_of_accepted accepted, opens, Gateway.routed_of_takes isRoute rfl takes,
    answer_encodeBatchJson finite readsBack rfl short]

omit fits in
theorem stages_undo_encode_sealed_counter_and_gauge :
    let secret := SigningKey.ofText "secret"
    let transport : WebTransport :=
      ⟨"localhost:8080", none, some secret, some Rsa.PrivateKey.mersenne.publicKey⟩
    let gateway : Gateway := ⟨none, some secret, some Rsa.PrivateKey.mersenne⟩
    let batch : List Metric :=
      [⟨"hits", "counter", some 3, none⟩, ⟨"load", "gauge", none, some ⟨0x3fe0000000000000⟩⟩]
    ∃ body tag, transport.encode (fun _ => Vector.replicate _ 0) batch = .ok (body, tag) ∧
      (gateway.staged ⟨"POST", route, transport.headers tag, body⟩ : StateM Storage Response) = do
        return gateway.told (← Endpoint.responding (fun _ => .bare 200)
          (Service.updateMetrics batch)) := by
  intro secret transport gateway batch
  have room : Rsa.PrivateKey.mersenne.publicKey.longestMessage ≠ 0 := by decide +kernel
  have fits : transport.Fits gateway := {
    secrets := fun key own isKey isOwn => by
      rw [← Option.some.inj isKey, ← Option.some.inj isOwn]
    sealing := rfl
    opens := fun key isKey => by
      rw [← Option.some.inj isKey]
      exact ⟨by decide +kernel, Rsa.PrivateKey.matched_mersenne.opensBlocks room⟩ }
  have finite : ∀ metric ∈ batch, metric.HasFinite := by
    intro metric member reading isReading
    rcases List.mem_cons.mp member with rfl | last
    · cases isReading
    · rw [List.mem_singleton.mp last] at isReading
      rw [← Option.some.inj isReading]
      decide
  have readsBack : ∀ metric ∈ batch, metric.ReadsBack := by
    refine List.forall_mem_cons.mpr ⟨nofun, List.forall_mem_singleton.mpr ?_⟩
    rintro reading ⟨⟩ _
    decide +kernel
  obtain ⟨body, tag, encoded, undone⟩ := stages_undo_encode fits Storage
    (fun _ => Vector.replicate _ 0) finite readsBack (by decide +kernel)
  have short : body.length ≤ stageLimit := by
    have isPublic : transport.publicKey = some Rsa.PrivateKey.mersenne.publicKey := rfl
    have isEncoded := encode_of_seal isPublic (Rsa.seal_eq _ room
      (fun _ => Vector.replicate _ 0) (packed batch))
    rw [(Prod.mk.inj (Except.ok.inj (encoded.symm.trans isEncoded))).1,
      Rsa.length_flatten_blocks]
    decide +kernel
  have path : Route.ofPath? (transport.around tag route body).path = some .updateBatch := by
    show Route.ofPath? (transport.around none route []).path = _
    decide +kernel
  exact ⟨body, tag, encoded, (undone short route).2.2 path fun subnet none => by cases none⟩

end WebTransport

end Metering
