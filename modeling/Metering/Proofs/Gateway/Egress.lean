/-
What the stages on the way out do to an answer. Nothing but the compression looks at the codings
that a sender wants, so that two requests which differ in them alone share their fate: the same
stage refuses both, or the same place answers both, and what reaches the sender has one content,
compressed or not. What comes from behind the check of the tag is signed as it leaves; the body
is dropped after that for one who asked for the head alone.
-/

import Metering.Proofs.Digest.Tag
import Metering.Proofs.Gateway.Query

namespace Metering

/-! ### Requests that the stages cannot tell apart -/

namespace Request

/-- The request without a header. -/
def without (request : Request) (name : String) : Request :=
  { request with headers := request.headers.filter fun header => header.1.toLower != name.toLower }

/-- Two requests that are alike in all that the stages and the endpoints look at, apart from the
codings that are wanted. -/
structure SeenAlike (first second : Request) : Prop where
  target : first.target = second.target
  taken : ∀ route : Route, route.takes first.method = route.takes second.method
  reported : first.header? headerNames.realIp = second.header? headerNames.realIp
  tagged : first.header? headerNames.bodyTag = second.header? headerNames.bodyTag
  coded : first.listsGzip headerNames.bodyCoding = second.listsGzip headerNames.bodyCoding
  body : first.body = second.body

variable {first second : Request}

theorem SeenAlike.refl (request : Request) : SeenAlike request request :=
  ⟨rfl, fun _ => rfl, rfl, rfl, rfl, rfl⟩

theorem SeenAlike.path (alike : SeenAlike first second) : first.path = second.path := by
  rw [Request.path, Request.path, alike.target]

/-- Other bodies in the place of theirs make no difference between requests that are alike. -/
theorem SeenAlike.withBody (alike : SeenAlike first second) (body : Bytes) :
    SeenAlike { first with body } { second with body } :=
  ⟨alike.target, alike.taken, alike.reported, alike.tagged, alike.coded, rfl⟩

theorem headerValues_without (request : Request) {name other : String}
    (differ : (other.toLower == name.toLower) = false) :
    (request.without name).headerValues other = request.headerValues other := by
  have passes : ∀ header : String × String,
      ((header.1.toLower == other.toLower) && (header.1.toLower != name.toLower)) =
        (header.1.toLower == other.toLower) := by
    intro header
    cases same : header.1.toLower == other.toLower with
    | false => rfl
    | true =>
      rw [Bool.true_and, beq_iff_eq.mp same, bne, differ]
      rfl
  rw [headerValues, headerValues, without, List.filter_filter]
  rw [List.filter_congr fun header _ => passes header]

/-- The codings that are wanted are told by a header of their own. -/
theorem wantedCoding_differs :
    (headerNames.realIp.toLower == headerNames.wantedCoding.toLower) = false ∧
    (headerNames.bodyTag.toLower == headerNames.wantedCoding.toLower) = false ∧
    (headerNames.bodyCoding.toLower == headerNames.wantedCoding.toLower) = false := by
  decide +kernel

/-- Requests that differ in nothing but the codings that are wanted are alike. -/
theorem seenAlike_of_without
    (same : first.without headerNames.wantedCoding = second.without headerNames.wantedCoding) :
    SeenAlike first second := by
  obtain ⟨realIp, bodyTag, bodyCoding⟩ := wantedCoding_differs
  have values {other : String}
      (differ : (other.toLower == headerNames.wantedCoding.toLower) = false) :
      first.headerValues other = second.headerValues other := by
    rw [← headerValues_without first differ, same, headerValues_without second differ]
  have isMethod : first.method = second.method := (Request.mk.inj same).1
  have isTarget : first.target = second.target := (Request.mk.inj same).2.1
  have isBody : first.body = second.body := (Request.mk.inj same).2.2.2
  refine ⟨isTarget, fun route => by rw [isMethod], ?_, ?_, ?_, isBody⟩
  · rw [header?, header?, values realIp]
  · rw [header?, header?, values bodyTag]
  · rw [listsGzip, listsGzip, values bodyCoding]

/-- A question for the head alone is like the one for the whole. -/
theorem seenAlike_head (request : Request) :
    SeenAlike { request with method := "HEAD" } { request with method := "GET" } := by
  refine ⟨rfl, fun route => ?_, rfl, rfl, rfl, rfl⟩
  cases route <;> rfl

end Request

/-! ### The same fate -/

namespace Stage

open Request (SeenAlike)

/-- Lets in who reports an address of the subnet. -/
def letIn (subnet : Subnet) (request : Request) : Except Response Request :=
  match subnet.accept (request.header? headerNames.realIp) with
  | .ok _ => .ok request
  | .error problem => .error (refusal problem.message)

theorem admitted_eq {Store : Type} (subnet : Subnet) (next : Handler Store) :
    admitted subnet next = behind (letIn subnet) next := by
  funext request
  rw [admitted, behind, letIn]
  cases subnet.accept (request.header? headerNames.realIp) <;> rfl

/-- What a stage does with two requests: it stops them with one response, which is not compressed,
or it hands on two that are alike. -/
inductive SharedFate : Except Response Request → Except Response Request → Prop
  | stopped {response : Response} (plain : response.compressed = false) :
    SharedFate (.error response) (.error response)
  | handed {first second : Request} (alike : SeenAlike first second) :
    SharedFate (.ok first) (.ok second)

theorem SharedFate.bind {first second : Except Response Request} (shared : SharedFate first second)
    {firstStep secondStep : Request → Except Response Request}
    (steps : ∀ one other, SeenAlike one other → SharedFate (firstStep one) (secondStep other)) :
    SharedFate (first >>= firstStep) (second >>= secondStep) := by
  cases shared with
  | stopped plain => exact .stopped plain
  | handed alike => exact steps _ _ alike

theorem SharedFate.mapError {first second : Except Response Request}
    (shared : SharedFate first second) {change : Response → Response}
    (keeps : ∀ response, response.compressed = false → (change response).compressed = false) :
    SharedFate (first.mapError change) (second.mapError change) := by
  cases shared with
  | stopped plain => exact .stopped (keeps _ plain)
  | handed alike => exact .handed alike

variable {first second : Request} (alike : SeenAlike first second)

include alike

theorem sharedFate_letIn (subnet : Subnet) :
    SharedFate (letIn subnet first) (letIn subnet second) := by
  rw [letIn, letIn, alike.reported]
  cases subnet.accept (second.header? headerNames.realIp) with
  | ok ip => exact .handed alike
  | error problem => exact .stopped rfl

theorem sharedFate_take : SharedFate (take first) (take second) := by
  rw [take, take, alike.body]
  split
  · exact .stopped rfl
  · exact .handed alike

theorem sharedFate_decrypt (key : Rsa.PrivateKey) :
    SharedFate (decrypt key first) (decrypt key second) := by
  refine (sharedFate_take alike).bind fun one other alike => ?_
  rw [alike.body]
  split
  · exact .handed alike
  · cases key.unseal other.body with
    | ok body => exact .handed (alike.withBody body)
    | error problem => exact .stopped rfl

theorem sharedFate_check (key : SigningKey) : SharedFate (check key first) (check key second) := by
  have sameTag : givenTag? first = givenTag? second := by
    rw [givenTag?, givenTag?, alike.tagged]
  rw [check, check, sameTag]
  cases givenTag? second with
  | none => exact .handed alike
  | some tag =>
    refine (sharedFate_take alike).bind fun one other alike => ?_
    rw [alike.body]
    cases key.verify other.body tag with
    | ok accepted => exact .handed alike
    | error problem => exact .stopped rfl

theorem sharedFate_expand : SharedFate (expand first) (expand second) := by
  rw [expand, expand, alike.coded]
  split
  · refine (sharedFate_take alike).bind fun one other alike => ?_
    rw [alike.body]
    cases Gzip.decompress other.body with
    | ok body => exact .handed (alike.withBody body)
    | error fault => exact .stopped rfl
  · exact .handed alike

end Stage

namespace Gateway

open Stage (SharedFate)
open Request (SeenAlike)

/-! ### The stages around the check of the tag -/

/-- What gets behind the check of the tag, or the answer of the stage that stops it. -/
def checked (gateway : Gateway) (request : Request) : Except Response Request := do
  let admitted ← optionally Stage.letIn gateway.subnet request
  let decrypted ← optionally Stage.decrypt gateway.privateKey admitted
  optionally Stage.check gateway.signingKey decrypted

/-- What gets to the routes, or the answer of the stage that stops it. -/
def passed (gateway : Gateway) (request : Request) : Except Response Request := do
  let handed ← gateway.checked request
  (Stage.expand handed).mapError gateway.told

/-- A response as it goes out: it bears the number of its request, and the head alone is sent to
one who asked for that. -/
def finished (number : UInt64) (request : Request) (response : Response) : Response :=
  withoutBody request
    { response with trace := some (Hex.encode (Bytes.bigEndian 8 number.toNat)) }

theorem finished_of_ne {request : Request} (notHead : request.method ≠ "HEAD") (number : UInt64)
    (response : Response) :
    finished number request response =
      { response with trace := some (Hex.encode (Bytes.bigEndian 8 number.toNat)) } :=
  if_neg notHead

variable {first second : Request}

theorem sharedFate_optionally {Setting : Type}
    {step : Setting → Request → Except Response Request} (alike : SeenAlike first second)
    (shares : ∀ setting, SharedFate (step setting first) (step setting second))
    (setting : Option Setting) :
    SharedFate (optionally step setting first) (optionally step setting second) := by
  cases setting with
  | none => exact .handed alike
  | some setting => exact shares setting

theorem sharedFate_checked (gateway : Gateway) (alike : SeenAlike first second) :
    SharedFate (gateway.checked first) (gateway.checked second) := by
  refine (sharedFate_optionally alike (Stage.sharedFate_letIn alike) _).bind
    fun one other alike => ?_
  refine (sharedFate_optionally alike (Stage.sharedFate_decrypt alike) _).bind
    fun one other alike => ?_
  exact sharedFate_optionally alike (Stage.sharedFate_check alike) _

theorem plain_told (gateway : Gateway) {response : Response} (plain : response.compressed = false) :
    (gateway.told response).compressed = false := by
  rw [told]
  split
  · exact plain
  · rw [Stage.signed]
    split
    · rfl
    · exact plain

theorem sharedFate_passed (gateway : Gateway) (alike : SeenAlike first second) :
    SharedFate (gateway.passed first) (gateway.passed second) :=
  (gateway.sharedFate_checked alike).bind fun _ _ alike =>
    (Stage.sharedFate_expand alike).mapError fun _ => gateway.plain_told

/-- What is handed on differs from what has come in by its body at most. -/
theorem of_checked {gateway : Gateway} {request handed : Request}
    (passed : gateway.checked request = .ok handed) : ∃ body, handed = { request with body } := by
  obtain ⟨first, isFirst, behindFirst⟩ := Service.ok_of_bind passed
  obtain ⟨second, isSecond, isThird⟩ := Service.ok_of_bind behindFirst
  have admitted : first = request := by
    cases isSubnet : gateway.subnet with
    | none =>
      rw [isSubnet] at isFirst
      exact (Except.ok.inj isFirst).symm
    | some subnet =>
      rw [isSubnet, optionally, Stage.letIn] at isFirst
      split at isFirst
      · exact (Except.ok.inj isFirst).symm
      · cases isFirst
  obtain ⟨body, isBody, _⟩ := of_decrypted isSecond
  have checked : handed = second := by
    cases isKey : gateway.signingKey with
    | none =>
      rw [isKey] at isThird
      exact (Except.ok.inj isThird).symm
    | some key =>
      rw [isKey] at isThird
      exact (Stage.of_check_ok isThird).1
  exact ⟨body, by rw [checked, isBody, admitted]⟩

theorem of_passed {gateway : Gateway} {request handed : Request}
    (passed : gateway.passed request = .ok handed) : ∃ body, handed = { request with body } := by
  obtain ⟨first, isFirst, isSecond⟩ := Service.ok_of_bind passed
  obtain ⟨_, rfl⟩ := of_checked isFirst
  obtain ⟨body, isBody, _⟩ := Stage.of_expand_ok (Service.ok_of_mapError isSecond)
  exact ⟨body, isBody⟩

variable {Store : Type} [Repository Store]

omit [Repository Store] in
theorem optionally_admitted (setting : Option Subnet) (next : Handler Store) :
    Stage.optionally Stage.admitted setting next =
      Stage.behind (optionally Stage.letIn setting) next := by
  cases setting with
  | none => rfl
  | some subnet =>
    have isStep : optionally Stage.letIn (some subnet) = Stage.letIn subnet := by
      funext request
      rw [optionally]
    rw [isStep, Stage.optionally, Stage.admitted_eq]

theorem staged_eq_checked [Gzip.Deflater] (gateway : Gateway) :
    (gateway.staged : Handler Store) =
      Stage.behind gateway.checked (gateway.telling (Stage.expanded routed)) := by
  rw [staged, optionally_vouched, optionally_decrypted, behind_behind, optionally_admitted,
    behind_behind]
  rfl

theorem staged_eq_passed [Gzip.Deflater] (gateway : Gateway) :
    (gateway.staged : Handler Store) = Stage.behind gateway.passed (gateway.telling routed) := by
  rw [staged_eq_checked, Stage.expanded_eq, telling_behind, behind_behind]
  rfl

/-- What is served by stages that come to one step. -/
theorem serve_behind [Gzip.Deflater] {gateway : Gateway} {step : Request → Except Response Request}
    {next : Handler Store}
    (isStaged : gateway.staged = Stage.behind step (gateway.telling next)) (number : UInt64)
    (request : Request) (store : Store) :
    gateway.serve number request store =
      match step request with
      | .error response => (finished number request response, store)
      | .ok handed =>
        (finished number request (gateway.told (next handed store).1), (next handed store).2) := by
  have served : gateway.serve number request store =
      (finished number request (gateway.staged request store).1,
        (gateway.staged request store).2) := rfl
  rw [served, isStaged, Stage.behind]
  cases step request <;> rfl

/-! ### Answers before compression -/

/-- The answer at the route that the path leads to, as it is before compression. -/
def answered : Handler Store := fun request =>
  match Route.ofPath? request.path with
  | none => pure (.bare 404)
  | some route =>
    if route.takes request.method then Endpoint.answer route request
    else pure { Response.bare 405 with allowed := some route.allowed }

/-- Whether the answer to a request is to be compressed. -/
def isWanted (request : Request) : Bool :=
  (Route.ofPath? request.path).any Route.isCompressed &&
    request.listsGzip headerNames.wantedCoding

theorem routed_eq [Gzip.Deflater] (request : Request) (store : Store) :
    routed request store =
      (if isWanted request then Stage.compress (answered request store).1
        else (answered request store).1, (answered request store).2) := by
  cases isRoute : Route.ofPath? request.path with
  | none =>
    simp only [routed, isWanted, answered, isRoute]
    rfl
  | some route =>
    cases isCompressed : route.isCompressed with
    | false =>
      simp only [routed, isWanted, answered, isRoute, isCompressed, Option.any, Bool.false_and,
        Bool.false_eq_true, if_false]
      rfl
    | true =>
      simp only [routed, isWanted, answered, isRoute, isCompressed, Option.any, Bool.true_and,
        if_true]
      rfl

end Gateway

namespace Endpoint

variable {Store Answer : Type} {store : Store}

theorem plain_responding {respond : Answer → Response}
    (plain : ∀ answer, (respond answer).compressed = false) (call : Call Store Answer) :
    (responding respond call store).1.compressed = false := by
  rw [responding_eq]
  cases (call store).1 with
  | ok answer => exact plain answer
  | error problem => rfl

theorem plain_withBody {request : Request} {work : Bytes → StateM Store Response}
    (plain : (work request.body store).1.compressed = false) :
    (withBody request work store).1.compressed = false := by
  rw [withBody]
  by_cases long : bodyLimit < request.body.length
  · rw [if_pos long]
    rfl
  · rwa [if_neg long]

theorem plain_withParameters {parameters : Except String Answer}
    {work : Answer → StateM Store Response}
    (plain : ∀ values, (work values store).1.compressed = false) :
    (withParameters parameters work store).1.compressed = false := by
  cases parameters with
  | ok values => exact plain values
  | error name => rfl

variable [Repository Store]

/-- No endpoint compresses its answers. -/
theorem plain_answer (route : Route) (request : Request) :
    (answer route request store).1.compressed = false := by
  cases route with
  | listing => exact plain_responding (fun _ => rfl) _
  | ping => exact plain_responding (fun _ => rfl) _
  | updateOne => exact plain_withBody (plain_responding (fun _ => rfl) _)
  | updateBatch => exact plain_withBody (plain_responding (fun _ => rfl) _)
  | query => exact plain_withBody (plain_responding (fun _ => rfl) _)
  | updatePath kind key number =>
    exact plain_withParameters fun _ => plain_responding (fun _ => rfl) _
  | valuePath kind key => exact plain_withParameters fun _ => plain_responding (fun _ => rfl) _

/-- Of a request, an endpoint looks at nothing but the body. -/
theorem answer_congr (route : Route) {first second : Request} (same : first.body = second.body) :
    (answer route first : StateM Store Response) = answer route second := by
  cases route <;> simp only [answer, withBody, same]

end Endpoint

/-- The tag of a body does not vouch for one with another keyed hash. -/
theorem SigningKey.verify_tag_of_ne {key : SigningKey} {body other : Bytes}
    (differ : Hmac.sign key.secret other ≠ Hmac.sign key.secret body) :
    key.verify body (key.tag other) = .error .mismatch := by
  rw [verify, tag, Hex.trim_encode, Hex.decode_encode]
  exact if_neg differ

/-- A body that is not empty is compressed. -/
theorem Stage.compress_eq [Gzip.Deflater] {response : Response}
    (plain : response.compressed = false) (some : response.body ≠ [])
    (short : response.body.length ≤ stageLimit) :
    compress response =
      { response with compressed := true, body := Gzip.compress response.body } := by
  rw [compress, plain, if_neg Bool.false_ne_true, if_neg (Nat.not_lt.mpr short),
    if_neg (mt List.isEmpty_iff.mp some)]

/-- A response with a tag that vouches for its body. -/
def Response.IsVouched (key : SigningKey) (response : Response) : Prop :=
  ∃ tag, response.tag = some tag ∧ key.verify response.body tag = .ok ()

namespace Gateway

open Stage (SharedFate)
open Request (SeenAlike)

variable {Store : Type} [Repository Store] {first second : Request}

theorem answered_congr (alike : SeenAlike first second) :
    (answered first : StateM Store Response) = answered second := by
  rw [answered, answered, alike.path]
  cases Route.ofPath? second.path with
  | none => rfl
  | some route =>
    dsimp only
    rw [alike.taken, Endpoint.answer_congr route alike.body]

theorem plain_answered (request : Request) (store : Store) :
    (answered request store).1.compressed = false := by
  cases isRoute : Route.ofPath? request.path with
  | none =>
    simp only [answered, isRoute]
    rfl
  | some route =>
    simp only [answered, isRoute]
    by_cases takes : route.takes request.method = true
    · rw [if_pos takes]
      exact Endpoint.plain_answer route request
    · rw [if_neg takes]
      rfl

/-- What is answered to one who sends a plain body and wants a compressed one. -/
theorem expanded_of_wanted [Gzip.Deflater] {request : Request}
    (plain : request.listsGzip headerNames.bodyCoding = false) (wanted : isWanted request = true)
    (store : Store) :
    (Stage.expanded routed request store).1 = Stage.compress (answered request store).1 := by
  have handed : (Stage.expanded routed request : StateM Store Response) = routed request := by
    rw [Stage.expanded, plain, if_neg Bool.false_ne_true]
  rw [handed, routed_eq, if_pos wanted]

/-! ### Contents and tags -/

/-- Where a response is not too long to be told as it is, compressing it changes neither its
status nor its content. -/
theorem content?_told_compress [Gzip.Deflater] [Gzip.LawfulDeflater] (gateway : Gateway)
    {response : Response} (plain : response.compressed = false)
    (short : (gateway.told response).body.length ≤ stageLimit)
    (packed : (Gzip.compress (gateway.told response).body).length ≤ stageLimit) :
    (gateway.told (Stage.compress response)).status = (gateway.told response).status ∧
      (gateway.told (Stage.compress response)).content? = some (gateway.told response).body := by
  by_cases long : stageLimit < response.body.length
  · have tooLong : Stage.compress response = .bare 500 := by
      rw [Stage.compress, plain, if_neg Bool.false_ne_true, if_pos long]
    rw [tooLong, gateway.told_of_short (Nat.zero_le _)]
    rw [told] at short ⊢
    cases isKey : gateway.signingKey with
    | none =>
      -- nothing stands behind an endpoint that would cut its answer off
      rw [isKey] at short
      exact absurd long (Nat.not_lt.mpr short)
    | some key =>
      have cutOff : Stage.signed key response = .bare 500 := if_pos long
      dsimp only
      rw [cutOff]
      exact ⟨rfl, rfl⟩
  · have isShort : response.body.length ≤ stageLimit := Nat.not_lt.mp long
    rw [gateway.told_of_short isShort] at packed ⊢
    obtain ⟨status, content, stillShort⟩ := Stage.fits_compress ⟨plain, isShort, packed⟩
    rw [gateway.told_of_short stillShort]
    exact ⟨status, content⟩

/-! ### What reaches the sender -/

variable (gateway : Gateway) (number : UInt64) (store : Store)

theorem finished_told [Gzip.Deflater] (request : Request) (wanted : Bool) (response : Response) :
    finished number request (gateway.told (if wanted then Stage.compress response else response)) =
      withoutBody request (gateway.sent number wanted response) := rfl

/-- Requests that are alike get one response of the stage that stops both, or what one place
answers both, compressed for those who want it. -/
theorem serve_alike [Gzip.Deflater] (alike : SeenAlike first second) :
    (∃ response : Response, response.compressed = false ∧
      gateway.serve number first store = (finished number first response, store) ∧
      gateway.serve number second store = (finished number second response, store)) ∨
    ∃ response : Response, ∃ after, response.compressed = false ∧
      gateway.serve number first store =
        (withoutBody first (gateway.sent number (isWanted first) response), after) ∧
      gateway.serve number second store =
        (withoutBody second (gateway.sent number (isWanted second) response), after) := by
  have fate := gateway.sharedFate_passed alike
  rw [serve_behind gateway.staged_eq_passed, serve_behind gateway.staged_eq_passed]
  generalize isFirst : gateway.passed first = firstOutcome at fate ⊢
  generalize isSecond : gateway.passed second = secondOutcome at fate ⊢
  cases fate with
  | stopped plain => exact Or.inl ⟨_, plain, rfl, rfl⟩
  | handed alike =>
    obtain ⟨_, rfl⟩ := of_passed isFirst
    obtain ⟨_, rfl⟩ := of_passed isSecond
    have sameAnswer := @answered_congr Store _ _ _ alike
    dsimp only
    rw [routed_eq, routed_eq, ← sameAnswer, finished_told, finished_told]
    exact Or.inr ⟨_, _, plain_answered _ store, rfl, rfl⟩

/-- Requests that differ in the codings that are wanted get one content, compressed or not, as long
as it is short enough for the stages. -/
theorem content?_of_without [Gzip.Deflater] [Gzip.LawfulDeflater] {asking plain : Request}
    (same : asking.without headerNames.wantedCoding = plain.without headerNames.wantedCoding)
    (notHead : asking.method ≠ "HEAD")
    (notWanted : plain.listsGzip headerNames.wantedCoding = false)
    (short : (gateway.serve number plain store).1.body.length ≤ stageLimit)
    (packed : (Gzip.compress (gateway.serve number plain store).1.body).length ≤ stageLimit) :
    (gateway.serve number plain store).1.compressed = false ∧
      (gateway.serve number asking store).1.status = (gateway.serve number plain store).1.status ∧
      (gateway.serve number asking store).1.content? =
        some (gateway.serve number plain store).1.body ∧
      (gateway.serve number asking store).2 = (gateway.serve number plain store).2 := by
  have alike := Request.seenAlike_of_without same
  have plainNotHead : plain.method ≠ "HEAD" := (Request.mk.inj same).1 ▸ notHead
  have plainOf {response : Response} (plain : response.compressed = false) :
      response.content? = some response.body := by
    rw [Response.content?, plain]
    rfl
  rcases serve_alike gateway number store alike with
    ⟨response, isPlain, servedAsking, servedPlain⟩ |
    ⟨response, after, isPlain, servedAsking, servedPlain⟩
  · rw [servedAsking, servedPlain, finished_of_ne notHead, finished_of_ne plainNotHead]
    exact ⟨isPlain, rfl, plainOf isPlain, rfl⟩
  · have isNotWanted : isWanted plain = false := by rw [isWanted, notWanted, Bool.and_false]
    rw [servedPlain, withoutBody, if_neg plainNotHead, isNotWanted] at short packed ⊢
    rw [servedAsking, withoutBody, if_neg notHead]
    have isToldPlain := gateway.plain_told isPlain
    cases isWanted asking with
    | false => exact ⟨isToldPlain, rfl, plainOf isToldPlain, rfl⟩
    | true =>
      obtain ⟨status, content⟩ := gateway.content?_told_compress isPlain short packed
      exact ⟨isToldPlain, status, content, rfl⟩

/-- One who asks for the head alone is answered like one who asks for the whole, and then the body
is dropped. -/
theorem serve_head [Gzip.Deflater] (request : Request) :
    gateway.serve number { request with method := "HEAD" } store =
      ({ (gateway.serve number { request with method := "GET" } store).1 with body := [] },
        (gateway.serve number { request with method := "GET" } store).2) := by
  rcases serve_alike gateway number store (Request.seenAlike_head request) with
    ⟨response, _, servedHead, servedWhole⟩ | ⟨response, after, _, servedHead, servedWhole⟩
  · rw [servedHead, servedWhole]
    rfl
  · rw [servedHead, servedWhole]
    rfl

/-- What comes from behind the check of the tag is signed before it goes out. -/
theorem signed_of_checked [Gzip.Deflater] {key : SigningKey} (isKey : gateway.signingKey = some key)
    {request handed : Request} (passed : gateway.checked request = .ok handed)
    (notHead : request.method ≠ "HEAD") :
    (gateway.serve number request store).1 =
      { Stage.signed key (Stage.expanded routed handed store).1 with
        trace := some (Hex.encode (Bytes.bigEndian 8 number.toNat)) } := by
  rw [serve_behind gateway.staged_eq_checked, passed]
  dsimp only
  rw [finished_of_ne notHead, told, isKey]

/-- Whatever a server asks of its clients and whatever it stores: requests that differ in the
codings that are wanted get one status and one content, if that is short enough to be taken up,
compressed or not; what comes from behind the check of the tag bears the tag of the very body that
goes out, unless it is too long and an empty response goes out in its place; and to one who asks
for the head alone everything is told as to one who asks for the whole, the tag as well, without
the body. -/
theorem answers_transparent_and_signed [Gzip.Deflater] [Gzip.LawfulDeflater] :
    (∀ asking plain : Request,
      asking.without headerNames.wantedCoding = plain.without headerNames.wantedCoding →
      asking.method ≠ "HEAD" → plain.listsGzip headerNames.wantedCoding = false →
      let told := gateway.serve number asking store
      let own := gateway.serve number plain store
      own.1.body.length ≤ stageLimit → (Gzip.compress own.1.body).length ≤ stageLimit →
      own.1.compressed = false ∧ told.1.status = own.1.status ∧
        told.1.content? = some own.1.body ∧ told.2 = own.2) ∧
    (∀ key request handed, gateway.signingKey = some key →
      gateway.checked request = .ok handed → request.method ≠ "HEAD" →
      let produced := (Stage.expanded routed handed store).1
      let answer := (gateway.serve number request store).1
      (produced.body.length ≤ stageLimit → answer.status = produced.status ∧
        answer.compressed = produced.compressed ∧ answer.body = produced.body ∧
        answer.IsVouched key) ∧
      (stageLimit < produced.body.length →
        answer.status = 500 ∧ answer.body = [] ∧ answer.tag = none)) ∧
    ∀ request : Request,
      let whole := gateway.serve number { request with method := "GET" } store
      gateway.serve number { request with method := "HEAD" } store =
        ({ whole.1 with body := [] }, whole.2) := by
  refine ⟨fun asking plain same notHead notWanted => ?_, ?_, gateway.serve_head number store⟩
  · exact gateway.content?_of_without number store same notHead notWanted
  · intro key request handed isKey passed notHead produced answer
    have isAnswer : answer = _ := gateway.signed_of_checked number store isKey passed notHead
    refine ⟨fun short => ?_, fun long => ?_⟩
    · rw [isAnswer, Stage.signed, if_neg (Nat.not_lt.mpr short)]
      exact ⟨rfl, rfl, rfl, _, rfl, key.verify_tag _⟩
    · rw [isAnswer, Stage.signed, if_pos long]
      exact ⟨rfl, rfl, rfl⟩

/-- A counter that one asks for compressed, behind a check of tags. -/
theorem answers_transparent_and_signed_counter :
    let key := SigningKey.ofText "k"
    let gateway : Gateway := ⟨none, some key, none⟩
    let store := (gateway.serve 1 ⟨"POST", "/update/counter/hits/4", [], []⟩
      (Storage.memory MemoryStore.ephemeral)).2
    let asking : Request := ⟨"GET", "/value/counter/hits",
      [("Accept-Encoding", "br"), ("Accept-Encoding", "identity, gzip")], []⟩
    let answer := (gateway.serve 2 asking store).1
    answer.compressed = true ∧ answer.status = 200 ∧
      answer.content? = some (Bytes.ofText "4") ∧ answer.IsVouched key := by
  intro key gateway store asking answer
  let plain : Request := ⟨"GET", "/value/counter/hits", [], []⟩
  have isOwn : (gateway.serve 2 plain store).1.body = Bytes.ofText "4" := by decide +kernel
  have isStatus : (gateway.serve 2 plain store).1.status = 200 := by decide +kernel
  have isBody : (answered asking store).1.body = Bytes.ofText "4" := by decide +kernel
  have fits : (answered asking store).1.Fits :=
    Response.Short.fits ⟨plain_answered asking store, by rw [isBody]; decide +kernel⟩
  have produced : (Stage.expanded routed asking store).1 =
      Stage.compress (answered asking store).1 :=
    expanded_of_wanted (by decide +kernel) (by decide +kernel) store
  have passed : gateway.checked asking = .ok asking := by decide +kernel
  have notHead : asking.method ≠ "HEAD" := by decide
  obtain ⟨transparent, signed, _⟩ := answers_transparent_and_signed gateway 2 store
  obtain ⟨_, status, content, _⟩ := transparent asking plain (by decide +kernel) notHead
    (by decide +kernel) (by rw [isOwn]; decide +kernel) (by rw [isOwn]; decide +kernel)
  have short := (signed key asking asking rfl passed notHead).1
  rw [produced] at short
  obtain ⟨_, compressed, _, vouched⟩ := short (Stage.fits_compress fits).2.2
  rw [isOwn] at content
  refine ⟨compressed.trans ?_, status.trans isStatus, content, vouched⟩
  rw [Stage.compress_eq fits.plain (by rw [isBody]; decide +kernel) fits.short]

/-- The answer of a server to one who asks for the head of a page is signed with the page, so that
its tag does not vouch for the empty body that goes out. -/
theorem head_is_signed_with_dropped_body :
    let key := SigningKey.ofText "k"
    let gateway : Gateway := ⟨none, some key, none⟩
    let request : Request := ⟨"HEAD", "/ping", [], []⟩
    let answer := (gateway.serve 1 request (Storage.memory MemoryStore.ephemeral)).1
    gateway.checked request = .ok request ∧ answer.body = [] ∧ answer.tag.isSome = true ∧
      ¬ answer.IsVouched key := by
  intro key gateway request answer
  let whole : Request := ⟨"GET", "/ping", [], []⟩
  let store : Storage := .memory MemoryStore.ephemeral
  have produced : (Stage.expanded routed whole store).1 = .plain 200 "OK" := by decide +kernel
  have isTag : answer.tag = some (key.tag (Bytes.ofText "OK")) := by
    have isWhole := gateway.signed_of_checked 1 store rfl
      (show gateway.checked whole = .ok whole by decide +kernel) (by decide)
    have isHead : answer = _ := congrArg Prod.fst (gateway.serve_head 1 store request)
    rw [isHead, isWhole, produced, Stage.signed, if_neg (by decide +kernel)]
    rfl
  have isBody : answer.body = [] := by decide +kernel
  have mismatch : key.verify [] (key.tag (Bytes.ofText "OK")) = .error .mismatch :=
    SigningKey.verify_tag_of_ne (by decide +kernel)
  refine ⟨by decide +kernel, isBody, by rw [isTag]; rfl, ?_⟩
  rintro ⟨tag, same, vouches⟩
  obtain rfl := Option.some.inj (isTag.symm.trans same)
  rw [isBody, mismatch] at vouches
  cases vouches

end Gateway

end Metering
