/-
How long the bodies are that a stage hands on. No stage takes up a body above the limit, it refuses
the request. What is decrypted is no longer than what has come in, and what is checked is what has
come in, so that both stay within the limit; what is expanded does not. It is all of the content,
which can be up to 1,032 times as long as the body that was taken up.
-/

import Metering.Proofs.Cipher.Blocks
import Metering.Proofs.Gateway.Query
import Metering.Proofs.Gzip.Expansion

namespace Metering

variable {Store : Type}

namespace Stage

/-! ### What a stage does with a request -/

/-- A stage refuses a request whatever stands behind it. -/
def Refuses (stage : Handler Store → Handler Store) (request : Request) : Prop :=
  ∃ response : Response, response.status = 400 ∧ ∀ next, stage next request = pure response

/-- A stage hands a request on to whatever stands behind it, and may change the response. -/
def HandsOn (stage : Handler Store → Handler Store) (request handed : Request) : Prop :=
  ∃ told : Response → Response, ∀ next,
    stage next request = do return told (← next handed)

/-- A stage takes up bodies within the limit, of the requests that it looks into, and hands on
bodies of at most so many bytes; other requests it hands on as they are. -/
structure TakesUp (stage : Handler Store → Handler Store) (looksInto : Request → Bool)
    (most : Request → Nat) : Prop where
  long : ∀ request, looksInto request = true → stageLimit < request.body.length →
    Refuses stage request
  short : ∀ request, looksInto request = true → request.body.length ≤ stageLimit →
    Refuses stage request ∨
      ∃ handed, HandsOn stage request handed ∧ handed.body.length ≤ most request
  other : ∀ request, looksInto request = false → HandsOn stage request request

section Steps

variable {stage : Handler Store → Handler Store} {step : Request → Except Response Request}
  {told : Response → Response}
  (isStage : ∀ next, stage next = behind step fun request => do return told (← next request))

include isStage

theorem handsOn_of_handed {request handed : Request} (isHanded : step request = .ok handed) :
    HandsOn stage request handed := by
  refine ⟨told, fun next => ?_⟩
  rw [isStage, behind, isHanded]

theorem refuses_of_stopped {request : Request} {response : Response}
    (stopped : step request = .error response) (isRefusal : response.status = 400) :
    Refuses stage request := by
  refine ⟨response, isRefusal, fun next => ?_⟩
  rw [isStage, behind, stopped]

/-- What a stage does with bodies is what its step does with them. -/
theorem takesUp_of_step {looksInto : Request → Bool} {most : Request → Nat}
    (stops : ∀ request response, step request = .error response → response.status = 400)
    (long : ∀ request, looksInto request = true → stageLimit < request.body.length →
      ∃ response, step request = .error response)
    (short : ∀ request handed, looksInto request = true → request.body.length ≤ stageLimit →
      step request = .ok handed → handed.body.length ≤ most request)
    (other : ∀ request, looksInto request = false → step request = .ok request) :
    TakesUp stage looksInto most where
  long request looks isLong := by
    obtain ⟨response, stopped⟩ := long request looks isLong
    exact refuses_of_stopped isStage stopped (stops request response stopped)
  short request looks isShort := by
    cases isStep : step request with
    | error response => exact Or.inl (refuses_of_stopped isStage isStep (stops _ _ isStep))
    | ok handed =>
      exact Or.inr ⟨handed, handsOn_of_handed isStage isStep, short _ _ looks isShort isStep⟩
  other request ignored := handsOn_of_handed isStage (other request ignored)

end Steps

/-! ### Steps that take up a body -/

variable {step : Request → Except Response Request} {request : Request}

theorem stopped_of_long (long : stageLimit < request.body.length) :
    ∃ response, (take request >>= step) = .error response := by
  refine ⟨refusal "cannot read request body: length limit exceeded", ?_⟩
  rw [take, if_pos long]
  rfl

theorem status_of_stopped
    (stops : ∀ taken response, step taken = .error response → response.status = 400)
    {response : Response} (stopped : (take request >>= step) = .error response) :
    response.status = 400 := by
  rw [take] at stopped
  split at stopped
  · obtain rfl := Except.error.inj stopped
    rfl
  · exact stops request response stopped

/-- What is decrypted is no longer than what was taken up. -/
theorem takesUp_decrypted (key : Rsa.PrivateKey) :
    TakesUp (decrypted key : Handler Store → Handler Store) (fun _ => true)
      fun _ => stageLimit := by
  have isStage (next : Handler Store) :
      decrypted key next = behind (decrypt key) fun request => do return id (← next request) :=
    decrypted_eq next key
  refine takesUp_of_step isStage (fun request response => ?_)
    (fun request _ long => stopped_of_long long) (fun request handed _ isShort done => ?_) nofun
  · refine status_of_stopped fun taken response stopped => ?_
    split at stopped
    · cases stopped
    · split at stopped
      · cases stopped
      · obtain rfl := Except.error.inj stopped
        rfl
  · obtain ⟨body, rfl, isBody⟩ := of_decrypt_ok done
    split at isBody
    · rw [isBody]
      exact isShort
    · exact (Rsa.length_le_of_unseal key isBody).trans isShort

/-- What is checked is what was taken up. -/
theorem takesUp_vouched (key : SigningKey) :
    TakesUp (vouched key : Handler Store → Handler Store)
      (fun request => (givenTag? request).isSome) fun _ => stageLimit := by
  have isStage (next : Handler Store) : vouched key next =
      behind (check key) fun request => do return signed key (← next request) :=
    vouched_eq next key
  refine takesUp_of_step isStage (fun request response stopped => ?_)
    (fun request tagged long => ?_) (fun request handed _ isShort done => ?_)
    fun request untagged => ?_
  · rw [check] at stopped
    split at stopped
    · cases stopped
    · refine status_of_stopped (fun taken response stopped => ?_) stopped
      split at stopped
      · cases stopped
      · obtain rfl := Except.error.inj stopped
        rfl
  · obtain ⟨tag, given⟩ := Option.isSome_iff_exists.mp tagged
    rw [check, given]
    exact stopped_of_long long
  · rw [(of_check_ok done).1]
    exact isShort
  · exact check_untagged (Option.isNone_iff_eq_none.mp (Option.isSome_eq_false_iff.mp untagged))

theorem expanded_isStage (next : Handler Store) :
    expanded next = behind expand fun request => do return id (← next request) :=
  expanded_eq next

/-- What is expanded is up to 1,032 times as long as what was taken up. -/
theorem takesUp_expanded :
    TakesUp (expanded : Handler Store → Handler Store)
      (fun request => request.listsGzip headerNames.bodyCoding)
      fun request => 1032 * request.body.length := by
  refine takesUp_of_step expanded_isStage (fun request response stopped => ?_)
    (fun request lists long => ?_) (fun request handed lists _ done => ?_)
    fun request plain => ?_
  · rw [expand] at stopped
    split at stopped
    · refine status_of_stopped (fun taken response stopped => ?_) stopped
      split at stopped
      · cases stopped
      · obtain rfl := Except.error.inj stopped
        rfl
    · cases stopped
  · rw [expand, if_pos lists]
    exact stopped_of_long long
  · obtain ⟨body, rfl, isBody⟩ := of_expand_ok done
    rw [if_pos lists] at isBody
    exact Gzip.length_decompress_le isBody
  · rw [expand, plain, if_neg Bool.false_ne_true]

/-- The bodies that the stages take up and hand on. What is decrypted or checked is within the
limit as it comes in and as it goes on, and what is above it is refused. What is expanded is within
the limit as it comes in; it goes on with all of its content, up to 1,032 times as long. -/
theorem bodies_taken_up :
    (∀ key, TakesUp (decrypted key : Handler Store → Handler Store) (fun _ => true)
      fun _ => stageLimit) ∧
    (∀ key, TakesUp (vouched key : Handler Store → Handler Store)
      (fun request => (givenTag? request).isSome) fun _ => stageLimit) ∧
    TakesUp (expanded : Handler Store → Handler Store)
      (fun request => request.listsGzip headerNames.bodyCoding)
      (fun request => 1032 * request.body.length) ∧
    ∀ request content, request.listsGzip headerNames.bodyCoding = true →
      request.body.length ≤ stageLimit → Gzip.decompress request.body = .ok content →
      HandsOn (expanded : Handler Store → Handler Store) request { request with body := content } :=
  ⟨takesUp_decrypted, takesUp_vouched, takesUp_expanded, fun _ _ lists short opened =>
    handsOn_of_handed expanded_isStage (expand_ok lists short opened)⟩

/-- A body of one byte too many is refused, and three bytes come out of their member. -/
theorem bodies_taken_up_three_bytes :
    let long : Request := ⟨"POST", "/updates/", [], List.replicate (stageLimit + 1) 0⟩
    let packed : Request :=
      ⟨"POST", "/updates/", [("Content-Encoding", "gzip")], Gzip.compress [1, 2, 3]⟩
    Refuses (decrypted Rsa.PrivateKey.mersenne : Handler Storage → Handler Storage) long ∧
      HandsOn (expanded : Handler Storage → Handler Storage) packed
        { packed with body := [1, 2, 3] } := by
  intro long packed
  obtain ⟨ofDecrypted, _, _, ofExpanded⟩ := @bodies_taken_up Storage
  have tooLong : stageLimit < long.body.length := by
    rw [List.length_replicate]
    exact Nat.lt_succ_self _
  have short : packed.body.length ≤ stageLimit :=
    (Gzip.length_compress_le [1, 2, 3]).trans (by decide)
  exact ⟨(ofDecrypted _).long long rfl tooLong,
    ofExpanded packed _ (by decide +kernel) short (Gzip.decompress_compress _)⟩

end Stage

/-! ### Bodies that grow beyond the limit -/

theorem Request.listsGzip_congr {first second : Request} (same : first.headers = second.headers)
    (name : String) : first.listsGzip name = second.listsGzip name := by
  rw [listsGzip, listsGzip, headerValues, headerValues, same]

/-- A request for nothing, with zeros in its body: 23 bytes, and 12 for each 1,549 zeros. -/
def Request.ofZeros (count : Nat) : Request :=
  ⟨"GET", "/ping", [("Content-Encoding", "gzip")], Gzip.zeroMember count⟩

theorem Stage.expand_ofZeros {count : Nat} (short : 12 * count + 23 ≤ stageLimit) :
    expand (.ofZeros count) =
      .ok { Request.ofZeros count with body := (Gzip.zeros (1549 * count)).toList } := by
  have plain : (⟨"GET", "/ping", [("Content-Encoding", "gzip")], []⟩ : Request).listsGzip
      headerNames.bodyCoding = true := by decide +kernel
  refine expand_ok ?_ ?_ (Gzip.decompress_zeroMember count)
  · rw [← plain]
    exact Request.listsGzip_congr rfl _
  · rwa [Request.ofZeros, Gzip.length_zeroMember]

/-- Where nothing is asked of the clients, expansion is all that is done to a request. -/
theorem Gateway.opened_of_expand {request handed : Request}
    (isHanded : Stage.expand request = .ok handed) :
    (⟨none, none, none⟩ : Gateway).opened request = .ok handed := by
  rw [opened]
  show (Stage.expand request).mapError _ = _
  rw [isHanded]
  rfl

/-- A body of 130,007 bytes is handed on with more bytes than a stage takes up, and the request is
answered with success. -/
theorem Stage.expanded_above_limit :
    let request := Request.ofZeros 10832
    let gateway : Gateway := ⟨none, none, none⟩
    request.body.length = 130007 ∧
      (∃ handed, HandsOn (expanded : Handler Storage → Handler Storage) request handed ∧
        stageLimit < handed.body.length) ∧
      (gateway.serve 1 request (Storage.memory MemoryStore.ephemeral)).1.status = 200 := by
  intro request gateway
  have handed := expand_ofZeros (show 12 * 10832 + 23 ≤ stageLimit by decide)
  refine ⟨Gzip.length_zeroMember 10832, ⟨_, handsOn_of_handed expanded_isStage handed, ?_⟩, ?_⟩
  · show stageLimit < (Gzip.zeros (1549 * 10832)).toList.length
    rw [Array.length_toList, Gzip.zeros, Array.size_replicate]
    decide
  · have opened := Gateway.opened_of_expand handed
    have accepted : ∀ subnet, gateway.subnet = some subnet →
        ∃ ip, subnet.accept (request.header? headerNames.realIp) = .ok ip := by
      intro subnet isSubnet
      cases isSubnet
    have isRoute : Route.ofPath? request.path = some .ping := by decide +kernel
    rw [Gateway.serve_of_takes accepted opened (by decide) 1 _ isRoute rfl]
    rfl

end Metering
