/-
For whom a response is compressed. Of the codings that a sender wants, the names alone count: one
who lists the coding of the server is sent a compressed body from the routes that read, whatever
weight stands beside the name, and one who does not list it never is. A weight of zero, with which
a sender refuses a coding, is therefore no refusal here.
-/

import Metering.Proofs.Gateway.Egress

namespace Metering

/-! ### Lists of codings -/

namespace Request

/-- The members of a list of codings that may be spread over several headers. -/
def listed (request : Request) (name : String) : List String :=
  ((request.headerValues name).filterMap readable?).flatMap (Text.pieces ',')

/-- Whether a member of a list names the coding that bodies are compressed with. -/
def namesGzip (member : String) : Bool := codingOf member == gzipCoding

theorem listsGzip_eq (request : Request) (name : String) :
    request.listsGzip name = (request.listed name).any namesGzip := by
  rw [listsGzip, listed, List.any_flatMap]
  rfl

/-- The weight that a parameter of a member tells, if it is one. -/
def weight? (parameter : String) : Option String :=
  match (Text.trim parameter).toList with
  | letter :: '=' :: digits =>
    if letter = 'q' ∨ letter = 'Q' then some (String.ofList digits) else none
  | _ => none

/-- Whether a weight is zero, with decimals or without. -/
def isZero (weight : String) : Bool :=
  match weight.toList with
  | '0' :: '.' :: decimals => decimals.all (· == '0')
  | digits => digits == ['0']

/-- Whether a member of a list refuses the coding that it names: its weight is zero. -/
def refuses (member : String) : Bool :=
  ((Text.pieces ';' member).tail.filterMap weight?).any isZero

end Request

/-! ### Compressed responses -/

namespace Stage

theorem of_compressed_compress [Gzip.Deflater] {response : Response}
    (plain : response.compressed = false) (compressed : (compress response).compressed = true) :
    response.body ≠ [] ∧ response.body.length ≤ stageLimit := by
  rw [compress, plain, if_neg Bool.false_ne_true] at compressed
  split at compressed
  · cases compressed
  · next short =>
    split at compressed
    · rw [plain] at compressed
      cases compressed
    · next some => exact ⟨mt List.isEmpty_iff.mpr some, Nat.not_lt.mp short⟩

end Stage

namespace Gateway

open Request (namesGzip refuses)

theorem compressed_told_iff (gateway : Gateway) (response : Response) :
    (gateway.told response).compressed = true ↔
      response.compressed = true ∧
        (gateway.signingKey = none ∨ response.body.length ≤ stageLimit) := by
  rw [told]
  split
  · next noKey => exact ⟨fun compressed => ⟨compressed, Or.inl noKey⟩, And.left⟩
  · next key isKey =>
    rw [Stage.signed]
    split
    · next long =>
      refine iff_of_false Bool.false_ne_true ?_
      rintro ⟨_, noKey | short⟩
      · rw [isKey] at noKey
        cases noKey
      · exact absurd long (Nat.not_lt.mpr short)
    · next short => exact ⟨fun compressed => ⟨compressed, Or.inr (Nat.not_lt.mp short)⟩, And.left⟩

/-- When a response is compressed as it leaves the server. -/
theorem compressed_sent_iff [Gzip.Deflater] (gateway : Gateway) (number : UInt64) (wanted : Bool)
    {response : Response} (plain : response.compressed = false) :
    (gateway.sent number wanted response).compressed = true ↔
      wanted = true ∧ response.body ≠ [] ∧ response.body.length ≤ stageLimit ∧
        (gateway.signingKey = none ∨ (Gzip.compress response.body).length ≤ stageLimit) := by
  refine (gateway.compressed_told_iff _).trans ?_
  cases wanted with
  | false =>
    refine iff_of_false (fun compressed => ?_) fun wanted => Bool.false_ne_true wanted.1
    exact Bool.false_ne_true (plain.symm.trans compressed.1)
  | true =>
    rw [if_pos rfl]
    constructor
    · rintro ⟨compressed, fits⟩
      obtain ⟨some, short⟩ := Stage.of_compressed_compress plain compressed
      rw [Stage.compress_eq plain some short] at fits
      exact ⟨rfl, some, short, fits⟩
    · rintro ⟨_, some, short, fits⟩
      rw [Stage.compress_eq plain some short]
      exact ⟨rfl, fits⟩

variable {Store : Type} [Repository Store] (gateway : Gateway) (number : UInt64) (store : Store)

/-- A request that is answered with a compressed body: it gets to a route that reads, it lists the
coding, and the answer there has a body that the stages take up, compressed or not. -/
structure IsCompressed [Gzip.Deflater] (request : Request) : Prop where
  reads : ∃ route, Route.ofPath? request.path = some route ∧ route.isCompressed = true
  lists : ∃ member ∈ request.listed headerNames.wantedCoding, namesGzip member = true
  answers : ∃ handed, gateway.passed request = .ok handed ∧
    (answered handed store).1.body ≠ [] ∧
    (answered handed store).1.body.length ≤ stageLimit ∧
    (gateway.signingKey = none ∨
      (Gzip.compress (answered handed store).1.body).length ≤ stageLimit)

theorem isWanted_iff (request : Request) :
    isWanted request = true ↔
      (∃ route, Route.ofPath? request.path = some route ∧ route.isCompressed = true) ∧
        ∃ member ∈ request.listed headerNames.wantedCoding, namesGzip member = true := by
  rw [isWanted, Bool.and_eq_true, Request.listsGzip_eq, List.any_eq_true, Option.any_eq_true]

theorem compressed_serve_iff [Gzip.Deflater] (request : Request) :
    (gateway.serve number request store).1.compressed = true ↔
      gateway.IsCompressed store request := by
  have kept (response : Response) :
      (withoutBody request response).compressed = response.compressed := by
    rw [withoutBody]
    split <;> rfl
  rw [serve_behind gateway.staged_eq_passed]
  cases isPassed : gateway.passed request with
  | error response =>
    have fate := gateway.sharedFate_passed (.refl request)
    rw [isPassed] at fate
    cases fate with
    | stopped plain =>
      refine iff_of_false ?_ fun compressed => ?_
      · dsimp only
        rw [finished, kept]
        exact Bool.eq_false_iff.mp plain
      · obtain ⟨handed, passed, _⟩ := compressed.answers
        cases isPassed.symm.trans passed
  | ok handed =>
    obtain ⟨body, isHanded⟩ := of_passed isPassed
    have sameWanted : isWanted handed = isWanted request := by
      rw [isHanded]
      rfl
    dsimp only
    rw [routed_eq, finished_told, kept,
      gateway.compressed_sent_iff number _ (plain_answered handed store), sameWanted, isWanted_iff]
    constructor
    · rintro ⟨⟨reads, lists⟩, answers⟩
      exact ⟨reads, lists, handed, isPassed, answers⟩
    · rintro ⟨reads, lists, other, passed, answers⟩
      obtain rfl := Except.ok.inj (isPassed.symm.trans passed)
      exact ⟨⟨reads, lists⟩, answers⟩

/-- Requests with two lists of codings that both name the one of the server, or neither, get the
same answer and leave the same store. -/
theorem serve_congr [Gzip.Deflater] {first second : Request}
    (same : first.without headerNames.wantedCoding = second.without headerNames.wantedCoding)
    (sameNames : first.listsGzip headerNames.wantedCoding =
      second.listsGzip headerNames.wantedCoding) :
    gateway.serve number first store = gateway.serve number second store := by
  have isMethod : first.method = second.method := (Request.mk.inj same).1
  have alike := Request.seenAlike_of_without same
  have sameWanted : isWanted first = isWanted second := by
    rw [isWanted, isWanted, alike.path, sameNames]
  have sameHead (response : Response) :
      withoutBody first response = withoutBody second response := by
    rw [withoutBody, withoutBody, isMethod]
  rcases serve_alike gateway number store alike with
    ⟨response, _, servedFirst, servedSecond⟩ | ⟨response, after, _, servedFirst, servedSecond⟩
  · rw [servedFirst, servedSecond, finished, finished, sameHead]
  · rw [servedFirst, servedSecond, sameWanted, sameHead]

/-- Whatever a server stores and asks of its clients: an answer is compressed just where a route
that reads answers one who lists the coding with a body that the stages take up; nothing else in
the lists of codings makes a difference, no weight and no other coding; and where no weight of zero
stands beside the coding, the sender of a compressed answer lists the coding without refusing it. -/
theorem compressed_just_for_listed [Gzip.Deflater] :
    (∀ request, (gateway.serve number request store).1.compressed = true ↔
      gateway.IsCompressed store request) ∧
    (∀ first second : Request,
      first.without headerNames.wantedCoding = second.without headerNames.wantedCoding →
      (first.listed headerNames.wantedCoding).any namesGzip =
        (second.listed headerNames.wantedCoding).any namesGzip →
      gateway.serve number first store = gateway.serve number second store) ∧
    ∀ request,
      (∀ member ∈ request.listed headerNames.wantedCoding, namesGzip member = true →
        refuses member = false) →
      (gateway.serve number request store).1.compressed = true →
      (∃ route, Route.ofPath? request.path = some route ∧ route.isCompressed = true) ∧
        ∃ member ∈ request.listed headerNames.wantedCoding,
          namesGzip member = true ∧ refuses member = false := by
  refine ⟨gateway.compressed_serve_iff number store, fun first second same sameNames => ?_,
    fun request accepts compressed => ?_⟩
  · rw [← Request.listsGzip_eq, ← Request.listsGzip_eq] at sameNames
    exact gateway.serve_congr number store same sameNames
  · obtain ⟨reads, ⟨member, isMember, names⟩, _⟩ :=
      (gateway.compressed_serve_iff number store request).mp compressed
    exact ⟨reads, member, isMember, names, accepts member isMember names⟩

/-- A counter for one who wants it compressed, and for one who spells that otherwise. -/
theorem compressed_just_for_listed_counter :
    let gateway : Gateway := ⟨none, none, none⟩
    let store := (gateway.serve 1 ⟨"POST", "/update/counter/hits/4", [], []⟩
      (Storage.memory MemoryStore.ephemeral)).2
    let weighted : Request :=
      ⟨"GET", "/value/counter/hits", [("Accept-Encoding", "br, gzip;q=0.8")], []⟩
    let bare : Request := ⟨"GET", "/value/counter/hits", [("Accept-Encoding", "gzip")], []⟩
    gateway.serve 2 weighted store = gateway.serve 2 bare store ∧
      gateway.IsCompressed store weighted ∧
      ∃ member ∈ weighted.listed headerNames.wantedCoding,
        namesGzip member = true ∧ refuses member = false := by
  intro gateway store weighted bare
  obtain ⟨just, congruent, accepted⟩ := compressed_just_for_listed gateway 2 store
  have isCompressed : (gateway.serve 2 weighted store).1.compressed = true := by decide +kernel
  have isListed : weighted.listed headerNames.wantedCoding = ["br", " gzip;q=0.8"] := by
    decide +kernel
  have accepts : ∀ member ∈ weighted.listed headerNames.wantedCoding,
      namesGzip member = true → refuses member = false := by
    rw [isListed]
    decide +kernel
  exact ⟨congruent weighted bare (by decide +kernel) (by decide +kernel),
    (just weighted).mp isCompressed, (accepted weighted accepts isCompressed).2⟩

/-- One who lists the coding with a weight of zero alone is sent a compressed body. -/
theorem compressed_for_refusal :
    let gateway : Gateway := ⟨none, none, none⟩
    let store := (gateway.serve 1 ⟨"POST", "/update/counter/hits/4", [], []⟩
      (Storage.memory MemoryStore.ephemeral)).2
    let request : Request := ⟨"GET", "/value/counter/hits", [("Accept-Encoding", "gzip;q=0")], []⟩
    (∀ member ∈ request.listed headerNames.wantedCoding, refuses member = true) ∧
      (gateway.serve 2 request store).1.status = 200 ∧
      (gateway.serve 2 request store).1.compressed = true := by
  intro gateway store request
  have isListed : request.listed headerNames.wantedCoding = ["gzip;q=0"] := by decide +kernel
  rw [isListed]
  exact ⟨by decide +kernel, by decide +kernel, by decide +kernel⟩

end Gateway

end Metering
