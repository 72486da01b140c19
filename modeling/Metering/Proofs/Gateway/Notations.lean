/-
Routes that take what is asked for from the path, and routes that take it from a JSON body. Both
come to the same call of the service, since a number for people is read as the number; so they
leave the same store and answer alike, each in its own notation. Only the empty key is told apart:
it is no place that a path can lead to.
-/

import Metering.Proofs.Gateway.Query
import Metering.Proofs.Gateway.Spelling

namespace Metering

/-! ### Numbers for people -/

/-- A value other than a reading that is infinite or not a number. -/
def Value.IsFinite : Value → Prop
  | .counter _ => True
  | .gauge reading => reading.isFinite = true

theorem Value.IsFinite.hasFinite {value : Value} (finite : value.IsFinite) (key : String) :
    (Metric.ofValue key value).HasFinite := by
  rintro reading isReading
  cases value with
  | counter total => cases isReading
  | gauge other =>
    obtain rfl := Option.some.inj isReading
    exact finite

theorem IsNumeral.ne_nil {literal : List Char} (isNumeral : IsNumeral literal) : literal ≠ [] := by
  obtain ⟨numeral, proper, rfl⟩ := isNumeral
  have some : numeral.whole ≠ [] := by
    rcases proper.start with isZero | ⟨first, rest, isStart, _⟩
    · exact isZero ▸ List.cons_ne_nil _ _
    · exact isStart ▸ List.cons_ne_nil _ _
  intro empty
  rw [Numeral.characters, List.append_eq_nil_iff, List.append_eq_nil_iff,
    List.append_eq_nil_iff] at empty
  exact some empty.1.1.2

/-- Nothing in a number literal means something in a path. -/
theorem IsNumeral.plain {literal : List Char} (isNumeral : IsNumeral literal) :
    ∀ character ∈ literal,
      character.toNat ≤ 127 ∧ Route.isInside character = true ∧ character ≠ '%' := by
  obtain ⟨numeral, proper, rfl⟩ := isNumeral
  have digits : ∀ code < 58, 48 ≤ code → (Char.ofNat code).toNat ≤ 127 ∧
      Route.isInside (Char.ofNat code) = true ∧ Char.ofNat code ≠ '%' := by decide
  intro character member
  rcases Numeral.mem_characters proper member with isDigit | isSign
  · obtain ⟨low, high⟩ := toNat_of_isDigit isDigit
    have isPlain := digits character.toNat (by omega) low
    rwa [Char.ofNat_toNat] at isPlain
  · simp only [List.mem_cons, List.not_mem_nil, or_false] at isSign
    rcases isSign with rfl | rfl | rfl | rfl <;> decide

namespace Value

variable {value : Value}

theorem isNumeral_display (finite : value.IsFinite) : IsNumeral value.display.toList := by
  cases value with
  | counter total => exact Tally.isNumeral_text total
  | gauge reading =>
    have isFinite : reading.isFinite = true := finite
    rw [display, Binary64.display, Binary64.isNaN_of_isFinite isFinite, if_neg Bool.false_ne_true,
      if_pos isFinite, String.toList_ofList]
    exact Layout.plain.isNumeral_writeFinite reading

/-- The text of a finite value spells itself in a path. -/
theorem spells_display (finite : value.IsFinite) : Route.Spells value.display value.display := by
  have plain := (isNumeral_display finite).plain
  exact Route.spells_self (fun character member => (plain character member).1)
    fun character member => (plain character member).2

theorem length_display_le (value : Value) : (Bytes.ofText value.display).length ≤ 4800 := by
  have characters : value.display.length ≤ 1200 := by
    cases value with
    | counter total =>
      rw [← String.length_toList]
      exact (Tally.length_text_le total).trans (by decide)
    | gauge reading =>
      rw [display, Binary64.display]
      split
      · decide
      split
      · next finite =>
        rw [← String.length_toList, String.toList_ofList]
        exact Layout.plain.length_writeFinite_le finite
      · split <;> decide
  exact (Bytes.length_ofText_le value.display).trans (Nat.mul_le_mul_left 4 characters)

theorem display_ne_empty (finite : value.IsFinite) : value.display ≠ "" := by
  intro empty
  have some := (isNumeral_display finite).ne_nil
  rw [empty] at some
  exact some rfl

end Value

namespace Endpoint

/-- The text of a finite value is read as the value. -/
theorem readValue_display (key : String) {value : Value} (finite : value.IsFinite) :
    readValue value.kind key value.display = .ok value := by
  cases value with
  | counter total =>
    have reads : Whole.read Whole.Range.signed64 (Tally.text total) = .ok total.toInt :=
      Whole.readChars_text total
    rw [Value.kind, Value.display, readValue, reads]
    dsimp only
    rw [Int64.ofInt_toInt]
  | gauge reading =>
    have isFinite : reading.isFinite = true := finite
    have reads : Binary64.read reading.display = .ok reading := by
      rw [Binary64.read, Binary64.display, Binary64.isNaN_of_isFinite isFinite,
        if_neg Bool.false_ne_true, if_pos isFinite, String.toList_ofList,
        Layout.plain.readChars_writeFinite isFinite]
    rw [Value.kind, Value.display, readValue, reads]
    dsimp only
    rw [Metric.validateReading, if_pos isFinite]

/-! ### What is asked for -/

/-- Apart from the empty key, both notations are checked alike. -/
theorem requireKey_eq {key : String} (some : key ≠ "") :
    requireKey key = (Metric.validateKey key).mapError ServiceError.metric := by
  rw [requireKey]
  unfold Metric.validateKey
  rw [if_neg (mt String.isEmpty_iff.mp some)]
  by_cases long : Metric.longestKey < key.length
  · rw [if_pos long]
    rfl
  · rw [if_neg long]
    rfl

/-- The update that a body asks for. -/
def askedUpdate (metric : Metric) : Except ServiceError Update :=
  metric.toUpdate.mapError ServiceError.metric

/-- What a body asks about. -/
def askedQuery (metric : Metric) : Except ServiceError (Kind × String) :=
  (metric.query.mapError ServiceError.metric).map fun kind => (kind, metric.key)

variable {kindName key : String}

/-- A value that can be sent under the name of a kind: of that kind, if there is such a kind. -/
def Suits (kindName : String) (value : Value) : Prop :=
  ∀ kind, Kind.ofName? kindName = some kind → value.kind = kind

/-- A path and a body that send one value ask for the same. -/
theorem readUpdate_eq (some : key ≠ "") {value : Value} (suits : Suits kindName value)
    (finite : value.IsFinite) :
    readUpdate kindName key value.display =
      askedUpdate { Metric.ofValue key value with kindName } := by
  have isKey : ({ Metric.ofValue key value with kindName } : Metric).key = key := by
    cases value <;> rfl
  rw [readUpdate, requireKey_eq some, requireKind, askedUpdate, Metric.toUpdate, Metric.query,
    Metric.kind, isKey]
  cases Metric.validateKey key with
  | error problem => rfl
  | ok passed =>
    rw [Metric.kindOfName]
    cases isKind : Kind.ofName? kindName with
    | none => rfl
    | some kind =>
      obtain rfl := suits kind isKind
      show (do return (⟨key, ← readValue value.kind key value.display⟩ : Update)) = _
      rw [readValue_display key finite]
      cases value with
      | counter total => rfl
      | gauge reading =>
        have isFinite : reading.isFinite = true := finite
        show _ = Except.mapError ServiceError.metric
          (do Metric.validateReading key reading; return (⟨key, .gauge reading⟩ : Update))
        rw [Metric.validateReading, if_pos isFinite]
        rfl

theorem readQuery_eq {metric : Metric} (some : metric.key ≠ "") :
    readQuery metric.kindName metric.key = askedQuery metric := by
  rw [readQuery, requireKey_eq some, requireKind, askedQuery, Metric.query, Metric.kind]
  cases Metric.validateKey metric.key with
  | error problem => rfl
  | ok passed => cases Metric.kindOfName metric.kindName <;> rfl

/-! ### What is answered -/

variable {Store Answer : Type}

theorem outcome_map {Other : Type} (respond : Other → Response) (report : Answer → Other)
    (result : Except ServiceError Answer) :
    outcome respond (result.map report) =
      outcome (fun answer => respond (report answer)) result := by
  cases result <;> rfl

variable [Repository Store]

/-- The call that a request for an update comes to. -/
def updating (asked : Except ServiceError Update) : Call Store Value := do
  Service.update (← Service.requiring asked)

/-- The call that a request for a value comes to. -/
def querying (asked : Except ServiceError (Kind × String)) : Call Store Value := do
  let (kind, key) ← Service.requiring asked
  Service.value kind key

/-- The response that reports a value under a key. -/
def report (key : String) (value : Value) : Response := .json (Metric.ofValue key value).encodeJson

theorem updateMetric_eq (metric : Metric) (store : Store) :
    Service.updateMetric metric store =
      ((updating (askedUpdate metric) store).1.map (Metric.ofValue metric.key),
        (updating (askedUpdate metric) store).2) := by
  rw [Service.updateMetric, updating, askedUpdate]
  cases isUpdate : metric.toUpdate with
  | error problem => rfl
  | ok update =>
    rw [← (Metric.toUpdate_key isUpdate).2]
    exact Call.bind_pure_apply (Service.update update) (Metric.ofValue update.key) store

theorem valueMetric_eq (metric : Metric) (store : Store) :
    Service.valueMetric metric store =
      ((querying (askedQuery metric) store).1.map (Metric.ofValue metric.key),
        (querying (askedQuery metric) store).2) := by
  rw [Service.valueMetric, querying, askedQuery]
  cases metric.query with
  | error problem => rfl
  | ok kind =>
    exact Call.bind_pure_apply (Service.value kind metric.key) (Metric.ofValue metric.key) store

theorem validateKey_of_updating {metric : Metric} {value : Value} {store : Store}
    (done : (updating (askedUpdate metric) store).1 = .ok value) :
    Metric.validateKey metric.key = .ok () := by
  rw [askedUpdate] at done
  cases isUpdate : metric.toUpdate with
  | ok update => exact (Metric.toUpdate_key isUpdate).1
  | error problem =>
    rw [isUpdate] at done
    cases done

theorem validateKey_of_querying {metric : Metric} {value : Value} {store : Store}
    (done : (querying (askedQuery metric) store).1 = .ok value) :
    Metric.validateKey metric.key = .ok () := by
  rw [askedQuery, Metric.query] at done
  cases checked : Metric.validateKey metric.key with
  | ok passed => rfl
  | error problem =>
    rw [checked] at done
    cases done

section Answers

variable {kind keySegment number numberText : String} {byPath byJson : Request} {store : Store}

theorem answer_updatePath (isKind : Route.Spells kind kindName)
    (isKey : Route.Spells keySegment key) (isNumber : Route.Spells number numberText) :
    answer (.updatePath kind keySegment number) byPath store =
      responding (fun _ => .plain 200 "")
        (updating (readUpdate kindName key numberText)) store := by
  rw [answer, Route.parameter_of_spells isKind, Route.parameter_of_spells isKey,
    Route.parameter_of_spells isNumber]
  rfl

theorem answer_valuePath (isKind : Route.Spells kind kindName)
    (isKey : Route.Spells keySegment key) :
    answer (.valuePath kind keySegment) byPath store =
      responding (fun value : Value => .plain 200 value.display)
        (querying (readQuery kindName key)) store := by
  rw [answer, Route.parameter_of_spells isKind, Route.parameter_of_spells isKey]
  rfl

variable {metric : Metric} (short : byJson.body.length ≤ bodyLimit)
  (reads : Metric.decodeJson? byJson.body = some metric)

include short reads

theorem answer_updateOne :
    answer .updateOne byJson store =
      responding (report metric.key) (updating (askedUpdate metric)) store := by
  have called : answer .updateOne byJson store =
      responding (fun metric : Metric => .json metric.encodeJson)
        (Service.updateMetric metric) store :=
    congrFun (withBody_of_reads short reads _ Service.updateMetric) store
  rw [called, responding_eq, responding_eq, updateMetric_eq, outcome_map]
  rfl

theorem answer_query :
    answer .query byJson store =
      responding (report metric.key) (querying (askedQuery metric)) store := by
  have called : answer .query byJson store =
      responding (fun metric : Metric => .json metric.encodeJson)
        (Service.valueMetric metric) store :=
    congrFun (withBody_of_reads short reads _ Service.valueMetric) store
  rw [called, responding_eq, responding_eq, valueMetric_eq, outcome_map]
  rfl

end Answers

/-! ### How long the messages are -/

theorem length_ofText_toString (number : Nat) :
    (Bytes.ofText (toString number)).length ≤ number + 1 := by
  have ascii : ∀ digit ∈ Nat.toDigits 10 number, digit.toNat ≤ 127 := by
    intro digit member
    have bounds := toNat_of_isDigit
      (Nat.isDigit_of_mem_toDigits (b := 10) (by decide) (by decide) member)
    omega
  have isText : toString number = String.ofList (Nat.toDigits 10 number) := rfl
  rw [isText, Bytes.ofText_ofList ascii, List.length_map]
  exact Layout.length_toDigits_le number

/-- Why a metric cannot be asked about. -/
theorem query_error {metric : Metric} {problem : MetricError}
    (refused : metric.query = .error problem) :
    problem = .emptyKey ∨ problem = .keyTooLong metric.key.length ∨
      problem = .unknownKind metric.kindName := by
  rw [Metric.query] at refused
  cases checked : Metric.validateKey metric.key with
  | error other =>
    rw [checked] at refused
    obtain rfl : other = problem := Except.error.inj refused
    unfold Metric.validateKey at checked
    split at checked
    · exact Or.inl (Except.error.inj checked).symm
    · split at checked
      · exact Or.inr (Or.inl (Except.error.inj checked).symm)
      · cases checked
  | ok passed =>
    rw [checked] at refused
    change Metric.kindOfName metric.kindName = .error problem at refused
    unfold Metric.kindOfName at refused
    split at refused
    · cases refused
    · exact Or.inr (Or.inr (Except.error.inj refused).symm)

/-- Why a value cannot be read. -/
theorem read_error {held : Holdings} {kind : Kind} {problem : StorageError}
    (refused : held.read key kind = .error problem) :
    problem = .notFound key ∨ problem = .wrongKind key := by
  cases kind with
  | counter =>
    unfold Holdings.read Holdings.counter at refused
    dsimp only at refused
    split at refused
    · cases refused
    · split at refused <;> cases refused
      · exact Or.inr rfl
      · exact Or.inl rfl
  | gauge =>
    unfold Holdings.read Holdings.gauge at refused
    dsimp only at refused
    split at refused
    · cases refused
    · split at refused <;> cases refused
      · exact Or.inr rfl
      · exact Or.inl rfl

theorem length_ofText_around {front back : String} (isFront : (Bytes.ofText front).length ≤ 30)
    (isBack : (Bytes.ofText back).length ≤ 60) (text : String) :
    (Bytes.ofText (front ++ text ++ back)).length ≤ (Bytes.ofText text).length + 90 := by
  rw [Bytes.ofText_append, Bytes.ofText_append, List.length_append, List.length_append]
  omega

/-- What is said against a question is not much longer than its texts. -/
theorem length_message_querying {metric : Metric} {store : Storage} {problem : ServiceError}
    (failed : (querying (askedQuery metric) store).1 = .error problem) :
    (Bytes.ofText problem.message).length ≤ metric.textLength + 100 := by
  rw [askedQuery] at failed
  rw [Metric.textLength]
  cases isQuery : metric.query with
  | error refusal =>
    rw [isQuery] at failed
    obtain rfl : ServiceError.metric refusal = problem := Except.error.inj failed
    rcases query_error isQuery with rfl | rfl | rfl
    · exact (show (Bytes.ofText MetricError.emptyKey.message).length ≤ 100 by decide).trans
        (Nat.le_add_left _ _)
    · have digits := length_ofText_toString metric.key.length
      have brief := Bytes.length_le_length_ofText metric.key
      have around : (Bytes.ofText ("metric key is " ++ toString metric.key.length ++
          (" characters long, limit is " ++ toString Metric.longestKey))).length ≤ _ :=
        length_ofText_around (by decide) (by decide) _
      rw [← String.append_assoc] at around
      exact around.trans (by omega)
    · exact (length_ofText_around (by decide) (by decide) metric.kindName).trans (by omega)
  | ok kind =>
    rw [isQuery] at failed
    change (Service.value kind metric.key store).1 = .error problem at failed
    rw [Service.value_fst] at failed
    split at failed
    · cases isRead : store.kept.read metric.key kind with
      | ok value =>
        rw [isRead] at failed
        cases failed
      | error refusal =>
        rw [isRead] at failed
        obtain rfl : ServiceError.storage refusal = problem := Except.error.inj failed
        rcases read_error isRead with rfl | rfl
        · exact (length_ofText_around (by decide) (by decide) metric.key).trans (by omega)
        · exact (length_ofText_around (by decide) (by decide) metric.key).trans (by omega)
    · obtain rfl : ServiceError.storage .database = problem := Except.error.inj failed
      exact (show (Bytes.ofText StorageError.database.message).length ≤ 100 by decide).trans
        (Nat.le_add_left _ _)

end Endpoint

namespace Gateway

/-! ### Requests and what is served for them -/

/-- The most bytes that the target of a request can have. -/
def longestTarget : Nat := 65534

/-- A request with a method and a path that passes all stages, and what is left of its body. -/
structure Reaches (gateway : Gateway) (request : Request) (method : String)
    (segments : List String) (body : Bytes) : Prop where
  isMethod : request.method = method
  isTarget : request.target = Route.pathOf segments
  short : (Bytes.ofText request.target).length ≤ longestTarget
  accepted : ∀ subnet, gateway.subnet = some subnet →
    ∃ ip, subnet.accept (request.header? headerNames.realIp) = .ok ip
  opened : gateway.opened request = .ok { request with body }

/-- What comes of a request that takes its key from the path, and of one with the same key in its
body: they leave one store and have one status, apart from those with the empty key. -/
structure SameEffect (key : String) (byPath byJson : Response × Storage) : Prop where
  store : byPath.2 = byJson.2
  status : key ≠ "" → byPath.1.status = byJson.1.status
  missing : key = "" → byPath.1.status = 404 ∧ byJson.1.status = 400

/-- Two responses that report one value, as a text and as JSON. A finite value is read of the text,
and of the JSON if its literal comes to it again. -/
def ReportOne (key : String) (byPath byJson : Response) : Prop :=
  ∃ value : Value, byPath.Carries (Bytes.ofText value.display) ∧
    byJson.Carries (Metric.ofValue key value).encodeJson ∧
    (value.IsFinite → Endpoint.readValue value.kind key value.display = .ok value) ∧
    (Metric.decodeJson? (Metric.ofValue key value).encodeJson = some (Metric.ofValue key value) ↔
      value.ReadsBack)

variable {gateway : Gateway} {request : Request} {method : String} {segments : List String}
  {body : Bytes}

/-- What is served at a route that answers with the outcome of a call. -/
theorem serve_of_reaches [Gzip.Deflater]
    (reaches : gateway.Reaches request method segments body) {route : Route}
    (isRoute : Route.ofPath? request.path = some route) (takes : route.takes method = true)
    (notHead : method ≠ "HEAD") {respond : Value → Response} {call : Call Storage Value}
    {store : Storage} (answered : Endpoint.answer route { request with body } store =
      Endpoint.responding respond call store) (number : UInt64) :
    gateway.serve number request store =
      (gateway.sent number (route.isCompressed && request.listsGzip headerNames.wantedCoding)
        (Endpoint.outcome respond (call store).1), (call store).2) := by
  obtain ⟨rfl, _, _, accepted, opened⟩ := reaches
  rw [serve_of_takes accepted opened notHead number store isRoute takes, answered,
    Endpoint.responding_eq]

section Notations

variable {kind keySegment kindName key : String} {byPath byJson : Request}
  {metric : Metric} {content : Bytes}

/-- The texts that a path spells have room in a body, even where each byte has to be escaped. -/
theorem texts_le {place : String} {rest : List String}
    (reaches : gateway.Reaches byPath method (place :: kind :: keySegment :: rest) content)
    (isKind : Route.Spells kind kindName) (isKey : Route.Spells keySegment key) :
    (Bytes.ofText key).length + (Bytes.ofText kindName).length ≤ longestTarget := by
  have bytes := Route.sum_le_length_pathOf (place :: kind :: keySegment :: rest)
  rw [← reaches.isTarget, List.map_cons, List.map_cons, List.map_cons, List.sum_cons,
    List.sum_cons, List.sum_cons] at bytes
  have kindBytes := Route.length_le_of_spells isKind
  have keyBytes := Route.length_le_of_spells isKey
  have short := reaches.short
  omega

theorem length_encodeJson_le_bodyLimit (texts : metric.textLength ≤ longestTarget) :
    metric.encodeJson.length ≤ Endpoint.bodyLimit := by
  have bound := metric.length_encodeJson_le
  rw [longestTarget] at texts
  rw [Endpoint.bodyLimit]
  omega

/-- The path of a request with a body leads to its route. -/
theorem ofPath?_place {place : String} {route : Route}
    (isPlace : Route.ofPath? (Route.pathOf [place, ""]) = some route)
    (inside : place.toList.all Route.isInside = true)
    (isTarget : byJson.target = Route.pathOf [place, ""]) :
    Route.ofPath? byJson.path = some route := by
  have both : ∀ segment ∈ [place, ""], segment.toList.all Route.isInside = true :=
    List.forall_mem_cons.mpr ⟨inside, List.forall_mem_singleton.mpr rfl⟩
  rw [Route.ofPath?, Route.pieces_path both isTarget]
  rwa [Route.ofPath?, Route.pieces_pathOf both] at isPlace

/-- What reports a value under a valid key is short. -/
theorem short_report (validKey : Metric.validateKey key = .ok ()) (value : Value) :
    (Endpoint.report key value).Short :=
  ⟨rfl, (Metric.length_encodeJson_ofValue (Metric.length_of_validateKey_ok validKey) value).trans
    (by decide)⟩

theorem short_refused {problem : ServiceError}
    (short : (Bytes.ofText problem.message).length ≤ 100000) : (Endpoint.refused problem).Short :=
  ⟨rfl, short⟩

variable [Gzip.Deflater] [Gzip.LawfulDeflater]

/-- Two outcomes of one call have one status, where the answers of the routes have. -/
theorem status_sent_outcome (gateway : Gateway) {respond other : Value → Response}
    {wanted otherWanted : Bool} {result : Except ServiceError Value}
    (answers : ∀ value, result = .ok value → (respond value).Short ∧ (other value).Short ∧
      (respond value).status = (other value).status)
    (refusals : ∀ problem, result = .error problem →
      wanted = otherWanted ∨ (Endpoint.refused problem).Short) (first second : UInt64) :
    (gateway.sent first wanted (Endpoint.outcome respond result)).status =
      (gateway.sent second otherWanted (Endpoint.outcome other result)).status := by
  cases result with
  | ok value =>
    obtain ⟨short, otherShort, same⟩ := answers value rfl
    show (gateway.sent first wanted (respond value)).status =
      (gateway.sent second otherWanted (other value)).status
    rw [(gateway.sent_of_short first wanted short).1,
      (gateway.sent_of_short second otherWanted otherShort).1, same]
  | error problem =>
    show (gateway.sent first wanted (Endpoint.refused problem)).status =
      (gateway.sent second otherWanted (Endpoint.refused problem)).status
    rcases refusals problem rfl with rfl | short
    · rfl
    · rw [(gateway.sent_of_short first wanted short).1,
        (gateway.sent_of_short second otherWanted short).1]

/-- Only a value is answered with success. -/
theorem ok_of_status_sent {respond : Value → Response} {wanted : Bool}
    {result : Except ServiceError Value} {number : UInt64}
    (refusals : ∀ problem, result = .error problem → (Endpoint.refused problem).Short)
    (success : (gateway.sent number wanted (Endpoint.outcome respond result)).status = 200) :
    ∃ value, result = .ok value := by
  cases result with
  | ok value => exact ⟨value, rfl⟩
  | error problem =>
    have same := (gateway.sent_of_short number wanted (refusals problem rfl)).1
    have refused := same.symm.trans success
    rcases problem.status_cases with isStatus | isStatus | isStatus <;>
      cases isStatus.symm.trans refused

theorem status_sent_emptyKey (gateway : Gateway) (number : UInt64) (wanted : Bool) :
    (gateway.sent number wanted (Endpoint.refused (.metric .emptyKey))).status = 400 :=
  (gateway.sent_of_short number wanted (short_refused (by decide))).1

/-- Both ways of posting an update have the same effect. -/
theorem sameEffect_update {value : Value} (finite : value.IsFinite) (readsBack : value.ReadsBack)
    (suits : Endpoint.Suits kindName value) (isKind : Route.Spells kind kindName)
    (isKey : Route.Spells keySegment key)
    (asPath : gateway.Reaches byPath "POST" ["update", kind, keySegment, value.display] content)
    (asJson : gateway.Reaches byJson "POST" ["update", ""]
      ({ Metric.ofValue key value with kindName } : Metric).encodeJson)
    (first second : UInt64) (store : Storage) :
    SameEffect key (gateway.serve first byPath store) (gateway.serve second byJson store) := by
  generalize isMetric : ({ Metric.ofValue key value with kindName } : Metric) = metric at asJson
  have sameKey : metric.key = key := by
    rw [← isMetric]
    cases value <;> rfl
  have sameKind : metric.kindName = kindName := by rw [← isMetric]
  have decoded : Metric.decodeJson? metric.encodeJson = some metric := by
    rw [← isMetric]
    exact Metric.decodeJson?_of_readsBack (finite.hasFinite key)
      (Metric.readsBack_ofValue readsBack key)
  have texts : metric.textLength ≤ longestTarget := by
    rw [Metric.textLength, sameKey, sameKind]
    exact texts_le asPath isKind isKey
  have isNumber := Value.spells_display finite
  have pathRoute := Route.ofPath?_update isKind isKey isNumber (Value.display_ne_empty finite)
    asPath.isTarget
  have jsonRoute : Route.ofPath? byJson.path = some .updateOne :=
    ofPath?_place (by decide) (by decide) asJson.isTarget
  rw [serve_of_reaches asPath pathRoute (beq_self_eq_true "POST") (by decide)
      (Endpoint.answer_updatePath isKind isKey isNumber) first,
    serve_of_reaches asJson jsonRoute (beq_self_eq_true "POST") (by decide)
      (Endpoint.answer_updateOne (length_encodeJson_le_bodyLimit texts) decoded) second, sameKey]
  by_cases empty : key = ""
  -- An empty segment in the middle still leads to the route, which then misses the key.
  · subst empty
    have refused : Endpoint.askedUpdate metric = .error (.metric .emptyKey) := by
      rw [Endpoint.askedUpdate, Metric.toUpdate, Metric.query, sameKey]
      rfl
    rw [refused]
    have noPlace : (Endpoint.refused .missingKey).Short := short_refused (by decide)
    exact ⟨rfl, fun some => absurd rfl some, fun _ =>
      ⟨(gateway.sent_of_short first _ noPlace).1, status_sent_emptyKey gateway second _⟩⟩
  · rw [Endpoint.readUpdate_eq empty suits finite, isMetric]
    refine ⟨rfl, fun _ => ?_, fun same => absurd same empty⟩
    refine status_sent_outcome gateway (fun stored done => ?_) (fun _ _ => Or.inl rfl) first second
    have validKey := sameKey ▸ Endpoint.validateKey_of_updating done
    exact ⟨⟨rfl, by decide⟩, short_report validKey stored, rfl⟩

/-- One outcome of a question, told in both notations. -/
theorem tellBoth (some : key ≠ "") {result : Except ServiceError Value} {after : Storage}
    (validKey : ∀ value, result = .ok value → Metric.validateKey key = .ok ())
    (refusals : ∀ problem, result = .error problem → (Endpoint.refused problem).Short)
    {first second : UInt64} {wanted otherWanted : Bool} {byPath byJson : Response}
    (isText : byPath = gateway.sent first wanted
      (Endpoint.outcome (fun value : Value => .plain 200 value.display) result))
    (isJson : byJson =
      gateway.sent second otherWanted (Endpoint.outcome (Endpoint.report key) result)) :
    SameEffect key (byPath, after) (byJson, after) ∧
      (byPath.status = 200 → ReportOne key byPath byJson) := by
  have brief (value : Value) : (Bytes.ofText value.display).length ≤ 100000 :=
    (Value.length_display_le value).trans (by decide)
  subst isText isJson
  refine ⟨⟨rfl, fun _ => ?_, fun empty => absurd empty some⟩, fun success => ?_⟩
  · refine status_sent_outcome gateway (fun value done => ?_)
      (fun problem failed => Or.inr (refusals problem failed)) first second
    exact ⟨⟨rfl, brief value⟩, short_report (validKey value done) value, rfl⟩
  · obtain ⟨value, rfl⟩ := ok_of_status_sent refusals success
    have asText := gateway.carries_sent first wanted Response.plainType (brief value)
    have asJson := gateway.carries_sent second otherWanted "application/json"
      (short_report (validKey value rfl) value).short
    exact ⟨value, asText, asJson, Endpoint.readValue_display _,
      Metric.decodeJson?_ofValue_iff _ value⟩

/-- Both ways of asking for a value have the same effect, and report the same value. -/
theorem sameEffect_value {asked : Metric} (readsBack : asked.ReadsBack) (sameKey : asked.key = key)
    (sameKind : asked.kindName = kindName) (isKind : Route.Spells kind kindName)
    (isKey : Route.Spells keySegment key)
    (asPath : gateway.Reaches byPath "GET" ["value", kind, keySegment] content)
    (asJson : gateway.Reaches byJson "POST" ["value", ""] asked.encodeJson)
    (first second : UInt64) (store : Storage) :
    SameEffect key (gateway.serve first byPath store) (gateway.serve second byJson store) ∧
      ((gateway.serve first byPath store).1.status = 200 →
        ReportOne key (gateway.serve first byPath store).1
          (gateway.serve second byJson store).1) := by
  subst sameKey sameKind
  have texts : asked.textLength ≤ longestTarget := texts_le asPath isKind isKey
  have pathRoute := Route.ofPath?_value isKind isKey asPath.isTarget
  have jsonRoute : Route.ofPath? byJson.path = some .query :=
    ofPath?_place (by decide) (by decide) asJson.isTarget
  have decoded : Metric.decodeJson? asked.encodeJson = some asked.asRead :=
    (Metric.decodeJson?_encodeJson asked).trans (Metric.readBack?_of_readsBack readsBack)
  rw [serve_of_reaches asJson jsonRoute (beq_self_eq_true "POST") (by decide)
    (Endpoint.answer_query (length_encodeJson_le_bodyLimit texts) decoded) second,
    show Endpoint.askedQuery asked.asRead = Endpoint.askedQuery asked from rfl,
    show asked.asRead.key = asked.key from rfl]
  by_cases empty : asked.key = ""
  -- An empty segment at the end leads to no route.
  · have refused : Endpoint.askedQuery asked = .error (.metric .emptyKey) := by
      rw [Endpoint.askedQuery, Metric.query, empty]
      rfl
    rw [if_pos ((Route.eq_empty_iff_of_spells isKey).mpr empty)] at pathRoute
    have nowhere : (Response.bare 404).Short := ⟨rfl, by decide⟩
    have notFound := (gateway.sent_of_short first false nowhere).1
    rw [serve_of_noRoute asPath.accepted asPath.opened (by rw [asPath.isMethod]; decide) first store
      pathRoute, refused]
    refine ⟨⟨rfl, fun some => absurd empty some,
      fun _ => ⟨notFound, status_sent_emptyKey gateway second _⟩⟩, fun success => ?_⟩
    cases notFound.symm.trans success
  · rw [if_neg (mt (Route.eq_empty_iff_of_spells isKey).mp empty)] at pathRoute
    rw [serve_of_reaches asPath pathRoute (beq_self_eq_true "GET") (by decide)
      (Endpoint.answer_valuePath isKind isKey) first, Endpoint.readQuery_eq empty]
    refine tellBoth empty (fun value done => Endpoint.validateKey_of_querying done)
      (fun problem failed => ?_) rfl rfl
    have length := Endpoint.length_message_querying failed
    rw [longestTarget] at texts
    exact short_refused (length.trans (by omega))

end Notations

/-! ### Paths and bodies -/

/-- It makes no difference whether a metric is named in the path of a request or in a JSON body. Of
two requests that pass all stages, whatever segments spell the kind and the key, both leave the same
store and are answered with the same status; a number is posted in its text for people on the one
side, in a literal that is read back on the other, and the value that is asked for is told in that
text and in JSON. The empty key alone is not found on the one side and refused on the other one. -/
theorem notations_agree [Gzip.Deflater] [Gzip.LawfulDeflater] (gateway : Gateway) (store : Storage)
    {kind keySegment kindName key : String} (isKind : Route.Spells kind kindName)
    (isKey : Route.Spells keySegment key) (first second : UInt64) :
    (∀ (value : Value) (byPath byJson : Request) (content : Bytes),
      value.IsFinite → value.ReadsBack → Endpoint.Suits kindName value →
      gateway.Reaches byPath "POST" ["update", kind, keySegment, value.display] content →
      gateway.Reaches byJson "POST" ["update", ""]
        ({ Metric.ofValue key value with kindName } : Metric).encodeJson →
      SameEffect key (gateway.serve first byPath store) (gateway.serve second byJson store)) ∧
    ∀ (asked : Metric) (byPath byJson : Request) (content : Bytes),
      asked.ReadsBack → asked.key = key → asked.kindName = kindName →
      gateway.Reaches byPath "GET" ["value", kind, keySegment] content →
      gateway.Reaches byJson "POST" ["value", ""] asked.encodeJson →
      SameEffect key (gateway.serve first byPath store) (gateway.serve second byJson store) ∧
        ((gateway.serve first byPath store).1.status = 200 →
          ReportOne key (gateway.serve first byPath store).1
            (gateway.serve second byJson store).1) := by
  constructor
  · intro value byPath byJson content finite readsBack suits asPath asJson
    exact sameEffect_update finite readsBack suits isKind isKey asPath asJson first second store
  · intro asked byPath byJson content readsBack sameKey sameKind asPath asJson
    exact sameEffect_value readsBack sameKey sameKind isKind isKey asPath asJson first second store

/-- A slash, a percent sign and a letter of two bytes in a key. -/
theorem notations_agree_escaped_key :
    let gateway : Gateway := ⟨none, none, none⟩
    let store := Storage.memory MemoryStore.ephemeral
    let reading : Value := .gauge ⟨0xbfd3333333333333⟩
    let asked : Metric := ⟨"a/b%ä", "gauge", none, none⟩
    let posted := gateway.serve 1 ⟨"POST", "/update/gauge/a%2Fb%25%c3%A4/-0.3", [], []⟩ store
    SameEffect "a/b%ä" posted (gateway.serve 2
      ⟨"POST", "/update/", [], (Metric.ofValue "a/b%ä" reading).encodeJson⟩ store) ∧
    ReportOne "a/b%ä"
      (gateway.serve 3 ⟨"GET", "/value/gauge/a%2Fb%25%c3%A4", [], []⟩ posted.2).1
      (gateway.serve 4 ⟨"POST", "/value/", [], asked.encodeJson⟩ posted.2).1 := by
  intro gateway store reading asked posted
  have isKind : Route.Spells "gauge" "gauge" := by decide
  have isKey : Route.Spells "a%2Fb%25%c3%A4" "a/b%ä" := by decide
  have suits : Endpoint.Suits "gauge" reading := fun _ isName => Option.some.inj isName
  have update := (notations_agree gateway store isKind isKey 1 2).1
  have query := (notations_agree gateway posted.2 isKind isKey 3 4).2
  have readsBack : reading.ReadsBack := by
    show Json.ReadsBack ⟨0xbfd3333333333333⟩
    decide +kernel
  refine ⟨update reading _ _ [] rfl readsBack suits ⟨rfl, ?_, ?_, nofun, rfl⟩
      ⟨rfl, ?_, ?_, nofun, rfl⟩,
    (query asked _ _ [] nofun rfl rfl ⟨rfl, ?_, ?_, nofun, rfl⟩ ⟨rfl, ?_, ?_, nofun, rfl⟩).2 ?_⟩
  all_goals decide +kernel

end Gateway

end Metering
