/-
Only valid metrics get into a store. Whatever the front ends are sent, an update is applied only
under an acceptable key and, of a gauge, only with a finite reading, and what a database makes of
a finite reading is finite. A store that can be used stays so, whatever is done to it.
-/

import Metering.Proofs.Gateway.Gate
import Metering.Proofs.Service.Agreement

namespace Metering

/-! ### Updates -/

/-- An update under an acceptable key, which does not give a gauge an infinite reading, or one
that is not a number. -/
structure Update.IsValid (update : Update) : Prop where
  key : Metric.validateKey update.key = .ok ()
  finite : update.IsFinite

theorem Metric.toUpdate_valid {metric : Metric} {update : Update}
    (accepted : metric.toUpdate = .ok update) : update.IsValid := by
  obtain ⟨validKey, isKey⟩ := toUpdate_key accepted
  exact ⟨isKey ▸ validKey, toUpdate_finite accepted⟩

theorem Metric.mapM_toUpdate_valid {metrics : List Metric} {updates : List Update}
    (accepted : metrics.mapM toUpdate = .ok updates) : ∀ update ∈ updates, update.IsValid :=
  Metric.forall_of_mapM_ok (fun _ _ => Metric.toUpdate_valid) accepted

namespace Endpoint

theorem requireKey_ok {key : String} (passed : requireKey key = .ok ()) :
    Metric.validateKey key = .ok () := by
  rw [requireKey] at passed
  split at passed
  · assumption
  · cases passed
  · cases passed

theorem readValue_gauge {kind : Kind} {key raw : String} {reading : Binary64}
    (read : readValue kind key raw = .ok (.gauge reading)) : reading.isFinite = true := by
  cases kind with
  | counter =>
    rw [readValue] at read
    split at read <;> cases read
  | gauge =>
    rw [readValue] at read
    split at read
    · cases read
    · split at read
      · next passed =>
        cases read
        exact Metric.validateReading_ok passed
      · cases read

theorem readUpdate_valid {kind key raw : String} {update : Update}
    (read : readUpdate kind key raw = .ok update) : update.IsValid := by
  obtain ⟨_, passed, behindKey⟩ := Service.ok_of_bind read
  obtain ⟨_, _, behindKind⟩ := Service.ok_of_bind behindKey
  obtain ⟨value, isValue, isUpdate⟩ := Service.ok_of_bind behindKind
  cases isUpdate
  exact ⟨requireKey_ok passed, fun reading same =>
    readValue_gauge (isValue.trans (congrArg _ same))⟩

/-- Whatever a body asks for, or a path, is valid. -/
theorem Asks.valid {body : Bytes} {route : Route} {updates : List Update}
    (asks : Asks body route updates) : ∀ update ∈ updates, update.IsValid := by
  cases asks with
  | one _ accepted => exact List.forall_mem_singleton.mpr (Metric.toUpdate_valid accepted)
  | batch _ accepted => exact Metric.mapM_toUpdate_valid accepted
  | path _ _ _ read => exact List.forall_mem_singleton.mpr (readUpdate_valid read)

end Endpoint

/-! ### What is held -/

theorem Binary64.isFinite_unsignedZero {number : Binary64} (finite : number.isFinite = true) :
    number.unsignedZero.isFinite = true := by
  unfold unsignedZero
  split
  · rfl
  · exact finite

theorem Storage.isFinite_stored (store : Storage) {reading : Binary64}
    (finite : reading.isFinite = true) : (store.stored reading).isFinite = true := by
  cases store with
  | memory store => exact finite
  | database file store => exact Binary64.isFinite_unsignedZero finite

/-- All keys are acceptable and all readings finite. -/
structure Holdings.Valid (held : Holdings) : Prop where
  keys : ∀ key, ¬ held.Lacks key → Metric.validateKey key = .ok ()
  readings : ∀ key reading, held.gauge? key = some reading → reading.isFinite = true

theorem Holdings.valid_nothing : nothing.Valid :=
  ⟨fun _ something => absurd ⟨rfl, rfl⟩ something, nofun⟩

namespace Holdings.Takes

variable {updates : List Update} {image : Binary64 → Binary64} {before after : Holdings}
  (takes : Takes updates image before after)

include takes

/-- Under a key that no update is for everything stays as it was. -/
theorem lacks_after {key : String} (lacks : before.Lacks key)
    (absent : ∀ update ∈ updates, update.key ≠ key) : after.Lacks key := by
  refine ⟨?_, ?_⟩
  · rw [takes.sameCounter key (Update.deltas_eq_nil absent)]
    exact lacks.1
  · rw [takes.gauge, Update.readings_eq_nil absent]
    exact lacks.2

/-- Valid updates make valid holdings of valid ones. -/
theorem valid (keepsFinite : ∀ reading, reading.isFinite = true → (image reading).isFinite = true)
    (valid : before.Valid) (each : ∀ update ∈ updates, update.IsValid) : after.Valid where
  keys key something := by
    by_cases isThere : ∃ update ∈ updates, update.key = key
    · obtain ⟨update, member, rfl⟩ := isThere
      exact (each update member).key
    · push Not at isThere
      exact valid.keys key fun lacks => something (takes.lacks_after lacks isThere)
  readings key reading isReading := by
    rw [takes.gauge] at isReading
    rcases Option.or_eq_some_iff.mp isReading with given | ⟨_, same⟩
    · obtain ⟨last, isLast, rfl⟩ := Option.map_eq_some_iff.mp given
      have asked := (Update.mem_readings_iff key last updates).mp (List.mem_of_getLast? isLast)
      exact keepsFinite last ((each _ asked).finite last rfl)
    · exact valid.readings key reading same

end Holdings.Takes

/-! ### Stores that can be used -/

namespace Service

/-- A store that can be used is one again after a call. -/
theorem Between.orderly {Answer : Type} {same : Answer → Answer → Prop}
    {call : Call Storage Answer} (between : Between same call) {store : Storage}
    (orderly : store.Orderly) : (call store).2.Orderly := by
  have ends := between store store ⟨orderly, orderly, rfl⟩
  revert ends
  rcases call store with ⟨answer, after⟩
  intro ends
  cases ends with
  | ok _ stores => exact stores.leftOrderly
  | error _ stores => exact stores.leftOrderly

end Service

namespace Endpoint

variable {Answer : Type}

theorem orderly_responding {respond : Answer → Response} {call : Call Storage Answer}
    {store : Storage} (orderly : (call store).2.Orderly) :
    (responding respond call store).2.Orderly := by
  rw [responding]
  split <;> next called => rwa [called] at orderly

theorem orderly_withBody {request : Request} {work : Bytes → StateM Storage Response}
    {store : Storage} (orderly : store.Orderly)
    (worked : (work request.body store).2.Orderly) :
    (withBody request work store).2.Orderly := by
  rw [withBody]
  split
  · exact orderly
  · exact worked

theorem orderly_withParameters {parameters : Except String Answer}
    {work : Answer → StateM Storage Response} {store : Storage} (orderly : store.Orderly)
    (worked : ∀ values, (work values store).2.Orderly) :
    (withParameters parameters work store).2.Orderly := by
  cases parameters with
  | error name => exact orderly
  | ok values => exact worked values

open Service

theorem orderly_answer (route : Route) (request : Request) {store : Storage}
    (orderly : store.Orderly) : (answer route request store).2.Orderly := by
  cases route with
  | listing => exact orderly_responding (between_all.orderly orderly)
  | ping =>
    refine orderly_responding ?_
    rw [unmoved_ping store]
    exact orderly
  | updateOne =>
    refine orderly_withBody orderly (orderly_responding ?_)
    exact (between_requiring_bind fun metric _ => between_updateMetric metric).orderly orderly
  | updateBatch =>
    refine orderly_withBody orderly (orderly_responding ?_)
    exact (between_requiring_bind fun metrics _ => between_updateMetrics metrics).orderly orderly
  | query =>
    refine orderly_withBody orderly (orderly_responding ?_)
    exact (between_requiring_bind fun metric _ => between_valueMetric metric).orderly orderly
  | updatePath kind key number =>
    refine orderly_withParameters orderly fun values => orderly_responding ?_
    exact (between_requiring_bind fun _ read =>
      between_update (readUpdate_valid read).finite).orderly orderly
  | valuePath kind key =>
    refine orderly_withParameters orderly fun values => orderly_responding ?_
    exact (between_requiring_bind fun asked _ => between_value asked.1 asked.2).orderly orderly

end Endpoint

namespace Gateway

variable {gateway : Gateway} {store : Storage}

theorem orderly_routed [Gzip.Deflater] (request : Request) (orderly : store.Orderly) :
    (routed request store).2.Orderly := by
  rw [routed]
  cases Route.ofPath? request.path with
  | none => exact orderly
  | some route =>
    have answered : ((if route.takes request.method then Endpoint.answer route request
        else pure { Response.bare 405 with allowed := some route.allowed } :
          StateM Storage Response) store).2.Orderly := by
      split
      · exact Endpoint.orderly_answer route request orderly
      · exact orderly
    dsimp only
    split
    · exact answered
    · exact answered

theorem orderly_staged [Gzip.Deflater] (request : Request) (orderly : store.Orderly) :
    (gateway.staged request store).2.Orderly := by
  rcases accepted_or_denied gateway (request.header? headerNames.realIp) with
    accepted | ⟨subnet, problem, isSubnet, denied⟩
  · cases opened : gateway.opened request with
    | error response =>
      rw [staged_of_stopped accepted opened]
      exact orderly
    | ok handed =>
      rw [staged_of_opened accepted opened]
      exact orderly_routed handed orderly
  · rw [staged_of_denied isSubnet denied]
    exact orderly

theorem orderly_call (realIp : Option String) (batch : List Metric.Message)
    (orderly : store.Orderly) : (gateway.call realIp batch store).2.Orderly := by
  have applied := (Service.between_updateMetrics
    (batch.map Metric.Message.toMetric)).orderly orderly
  rw [call]
  split
  · exact orderly
  · split <;> next done => rwa [done] at applied

/-! ### Single arrivals -/

/-- What is kept of valid metrics by a store that can be used. -/
structure IsSound (store : Storage) : Prop where
  orderly : store.Orderly
  valid : store.kept.Valid

theorem valid_staged [Gzip.Deflater] (request : Request) (sound : IsSound store) :
    (gateway.staged request store).2.kept.Valid := by
  by_cases same : (gateway.staged request store).2.kept = store.kept
  · rw [same]
    exact sound.valid
  · obtain ⟨_, _, _, updates, _, _, _, asks, takes⟩ :=
      (changes_of_staged sound.orderly.apart_kept same).asked
    exact takes.valid (fun _ => store.isFinite_stored) sound.valid asks.valid

theorem valid_call (realIp : Option String) (batch : List Metric.Message) (sound : IsSound store) :
    (gateway.call realIp batch store).2.kept.Valid := by
  have called : Called gateway realIp batch store _ _ := called_of_call sound.orderly.apart_kept
  generalize (gateway.call realIp batch store).1 = answer at called
  generalize (gateway.call realIp batch store).2 = after at called ⊢
  cases called with
  | denied _ => exact sound.valid
  | failed _ _ same => exact same ▸ sound.valid
  | applied _ accepted takes =>
    exact takes.valid (fun _ => store.isFinite_stored) sound.valid
      (Metric.mapM_toUpdate_valid accepted)

/-! ### Runs -/

/-- What reaches a server: a request over the web, with the number that it is logged under, or
the bytes of a remote call, with the address that is reported beside them. -/
inductive Arrival
  | web (number : UInt64) (request : Request)
  | remote (realIp : Option String) (bytes : Bytes)

/-- The store after an arrival. Bytes that are no batch do not get to the service. -/
def arrive [Gzip.Deflater] (gateway : Gateway) (store : Storage) : Arrival → Storage
  | .web number request => (gateway.serve number request store).2
  | .remote realIp bytes =>
    match Metric.readBatchWire? bytes with
    | some batch => (gateway.call realIp batch store).2
    | none => store

/-- The store after arrivals. -/
def run [Gzip.Deflater] (gateway : Gateway) (store : Storage) (arrivals : List Arrival) : Storage :=
  arrivals.foldl gateway.arrive store

theorem sound_arrive [Gzip.Deflater] (sound : IsSound store) (arrival : Arrival) :
    IsSound (gateway.arrive store arrival) := by
  cases arrival with
  | web number request =>
    have same : (gateway.serve number request store).2 = (gateway.staged request store).2 := rfl
    rw [arrive, same]
    exact ⟨orderly_staged request sound.orderly, valid_staged request sound⟩
  | remote realIp bytes =>
    rw [arrive]
    split
    · next batch _ => exact ⟨orderly_call realIp batch sound.orderly, valid_call realIp batch sound⟩
    · exact sound

theorem sound_run [Gzip.Deflater] (sound : IsSound store) (arrivals : List Arrival) :
    IsSound (gateway.run store arrivals) := by
  induction arrivals generalizing store with
  | nil => exact sound
  | cons arrival rest inductionHypothesis => exact inductionHypothesis (sound_arrive sound arrival)

theorem IsSound.of_isNew (isNew : store.IsNew) : IsSound store := by
  refine ⟨isNew.orderly, ?_⟩
  rw [isNew.kept_eq]
  exact Holdings.valid_nothing

end Gateway

end Metering
