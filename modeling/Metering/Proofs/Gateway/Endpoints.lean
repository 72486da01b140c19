/-
What the endpoints do to a store. Where they change what is kept, the request was for one of the
three routes for updates, the answer is that of success, and the change is that of the updates
which the body asks for, or the path.
-/

import Metering.Gateway.Basic
import Metering.Proofs.Metric.Json
import Metering.Proofs.Metric.Updates
import Metering.Proofs.Service.Outcome

namespace Metering

theorem ServiceError.status_cases (problem : ServiceError) :
    problem.status = 400 ∨ problem.status = 404 ∨ problem.status = 500 := by
  unfold status
  split <;> decide

namespace Endpoint

variable {Answer : Type}

/-- The updates that a body asks for at a route; at one of them it is the path that asks. -/
inductive Asks (body : Bytes) : Route → List Update → Prop
  | one {metric : Metric} {update : Update} (reads : Metric.decodeJson? body = some metric)
    (accepted : metric.toUpdate = .ok update) : Asks body .updateOne [update]
  | batch {metrics : List Metric} {updates : List Update}
    (reads : Metric.decodeBatchJson? body = some metrics)
    (accepted : metrics.mapM Metric.toUpdate = .ok updates) : Asks body .updateBatch updates
  | path {rawKind rawKey rawNumber kind key number : String} {update : Update}
    (isKind : Route.parameter "mtype" rawKind = .ok kind)
    (isKey : Route.parameter "key" rawKey = .ok key)
    (isNumber : Route.parameter "value" rawNumber = .ok number)
    (reads : readUpdate kind key number = .ok update) :
    Asks body (.updatePath rawKind rawKey rawNumber) [update]

/-- What an endpoint has done: nothing to what is kept, or what its route asks for, and then the
answer is a success that is short enough to be signed. -/
def Done (body : Bytes) (route : Route) (store : Storage) (result : Response × Storage) : Prop :=
  result.2.kept = store.kept ∨
    (result.1.status = 200 ∧ result.1.body.length ≤ stageLimit ∧
      ∃ updates, Asks body route updates ∧
        Holdings.Takes updates store.stored store.kept result.2.kept)

variable {body : Bytes} {route : Route} {store : Storage}

/-! ### Responses to calls -/

/-- The response to what has come out of a call. -/
def outcome (respond : Answer → Response) : Except ServiceError Answer → Response
  | .ok answer => respond answer
  | .error problem => refused problem

theorem responding_eq {Store : Type} (respond : Answer → Response) (call : Call Store Answer)
    (store : Store) :
    responding respond call store = (outcome respond (call store).1, (call store).2) := by
  rw [responding]
  rcases call store with ⟨_ | _, after⟩ <;> rfl

/-- What can be read of a body that is not too long gets to the service. -/
theorem withBody_of_reads {Store Asked : Type} {decode? : Bytes → Option Asked}
    {request : Request} {asked : Asked} (short : request.body.length ≤ bodyLimit)
    (reads : decode? request.body = some asked) (respond : Answer → Response)
    (call : Asked → Call Store Answer) :
    (withBody request fun body =>
        responding respond do call (← Service.requiring (readBody decode? body))) =
      responding respond (call asked) := by
  rw [withBody, if_neg (Nat.not_lt.mpr short), readBody, reads]
  rfl

theorem kept_responding {respond : Answer → Response} {call : Call Storage Answer}
    (leaves : Service.LeavesKept call) (store : Storage) :
    (responding respond call store).2.kept = store.kept := by
  have same := leaves store
  rw [responding]
  split <;> next called => rwa [called] at same

/-- A call that changes nothing where it fails, and what it does where it succeeds. -/
theorem done_responding {respond : Answer → Response} {call : Call Storage Answer}
    (failed : ∀ problem after, call store = (.error problem, after) → after.kept = store.kept)
    (succeeded : ∀ answer after, call store = (.ok answer, after) →
      (respond answer).status = 200 ∧ (respond answer).body.length ≤ stageLimit ∧
        ∃ updates, Asks body route updates ∧
          Holdings.Takes updates store.stored store.kept after.kept) :
    Done body route store (responding respond call store) := by
  rw [responding]
  split
  · next answer after called => exact Or.inr (succeeded answer after called)
  · next problem after called => exact Or.inl (failed problem after called)

theorem done_withBody {request : Request} {work : Bytes → StateM Storage Response}
    (done : Done body route store (work request.body store)) :
    Done body route store (withBody request work store) := by
  rw [withBody]
  split
  · exact Or.inl rfl
  · exact done

theorem readBody_ok {decode? : Bytes → Option Answer} {answer : Answer}
    (read : readBody decode? body = .ok answer) : decode? body = some answer := by
  unfold readBody at read
  split at read
  · next decoded => rw [decoded, Except.ok.inj read]
  · cases read

/-! ### The routes for updates -/

theorem done_updateOne (request : Request) (store : Storage) :
    Done request.body .updateOne store (answer .updateOne request store) := by
  refine done_withBody (done_responding (fun problem after failed => ?_)
    fun metric after succeeded => ?_)
  · rcases Service.requiring_bind_error failed with same | ⟨metric, _, refused⟩
    · rw [same]
    · exact Storage.kept_of_unchanged (Service.updateMetric_error refused)
  · obtain ⟨asked, isRead, updated⟩ := Service.requiring_bind_ok succeeded
    obtain ⟨update, isUpdate, applied⟩ := Service.requiring_bind_ok updated
    obtain ⟨value, middle, taken, answered⟩ := Call.bind_ok applied
    obtain ⟨isMetric, isAfter⟩ := Prod.mk.inj answered
    have accepted := Service.ok_of_mapError isUpdate
    obtain ⟨validKey, isKey⟩ := Metric.toUpdate_key accepted
    refine ⟨rfl, ?_, [update], .one (readBody_ok isRead) accepted, ?_⟩
    · show metric.encodeJson.length ≤ stageLimit
      rw [← Except.ok.inj isMetric]
      exact (Metric.length_encodeJson_ofValue
        (isKey ▸ Metric.length_of_validateKey_ok validKey) value).trans (by decide)
    · rw [← isAfter]
      exact Service.update_ok taken

theorem done_updateBatch (request : Request) {store : Storage} (apart : store.KindsApart) :
    Done request.body .updateBatch store (answer .updateBatch request store) := by
  refine done_withBody (done_responding (fun problem after failed => ?_)
    fun _ after succeeded => ?_)
  · rcases Service.requiring_bind_error failed with same | ⟨metrics, _, refused⟩
    · rw [same]
    · exact Storage.kept_of_unchanged (Service.updateMetrics_error apart refused)
  · obtain ⟨asked, isRead, updated⟩ := Service.requiring_bind_ok succeeded
    obtain ⟨updates, isUpdates, taken⟩ := Service.requiring_bind_ok updated
    exact ⟨rfl, Nat.zero_le _, updates,
      .batch (readBody_ok isRead) (Service.ok_of_mapError isUpdates), Service.updateMany_ok taken⟩

theorem done_updatePath (kind key number : String) (request : Request) (store : Storage) :
    Done request.body (.updatePath kind key number) store
      (answer (.updatePath kind key number) request store) := by
  rw [answer]
  cases isKind : Route.parameter "mtype" kind with
  | error name => exact Or.inl rfl
  | ok kindText =>
    cases isKey : Route.parameter "key" key with
    | error name => exact Or.inl rfl
    | ok keyText =>
      cases isNumber : Route.parameter "value" number with
      | error name => exact Or.inl rfl
      | ok numberText =>
        refine done_responding (fun problem after failed => ?_) fun value after succeeded => ?_
        · rcases Service.requiring_bind_error failed with same | ⟨update, _, refused⟩
          · rw [same]
          · exact Storage.kept_of_unchanged (Service.update_error refused)
        · obtain ⟨update, isRead, taken⟩ := Service.requiring_bind_ok succeeded
          exact ⟨rfl, Nat.zero_le _, [update], .path isKind isKey isNumber isRead,
            Service.update_ok taken⟩

/-! ### All routes -/

theorem kept_withBody {request : Request} {work : Bytes → StateM Storage Response}
    (kept : (work request.body store).2.kept = store.kept) :
    (withBody request work store).2.kept = store.kept := by
  rw [withBody]
  split
  · rfl
  · exact kept

/-- Every endpoint does nothing or what its route asks for. -/
theorem done_answer (route : Route) (request : Request) {store : Storage}
    (apart : store.KindsApart) :
    Done request.body route store (answer route request store) := by
  cases route with
  | listing => exact Or.inl (kept_responding Service.leavesKept_all store)
  | ping => exact Or.inl (kept_responding Service.leavesKept_ping store)
  | updateOne => exact done_updateOne request store
  | updateBatch => exact done_updateBatch request apart
  | query =>
    refine Or.inl (kept_withBody (kept_responding ?_ store))
    exact Service.leavesKept_bind (Service.leavesKept_requiring _) Service.leavesKept_valueMetric
  | updatePath kind key number => exact done_updatePath kind key number request store
  | valuePath kind key =>
    rw [answer]
    cases Route.parameter "mtype" kind with
    | error name => exact Or.inl rfl
    | ok kindText =>
      cases Route.parameter "key" key with
      | error name => exact Or.inl rfl
      | ok keyText =>
        refine Or.inl (kept_responding (Service.leavesKept_bind
          (Service.leavesKept_requiring _) fun asked => ?_) store)
        exact Service.leavesKept_value asked.1 asked.2

end Endpoint

end Metering
