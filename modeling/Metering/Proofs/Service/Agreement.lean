/-
Two backends in the place of one. A call that runs in a transaction starts from what is kept,
sees the same numbers on both, and so takes the same way on both to the same answer or the same
error. What it has kept in the end is the same again, so the backends answer a whole run of calls
alike.
-/

import Metering.Proofs.Metric.Updates
import Metering.Proofs.Service.Atomicity
import Metering.Proofs.Storage.Alike

namespace Metering

variable {Answer First Second Item : Type}

/-! ### Calls that end alike -/

/-- Two ends of a call: with answers that are related, or with the same error. The stores are in
one relation where the call succeeds and in another where it fails. -/
inductive Call.Ends (same : Answer → Answer → Prop) (going stopped : Storage → Storage → Prop) :
    Except ServiceError Answer × Storage → Except ServiceError Answer × Storage → Prop
  | ok {answer other : Answer} {left right : Storage} (answers : same answer other)
      (stores : going left right) : Ends same going stopped (.ok answer, left) (.ok other, right)
  | error (problem : ServiceError) {left right : Storage} (stores : stopped left right) :
      Ends same going stopped (.error problem, left) (.error problem, right)

/-- A call on one store and a call on another that end alike, whenever they start from stores in
the relation in which they leave them. -/
def Call.Agree (same : Answer → Answer → Prop) (going stopped : Storage → Storage → Prop)
    (call other : Call Storage Answer) : Prop :=
  ∀ left right, going left right → Ends same going stopped (call left) (other right)

namespace Call

variable {same : Answer → Answer → Prop} {going stopped : Storage → Storage → Prop}

theorem agree_pure {answer other : Answer} (answers : same answer other) :
    Agree same going stopped (pure answer) (pure other) :=
  fun _ _ stores => Ends.ok answers stores

theorem agree_bind {image : Second → Second → Prop} {call other : Call Storage First}
    {first : First → First → Prop} {next otherNext : First → Call Storage Second}
    (agree : Agree first going stopped call other)
    (agreeNext : ∀ value otherValue, first value otherValue →
      Agree image going stopped (next value) (otherNext otherValue)) :
    Agree image going stopped (call >>= next) (other >>= otherNext) := by
  intro left right stores
  have ends := agree left right stores
  rw [bind_apply, bind_apply]
  revert ends
  rcases call left with ⟨answer, middle⟩
  rcases other right with ⟨otherAnswer, otherMiddle⟩
  intro ends
  cases ends with
  | ok answers middles => exact agreeNext _ _ answers middle otherMiddle middles
  | error problem middles => exact Ends.error problem middles

/-- Calls that go on alike after the same answer. -/
theorem agree_bind_same {image : Second → Second → Prop} {call : Call Storage First}
    {next : First → Call Storage Second} (agree : Agree Eq going stopped call call)
    (agreeNext : ∀ value, Agree image going stopped (next value) (next value)) :
    Agree image going stopped (call >>= next) (call >>= next) :=
  agree_bind agree fun value _ equal => equal ▸ agreeNext value

theorem agree_foldlM {step : Answer → Item → Call Storage Answer}
    (each : ∀ answer item, Agree Eq going stopped (step answer item) (step answer item))
    (items : List Item) (start : Answer) :
    Agree Eq going stopped (items.foldlM step start) (items.foldlM step start) := by
  induction items generalizing start with
  | nil => exact agree_pure rfl
  | cons item rest inductionHypothesis =>
    rw [List.foldlM_cons]
    exact agree_bind_same (each start item) inductionHypothesis

theorem agree_forM {step : Item → Call Storage PUnit}
    (each : ∀ item, Agree Eq going stopped (step item) (step item)) (items : List Item) :
    Agree Eq going stopped (items.forM step) (items.forM step) := by
  induction items with
  | nil => exact agree_pure rfl
  | cons item rest inductionHypothesis =>
    exact agree_bind_same (each item) fun _ => inductionHypothesis

end Call

namespace Service

open Storage (Alike Unchanged Within)
open Call (Agree Ends)

/-- A check that does not touch the store is passed on both sides or on neither. -/
theorem agree_requiring {going stopped : Storage → Storage → Prop}
    (weaker : ∀ left right, going left right → stopped left right)
    (result : Except ServiceError Answer) :
    Agree Eq going stopped (requiring result) (requiring result) := by
  intro left right stores
  cases result with
  | ok answer => exact Ends.ok rfl stores
  | error problem => exact Ends.error problem (weaker left right stores)

/-- A check after which calls go on alike. -/
theorem agree_requiring_bind {going stopped : Storage → Storage → Prop}
    (weaker : ∀ left right, going left right → stopped left right)
    {same : Second → Second → Prop} {result : Except ServiceError First}
    {next : First → Call Storage Second}
    (agreeNext : ∀ value, result = .ok value → Agree same going stopped (next value) (next value)) :
    Agree same going stopped (requiring result >>= next) (requiring result >>= next) := by
  intro left right stores
  cases result with
  | ok value => exact agreeNext value rfl left right stores
  | error problem => exact Ends.error problem (weaker left right stores)

/-! ### The steps of calls on stores alike -/

/-- In the middle of a transaction, where nothing is promised of stores once a call has failed. -/
abbrev Inside (same : Answer → Answer → Prop) (call : Call Storage Answer) : Prop :=
  Agree same Alike (fun _ _ => True) call call

theorem inside_previousTotal (key : String) : Inside Eq (previousTotal key) := by
  intro left right alike
  unfold previousTotal
  rw [Storage.counter_on, Storage.counter_on, alike.leftOrderly.isReached,
    alike.rightOrderly.isReached, if_pos rfl, if_pos rfl, alike.counter]
  cases right.seen.counter key with
  | ok total => exact Ends.ok rfl alike
  | error problem =>
    cases problem with
    | notFound other => exact Ends.ok rfl alike
    | wrongKind | database | io | encode => exact Ends.error _ trivial

theorem inside_newTotal (key : String) (delta : Int64) : Inside Eq (newTotal key delta) :=
  Call.agree_bind_same (inside_previousTotal key) fun _ =>
    agree_requiring (fun _ _ _ => trivial) _

theorem inside_withTotal (totals : KeyMap Int64) (entry : String × Int64) :
    Inside Eq (withTotal totals entry) :=
  Call.agree_bind_same (inside_newTotal entry.1 entry.2) fun _ => Call.agree_pure rfl

theorem inside_newTotals (deltas : KeyMap Int64) : Inside Eq (newTotals deltas) := by
  have folded : Inside Eq (deltas.toList.foldlM withTotal KeyMap.empty) :=
    Call.agree_foldlM inside_withTotal deltas.toList KeyMap.empty
  exact folded

theorem inside_requireGauge (key : String) : Inside Eq (requireGauge key) := by
  intro left right alike
  have same := alike.gauge key
  unfold requireGauge
  rw [Storage.gauge_on, Storage.gauge_on, alike.leftOrderly.isReached,
    alike.rightOrderly.isReached, if_pos rfl, if_pos rfl]
  revert same
  cases left.seen.gauge key with
  | ok reading =>
    cases right.seen.gauge key with
    | ok other => exact fun _ => Ends.ok rfl alike
    | error problem => exact fun same => nomatch same
  | error problem =>
    cases right.seen.gauge key with
    | ok other => exact fun same => nomatch same
    | error other =>
      intro same
      obtain rfl : problem = other := Except.error.inj same
      cases problem with
      | notFound _ => exact Ends.ok rfl alike
      | wrongKind | database | io | encode => exact Ends.error _ trivial

theorem inside_write {action : Action Storage Unit}
    (writes : ∀ left right, Alike left right → Storage.WritesAlike action left right) :
    Inside Eq (storing action) := by
  intro left right alike
  obtain ⟨answer, after⟩ := writes left right alike
  rw [storing_apply, storing_apply, ← answer]
  cases done : (action.on left).1 with
  | ok _ => exact Ends.ok rfl (after done)
  | error problem => exact Ends.error _ trivial

theorem inside_apply {request : Update}
    (finite : ∀ reading, request.value = .gauge reading → reading.isFinite = true) :
    Inside Eq (apply request) := by
  unfold apply
  cases asked : request.value with
  | gauge reading =>
    have number := Binary64.isNaN_of_isFinite (finite reading asked)
    exact Call.agree_bind_same
      (inside_write fun _ _ alike => Storage.writesAlike_setGauge alike request.key number)
      fun _ => Call.agree_pure rfl
  | counter delta =>
    exact Call.agree_bind_same (inside_newTotal request.key delta) fun total =>
      Call.agree_bind_same
        (inside_write fun _ _ alike => Storage.writesAlike_setCounter alike request.key total)
        fun _ => Call.agree_pure rfl

theorem inside_applyBatch {batch : Batch}
    (numbers : ∀ entry ∈ batch.gauges.toList, entry.2.isNaN = false) :
    Inside Eq (applyBatch batch) :=
  Call.agree_bind_same (inside_newTotals batch.deltas) fun totals =>
    Call.agree_bind_same (Call.agree_forM inside_requireGauge batch.gauges.keys) fun _ =>
      Call.agree_bind_same
        (inside_write fun _ _ alike => Storage.writesAlike_setCounters alike totals) fun _ =>
          inside_write fun _ _ alike => Storage.writesAlike_setGauges alike numbers

/-- Values that are the same number, or the same total. -/
abbrev SameValue (value other : Value) : Prop := value.unsigned = other.unsigned

theorem inside_read (kind : Kind) (key : String) : Inside SameValue (read kind key) := by
  intro left right alike
  have same := alike.read key kind
  rw [read_apply, read_apply, alike.leftOrderly.isReached, alike.rightOrderly.isReached,
    if_pos rfl, if_pos rfl]
  revert same
  cases left.seen.read key kind with
  | ok value =>
    cases right.seen.read key kind with
    | ok other => exact fun same => Ends.ok (Except.ok.inj same) alike
    | error problem => exact fun same => nomatch same
  | error problem =>
    cases right.seen.read key kind with
    | ok other => exact fun same => nomatch same
    | error other =>
      intro same
      obtain rfl : problem = other := Except.error.inj same
      exact Ends.error _ trivial

theorem inside_all :
    Inside (fun metrics others => metrics.map Value.unsigned = others.map Value.unsigned)
      (storing Repository.all) := by
  intro left right alike
  obtain ⟨metrics, others, listed, otherListed, same⟩ := alike.all
  rw [storing_apply, storing_apply, listed, otherListed]
  exact Ends.ok same alike

/-! ### Calls in transactions -/

/-- Two stores between transactions that keep the same numbers. -/
structure Paired (left right : Storage) : Prop where
  leftOrderly : left.Orderly
  rightOrderly : right.Orderly
  kept : left.kept.unsigned = right.kept.unsigned

end Service

namespace Storage

theorem Orderly.connected {store : Storage} (orderly : store.Orderly) :
    store.connected = true := by
  cases store with
  | memory store => rfl
  | database file store => exact orderly.1

theorem Orderly.begun {store : Storage} (orderly : store.Orderly) : store.begun.Orderly := by
  cases store with
  | memory store => exact orderly
  | database file store => exact ⟨orderly.1, orderly.2.1, orderly.2.1⟩

theorem Orderly.confirmed {store : Storage} (orderly : store.Orderly) :
    store.confirmed.Orderly := by
  cases store with
  | memory store => exact orderly
  | database file store => exact ⟨orderly.1, orderly.2.2, orderly.2.2⟩

theorem Orderly.of_unchanged {store after : Storage} (orderly : store.Orderly)
    (unchanged : Unchanged store after) : after.Orderly := by
  rcases unchanged with rfl | rfl
  · exact orderly
  · cases store with
    | memory store => exact orderly
    | database file store => exact ⟨orderly.1, orderly.2.1, orderly.2.1⟩

end Storage

namespace Service

open Storage (Alike Unchanged Within)
open Call (Agree Ends)

/-- A call between transactions; the stores keep the same numbers afterwards, however it ends. -/
abbrev Between (same : Answer → Answer → Prop) (call : Call Storage Answer) : Prop :=
  Agree same Paired Paired call call

/-- A call that leaves a store that can be used as it was when it fails. -/
def Spares (call : Call Storage Answer) : Prop :=
  ∀ store after problem, store.Orderly → call store = (.error problem, after) →
    Unchanged store after

/-- A call whose steps end alike ends alike in a transaction. -/
theorem between_inTransaction {same : Answer → Answer → Prop} {call : Call Storage Answer}
    (inside : Inside same call) (spares : Spares (inTransaction call)) :
    Between same (inTransaction call) := by
  rintro left right ⟨leftOrderly, rightOrderly, kept⟩
  have alike : Alike left.begun right.begun := by
    refine ⟨leftOrderly.begun, rightOrderly.begun, ?_⟩
    rw [Storage.seen_begun, Storage.seen_begun, kept]
  have leftSpared := fun after problem => spares left after problem leftOrderly
  have rightSpared := fun after problem => spares right after problem rightOrderly
  have ends := inside left.begun right.begun alike
  revert leftSpared rightSpared ends
  rw [inTransaction_apply, inTransaction_apply, leftOrderly.connected, rightOrderly.connected,
    if_pos rfl, if_pos rfl]
  rcases call left.begun with ⟨answer, middle⟩
  rcases call right.begun with ⟨other, otherMiddle⟩
  intro leftSpared rightSpared ends
  cases ends with
  | ok answers middles =>
    refine Ends.ok answers
      ⟨middles.leftOrderly.confirmed, middles.rightOrderly.confirmed, ?_⟩
    rw [Storage.kept_confirmed, Storage.kept_confirmed, middles.seen]
  | error problem _ =>
    have leftUnchanged := leftSpared middle.undone problem rfl
    have rightUnchanged := rightSpared otherMiddle.undone problem rfl
    refine Ends.error problem
      ⟨leftOrderly.of_unchanged leftUnchanged, rightOrderly.of_unchanged rightUnchanged, ?_⟩
    rw [Storage.kept_of_unchanged leftUnchanged, Storage.kept_of_unchanged rightUnchanged, kept]

/-! ### The calls of the service -/

theorem between_requiring_bind {same : Second → Second → Prop}
    {result : Except ServiceError First} {next : First → Call Storage Second}
    (betweenNext : ∀ value, result = .ok value → Between same (next value)) :
    Between same (requiring result >>= next) :=
  agree_requiring_bind (fun _ _ paired => paired) betweenNext

theorem between_checking_bind {same : Second → Second → Prop}
    {result : Except MetricError First} {next : First → Call Storage Second}
    (betweenNext : ∀ value, result = .ok value → Between same (next value)) :
    Between same (checking result >>= next) :=
  between_requiring_bind fun value checked => by
    cases result with
    | ok passed => exact betweenNext value (congrArg Except.ok (Except.ok.inj checked))
    | error problem => cases checked

theorem between_update {request : Update} (finite : request.IsFinite) :
    Between Eq (update request) :=
  between_inTransaction (inside_apply finite) fun _ _ _ _ failed => update_error failed

theorem between_updateMetric (metric : Metric) : Between Eq (updateMetric metric) :=
  between_checking_bind fun _ asked =>
    Call.agree_bind_same (between_update (Metric.toUpdate_finite asked)) fun _ =>
      Call.agree_pure rfl

/-- The gauges of a batch are among its updates. -/
theorem numbers_ofUpdates {updates : List Update} {batch : Batch}
    (merged : Batch.ofUpdates updates = .ok batch)
    (finite : ∀ update ∈ updates, update.IsFinite) :
    ∀ entry ∈ batch.gauges.toList, entry.2.isNaN = false := by
  rintro ⟨key, reading⟩ member
  have isLast := (Batch.ofUpdates_ok merged).reading key
  rw [(KeyMap.find?_eq_some_iff _ key reading).mpr member] at isLast
  have occurs := (Update.mem_readings_iff key reading updates).mp
    (List.mem_of_getLast? isLast.symm)
  exact Binary64.isNaN_of_isFinite (finite _ occurs reading rfl)

theorem between_updateMany {updates : List Update}
    (finite : ∀ update ∈ updates, update.IsFinite) : Between Eq (updateMany updates) := by
  have spares : Spares (updateMany updates) := fun store after problem orderly failed =>
    updateMany_error (fun key _ => orderly.apart_kept key) failed
  unfold updateMany at spares ⊢
  cases empty : updates.isEmpty with
  | true => exact Call.agree_pure rfl
  | false =>
    rw [empty] at spares
    refine between_requiring_bind fun batch merged => ?_
    rw [merged] at spares
    exact between_inTransaction (inside_applyBatch (numbers_ofUpdates merged finite)) spares

theorem between_updateMetrics (metrics : List Metric) : Between Eq (updateMetrics metrics) :=
  between_checking_bind fun _ asked => between_updateMany (Metric.mapM_toUpdate_finite asked)

/-- A transaction that only reads leaves the store as it was. -/
theorem spares_of_unmoved {call : Call Storage Answer} (unmoved : ∀ store, (call store).2 = store) :
    Spares (inTransaction call) := by
  intro store after problem _ failed
  rcases inTransaction_error failed with rfl | ⟨middle, called, rfl⟩
  · exact Or.inl rfl
  · obtain rfl : store.begun = middle := by rw [← unmoved store.begun, called]
    right
    cases store <;> rfl

theorem between_value (kind : Kind) (key : String) : Between SameValue (value kind key) :=
  between_inTransaction (inside_read kind key)
    (spares_of_unmoved fun store => by rw [read_apply])

end Service

/-- A metric with the sign of a zero dropped. -/
def Metric.unsigned (metric : Metric) : Metric :=
  { metric with reading := metric.reading.map Binary64.unsignedZero }

theorem Metric.unsigned_ofValue (key : String) (value : Value) :
    (Metric.ofValue key value).unsigned = Metric.ofValue key value.unsigned := by
  cases value <;> rfl

namespace Service

theorem between_valueMetric (metric : Metric) :
    Between (fun answer other => answer.unsigned = other.unsigned) (valueMetric metric) :=
  between_checking_bind fun kind _ =>
    Call.agree_bind (between_value kind metric.key) fun value other same =>
      Call.agree_pure (by rw [Metric.unsigned_ofValue, Metric.unsigned_ofValue, same])

theorem between_all :
    Between (fun metrics others => metrics.map Value.unsigned = others.map Value.unsigned) all :=
  between_inTransaction inside_all <| spares_of_unmoved fun store => by
    rw [storing_apply]
    cases store with
    | memory store => rfl
    | database file store =>
      exact congrArg (fun result => Storage.database file result.2)
        (Database.query_on (fun table => .ok table) store)

end Service

/-! ### Runs of calls -/

/-- A call of the service with what it is given. -/
inductive ServiceCall
  | update (request : Update)
  | updateMetric (metric : Metric)
  | updateMetrics (metrics : List Metric)
  | updateMany (updates : List Update)
  | value (kind : Kind) (key : String)
  | valueMetric (metric : Metric)
  | all

/-- What a call that succeeds is answered. -/
inductive Reply
  | value (value : Value)
  | metric (metric : Metric)
  | done
  | metrics (metrics : KeyMap Value)
  deriving DecidableEq

/-- An answer with the signs of zeros dropped. -/
def Reply.unsigned : Reply → Reply
  | .value held => .value held.unsigned
  | .metric held => .metric held.unsigned
  | .done => .done
  | .metrics held => .metrics (held.map Value.unsigned)

namespace ServiceCall

/-- Runs a call. -/
def perform : ServiceCall → Call Storage Reply
  | .update request => return .value (← Service.update request)
  | .updateMetric metric => return .metric (← Service.updateMetric metric)
  | .updateMetrics metrics => do
    Service.updateMetrics metrics
    return .done
  | .updateMany updates => do
    Service.updateMany updates
    return .done
  | .value kind key => return .value (← Service.value kind key)
  | .valueMetric metric => return .metric (← Service.valueMetric metric)
  | .all => return .metrics (← Service.all)

/-- Calls that are not given infinite readings or ones that are not numbers. The calls that are
given metrics check them on their own. -/
def IsFinite : ServiceCall → Prop
  | .update request => request.IsFinite
  | .updateMany updates => ∀ update ∈ updates, update.IsFinite
  | _ => True

/-- The answers to calls, one after the other. -/
def answers : List ServiceCall → Storage → List (Except ServiceError Reply)
  | [], _ => []
  | call :: rest, store =>
    let (answer, after) := call.perform store
    answer :: answers rest after

open Service (Between Paired)

/-- Every call ends alike on stores that keep the same numbers. -/
theorem between_perform {call : ServiceCall} (finite : call.IsFinite) :
    Between (fun reply other => reply.unsigned = other.unsigned) call.perform := by
  cases call with
  | update request =>
    exact Call.agree_bind_same (Service.between_update finite) fun _ => Call.agree_pure rfl
  | updateMetric metric =>
    exact Call.agree_bind_same (Service.between_updateMetric metric) fun _ => Call.agree_pure rfl
  | updateMetrics metrics =>
    exact Call.agree_bind_same (Service.between_updateMetrics metrics) fun _ =>
      Call.agree_pure rfl
  | updateMany updates =>
    exact Call.agree_bind_same (Service.between_updateMany finite) fun _ => Call.agree_pure rfl
  | value kind key =>
    exact Call.agree_bind (Service.between_value kind key) fun _ _ same =>
      Call.agree_pure (congrArg Reply.value same)
  | valueMetric metric =>
    exact Call.agree_bind (Service.between_valueMetric metric) fun _ _ same =>
      Call.agree_pure (congrArg Reply.metric same)
  | all =>
    exact Call.agree_bind Service.between_all fun _ _ same =>
      Call.agree_pure (congrArg Reply.metrics same)

theorem answers_of_paired {calls : List ServiceCall} (finite : ∀ call ∈ calls, call.IsFinite)
    {left right : Storage} (paired : Paired left right) :
    (answers calls left).map (Except.map Reply.unsigned) =
      (answers calls right).map (Except.map Reply.unsigned) := by
  induction calls generalizing left right with
  | nil => rfl
  | cons call rest inductionHypothesis =>
    obtain ⟨callFinite, restFinite⟩ := List.forall_mem_cons.mp finite
    have ends := between_perform callFinite left right paired
    rw [answers, answers]
    revert ends
    rcases call.perform left with ⟨answer, after⟩
    rcases call.perform right with ⟨other, otherAfter⟩
    intro ends
    cases ends with
    | ok replies stores =>
      rw [List.map_cons, List.map_cons, inductionHypothesis restFinite stores, Except.map,
        Except.map, replies]
    | error problem stores =>
      rw [List.map_cons, List.map_cons, inductionHypothesis restFinite stores]

end ServiceCall

theorem Storage.IsNew.kept_unsigned {store : Storage} (isNew : store.IsNew) :
    store.kept.unsigned = Holdings.nothing := by
  rw [isNew.kept_eq]
  rfl

/-- Whatever backends two new stores have, they give the same answers to the same calls, up to
the signs of zeros: the same values, or the same errors with the same keys in them. -/
theorem ServiceCall.same_answers {left right : Storage} (leftNew : left.IsNew)
    (rightNew : right.IsNew) {calls : List ServiceCall}
    (finite : ∀ call ∈ calls, call.IsFinite) :
    (answers calls left).map (Except.map Reply.unsigned) =
      (answers calls right).map (Except.map Reply.unsigned) := by
  refine answers_of_paired finite ⟨leftNew.orderly, rightNew.orderly, ?_⟩
  rw [leftNew.kept_unsigned, rightNew.kept_unsigned]

/-- A negative zero comes back with its sign from memory and without it from a database, and a
change of a total under its key is refused by both. -/
theorem ServiceCall.same_answers_negative_zero :
    let memory := Storage.memory .ephemeral
    let database := Storage.database none (Database.connect none)
    let negativeZero := Binary64.ofSigned true 0
    let calls : List ServiceCall :=
      [.update ⟨"g", .gauge negativeZero⟩, .value .gauge "g", .updateMany [⟨"g", .counter 1⟩]]
    answers calls memory =
      [.ok (.value (.gauge negativeZero)), .ok (.value (.gauge negativeZero)),
        .error (.storage (.wrongKind "g"))] ∧
    answers calls database =
      [.ok (.value (.gauge negativeZero)), .ok (.value (.gauge ⟨0⟩)),
        .error (.storage (.wrongKind "g"))] ∧
    (answers calls memory).map (Except.map Reply.unsigned) =
      (answers calls database).map (Except.map Reply.unsigned) := by
  intro memory database negativeZero calls
  have finite : ∀ call ∈ calls, call.IsFinite := by
    refine List.forall_mem_cons.mpr ⟨?_, List.forall_mem_cons.mpr ⟨trivial,
      List.forall_mem_cons.mpr ⟨?_, nofun⟩⟩⟩
    · rintro reading given
      rw [← Value.gauge.inj given]
      decide
    · exact List.forall_mem_cons.mpr ⟨nofun, nofun⟩
  have memoryNew : memory.IsNew := rfl
  have databaseNew : database.IsNew := rfl
  exact ⟨rfl, by decide +kernel, same_answers memoryNew databaseNew finite⟩

end Metering
