/-
How calls of the service are taken apart: a call that consists of two fails where one of them
fails, and succeeds where both do. What every part of a call does to the store, the whole call
does to it.
-/

import Metering.Service.Basic

namespace Metering

variable {Store Answer First Second : Type}

namespace Call

/-! ### Steps of a call -/

theorem bind_apply (call : Call Store First) (next : First → Call Store Second) (store : Store) :
    (call >>= next) store = (match call store with
      | (.ok value, middle) => next value middle
      | (.error problem, middle) => (.error problem, middle)) := by
  change ExceptT.bindCont next (call store).1 (call store).2 = _
  rcases call store with ⟨_ | _, middle⟩ <;> rfl

theorem bind_ok {call : Call Store First} {next : First → Call Store Second}
    {store after : Store} {answer : Second} (done : (call >>= next) store = (.ok answer, after)) :
    ∃ value middle, call store = (.ok value, middle) ∧ next value middle = (.ok answer, after) := by
  rw [bind_apply] at done
  split at done
  · next value middle first => exact ⟨value, middle, first, done⟩
  · cases done

theorem bind_error {call : Call Store First} {next : First → Call Store Second}
    {store after : Store} {problem : ServiceError}
    (failed : (call >>= next) store = (.error problem, after)) :
    call store = (.error problem, after) ∨
      ∃ value middle, call store = (.ok value, middle) ∧
        next value middle = (.error problem, after) := by
  rw [bind_apply] at failed
  split at failed
  · next value middle first => exact Or.inr ⟨value, middle, first, failed⟩
  · next other middle first => cases failed; exact Or.inl first

/-- What is made of an answer leaves the rest as it is. -/
theorem bind_pure_apply (call : Call Store First) (made : First → Second) (store : Store) :
    (call >>= fun value => pure (made value)) store =
      ((call store).1.map made, (call store).2) := by
  rw [bind_apply]
  rcases call store with ⟨_ | _, after⟩ <;> rfl

/-! ### What calls do to the store -/

/-- However a call ends, it has led from one store to another in a certain way. -/
def Keeps (relation : Store → Store → Prop) (call : Call Store Answer) : Prop :=
  ∀ store, relation store (call store).2

variable {relation : Store → Store → Prop} (refl : ∀ store, relation store store)
  (trans : ∀ first second third, relation first second → relation second third →
    relation first third)

include refl in
theorem keeps_pure (answer : Answer) : Keeps relation (pure answer : Call Store Answer) := refl

include trans in
theorem keeps_bind {call : Call Store First} {next : First → Call Store Second}
    (first : Keeps relation call) (second : ∀ value, Keeps relation (next value)) :
    Keeps relation (call >>= next) := by
  intro store
  have start := first store
  rw [bind_apply]
  split
  · next value middle done =>
    rw [done] at start
    exact trans _ _ _ start (second value middle)
  · next problem middle failed =>
    rw [failed] at start
    exact start

include refl trans in
theorem keeps_foldlM {Item : Type} {step : Answer → Item → Call Store Answer}
    (each : ∀ answer item, Keeps relation (step answer item)) (items : List Item)
    (start : Answer) : Keeps relation (items.foldlM step start) := by
  induction items generalizing start with
  | nil => exact keeps_pure refl start
  | cons item rest inductionHypothesis =>
    rw [List.foldlM_cons]
    exact keeps_bind trans (each start item) inductionHypothesis

include refl trans in
theorem keeps_forM {Item : Type} {step : Item → Call Store PUnit}
    (each : ∀ item, Keeps relation (step item)) (items : List Item) :
    Keeps relation (items.forM step) := by
  induction items with
  | nil => exact keeps_pure refl PUnit.unit
  | cons item rest inductionHypothesis =>
    exact keeps_bind trans (each item) fun _ => inductionHypothesis

end Call

namespace Service

/-! ### Actions and checks as calls -/

theorem storing_apply (action : Action Store Answer) (store : Store) :
    storing action store =
      ((action.on store).1.mapError ServiceError.storage, (action.on store).2) := by
  unfold storing
  rcases action.on store with ⟨_ | _, changed⟩ <;> rfl

theorem storing_ok {action : Action Store Answer} {store after : Store} {answer : Answer}
    (done : storing action store = (.ok answer, after)) :
    action.on store = (.ok answer, after) := by
  unfold storing at done
  split at done
  · next written => rw [written, Except.ok.inj (Prod.mk.inj done).1, (Prod.mk.inj done).2]
  · cases done

theorem storing_error {action : Action Store Answer} {store after : Store}
    {problem : ServiceError} (failed : storing action store = (.error problem, after)) :
    ∃ reason, action.on store = (.error reason, after) := by
  unfold storing at failed
  split at failed
  · cases failed
  · next reason changed refused => exact ⟨reason, by rw [refused, (Prod.mk.inj failed).2]⟩

theorem requiring_bind_ok {result : Except ServiceError First}
    {next : First → Call Store Second} {store after : Store} {answer : Second}
    (done : (requiring result >>= next) store = (.ok answer, after)) :
    ∃ value, result = .ok value ∧ next value store = (.ok answer, after) := by
  obtain ⟨value, same, checked, done⟩ := Call.bind_ok done
  obtain ⟨isValue, isSame⟩ := Prod.mk.inj checked
  exact ⟨value, isValue, isSame ▸ done⟩

theorem ok_of_mapError {Problem Other : Type} {map : Problem → Other}
    {result : Except Problem Answer} {answer : Answer} (done : result.mapError map = .ok answer) :
    result = .ok answer := by
  cases result with
  | error problem => cases done
  | ok other => rw [Except.ok.inj done]

theorem ok_of_bind {Problem : Type} {result : Except Problem First}
    {next : First → Except Problem Second} {answer : Second}
    (done : (result >>= next) = .ok answer) :
    ∃ value, result = .ok value ∧ next value = .ok answer := by
  cases result with
  | error problem => cases done
  | ok value => exact ⟨value, rfl, done⟩

theorem requiring_bind_error {result : Except ServiceError First}
    {next : First → Call Store Second} {store after : Store} {problem : ServiceError}
    (failed : (requiring result >>= next) store = (.error problem, after)) :
    after = store ∨ ∃ value, result = .ok value ∧ next value store = (.error problem, after) := by
  rcases Call.bind_error failed with refused | ⟨value, same, checked, failed⟩
  · exact Or.inl (Prod.mk.inj refused).2.symm
  · obtain ⟨isValue, isSame⟩ := Prod.mk.inj checked
    exact Or.inr ⟨value, isValue, isSame ▸ failed⟩

theorem keeps_storing {relation : Store → Store → Prop} {action : Action Store Answer}
    (kept : ∀ store, relation store (action.on store).2) :
    Call.Keeps relation (storing action) := by
  intro store
  rw [storing_apply]
  exact kept store

end Service

end Metering
