/-
The updates that metrics ask for. A list of metrics is converted as a whole or refused, and the
readings of the updates it asks for are finite.
-/

import Metering.Metric.Basic

namespace Metering

/-- An update that does not give a gauge an infinite reading, or one that is not a number. -/
def Update.IsFinite (update : Update) : Prop :=
  ∀ reading, update.value = .gauge reading → reading.isFinite = true

namespace Metric

theorem mapM_cons_ok {Item Result Problem : Type} {convert : Item → Except Problem Result}
    {item : Item} {rest : List Item} {results : List Result}
    (done : (item :: rest).mapM convert = .ok results) :
    ∃ result others, convert item = .ok result ∧ rest.mapM convert = .ok others ∧
      results = result :: others := by
  rw [List.mapM_cons] at done
  cases first : convert item with
  | error problem => rw [first] at done; cases done
  | ok result =>
    rw [first] at done
    change (rest.mapM convert >>= fun others => pure (result :: others)) = .ok results at done
    cases later : rest.mapM convert with
    | error problem => rw [later] at done; cases done
    | ok others =>
      rw [later] at done
      exact ⟨result, others, rfl, rfl, (Except.ok.inj done).symm⟩

/-- A list is converted exactly if everything in it is. -/
theorem mapM_ok_iff {Item Result Problem : Type} {convert : Item → Except Problem Result}
    {items : List Item} :
    (∃ results, items.mapM convert = .ok results) ↔
      ∀ item ∈ items, ∃ result, convert item = .ok result := by
  induction items with
  | nil => exact ⟨fun _ => nofun, fun _ => ⟨[], rfl⟩⟩
  | cons item rest inductionHypothesis =>
    rw [List.forall_mem_cons, ← inductionHypothesis]
    constructor
    · rintro ⟨results, done⟩
      obtain ⟨result, others, first, later, -⟩ := mapM_cons_ok done
      exact ⟨⟨result, first⟩, others, later⟩
    · rintro ⟨⟨result, first⟩, others, later⟩
      refine ⟨result :: others, ?_⟩
      rw [List.mapM_cons, first, later]
      rfl

/-- What is true of everything that a conversion gives is true of the results for a list. -/
theorem forall_of_mapM_ok {Item Result Problem : Type} {convert : Item → Except Problem Result}
    {good : Result → Prop} (each : ∀ item result, convert item = .ok result → good result)
    {items : List Item} {results : List Result} (done : items.mapM convert = .ok results) :
    ∀ result ∈ results, good result := by
  induction items generalizing results with
  | nil =>
    obtain rfl : [] = results := Except.ok.inj done
    exact nofun
  | cons item rest inductionHypothesis =>
    obtain ⟨result, others, first, later, rfl⟩ := mapM_cons_ok done
    exact List.forall_mem_cons.mpr ⟨each item result first, inductionHypothesis later⟩

theorem validateReading_ok {key : String} {reading : Binary64}
    (passed : validateReading key reading = .ok ()) : reading.isFinite = true := by
  unfold validateReading at passed
  split at passed
  · assumption
  · cases passed

theorem length_of_validateKey_ok {key : String} (passed : validateKey key = .ok ()) :
    key.length ≤ longestKey := by
  unfold validateKey at passed
  split at passed
  · cases passed
  · split at passed
    · cases passed
    · next short => exact Nat.not_lt.mp short

theorem length_pos_of_validateKey_ok {key : String} (passed : validateKey key = .ok ()) :
    1 ≤ key.length := by
  unfold validateKey at passed
  split at passed
  · cases passed
  · next some =>
    refine Nat.pos_of_ne_zero fun empty => some ?_
    rw [String.isEmpty_iff, String.length_eq_zero_iff.mp empty]

theorem validateKey_of_length {key : String} (least : 1 ≤ key.length)
    (most : key.length ≤ longestKey) : validateKey key = .ok () := by
  have some : ¬ key.isEmpty = true := fun empty => by
    rw [String.isEmpty_iff] at empty
    rw [empty] at least
    cases least
  rw [validateKey, if_neg some, if_neg (Nat.not_lt.mpr most)]

/-- A metric that reports a value under an acceptable key asks for an update with the value. -/
theorem toUpdate_of_finite {update : Update} (acceptable : validateKey update.key = .ok ())
    (finite : update.IsFinite) : (ofValue update.key update.value).toUpdate = .ok update := by
  obtain ⟨key, value⟩ := update
  have asked : (ofValue key value).query = .ok value.kind := by
    have isKey : (ofValue key value).key = key := by cases value <;> rfl
    rw [query, isKey, acceptable]
    cases value <;> rfl
  rw [toUpdate, asked]
  cases value with
  | counter total => rfl
  | gauge reading =>
    show (do validateReading key reading; pure (⟨key, .gauge reading⟩ : Update)) = _
    rw [validateReading, if_pos (finite reading rfl)]
    rfl

/-- A metric that asks for an update has an acceptable key, and the update is one of that key. -/
theorem toUpdate_key {metric : Metric} {update : Update} (accepted : metric.toUpdate = .ok update) :
    validateKey metric.key = .ok () ∧ update.key = metric.key := by
  obtain ⟨key, kindName, delta, reading⟩ := metric
  unfold toUpdate query at accepted
  cases checked : validateKey key with
  | error problem => rw [checked] at accepted; cases accepted
  | ok _ =>
    refine ⟨rfl, ?_⟩
    simp only [checked, bind, Except.bind] at accepted
    split at accepted
    · cases accepted
    · split at accepted
      · rw [← Except.ok.inj accepted]
      · split at accepted
        · cases accepted
        · rw [← Except.ok.inj accepted]
      · cases accepted

theorem toUpdate_finite {metric : Metric} {update : Update}
    (accepted : metric.toUpdate = .ok update) : update.IsFinite := by
  obtain ⟨key, kindName, delta, reading⟩ := metric
  unfold toUpdate at accepted
  cases asked : query ⟨key, kindName, delta, reading⟩ with
  | error problem => rw [asked] at accepted; cases accepted
  | ok kind =>
    simp only [asked, bind, Except.bind] at accepted
    split at accepted
    · rw [← Except.ok.inj accepted]
      exact nofun
    · next given =>
      cases checked : validateReading key given with
      | error problem => rw [checked] at accepted; cases accepted
      | ok _ =>
        rw [checked] at accepted
        rw [← Except.ok.inj accepted]
        exact fun other same => Value.gauge.inj same ▸ validateReading_ok checked
    · cases accepted

theorem mapM_toUpdate_finite {metrics : List Metric} {updates : List Update}
    (accepted : metrics.mapM toUpdate = .ok updates) : ∀ update ∈ updates, update.IsFinite :=
  forall_of_mapM_ok (fun _ _ => toUpdate_finite) accepted

end Metric

end Metering
