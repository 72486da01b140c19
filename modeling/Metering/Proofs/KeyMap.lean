/-
Laws of maps by key. A look-up finds exactly the entries, since no key stands twice, so every
operation on maps can be told by what a look-up finds afterwards.
-/

import Mathlib.Data.List.Sort
import Metering.KeyMap

namespace Metering.KeyMap

variable {Value Image : Type}

/-! ### Look-ups and entries -/

theorem lookupEntry_cons_self (key : String) (value : Value) (rest : List (String × Value)) :
    lookupEntry key ((key, value) :: rest) = some value := if_pos rfl

theorem lookupEntry_cons_other {key other : String} (different : key ≠ other) (value : Value)
    (rest : List (String × Value)) :
    lookupEntry key ((other, value) :: rest) = lookupEntry key rest := if_neg different

theorem lookupEntry_eq_some_iff {entries : List (String × Value)} (sorted : Sorted entries)
    (key : String) (value : Value) :
    lookupEntry key entries = some value ↔ (key, value) ∈ entries := by
  induction entries with
  | nil => simp [lookupEntry]
  | cons head rest inductionHypothesis =>
    obtain ⟨other, held⟩ := head
    have below := (List.pairwise_cons.mp sorted).1
    have later := inductionHypothesis (List.pairwise_cons.mp sorted).2
    by_cases same : key = other
    · subst same
      have notLater : (key, value) ∉ rest := fun member => String.lt_irrefl key (below _ member)
      simp only [lookupEntry_cons_self, List.mem_cons, Prod.mk.injEq, notLater, or_false,
        Option.some.injEq, true_and]
      exact eq_comm
    · rw [lookupEntry_cons_other same, later]
      simp only [List.mem_cons, Prod.mk.injEq, same, false_and, false_or]

/-- The first key of sorted entries does not stand among the others. -/
theorem lookupEntry_rest_eq_none {key : String} {value : Value} {rest : List (String × Value)}
    (sorted : Sorted ((key, value) :: rest)) : lookupEntry key rest = none := by
  obtain ⟨below, restSorted⟩ := List.pairwise_cons.mp sorted
  refine Option.eq_none_iff_forall_ne_some.mpr fun held found => ?_
  exact String.lt_irrefl key (below _ ((lookupEntry_eq_some_iff restSorted _ _).mp found))

theorem find?_eq_some_iff (map : KeyMap Value) (key : String) (value : Value) :
    map.find? key = some value ↔ (key, value) ∈ map.toList :=
  lookupEntry_eq_some_iff map.sorted key value

theorem contains_eq_true_iff (map : KeyMap Value) (key : String) :
    map.contains key = true ↔ ∃ value, map.find? key = some value :=
  Option.isSome_iff_exists

theorem contains_eq_false_iff (map : KeyMap Value) (key : String) :
    map.contains key = false ↔ map.find? key = none := by
  rw [contains, Option.isSome_eq_false_iff, Option.isNone_iff_eq_none]

theorem mem_keys_iff (map : KeyMap Value) (key : String) :
    key ∈ map.keys ↔ map.contains key = true := by
  simp only [contains_eq_true_iff, find?_eq_some_iff, keys, toList, List.mem_map, Prod.exists]
  exact ⟨fun ⟨other, value, member, same⟩ => ⟨value, same ▸ member⟩,
    fun ⟨value, member⟩ => ⟨key, value, member, rfl⟩⟩

theorem exists_of_mem_keys {map : KeyMap Value} {key : String} (member : key ∈ map.keys) :
    ∃ value, map.find? key = some value :=
  (contains_eq_true_iff map key).mp ((mem_keys_iff map key).mp member)

theorem nodup_keys (map : KeyMap Value) : map.keys.Nodup := by
  rw [keys, List.Nodup, List.pairwise_map]
  refine map.sorted.imp fun {first second} below same => ?_
  rw [same] at below
  exact String.lt_irrefl second.1 below

theorem find?_of_isEmpty {map : KeyMap Value} (empty : map.isEmpty = true) (key : String) :
    map.find? key = none := by
  rw [isEmpty, List.isEmpty_iff] at empty
  rw [find?, empty, lookupEntry]

theorem isEmpty_of_find? {map : KeyMap Value} (nothing : ∀ key, map.find? key = none) :
    map.isEmpty = true := by
  rw [isEmpty, List.isEmpty_iff, List.eq_nil_iff_forall_not_mem]
  intro entry member
  cases (nothing entry.1).symm.trans ((find?_eq_some_iff map entry.1 entry.2).mpr member)

theorem not_contains_of_isEmpty {map : KeyMap Value} (empty : map.isEmpty = true)
    (key : String) : ¬ map.contains key = true := by
  rw [contains, find?_of_isEmpty empty]
  exact Bool.false_ne_true

/-- Two maps in which every look-up finds the same are the same map. -/
theorem ext_find? {map other : KeyMap Value} (same : ∀ key, map.find? key = other.find? key) :
    map = other := by
  obtain ⟨entries, sorted⟩ := map
  obtain ⟨others, otherSorted⟩ := other
  have members : ∀ entry, entry ∈ entries ↔ entry ∈ others := fun (key, value) => by
    rw [← lookupEntry_eq_some_iff sorted, ← lookupEntry_eq_some_iff otherSorted]
    exact Iff.of_eq (congrArg (· = some value) (same key))
  have irreflexive : Std.Irrefl fun earlier later : String × Value => earlier.1 < later.1 :=
    ⟨fun entry => String.lt_irrefl entry.1⟩
  have asymmetric : Std.Antisymm fun earlier later : String × Value => earlier.1 < later.1 :=
    ⟨fun entry another before after => absurd (String.lt_trans before after)
      (String.lt_irrefl entry.1)⟩
  have equal : entries = others := List.Pairwise.eq_of_mem_iff sorted otherSorted members
  subst equal
  rfl

/-! ### Look-ups in images -/

theorem find?_mapWithKey (values : KeyMap Value) (image : String → Value → Image)
    (key : String) : (values.mapWithKey image).find? key = (values.find? key).map (image key) := by
  ext result
  rw [find?_eq_some_iff, Option.map_eq_some_iff]
  simp only [find?_eq_some_iff, toList, mapWithKey, List.mem_map, Prod.mk.injEq, Prod.exists]
  constructor
  · rintro ⟨other, value, member, rfl, equal⟩
    exact ⟨value, member, equal⟩
  · rintro ⟨value, member, equal⟩
    exact ⟨key, value, member, rfl, equal⟩

theorem find?_map (values : KeyMap Value) (image : Value → Image) (key : String) :
    (values.map image).find? key = (values.find? key).map image :=
  find?_mapWithKey values (fun _ => image) key

theorem find?_filterMap (values : KeyMap Value) (image : Value → Option Image) (key : String) :
    (values.filterMap image).find? key = (values.find? key).bind image := by
  ext result
  rw [find?_eq_some_iff, Option.bind_eq_some_iff]
  simp only [find?_eq_some_iff, toList, filterMap, List.mem_filterMap, Option.map_eq_some_iff,
    Prod.mk.injEq, Prod.exists]
  constructor
  · rintro ⟨other, value, member, _, equal, rfl, rfl⟩
    exact ⟨value, member, equal⟩
  · rintro ⟨value, member, equal⟩
    exact ⟨key, value, member, result, equal, rfl, rfl⟩

/-- What entries hold under one key, collected from all of them. -/
theorem filterMap_entries {entries : List (String × Value)} (sorted : Sorted entries)
    (key : String) (image : Value → Image) :
    (entries.filterMap fun entry => if entry.1 = key then some (image entry.2) else none) =
      ((lookupEntry key entries).map image).toList := by
  induction entries with
  | nil => rfl
  | cons head rest inductionHypothesis =>
    obtain ⟨other, held⟩ := head
    have later := inductionHypothesis (List.pairwise_cons.mp sorted).2
    rw [List.filterMap_cons]
    by_cases same : key = other
    · subst same
      simp only [if_true, later, lookupEntry_rest_eq_none sorted, lookupEntry_cons_self]
      rfl
    · simp only [if_neg (Ne.symm same), later, lookupEntry_cons_other same]

/-! ### Look-ups in joined maps -/

theorem insertAll_append (map : KeyMap Value) (earlier later : List (String × Value)) :
    map.insertAll (earlier ++ later) = (map.insertAll earlier).insertAll later :=
  List.foldl_append

/-- Of entries with different keys each is found after all were put in. -/
theorem find?_insertAll {entries : List (String × Value)} (sorted : Sorted entries)
    (map : KeyMap Value) (key : String) :
    (map.insertAll entries).find? key = (lookupEntry key entries).or (map.find? key) := by
  induction entries generalizing map with
  | nil => rfl
  | cons head rest inductionHypothesis =>
    obtain ⟨other, value⟩ := head
    have later := inductionHypothesis (List.pairwise_cons.mp sorted).2 (map.insert other value)
    rw [insertAll, List.foldl_cons, ← insertAll, later, find?_insert]
    by_cases same : key = other
    · subst same
      rw [if_pos rfl, lookupEntry_rest_eq_none sorted, lookupEntry_cons_self]
      rfl
    · rw [if_neg same, lookupEntry_cons_other same]

theorem contains_insertAll (map : KeyMap Value) (entries : List (String × Value)) (key : String) :
    (map.insertAll entries).contains key = true ↔
      key ∈ entries.map (·.1) ∨ map.contains key = true := by
  induction entries generalizing map with
  | nil => simp [insertAll]
  | cons head rest inductionHypothesis =>
    rw [insertAll, List.foldl_cons, ← insertAll, inductionHypothesis, contains_insert,
      List.map_cons, List.mem_cons, Bool.or_eq_true, decide_eq_true_iff, ← or_assoc,
      or_comm (a := key ∈ rest.map (·.1)), or_assoc]

/-- The map of entries holds their keys. -/
theorem find?_ofList_eq_none_iff (entries : List (String × Value)) (key : String) :
    (ofList entries).find? key = none ↔ key ∉ entries.map (·.1) := by
  have nothing : ¬ (empty : KeyMap Value).contains key = true := Bool.false_ne_true
  rw [← contains_eq_false_iff, Bool.eq_false_iff, Ne, ofList, contains_insertAll,
    or_iff_left nothing]

theorem find?_overlay (below above : KeyMap Value) (key : String) :
    (below.overlay above).find? key = (above.find? key).or (below.find? key) :=
  find?_insertAll above.sorted below key

/-! ### Maps of one entry -/

theorem contains_single (key : String) (value : Value) :
    (ofList [(key, value)]).contains key = true := by
  show (empty.insert key value).contains key = true
  rw [contains_insert, decide_eq_true rfl, Bool.true_or]

theorem eq_of_contains_single {key wanted : String} {value : Value}
    (member : (ofList [(key, value)]).contains wanted = true) : wanted = key := by
  change (empty.insert key value).contains wanted = true at member
  rw [contains_insert] at member
  simpa [contains] using member

end Metering.KeyMap
