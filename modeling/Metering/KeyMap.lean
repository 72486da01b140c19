/-
Maps from metric keys to values. The entries are kept as one list in key order, so two maps
that answer every look-up alike are the same map, and whatever walks a map meets its keys in
the order of their code points, which is also the order of their UTF-8 bytes.
-/

namespace Metering

/-- The entries stand in strictly increasing key order. -/
def KeyMap.Sorted {Value : Type} (entries : List (String × Value)) : Prop :=
  entries.Pairwise fun earlier later => earlier.1 < later.1

/-- A finite map from keys to values with its entries in key order. -/
structure KeyMap (Value : Type) where
  entries : List (String × Value)
  sorted : KeyMap.Sorted entries

namespace KeyMap

variable {Value Image : Type}

/-! ### Entry lists -/

/-- Puts a value under a key, in place of the value that was there. -/
def insertEntry (key : String) (value : Value) :
    List (String × Value) → List (String × Value)
  | [] => [(key, value)]
  | (other, held) :: rest =>
    if key < other then (key, value) :: (other, held) :: rest
    else if other < key then (other, held) :: insertEntry key value rest
    else (key, value) :: rest

/-- The value under a key. -/
def lookupEntry (wanted : String) : List (String × Value) → Option Value
  | [] => none
  | (key, value) :: rest => if wanted = key then some value else lookupEntry wanted rest

theorem eq_of_not_lt {key other : String} (left : ¬ key < other) (right : ¬ other < key) :
    key = other :=
  String.le_antisymm (String.not_lt.mp right) (String.not_lt.mp left)

theorem mem_insertEntry {key : String} {value : Value} {entry : String × Value}
    {entries : List (String × Value)} (member : entry ∈ insertEntry key value entries) :
    entry = (key, value) ∨ entry ∈ entries := by
  induction entries with
  | nil => simpa [insertEntry] using member
  | cons head rest inductionHypothesis =>
    obtain ⟨other, held⟩ := head
    unfold insertEntry at member
    split at member
    · simpa using member
    · split at member
      · rcases List.mem_cons.mp member with same | inRest
        · exact Or.inr (same ▸ List.mem_cons_self)
        · rcases inductionHypothesis inRest with new | old
          · exact Or.inl new
          · exact Or.inr (List.mem_cons_of_mem _ old)
      · rcases List.mem_cons.mp member with same | inRest
        · exact Or.inl same
        · exact Or.inr (List.mem_cons_of_mem _ inRest)

theorem sorted_insertEntry (key : String) (value : Value) {entries : List (String × Value)}
    (sorted : Sorted entries) : Sorted (insertEntry key value entries) := by
  induction entries with
  | nil => exact List.pairwise_singleton _ _
  | cons head rest inductionHypothesis =>
    obtain ⟨other, held⟩ := head
    have below := (List.pairwise_cons.mp sorted).1
    have restSorted := (List.pairwise_cons.mp sorted).2
    unfold insertEntry
    split
    · next before =>
      refine List.pairwise_cons.mpr ⟨fun entry member => ?_, sorted⟩
      rcases List.mem_cons.mp member with same | inRest
      · exact same ▸ before
      · exact String.lt_trans before (below entry inRest)
    · next notBefore =>
      split
      · next after =>
        refine List.pairwise_cons.mpr ⟨fun entry member => ?_, inductionHypothesis restSorted⟩
        rcases mem_insertEntry member with new | old
        · exact new ▸ after
        · exact below entry old
      · next notAfter =>
        have same : key = other := eq_of_not_lt notBefore notAfter
        exact List.pairwise_cons.mpr ⟨fun entry member => same ▸ below entry member, restSorted⟩

theorem lookupEntry_insertEntry (key wanted : String) (value : Value)
    (entries : List (String × Value)) :
    lookupEntry wanted (insertEntry key value entries) =
      if wanted = key then some value else lookupEntry wanted entries := by
  induction entries with
  | nil => rfl
  | cons head rest inductionHypothesis =>
    obtain ⟨other, held⟩ := head
    unfold insertEntry
    split
    · rfl
    · next notBefore =>
      split
      · next after =>
        simp only [lookupEntry, inductionHypothesis]
        by_cases same : wanted = other
        · have different : wanted ≠ key := fun equal =>
            String.lt_irrefl wanted (by simp only [← same, ← equal] at after; exact after)
          rw [if_pos same, if_pos same, if_neg different]
        · rw [if_neg same, if_neg same]
      · next notAfter =>
        have equal : key = other := eq_of_not_lt notBefore notAfter
        by_cases same : wanted = key
        · simp only [lookupEntry, if_pos same]
        · simp only [lookupEntry, if_neg same, if_neg (equal ▸ same)]

/-! ### Maps -/

/-- The map without entries. -/
def empty : KeyMap Value := ⟨[], List.Pairwise.nil⟩

instance : Inhabited (KeyMap Value) := ⟨empty⟩

instance [DecidableEq Value] : DecidableEq (KeyMap Value) := fun left right =>
  match decEq left.entries right.entries with
  | isTrue same => isTrue (by cases left; cases right; simp_all)
  | isFalse different => isFalse (fun equal => different (congrArg entries equal))

/-- The value under a key. -/
def find? (map : KeyMap Value) (key : String) : Option Value := lookupEntry key map.entries

/-- Whether a key has a value. -/
def contains (map : KeyMap Value) (key : String) : Bool := (map.find? key).isSome

/-- The map with a value put under a key. -/
def insert (map : KeyMap Value) (key : String) (value : Value) : KeyMap Value :=
  ⟨insertEntry key value map.entries, sorted_insertEntry key value map.sorted⟩

/-- The entries in key order. -/
def toList (map : KeyMap Value) : List (String × Value) := map.entries

/-- The keys in order. -/
def keys (map : KeyMap Value) : List String := map.entries.map (·.1)

/-- The number of entries. -/
def size (map : KeyMap Value) : Nat := map.entries.length

/-- Whether the map has no entries. -/
def isEmpty (map : KeyMap Value) : Bool := map.entries.isEmpty

/-- Puts every listed entry into the map, one after the other, so the last of a key stays. -/
def insertAll (map : KeyMap Value) (entries : List (String × Value)) : KeyMap Value :=
  entries.foldl (fun grown entry => grown.insert entry.1 entry.2) map

/-- The map of a list of entries; the last entry of a key stays. -/
def ofList (entries : List (String × Value)) : KeyMap Value := empty.insertAll entries

/-- The map whose values are the images of the values. -/
def map (values : KeyMap Value) (image : Value → Image) : KeyMap Image :=
  ⟨values.entries.map fun entry => (entry.1, image entry.2),
    List.pairwise_map.mpr (values.sorted.imp fun before => before)⟩

/-- The map whose values are the images of the values and their keys. -/
def mapWithKey (values : KeyMap Value) (image : String → Value → Image) : KeyMap Image :=
  ⟨values.entries.map fun entry => (entry.1, image entry.1 entry.2),
    List.pairwise_map.mpr (values.sorted.imp fun before => before)⟩

/-- The map of those images that there are. -/
def filterMap (values : KeyMap Value) (image : Value → Option Image) : KeyMap Image :=
  ⟨values.entries.filterMap fun entry => (image entry.2).map fun result => (entry.1, result),
    List.pairwise_filterMap.mpr (values.sorted.imp fun {earlier later} before => by
      intro first isFirst second isSecond
      obtain ⟨_, _, same⟩ := Option.map_eq_some_iff.mp isFirst
      obtain ⟨_, _, alike⟩ := Option.map_eq_some_iff.mp isSecond
      exact same ▸ alike ▸ before)⟩

/-- The entries of both maps; where both have the key, that of the second. -/
def overlay (below above : KeyMap Value) : KeyMap Value := below.insertAll above.entries

/-! ### Look-ups -/

@[simp] theorem find?_empty (key : String) : (empty : KeyMap Value).find? key = none := rfl

@[simp] theorem find?_insert (map : KeyMap Value) (key wanted : String) (value : Value) :
    (map.insert key value).find? wanted = if wanted = key then some value else map.find? wanted :=
  lookupEntry_insertEntry key wanted value map.entries

@[simp] theorem contains_insert (map : KeyMap Value) (key wanted : String) (value : Value) :
    (map.insert key value).contains wanted = (decide (wanted = key) || map.contains wanted) := by
  by_cases same : wanted = key <;> simp [contains, same]

end KeyMap

end Metering
