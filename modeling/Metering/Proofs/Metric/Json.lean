/-
Metrics are read back from the JSON that is written for them. Key, kind and delta may be
whatever they are; a reading that is not finite is absent afterwards, because it is written as
`null`, and a finite one is what the literal that is written for it comes to. That is the reading
itself if the literal is short, but with many digits it may be a neighbour.
-/

import Mathlib.Algebra.Module.NatInt
import Mathlib.Algebra.Order.BigOperators.Group.List
import Metering.Proofs.Json.Documents
import Metering.Proofs.Numeral.Scaling

namespace Metering

namespace Json

/-! ### Numbers -/

theorem asTally?_ofTally (total : Int64) : (ofTally total).asTally? = some total := by
  rw [ofTally, asTally?, if_neg (Whole.text_ne_negative_zero total), Whole.readChars_text]
  exact congrArg some (Int64.ofInt_toInt total)

/-- The literal that is written for a reading comes to the reading again. -/
def ReadsBack (reading : Binary64) : Prop := (ofReading reading).asReading? = some reading

instance (reading : Binary64) : Decidable (ReadsBack reading) :=
  inferInstanceAs (Decidable ((ofReading reading).asReading? = some reading))

theorem ReadsBack.isFinite {reading : Binary64} (readsBack : ReadsBack reading) :
    reading.isFinite = true := by
  by_contra infinite
  rw [ReadsBack, ofReading, if_neg infinite] at readsBack
  cases readsBack

/-- A number whose literal means a double, which is then the one nearest to the decimal. -/
def Means : Json → Binary64 → Prop
  | number literal, reading => Binary64.readChars literal = .ok reading
  | _, _ => False

/-- The literal that is written for a reading means the reading, whatever it comes to. -/
theorem means_ofReading {reading : Binary64} (finite : reading.isFinite = true) :
    (ofReading reading).Means reading := by
  rw [ofReading, if_pos finite]
  exact Layout.json.readChars_writeFinite finite

/-- The literal of a reading has at most fifteen characters, none of them the letter of a power of
ten. -/
structure IsShort (reading : Binary64) : Prop where
  length : (Layout.json.writeFinite reading).length ≤ 15
  noPower : 'e' ∉ Layout.json.writeFinite reading

theorem IsShort.readsBack {reading : Binary64} (short : IsShort reading)
    (finite : reading.isFinite = true) : ReadsBack reading := by
  rw [ReadsBack, ofReading, if_pos finite]
  exact Layout.json.readScaled?_writeFinite finite short.length short.noPower

/-! ### Members -/

theorem namedMembers?_literalOf (places : List (String × Json)) :
    namedMembers? (places.map fun (name, document) => (literalOf name, document)) =
      some places := by
  induction places with
  | nil => rfl
  | cons place rest inductionHypothesis =>
    rw [List.map_cons, namedMembers?, textOf?_literalOf, inductionHypothesis]
    rfl

theorem legibleMembers_literalOf {places : List (String × Json)}
    (legible : ∀ place ∈ places, place.2.Legible) :
    LegibleMembers (places.map fun (name, document) => (literalOf name, document)) := by
  induction places with
  | nil => trivial
  | cons place rest inductionHypothesis =>
    rw [List.forall_mem_cons] at legible
    rw [List.map_cons, LegibleMembers]
    exact ⟨scanText?_literalOf place.1, legible.1, inductionHypothesis legible.2⟩

theorem legible_ofText (text : String) : (ofText text).Legible := scanText?_literalOf text

theorem legible_ofTally (total : Int64) : (ofTally total).Legible := Tally.isNumeral_text total

theorem legible_ofReading (reading : Binary64) : (ofReading reading).Legible := by
  rw [ofReading]
  split
  · exact Layout.json.isNumeral_writeFinite reading
  · trivial

end Json

/-- The literal of a value comes to the value again, as that of a counter always does. -/
def Value.ReadsBack : Value → Prop
  | .counter _ => True
  | .gauge reading => Json.ReadsBack reading

namespace Metric

open Json

/-! ### One metric -/

/-- A metric whose reading, if it has one, is finite. -/
def HasFinite (metric : Metric) : Prop :=
  ∀ reading, metric.reading = some reading → reading.isFinite = true

/-- The documents of a metric under their names. -/
def places (metric : Metric) : List (String × Json) :=
  [("id", ofText metric.key), ("type", ofText metric.kindName)] ++
    (metric.delta.map fun delta => ("delta", ofTally delta)).toList ++
    (metric.reading.map fun reading => ("value", ofReading reading)).toList

theorem toJson_eq (metric : Metric) :
    metric.toJson =
      .object (metric.places.map fun (name, document) => (literalOf name, document)) := by
  obtain ⟨key, kindName, delta, reading⟩ := metric
  -- The names are their own literals.
  cases delta <;> cases reading <;> rfl

theorem legible_places (metric : Metric) : ∀ place ∈ metric.places, place.2.Legible := by
  intro place member
  rw [places, List.mem_append, List.mem_append, List.mem_cons, List.mem_singleton] at member
  rcases member with ((rfl | rfl) | inDelta) | inReading
  · exact legible_ofText metric.key
  · exact legible_ofText metric.kindName
  · obtain ⟨total, _, rfl⟩ := Option.map_eq_some_iff.mp (Option.mem_toList.mp inDelta)
    exact legible_ofTally total
  · obtain ⟨written, _, rfl⟩ := Option.map_eq_some_iff.mp (Option.mem_toList.mp inReading)
    exact legible_ofReading written

theorem legible_toJson (metric : Metric) : metric.toJson.Legible := by
  rw [toJson_eq, Legible]
  exact legibleMembers_literalOf metric.legible_places

theorem asText?_ofText (text : String) : (ofText text).asText? = some text :=
  textOf?_literalOf text

/-- The reading of a metric, if it has a finite one, is read back from its literal. -/
def ReadsBack (metric : Metric) : Prop :=
  ∀ reading, metric.reading = some reading → reading.isFinite = true → Json.ReadsBack reading

/-- What is read back of a metric, if anything is. -/
def readBack? (metric : Metric) : Option Metric :=
  (optionally asReading? (metric.reading.map ofReading)).map fun reading => { metric with reading }

/-- A metric whose reading is absent if it is not finite. -/
def asRead (metric : Metric) : Metric :=
  { metric with reading := metric.reading.filter Binary64.isFinite }

theorem asRead_of_hasFinite {metric : Metric} (finite : metric.HasFinite) :
    metric.asRead = metric := by
  obtain ⟨key, kindName, delta, reading⟩ := metric
  cases reading with
  | none => rfl
  | some given => rw [asRead, Option.filter_some, if_pos (finite given rfl)]

theorem map_asRead {batch : List Metric} (finite : ∀ metric ∈ batch, metric.HasFinite) :
    batch.map asRead = batch := by
  rw [List.map_congr_left fun metric member => asRead_of_hasFinite (finite metric member),
    List.map_id']

/-- A finite reading is what its literal comes to, and any other one is absent. -/
theorem readBack?_of_readsBack {metric : Metric} (readsBack : metric.ReadsBack) :
    metric.readBack? = some metric.asRead := by
  obtain ⟨key, kindName, delta, reading⟩ := metric
  cases reading with
  | none => rfl
  | some reading =>
    rw [readBack?, asRead, Option.map_some, Option.filter_some]
    by_cases finite : reading.isFinite = true
    · have reads := readsBack reading rfl finite
      have isNumber : ofReading reading = .number (Layout.json.writeFinite reading) :=
        if_pos finite
      rw [Json.ReadsBack, isNumber] at reads
      rw [if_pos finite, isNumber]
      show ((asReading? _).map some).map _ = _
      rw [reads]
      rfl
    · rw [if_neg finite, ofReading, if_neg finite]
      rfl

theorem optionally_ofTally (delta : Option Int64) :
    optionally asTally? (delta.map ofTally) = some delta := by
  cases delta with
  | none => rfl
  | some total =>
    show (asTally? (ofTally total)).map some = some (some total)
    rw [asTally?_ofTally]
    rfl

/-- A metric is read back from its document. -/
theorem ofJson?_toJson (metric : Metric) : ofJson? metric.toJson = metric.readBack? := by
  have parts : ofPlaces? (ofText metric.key) (ofText metric.kindName)
      (metric.delta.map ofTally) (metric.reading.map ofReading) = metric.readBack? := by
    rw [ofPlaces?, asText?_ofText, asText?_ofText, optionally_ofTally, readBack?]
    cases optionally asReading? (metric.reading.map ofReading) <;> rfl
  rw [toJson_eq, ofJson?, namedMembers?_literalOf, ← parts]
  clear parts
  obtain ⟨key, kindName, delta, reading⟩ := metric
  cases delta <;> cases reading <;> rfl

/-- What is read back of the JSON that is written for a metric. -/
theorem decodeJson?_encodeJson (metric : Metric) :
    decodeJson? metric.encodeJson = metric.readBack? := by
  rw [decodeJson?, encodeJson, read?_print metric.legible_toJson]
  exact ofJson?_toJson metric

/-- A metric with a finite reading is read back as it was, if the literal of the reading is. -/
theorem decodeJson?_of_readsBack {metric : Metric} (finite : metric.HasFinite)
    (readsBack : metric.ReadsBack) : decodeJson? metric.encodeJson = some metric := by
  rw [decodeJson?_encodeJson, readBack?_of_readsBack readsBack, asRead_of_hasFinite finite]

theorem readsBack_ofValue {value : Value} (readsBack : value.ReadsBack) (key : String) :
    (ofValue key value).ReadsBack := by
  intro reading isReading _
  cases value with
  | counter total => cases isReading
  | gauge given => exact Option.some.inj isReading ▸ readsBack

/-- What reports a value is read back just if the literal of the value is. -/
theorem decodeJson?_ofValue_iff (key : String) (value : Value) :
    decodeJson? (ofValue key value).encodeJson = some (ofValue key value) ↔ value.ReadsBack := by
  constructor
  · intro decoded
    rw [decodeJson?_encodeJson, readBack?, Option.map_eq_some_iff] at decoded
    obtain ⟨reading, isRead, isMetric⟩ := decoded
    cases value with
    | counter total => trivial
    | gauge given =>
      obtain rfl : reading = some given := congrArg Metric.reading isMetric
      show (ofReading given).asReading? = some given
      change optionally asReading? (some (ofReading given)) = some (some given) at isRead
      rw [ofReading] at isRead ⊢
      split at isRead
      · next finite =>
        rw [if_pos finite]
        exact Option.map_injective (Option.some_injective _) isRead
      · cases isRead
  · intro readsBack
    refine decodeJson?_of_readsBack (fun reading isReading => ?_) (readsBack_ofValue readsBack key)
    cases value with
    | counter total => cases isReading
    | gauge given => exact Option.some.inj isReading ▸ readsBack.isFinite

/-! ### Batches -/

/-- A list of metrics is read back from the JSON that is written for it if each of them is. -/
theorem decodeBatchJson?_encodeBatchJson (batch : List Metric) :
    decodeBatchJson? (encodeBatchJson batch) = batch.mapM readBack? := by
  have legible : (Json.array (batch.map toJson)).Legible := by
    rw [Legible, legibleItems_iff]
    exact List.forall_mem_map.mpr fun metric _ => metric.legible_toJson
  have each : ofJson? ∘ toJson = readBack? := funext ofJson?_toJson
  rw [decodeBatchJson?, encodeBatchJson, read?_print legible, ← each, ← List.mapM_map]
  rfl

theorem mapM_readBack? {batch : List Metric} (readsBack : ∀ metric ∈ batch, metric.ReadsBack) :
    batch.mapM readBack? = some (batch.map asRead) := by
  induction batch with
  | nil => rfl
  | cons metric rest inductionHypothesis =>
    obtain ⟨first, others⟩ := List.forall_mem_cons.mp readsBack
    rw [List.mapM_cons, readBack?_of_readsBack first, inductionHypothesis others]
    rfl

/-- What is read back of a batch where the literals of its readings come to them again. -/
theorem decodeBatchJson?_of_readsBack {batch : List Metric}
    (readsBack : ∀ metric ∈ batch, metric.ReadsBack) :
    decodeBatchJson? (encodeBatchJson batch) = some (batch.map asRead) := by
  rw [decodeBatchJson?_encodeBatchJson, mapM_readBack? readsBack]

/-- A metric, and what is read back of it from its own JSON. Nothing is changed but a reading that
is not finite, and that is absent afterwards. -/
structure ReadBackAs (metric other : Metric) : Prop where
  decoded : decodeJson? metric.encodeJson = some other
  key : other.key = metric.key
  kindName : other.kindName = metric.kindName
  delta : other.delta = metric.delta
  reading : other.reading = metric.reading.filter Binary64.isFinite

theorem readBackAs_asRead {metric : Metric} (readsBack : metric.ReadsBack) :
    metric.ReadBackAs metric.asRead :=
  ⟨(decodeJson?_encodeJson metric).trans (readBack?_of_readsBack readsBack), rfl, rfl, rfl, rfl⟩

/-- A list of metrics is read back from the JSON of the list, each as it is read back from JSON of
its own. If the literals of its finite readings come to the readings again, it is read back with
nothing changed but readings that are not finite, and where there are none of those it is the list
that was written. -/
theorem batch_reads_back (batch : List Metric) :
    decodeBatchJson? (encodeBatchJson batch) =
        batch.mapM (fun metric => decodeJson? metric.encodeJson) ∧
      ((∀ metric ∈ batch, metric.ReadsBack) →
        ∃ others, decodeBatchJson? (encodeBatchJson batch) = some others ∧
          List.Forall₂ ReadBackAs batch others ∧
          ((∀ metric ∈ batch, metric.HasFinite) → others = batch)) := by
  refine ⟨?_, fun readsBack => ⟨batch.map asRead, decodeBatchJson?_of_readsBack readsBack, ?_,
    map_asRead⟩⟩
  · rw [decodeBatchJson?_encodeBatchJson, funext decodeJson?_encodeJson]
  · rw [List.forall₂_map_right_iff, List.forall₂_same]
    exact fun metric member => readBackAs_asRead (readsBack metric member)

theorem batch_reads_back_escapes_and_extremes :
    let batch : List Metric :=
      [⟨"a\"\\/\n\u0000é😀", "\u001f", some Int64.minValue, some ⟨0x8000000000000000⟩⟩,
        ⟨"", "", none, some ⟨0x7fefffffffffffff⟩⟩]
    (∀ metric ∈ batch, metric.HasFinite ∧ metric.ReadsBack) ∧
      decodeBatchJson? (encodeBatchJson batch) = some batch := by
  intro batch
  have each : ∀ metric ∈ batch, metric.HasFinite ∧ metric.ReadsBack := by
    refine List.forall_mem_cons.mpr ⟨⟨?_, ?_⟩, List.forall_mem_singleton.mpr ⟨?_, ?_⟩⟩
    · rintro reading ⟨⟩
      rfl
    · rintro reading ⟨⟩ _
      decide +kernel
    · rintro reading ⟨⟩
      rfl
    · rintro reading ⟨⟩ _
      decide +kernel
  obtain ⟨others, decoded, _, same⟩ := (batch_reads_back batch).2 fun metric member =>
    (each metric member).2
  rw [same fun metric member => (each metric member).1] at decoded
  exact ⟨each, decoded⟩

/-! ### How long the JSON of a metric is -/

theorem length_print_ofTally_le (total : Int64) : (ofTally total).print.length ≤ 20 := by
  rw [ofTally, print, asciiBytes, List.length_map]
  exact Tally.length_text_le total

theorem length_print_ofReading_le (reading : Binary64) :
    (ofReading reading).print.length ≤ 1200 := by
  rw [ofReading]
  split
  · next finite =>
    rw [print, asciiBytes, List.length_map]
    exact Layout.json.length_writeFinite_le finite
  · decide

/-- How many bytes the texts of a metric have. -/
def textLength (metric : Metric) : Nat :=
  (Bytes.ofText metric.key).length + (Bytes.ofText metric.kindName).length

theorem length_place_le {metric : Metric} {place : String × Json} (member : place ∈ metric.places) :
    (Bytes.ofText place.1).length ≤ 5 ∧ place.2.print.length ≤ 6 * metric.textLength + 1200 := by
  have text (content : String) :
      (ofText content).print.length ≤ 6 * (Bytes.ofText content).length + 2 := by
    have := length_literalOf_le content
    rw [ofText, print, length_quoted]
    omega
  rw [places, List.mem_append, List.mem_append, List.mem_cons, List.mem_singleton] at member
  rw [textLength]
  rcases member with ((rfl | rfl) | inDelta) | inReading
  · exact ⟨show (Bytes.ofText "id").length ≤ 5 by decide, (text metric.key).trans (by omega)⟩
  · exact ⟨show (Bytes.ofText "type").length ≤ 5 by decide, (text metric.kindName).trans (by omega)⟩
  · obtain ⟨total, _, rfl⟩ := Option.map_eq_some_iff.mp (Option.mem_toList.mp inDelta)
    exact ⟨show (Bytes.ofText "delta").length ≤ 5 by decide,
      (length_print_ofTally_le total).trans (by omega)⟩
  · obtain ⟨written, _, rfl⟩ := Option.map_eq_some_iff.mp (Option.mem_toList.mp inReading)
    exact ⟨show (Bytes.ofText "value").length ≤ 5 by decide,
      (length_print_ofReading_le written).trans (by omega)⟩

theorem length_places_le (metric : Metric) : metric.places.length ≤ 4 := by
  rw [places]
  cases metric.delta <;> cases metric.reading <;> simp

/-- How long the JSON of a metric is for texts of some length; a more exact bound is not needed. -/
theorem length_encodeJson_le (metric : Metric) :
    metric.encodeJson.length ≤ 24 * metric.textLength + 6000 := by
  have members := length_printMembers_le
    (metric.places.map fun (name, document) => (literalOf name, document))
  have sum := List.sum_le_card_nsmul
    ((metric.places.map fun (name, document) => (literalOf name, document)).map
      fun member => member.1.length + member.2.print.length + 4)
    (6 * metric.textLength + 1234)
    (List.forall_mem_map.mpr (List.forall_mem_map.mpr fun place member => by
      obtain ⟨name, document⟩ := length_place_le member
      have := length_literalOf_le place.1
      show (literalOf place.1).length + place.2.print.length + 4 ≤ _
      omega))
  rw [List.length_map, List.length_map, smul_eq_mul] at sum
  have scaled := Nat.mul_le_mul_right (6 * metric.textLength + 1234) metric.length_places_le
  rw [encodeJson, toJson_eq, print, List.length_cons]
  exact (Nat.succ_le_succ members).trans (by omega)

/-- The JSON that is answered for a value is short. -/
theorem length_encodeJson_ofValue {key : String} (short : key.length ≤ longestKey)
    (value : Value) : (ofValue key value).encodeJson.length ≤ 20000 := by
  have bound := (ofValue key value).length_encodeJson_le
  have keyBytes := Bytes.length_ofText_le key
  have names : ∀ kind : Kind, (Bytes.ofText kind.name).length ≤ 7 := by
    intro kind
    cases kind <;> decide
  have texts : (ofValue key value).textLength ≤ (Bytes.ofText key).length + 7 := by
    cases value
    · exact Nat.add_le_add_left (names .counter) _
    · exact Nat.add_le_add_left (names .gauge) _
  rw [longestKey] at short
  omega

end Metric

end Metering
