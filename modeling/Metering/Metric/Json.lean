/-
Metrics as JSON. A metric is an object with the members `id`, `type`, `delta` and `value`; the
last two are left out when absent, and a reading that is not finite is written as `null`. When
reading, unknown members are skipped whatever they hold, a known member may stand only once,
`null` counts as absent, and an array of two to four items in the order of the members is a
metric too. A counter takes whole literals only; a gauge takes any number that is not scaled to
infinity.
-/

import Metering.Json.Reading
import Metering.Metric.Basic
import Metering.Numeral.Scaling
import Metering.Numeral.Whole

namespace Metering

namespace Json

/-- A counter as a document. -/
def ofTally (total : Int64) : Json := .number (Tally.text total).toList

/-- A reading as a document. -/
def ofReading (reading : Binary64) : Json :=
  if reading.isFinite then .number (Layout.json.writeFinite reading) else .null

/-- The text that a document is. -/
def asText? : Json → Option String
  | .text literal => textOf? literal
  | _ => none

/-- The whole literal of a counter; a literal with a fraction, a power of ten or a negative
zero is none. -/
def asTally? : Json → Option Int64
  | .number literal =>
    if literal = ['-', '0'] then none
    else
      match Whole.readChars Whole.Range.signed64 literal with
      | .ok whole => some (Int64.ofInt whole)
      | .error _ => none
  | _ => none

/-- The reading that a number literal comes to by scaling. -/
def asReading? : Json → Option Binary64
  | .number literal => Binary64.readScaled? literal
  | _ => none

/-- A document in a place that may be absent or `null`. -/
def optionally {Result : Type} (read : Json → Option Result) : Option Json → Option (Option Result)
  | none | some .null => some none
  | some document => (read document).map some

/-- The document in the place of a member name. -/
def member? (name : String) : List (String × Json) → Option Json
  | [] => none
  | (key, document) :: rest => if key = name then some document else member? name rest

/-- How often a member name stands. -/
def memberCount (name : String) (members : List (String × Json)) : Nat :=
  (members.filter fun entry => entry.1 == name).length

/-- The keys of members as texts. -/
def namedMembers? : List (Bytes × Json) → Option (List (String × Json))
  | [] => some []
  | (literal, document) :: rest => do
    let name ← textOf? literal
    let others ← namedMembers? rest
    return (name, document) :: others

end Json

/-- A value under the name of its kind. -/
def Value.toJson : Value → Json
  | .counter total => .object [(Bytes.ofText "Counter", Json.ofTally total)]
  | .gauge reading => .object [(Bytes.ofText "Gauge", Json.ofReading reading)]

namespace Metric

/-- The names of the members. -/
def memberNames : List String := ["id", "type", "delta", "value"]

/-- A metric as a document. -/
def toJson (metric : Metric) : Json :=
  .object
    ([(Bytes.ofText "id", Json.ofText metric.key),
        (Bytes.ofText "type", Json.ofText metric.kindName)] ++
      (metric.delta.map fun delta => (Bytes.ofText "delta", Json.ofTally delta)).toList ++
      (metric.reading.map fun reading => (Bytes.ofText "value", Json.ofReading reading)).toList)

/-- The metric with given documents in its places. -/
def ofPlaces? (key kindName : Json) (delta reading : Option Json) : Option Metric := do
  let key ← key.asText?
  let kindName ← kindName.asText?
  let delta ← Json.optionally Json.asTally? delta
  let reading ← Json.optionally Json.asReading? reading
  return ⟨key, kindName, delta, reading⟩

/-- The metric that a document is. -/
def ofJson? : Json → Option Metric
  | .object members => do
    let members ← Json.namedMembers? members
    if memberNames.any fun name => 1 < Json.memberCount name members then none
    else
      ofPlaces? (← Json.member? "id" members) (← Json.member? "type" members)
        (Json.member? "delta" members) (Json.member? "value" members)
  | .array [key, kindName] => ofPlaces? key kindName none none
  | .array [key, kindName, delta] => ofPlaces? key kindName (some delta) none
  | .array [key, kindName, delta, reading] => ofPlaces? key kindName (some delta) (some reading)
  | _ => none

/-- The bytes of a metric as JSON. -/
def encodeJson (metric : Metric) : Bytes := metric.toJson.print

/-- The metric that bytes write as JSON. -/
def decodeJson? (input : Bytes) : Option Metric := do ofJson? (← Json.read? input)

/-- The bytes of a list of metrics as JSON. -/
def encodeBatchJson (metrics : List Metric) : Bytes := (Json.array (metrics.map toJson)).print

/-- The metrics that bytes write as a JSON array. -/
def decodeBatchJson? (input : Bytes) : Option (List Metric) := do
  match ← Json.read? input with
  | .array items => items.mapM ofJson?
  | _ => none

end Metric

end Metering
