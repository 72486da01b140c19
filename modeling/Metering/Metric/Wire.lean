/-
Metrics in the binary message format. Field 1 is the key, field 2 the number of the kind (0 for
gauges, 1 for counters), field 3 the reading as eight bytes and field 4 the change with its
sign folded in; an empty key and the kind 0 are left out. A batch is a message whose fields 1
are metrics. Of a field that stands more than once the last counts, other fields are skipped,
and a kind number is cut to 32 bits with a sign.
-/

import Metering.Metric.Basic
import Metering.Wire.Message

namespace Metering

/-- The number of a kind. -/
def Kind.number : Kind → Nat
  | .gauge => 0
  | .counter => 1

namespace Metric

/-- A metric as a message says it, with the number of its kind. -/
structure Message where
  key : String
  kindNumber : Int
  reading : Option Binary64
  delta : Option Int64
  deriving DecidableEq, Repr

namespace Message

/-- The message without fields. -/
def blank : Message := ⟨"", 0, none, none⟩

/-- The 32 low bits of a number, with a sign. -/
def cut32 (number : Nat) : Int := Int.bmod number (Nat.pow 2 32)

/-- The text that names a kind number in a metric: the name of the kind, or else the number. -/
def kindName (number : Int) : String :=
  if number = 0 then Kind.gauge.name
  else if number = 1 then Kind.counter.name
  else toString number

/-- The message of a metric, if its kind is known. -/
def ofMetric (metric : Metric) : Except MetricError Message := do
  let kind ← metric.kind
  return ⟨metric.key, kind.number, metric.reading, metric.delta⟩

/-- The metric that a message means. -/
def toMetric (message : Message) : Metric :=
  ⟨message.key, kindName message.kindNumber, message.delta, message.reading⟩

/-- The fields of a message. -/
def fields (message : Message) : List Wire.Field :=
  (if message.key.isEmpty then [] else [⟨1, .chunk (Bytes.ofText message.key)⟩]) ++
    (if message.kindNumber = 0 then []
      else [⟨2, .varint (message.kindNumber % Int.pow 2 64).toNat⟩]) ++
    (message.reading.map fun reading => ⟨3, .fixed64 reading.bits.toNat⟩).toList ++
    (message.delta.map fun delta => ⟨4, .varint (Varint.foldSign delta.toInt)⟩).toList

/-- The message after one more field. -/
def withField? (message : Message) (field : Wire.Field) : Option Message :=
  match field.number, field.payload with
  | 1, .chunk content => do
    let key ← Bytes.toText? content
    return { message with key }
  | 2, .varint number => some { message with kindNumber := cut32 number }
  | 3, .fixed64 number => some { message with reading := some ⟨UInt64.ofNat number⟩ }
  | 4, .varint number =>
    some { message with delta := some (Int64.ofInt (Varint.unfoldSign number)) }
  | number, _ => if number ≤ 4 then none else some message

/-- The message that bytes write. -/
def read? (input : Bytes) : Option Message := do
  (← Wire.read? 99 input).foldlM withField? blank

end Message

/-- The field of a batch that holds a metric. -/
def batchField (message : Message) : Wire.Field := ⟨1, .chunk (Wire.encode message.fields)⟩

/-- The bytes of a batch, if all kinds are known. -/
def encodeBatchWire (metrics : List Metric) : Except MetricError Bytes := do
  let messages ← metrics.mapM Message.ofMetric
  return Wire.encode (messages.map batchField)

/-- The messages of a batch. -/
def readBatchWire? (input : Bytes) : Option (List Message) := do
  let fields ← Wire.read? 100 input
  let messages ← fields.mapM fun field =>
    match field.number, field.payload with
    | 1, .chunk content => (Message.read? content).map some
    | 1, _ => none
    | _, _ => some none
  return messages.filterMap id

end Metric

end Metering
