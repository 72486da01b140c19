/-
Batches in the binary format are read back. A field that is left out is read as what it is left
out for, so a message comes back with the fields that it has, and a metric of a known kind as the
metric that it was.
-/

import Metering.Metric.Wire
import Metering.Proofs.Metric.Updates
import Metering.Proofs.Numeral.Whole
import Metering.Proofs.Wire.Message

namespace Metering

theorem Kind.name_of_ofName? {name : String} {kind : Kind} (isKind : ofName? name = some kind) :
    name = kind.name := by
  rw [ofName?] at isKind
  split at isKind
  · next isCounter => rw [isCounter, ← Option.some.inj isKind, Kind.name]
  · split at isKind
    · next isGauge => rw [isGauge, ← Option.some.inj isKind, Kind.name]
    · cases isKind

namespace Metric

open Bytes (IsSmall)

theorem kindName_of_kind {metric : Metric} {kind : Kind} (isKind : metric.kind = .ok kind) :
    metric.kindName = kind.name := by
  rw [Metric.kind, kindOfName] at isKind
  split at isKind
  · next found => rw [Kind.name_of_ofName? found, Except.ok.inj isKind]
  · cases isKind

namespace Message

/-! ### Messages and metrics -/

theorem ofMetric_ok {metric : Metric} {message : Message} (made : ofMetric metric = .ok message) :
    ∃ kind : Kind, metric.kindName = kind.name ∧
      message = ⟨metric.key, kind.number, metric.reading, metric.delta⟩ := by
  rw [ofMetric] at made
  cases isKind : metric.kind with
  | error problem =>
    rw [isKind] at made
    cases made
  | ok kind =>
    rw [isKind] at made
    exact ⟨kind, kindName_of_kind isKind, (Except.ok.inj made).symm⟩

/-- The message of a metric means the metric. -/
theorem toMetric_of_ofMetric {metric : Metric} {message : Message}
    (made : ofMetric metric = .ok message) : message.toMetric = metric := by
  obtain ⟨key, kindName, delta, reading⟩ := metric
  obtain ⟨kind, isKind, rfl⟩ := ofMetric_ok made
  obtain rfl : kindName = kind.name := isKind
  cases kind <;> rfl

/-- The messages of metrics mean the metrics. -/
theorem map_toMetric {batch : List Metric} {messages : List Message}
    (made : batch.mapM ofMetric = .ok messages) : messages.map toMetric = batch := by
  induction batch generalizing messages with
  | nil =>
    obtain rfl : [] = messages := Except.ok.inj made
    rfl
  | cons metric rest inductionHypothesis =>
    obtain ⟨message, others, first, later, rfl⟩ := mapM_cons_ok made
    rw [List.map_cons, toMetric_of_ofMetric first, inductionHypothesis later]

/-! ### The fields of a message -/

/-- A message that is read back: the number of its kind has 32 bits with a sign. -/
structure Fits (message : Message) : Prop where
  low : -2147483648 ≤ message.kindNumber
  high : message.kindNumber < 2147483648

theorem fits_of_ofMetric {metric : Metric} {message : Message}
    (made : ofMetric metric = .ok message) : message.Fits := by
  obtain ⟨kind, _, rfl⟩ := ofMetric_ok made
  cases kind with
  | gauge => exact ⟨(show (-2147483648 : Int) ≤ 0 by decide), (show (0 : Int) < _ by decide)⟩
  | counter => exact ⟨(show (-2147483648 : Int) ≤ 1 by decide), (show (1 : Int) < _ by decide)⟩

theorem pow_two_64 : Int.pow 2 64 = 18446744073709551616 := by
  decide +kernel

theorem cut32_low64 {number : Int} (low : -2147483648 ≤ number) (high : number < 2147483648) :
    cut32 (number % Int.pow 2 64).toNat = number := by
  have positive : 0 ≤ number % 18446744073709551616 := Int.emod_nonneg number (by decide)
  show Int.bmod (number % Int.pow 2 64).toNat 4294967296 = number
  rw [pow_two_64, Int.toNat_of_nonneg positive, Int.bmod]
  split <;> omega

section

variable (start : Message)

theorem withField?_key (content : Bytes) :
    withField? start ⟨1, .chunk content⟩ =
      (Bytes.toText? content).bind fun key => some { start with key } := rfl

theorem withField?_kindNumber (number : Nat) :
    withField? start ⟨2, .varint number⟩ = some { start with kindNumber := cut32 number } := rfl

theorem withField?_reading (number : Nat) :
    withField? start ⟨3, .fixed64 number⟩ =
      some { start with reading := some ⟨UInt64.ofNat number⟩ } := rfl

theorem withField?_delta (number : Nat) :
    withField? start ⟨4, .varint number⟩ =
      some { start with delta := some (Int64.ofInt (Varint.unfoldSign number)) } := rfl

theorem foldlM_single (field : Wire.Field) :
    [field].foldlM withField? start = withField? start field := by
  rw [List.foldlM_cons]
  cases withField? start field <;> rfl

end

/-- The fields of a message come to the message, on top of the message without fields. -/
theorem foldlM_fields {message : Message} (fits : message.Fits) :
    message.fields.foldlM withField? blank = some message := by
  obtain ⟨key, kindNumber, reading, delta⟩ := message
  have isKey : (if key.isEmpty then [] else [⟨1, .chunk (Bytes.ofText key)⟩]).foldlM withField?
      blank = some ⟨key, 0, none, none⟩ := by
    split
    · next empty =>
      rw [String.isEmpty_iff.mp empty]
      rfl
    · rw [foldlM_single, withField?_key, Bytes.toText?_ofText]
      rfl
  have isKind : (if kindNumber = 0 then []
      else [⟨2, .varint (kindNumber % Int.pow 2 64).toNat⟩]).foldlM withField?
        ⟨key, 0, none, none⟩ = some ⟨key, kindNumber, none, none⟩ := by
    split
    · next zero =>
      rw [zero]
      rfl
    · rw [foldlM_single, withField?_kindNumber, cut32_low64 fits.low fits.high]
  have isReading : (reading.map fun reading =>
      (⟨3, .fixed64 reading.bits.toNat⟩ : Wire.Field)).toList.foldlM withField?
        ⟨key, kindNumber, none, none⟩ = some ⟨key, kindNumber, reading, none⟩ := by
    cases reading with
    | none => rfl
    | some reading =>
      rw [Option.map_some, Option.toList_some, foldlM_single, withField?_reading,
        UInt64.ofNat_toNat]
  have isDelta : (delta.map fun delta =>
      (⟨4, .varint (Varint.foldSign delta.toInt)⟩ : Wire.Field)).toList.foldlM withField?
        ⟨key, kindNumber, reading, none⟩ = some ⟨key, kindNumber, reading, delta⟩ := by
    cases delta with
    | none => rfl
    | some delta =>
      rw [Option.map_some, Option.toList_some, foldlM_single, withField?_delta,
        Varint.unfoldSign_foldSign, Int64.ofInt_toInt]
  rw [fields, List.foldlM_append, List.foldlM_append, List.foldlM_append, isKey,
    Option.bind_eq_bind, Option.bind_some, isKind, Option.bind_some, isReading, Option.bind_some,
    isDelta]

/-- The fields of a message are read back, if its key is. -/
theorem fit_fields {message : Message} (short : IsSmall (Bytes.ofText message.key).length) :
    ∀ field ∈ message.fields, field.Fits := by
  intro field member
  rw [fields, List.mem_append, List.mem_append, List.mem_append] at member
  rcases member with ((inKey | inKind) | inReading) | inDelta
  · split at inKey
    · cases inKey
    · rw [List.mem_singleton.mp inKey]
      exact ⟨Nat.one_pos, (show 1 < Nat.pow 2 29 by decide), short⟩
  · split at inKind
    · cases inKind
    · rw [List.mem_singleton.mp inKind]
      refine ⟨Nat.two_pos, (show 2 < Nat.pow 2 29 by decide), ?_⟩
      show (message.kindNumber % Int.pow 2 64).toNat < Nat.pow 256 8
      have bound : Nat.pow 256 8 = 18446744073709551616 := rfl
      rw [pow_two_64, bound]
      omega
  · obtain ⟨reading, _, rfl⟩ := Option.map_eq_some_iff.mp (Option.mem_toList.mp inReading)
    exact ⟨Nat.succ_pos 2, (show 3 < Nat.pow 2 29 by decide), Bytes.isSmall_toNat reading.bits⟩
  · obtain ⟨delta, _, rfl⟩ := Option.map_eq_some_iff.mp (Option.mem_toList.mp inDelta)
    exact ⟨Nat.succ_pos 3, (show 4 < Nat.pow 2 29 by decide), Varint.isSmall_foldSign delta⟩

/-- The key of a message is not longer than the message. -/
theorem length_key_le (message : Message) :
    (Bytes.ofText message.key).length ≤ (Wire.encode message.fields).length := by
  cases empty : message.key.isEmpty with
  | true =>
    rw [String.isEmpty_iff.mp empty]
    exact Nat.zero_le _
  | false =>
    have member : ⟨1, .chunk (Bytes.ofText message.key)⟩ ∈ message.fields := by
      rw [fields, empty]
      exact List.mem_append_left _ (List.mem_append_left _ (List.mem_append_left _
        (List.mem_singleton_self _)))
    exact Wire.length_chunk_le member

/-- A message is read back. -/
theorem read?_encode {message : Message} (fits : message.Fits)
    (small : IsSmall (Wire.encode message.fields).length) :
    read? (Wire.encode message.fields) = some message := by
  have short := small.of_le message.length_key_le
  rw [read?, Wire.read?_encode (fit_fields short) 99]
  exact foldlM_fields fits

end Message

/-! ### Batches -/

/-- Fields that are all read as the messages they hold. -/
theorem mapM_batchField {readField : Wire.Field → Option (Option Message)}
    {messages : List Message}
    (each : ∀ message ∈ messages, readField (batchField message) = some (some message)) :
    (messages.map batchField).mapM readField = some (messages.map some) := by
  induction messages with
  | nil => rfl
  | cons message rest inductionHypothesis =>
    obtain ⟨first, later⟩ := List.forall_mem_cons.mp each
    rw [List.map_cons, List.mapM_cons, first, inductionHypothesis later]
    rfl

/-- Messages are read back in their order. -/
theorem readBatchWire?_encode {messages : List Message} (fit : ∀ message ∈ messages, message.Fits)
    (small : IsSmall (Wire.encode (messages.map batchField)).length) :
    readBatchWire? (Wire.encode (messages.map batchField)) = some messages := by
  have short : ∀ message ∈ messages, IsSmall (Wire.encode message.fields).length :=
    fun message member => small.of_le (Wire.length_chunk_le (List.mem_map_of_mem member))
  have fieldsFit : ∀ field ∈ messages.map batchField, field.Fits :=
    List.forall_mem_map.mpr fun message member =>
      ⟨Nat.one_pos, (show 1 < Nat.pow 2 29 by decide), short message member⟩
  rw [readBatchWire?, Wire.read?_encode fieldsFit 100]
  rw [Option.bind_eq_bind, Option.bind_some, mapM_batchField fun message member =>
    congrArg (Option.map some) (Message.read?_encode (fit message member) (short message member))]
  refine congrArg some ?_
  rw [List.filterMap_map]
  exact List.filterMap_some

/-- The bytes of a batch are read as the messages of its metrics. -/
theorem readBatchWire?_encodeBatchWire {batch : List Metric} {bytes : Bytes}
    (encoded : encodeBatchWire batch = .ok bytes) (small : IsSmall bytes.length) :
    ∃ messages, batch.mapM Message.ofMetric = .ok messages ∧
      readBatchWire? bytes = some messages := by
  rw [encodeBatchWire] at encoded
  cases made : batch.mapM Message.ofMetric with
  | error problem =>
    rw [made] at encoded
    cases encoded
  | ok messages =>
    rw [made] at encoded
    obtain rfl : Wire.encode (messages.map batchField) = bytes := Except.ok.inj encoded
    exact ⟨messages, rfl, readBatchWire?_encode
      (forall_of_mapM_ok (fun _ _ => Message.fits_of_ofMetric) made) small⟩

/-! ### Kinds -/

/-- A number is the name of no kind. -/
theorem ofName?_toString (number : Int) : Kind.ofName? (toString number) = none := by
  -- Both names have a letter that is neither a minus nor a digit.
  have noName (name : String) (member : 'u' ∈ name.toList) : toString number ≠ name := by
    rintro rfl
    rw [toList_toString, List.mem_append] at member
    rcases member with inSign | inDigits
    · split at inSign
      · cases List.mem_singleton.mp inSign
      · cases inSign
    · cases Nat.isDigit_of_mem_toDigits (by decide) (by decide) inDigits
  rw [Kind.ofName?, if_neg (noName _ (by decide)), if_neg (noName _ (by decide))]

theorem kind_of_known {metric : Metric}
    (known : metric.kindName = "counter" ∨ metric.kindName = "gauge") :
    ∃ kind, metric.kind = .ok kind := by
  rw [kind, kindOfName]
  rcases known with isCounter | isGauge
  · exact ⟨.counter, by rw [isCounter]; rfl⟩
  · exact ⟨.gauge, by rw [isGauge]; rfl⟩

namespace Message

/-- A metric has a message exactly if its kind is one of the two. -/
theorem ofMetric_ok_iff {metric : Metric} :
    (∃ message, ofMetric metric = .ok message) ↔
      metric.kindName = "counter" ∨ metric.kindName = "gauge" := by
  constructor
  · rintro ⟨message, made⟩
    obtain ⟨kind, isKind, _⟩ := ofMetric_ok made
    cases kind
    · exact Or.inl isKind
    · exact Or.inr isKind
  · intro known
    obtain ⟨kind, isKind⟩ := kind_of_known known
    exact ⟨_, by rw [ofMetric, isKind]; rfl⟩

theorem ofMetric_error_iff {metric : Metric} :
    (∃ problem, ofMetric metric = .error problem) ↔
      metric.kindName ≠ "counter" ∧ metric.kindName ≠ "gauge" := by
  rw [← not_or, ← ofMetric_ok_iff]
  cases ofMetric metric <;> simp

/-- A message with another kind number asks for no update, and the number is what is said of it. -/
theorem toUpdate_of_strange {message : Message} (noGauge : message.kindNumber ≠ 0)
    (noCounter : message.kindNumber ≠ 1) (validKey : validateKey message.key = .ok ()) :
    message.toMetric.toUpdate = .error (.unknownKind (toString message.kindNumber)) := by
  have isName : message.toMetric.kindName = toString message.kindNumber := by
    rw [toMetric, kindName, if_neg noGauge, if_neg noCounter]
  have isQuery : message.toMetric.query =
      .error (.unknownKind (toString message.kindNumber)) := by
    rw [query, toMetric, validKey, ← toMetric, kind, kindOfName, isName, ofName?_toString]
    rfl
  rw [toUpdate, isQuery]
  rfl

end Message

/-! ### Both ways -/

/-- A batch of metrics of the two kinds has bytes, and these are read back as the batch, with just
the fields that were there. A metric of any other kind is refused, and what a message says with
any other kind number is no update. -/
theorem batch_back_from_wire :
    (∀ batch : List Metric,
      (∀ metric ∈ batch, metric.kindName = "counter" ∨ metric.kindName = "gauge") →
      ∃ bytes, encodeBatchWire batch = .ok bytes ∧
        (IsSmall bytes.length →
          ∃ messages, readBatchWire? bytes = some messages ∧
            messages.map Message.toMetric = batch)) ∧
    (∀ metric : Metric, (∃ problem, Message.ofMetric metric = .error problem) ↔
      metric.kindName ≠ "counter" ∧ metric.kindName ≠ "gauge") ∧
    ∀ message : Message, message.kindNumber ≠ 0 → message.kindNumber ≠ 1 →
      validateKey message.key = .ok () →
      message.toMetric.toUpdate = .error (.unknownKind (toString message.kindNumber)) := by
  refine ⟨fun batch known => ?_, fun metric => Message.ofMetric_error_iff,
    fun message => Message.toUpdate_of_strange⟩
  obtain ⟨messages, made⟩ := mapM_ok_iff.mpr fun metric member =>
    Message.ofMetric_ok_iff.mpr (known metric member)
  have encoded : encodeBatchWire batch = .ok (Wire.encode (messages.map batchField)) := by
    rw [encodeBatchWire, made]
    rfl
  refine ⟨_, encoded, fun small => ⟨messages, ?_, Message.map_toMetric made⟩⟩
  exact readBatchWire?_encode
    (forall_of_mapM_ok (fun _ _ => Message.fits_of_ofMetric) made) small

theorem batch_back_from_wire_zeros :
    let batch : List Metric :=
      [⟨"", "counter", some 0, none⟩, ⟨"g", "gauge", some Int64.minValue, some ⟨0⟩⟩]
    (∃ bytes messages, encodeBatchWire batch = .ok bytes ∧
      readBatchWire? bytes = some messages ∧ messages.map Message.toMetric = batch) ∧
    (Message.mk "g" (-9) (some ⟨0⟩) none).toMetric.toUpdate = .error (.unknownKind "-9") := by
  intro batch
  have known : ∀ metric ∈ batch, metric.kindName = "counter" ∨ metric.kindName = "gauge" :=
    List.forall_mem_cons.mpr ⟨Or.inl rfl, List.forall_mem_singleton.mpr (Or.inr rfl)⟩
  obtain ⟨bytes, encoded, isBack⟩ := batch_back_from_wire.1 batch known
  have small : IsSmall bytes.length := by
    have isBytes : encodeBatchWire batch = .ok
        [10, 4, 16, 1, 32, 0, 10, 23, 10, 1, 103, 25, 0, 0, 0, 0, 0, 0, 0, 0,
          32, 255, 255, 255, 255, 255, 255, 255, 255, 255, 1] := by decide +kernel
    rw [← Except.ok.inj (isBytes.symm.trans encoded)]
    decide
  obtain ⟨messages, isRead, same⟩ := isBack small
  exact ⟨⟨bytes, messages, encoded, isRead, same⟩,
    batch_back_from_wire.2.2 ⟨"g", -9, some ⟨0⟩, none⟩ (by decide) (by decide) (by decide)⟩

end Metric

end Metering
