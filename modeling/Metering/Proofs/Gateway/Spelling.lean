/-
How texts are written into a path. A segment spells a text if it is free of the characters that
end a segment or a path, and stands for the text once its escapes are replaced. Every text can be
spelled, and so a path leads to its route whatever key, kind and number it is made for.
-/

import Mathlib.Data.List.TakeWhile
import Metering.Gateway.Message
import Metering.Gateway.Route
import Metering.Proofs.Digest.Tag
import Metering.Proofs.Numeral.Notation
import Metering.Proofs.Text.Cut

namespace Metering

/-! ### Escapes -/

namespace Percent

theorem decode_nil : decode [] = [] := by rw [decode]

theorem decode_cons {byte : UInt8} (notPercent : byte ≠ 37) (rest : Bytes) :
    decode (byte :: rest) = byte :: decode rest := by
  rw [decode]
  intro high low others isPercent
  exact absurd isPercent notPercent

theorem decode_of_not_mem {bytes : Bytes} (absent : 37 ∉ bytes) : decode bytes = bytes := by
  induction bytes with
  | nil => exact decode_nil
  | cons byte rest inductionHypothesis =>
    obtain ⟨different, restAbsent⟩ := List.ne_and_not_mem_of_not_mem_cons absent
    rw [decode_cons (Ne.symm different), inductionHypothesis restAbsent]

/-- An escape has more bytes than what it stands for. -/
theorem length_decode_le (bytes : Bytes) : (decode bytes).length ≤ bytes.length := by
  fun_induction decode bytes <;> simp only [List.length_cons, List.length_nil] at * <;> omega

theorem decode_ne_nil (byte : UInt8) (rest : Bytes) : decode (byte :: rest) ≠ [] := by
  by_cases isPercent : byte = 37
  · subst isPercent
    rcases rest with _ | ⟨high, _ | ⟨low, others⟩⟩
    · exact List.cons_ne_nil _ _
    · exact List.cons_ne_nil _ _
    · rw [decode]
      split <;> exact List.cons_ne_nil _ _
  · rw [decode_cons isPercent]
    exact List.cons_ne_nil _ _

/-- The characters of the escape that stands for a byte. -/
def escape (byte : UInt8) : List Char :=
  ['%', Hex.digit (byte.toNat / 16), Hex.digit (byte.toNat % 16)]

theorem decode_escape (byte : UInt8) (rest : Bytes) :
    decode ((escape byte).map (fun character => UInt8.ofNat character.toNat) ++ rest) =
      byte :: decode rest := by
  have small := byte.toNat_lt
  have high := (Hex.digit_cases (show byte.toNat / 16 < 16 by omega)).2.2.2.2
  have low := (Hex.digit_cases (show byte.toNat % 16 < 16 by omega)).2.2.2.2
  have together : 16 * (byte.toNat / 16) + byte.toNat % 16 = byte.toNat := by omega
  show decode (37 :: _ :: _ :: rest) = _
  rw [decode, high, low]
  dsimp only
  rw [together, UInt8.ofNat_toNat]

end Percent

namespace Route

/-! ### Spellings -/

/-- Whether a character ends neither a segment nor a path. -/
def isInside (character : Char) : Bool := character != '/' && character != '?' && character != '#'

theorem of_isInside {character : Char} (inside : isInside character = true) :
    character ≠ '/' ∧ character ≠ '?' ∧ character ≠ '#' := by
  simpa [isInside, and_assoc] using inside

theorem isInside_escape {byte : UInt8} {character : Char}
    (member : character ∈ Percent.escape byte) :
    character.toNat ≤ 127 ∧ isInside character = true := by
  have digits : ∀ half < 16,
      (Hex.digit half).toNat ≤ 127 ∧ isInside (Hex.digit half) = true := by decide
  have small := byte.toNat_lt
  rw [Percent.escape, List.mem_cons, List.mem_cons, List.mem_singleton] at member
  rcases member with rfl | rfl | rfl
  · decide
  · exact digits _ (by omega)
  · exact digits _ (by omega)

/-- A segment of a path spells a text. -/
structure Spells (segment text : String) : Prop where
  inside : segment.toList.all isInside = true
  stands : Percent.decode (Bytes.ofText segment) = Bytes.ofText text

instance (segment text : String) : Decidable (Spells segment text) :=
  decidable_of_iff (segment.toList.all isInside = true ∧
      Percent.decode (Bytes.ofText segment) = Bytes.ofText text)
    ⟨fun ⟨inside, stands⟩ => ⟨inside, stands⟩, fun spells => ⟨spells.inside, spells.stands⟩⟩

/-- Every text can be spelled. -/
theorem exists_spells (text : String) : ∃ segment, Spells segment text := by
  have escaped {character : Char}
      (member : character ∈ (Bytes.ofText text).flatMap Percent.escape) :
      character.toNat ≤ 127 ∧ isInside character = true := by
    obtain ⟨byte, _, inEscape⟩ := List.mem_flatMap.mp member
    exact isInside_escape inEscape
  refine ⟨String.ofList ((Bytes.ofText text).flatMap Percent.escape), ?_, ?_⟩
  · rw [String.toList_ofList, List.all_eq_true]
    exact fun character member => (escaped member).2
  · rw [Bytes.ofText_ofList fun character member => (escaped member).1]
    induction Bytes.ofText text with
    | nil => exact Percent.decode_nil
    | cons byte rest inductionHypothesis =>
      rw [List.flatMap_cons, List.map_append, Percent.decode_escape, inductionHypothesis]

/-- A text with nothing that means something in a path spells itself. -/
theorem spells_self {text : String}
    (ascii : ∀ character ∈ text.toList, character.toNat ≤ 127)
    (plain : ∀ character ∈ text.toList, isInside character = true ∧ character ≠ '%') :
    Spells text text := by
  refine ⟨List.all_eq_true.mpr fun character member => (plain character member).1,
    Percent.decode_of_not_mem ?_⟩
  rw [← String.ofList_toList (s := text), Bytes.ofText_ofList ascii]
  intro member
  obtain ⟨character, inText, isPercent⟩ := List.mem_map.mp member
  refine (plain character inText).2 ?_
  have code := congrArg UInt8.toNat isPercent
  rw [UInt8.toNat_ofNat', Nat.mod_eq_of_lt (Nat.lt_of_le_of_lt (ascii character inText)
    (by decide))] at code
  rw [← Char.ofNat_toNat character, code]
  rfl

theorem length_le_of_spells {segment text : String} (spells : Spells segment text) :
    (Bytes.ofText text).length ≤ (Bytes.ofText segment).length := by
  rw [← spells.stands]
  exact Percent.length_decode_le _

theorem parameter_of_spells {segment text : String} (spells : Spells segment text)
    (name : String) : parameter name segment = .ok text := by
  rw [parameter, spells.stands, Bytes.toText?_ofText]

/-- Only an empty segment spells the empty text. -/
theorem eq_empty_iff_of_spells {segment text : String} (spells : Spells segment text) :
    segment = "" ↔ text = "" := by
  have stands := spells.stands
  constructor
  · rintro rfl
    have nothing : Bytes.ofText "" = Bytes.ofText text := Percent.decode_nil.symm.trans stands
    exact (Bytes.ofText_injective nothing).symm
  · rintro rfl
    cases isBytes : Bytes.ofText segment with
    | nil => exact Bytes.ofText_injective isBytes
    | cons byte rest =>
      rw [isBytes] at stands
      exact absurd stands (Percent.decode_ne_nil byte rest)

/-! ### Paths -/

/-- The path with some segments. -/
def pathOf : List String → String
  | [] => ""
  | segment :: rest => "/" ++ segment ++ pathOf rest

theorem toList_pathOf (segment : String) (rest : List String) :
    (pathOf (segment :: rest)).toList = '/' :: (segment.toList ++ (pathOf rest).toList) := by
  rw [pathOf, String.toList_append, String.toList_append]
  rfl

variable {segments : List String}

theorem isInside_of_mem_pathOf
    (inside : ∀ segment ∈ segments, segment.toList.all isInside = true)
    {character : Char} (member : character ∈ (pathOf segments).toList) :
    character ≠ '?' ∧ character ≠ '#' := by
  induction segments with
  | nil => cases member
  | cons segment rest inductionHypothesis =>
    obtain ⟨first, others⟩ := List.forall_mem_cons.mp inside
    rw [toList_pathOf, List.mem_cons, List.mem_append] at member
    rcases member with rfl | inFirst | inRest
    · decide
    · exact (of_isInside (List.all_eq_true.mp first character inFirst)).2
    · exact inductionHypothesis others inRest

theorem slash_not_mem {segment : String} (inside : segment.toList.all isInside = true) :
    '/' ∉ segment.toList :=
  fun member => (of_isInside (List.all_eq_true.mp inside '/' member)).1 rfl

/-- A path is cut into its segments again. -/
theorem pieces_pathOf
    (inside : ∀ segment ∈ segments, segment.toList.all isInside = true) :
    Text.pieces '/' (pathOf segments) = "" :: segments := by
  -- The piece that has been begun goes on until the slash of the next segment.
  have behind : ∀ front : List Char, '/' ∉ front →
      Text.piecesOf '/' (front ++ (pathOf segments).toList) =
        front :: segments.map String.toList := by
    induction segments with
    | nil =>
      intro front absent
      rw [show (pathOf []).toList = [] from rfl, List.append_nil]
      exact Text.piecesOf_of_not_mem absent
    | cons segment rest inductionHypothesis =>
      intro front absent
      obtain ⟨first, others⟩ := List.forall_mem_cons.mp inside
      rw [toList_pathOf, Text.piecesOf_append absent,
        inductionHypothesis others _ (slash_not_mem first), List.map_cons]
  have texts : String.ofList ∘ String.toList = id := funext fun text => String.ofList_toList
  rw [Text.pieces, ← List.nil_append (pathOf segments).toList, behind [] List.not_mem_nil,
    List.map_cons, List.map_map, texts, List.map_id]

/-- A request for a path leads to what its segments say. -/
theorem pieces_path
    (inside : ∀ segment ∈ segments, segment.toList.all isInside = true)
    {request : Request} (isTarget : request.target = pathOf segments) :
    Text.pieces '/' request.path = "" :: segments := by
  have whole : ((pathOf segments).toList.takeWhile
      fun character => character != '?' && character != '#') = (pathOf segments).toList := by
    refine List.takeWhile_eq_self_iff.mpr fun character member => ?_
    obtain ⟨noQuery, noFragment⟩ := isInside_of_mem_pathOf inside member
    rw [Bool.and_eq_true, bne_iff_ne, bne_iff_ne]
    exact ⟨noQuery, noFragment⟩
  rw [Request.path, isTarget, whole, String.ofList_toList, pieces_pathOf inside]

/-- A path has the bytes of all its segments. -/
theorem sum_le_length_pathOf (segments : List String) :
    (segments.map fun segment => (Bytes.ofText segment).length).sum ≤
      (Bytes.ofText (pathOf segments)).length := by
  induction segments with
  | nil => exact Nat.zero_le _
  | cons segment rest inductionHypothesis =>
    rw [List.map_cons, List.sum_cons, pathOf, Bytes.ofText_append, Bytes.ofText_append,
      List.length_append, List.length_append]
    omega

variable {kind key number kindName keyText numberText : String} {request : Request}

theorem ofPath?_update (isKind : Spells kind kindName) (isKey : Spells key keyText)
    (isNumber : Spells number numberText) (some : number ≠ "")
    (isTarget : request.target = pathOf ["update", kind, key, number]) :
    ofPath? request.path = .some (.updatePath kind key number) := by
  have inside : ∀ segment ∈ ["update", kind, key, number],
      segment.toList.all isInside = true := by
    simp only [List.forall_mem_cons]
    exact ⟨by decide, isKind.inside, isKey.inside, isNumber.inside, nofun⟩
  rw [ofPath?, pieces_path inside isTarget]
  simp [some]

theorem ofPath?_value (isKind : Spells kind kindName) (isKey : Spells key keyText)
    (isTarget : request.target = pathOf ["value", kind, key]) :
    ofPath? request.path = if key = "" then none else some (.valuePath kind key) := by
  have inside : ∀ segment ∈ ["value", kind, key], segment.toList.all isInside = true := by
    simp only [List.forall_mem_cons]
    exact ⟨by decide, isKind.inside, isKey.inside, nofun⟩
  rw [ofPath?, pieces_path inside isTarget]
  simp

end Route

end Metering
