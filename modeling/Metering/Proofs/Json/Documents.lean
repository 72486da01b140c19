/-
Documents are read back. The reader keeps the containers that are still open, so what it does
with the text of a document is told for any containers around it: after so many steps it stands
behind the text and hands the document over to the innermost of them.
-/

import Metering.Proofs.Json.Numbers
import Metering.Proofs.Json.Texts

namespace Metering.Json

/-! ### Documents whose literals can be read -/

/-- A text literal that ends at the quotation mark behind it. -/
def IsText (literal : Bytes) : Prop :=
  ∀ rest, scanText? (literal ++ 34 :: rest) = some (literal, rest)

mutual

/-- Every literal of a document can be read. -/
def Legible : Json → Prop
  | .null | .boolean _ => True
  | .number literal => IsNumeral literal
  | .text literal => IsText literal
  | .array items => LegibleItems items
  | .object members => LegibleMembers members

/-- Every literal of some documents can be read. -/
def LegibleItems : List Json → Prop
  | [] => True
  | item :: rest => Legible item ∧ LegibleItems rest

/-- Every literal of some members can be read. -/
def LegibleMembers : List (Bytes × Json) → Prop
  | [] => True
  | (key, value) :: rest => IsText key ∧ Legible value ∧ LegibleMembers rest

end

theorem legibleItems_iff {items : List Json} :
    LegibleItems items ↔ ∀ item ∈ items, item.Legible := by
  induction items with
  | nil => simp [LegibleItems]
  | cons item others inductionHypothesis =>
    rw [LegibleItems, List.forall_mem_cons, inductionHypothesis]

mutual

/-- The steps that a reader takes for the text of a document. -/
def steps : Json → Nat
  | .array items => itemSteps items + 1
  | .object members => memberSteps members + 1
  | .null | .boolean _ | .number _ | .text _ => 1

/-- The steps that a reader takes for the items of an array. -/
def itemSteps : List Json → Nat
  | [] => 0
  | item :: rest => steps item + 1 + itemSteps rest

/-- The steps that a reader takes for the members of an object. -/
def memberSteps : List (Bytes × Json) → Nat
  | [] => 0
  | (_, value) :: rest => steps value + 1 + memberSteps rest

end

/-! ### The first byte of a document -/

theorem skipSpace_cons {byte : UInt8} (noSpace : isSpace byte = false) (rest : Bytes) :
    skipSpace (byte :: rest) = byte :: rest :=
  List.dropWhile_cons_of_neg (Bool.eq_false_iff.mp noSpace)

theorem head_numeral {literal : List Char} (isNumeral : IsNumeral literal) :
    ∃ byte rest, asciiBytes literal = byte :: rest ∧ (byte = 45 ∨ isDigit byte = true) := by
  obtain ⟨numeral, proper, rfl⟩ := isNumeral
  obtain ⟨first, others, isWhole, isDigitChar⟩ : ∃ first others, numeral.whole = first :: others ∧
      first.isDigit = true := by
    have isDigits := proper.whole
    rcases proper.start with zero | ⟨first, others, isWhole, _⟩
    · exact ⟨'0', [], zero, rfl⟩
    · exact ⟨first, others, isWhole, isDigits first (isWhole ▸ List.mem_cons_self)⟩
  rw [Numeral.characters, Numeral.signText, isWhole]
  cases numeral.minus with
  | true => exact ⟨45, _, rfl, Or.inl rfl⟩
  | false => exact ⟨UInt8.ofNat first.toNat, _, rfl, Or.inr (isDigit_byteOf isDigitChar)⟩

/-- What starts a number starts nothing else. -/
theorem start_of_numeral {byte : UInt8} (starts : byte = 45 ∨ isDigit byte = true) :
    isSpace byte = false ∧ byte ∉ ([93, 34, 91, 123, 110, 116, 102] : List UInt8) := by
  rcases starts with rfl | digit
  · decide
  · refine ⟨Bool.eq_false_iff.mpr fun space => ?_, fun member => ?_⟩
    · simp only [isSpace, Bool.or_eq_true, beq_iff_eq] at space
      rcases space with ((rfl | rfl) | rfl) | rfl <;> exact absurd digit (by decide)
    · simp only [List.mem_cons, List.not_mem_nil, or_false] at member
      rcases member with rfl | rfl | rfl | rfl | rfl | rfl | rfl <;> exact absurd digit (by decide)

/-- No document starts with a blank or a closing bracket. -/
theorem head_print {document : Json} (legible : document.Legible) :
    ∃ byte rest, document.print = byte :: rest ∧ isSpace byte = false ∧ byte ≠ 93 := by
  cases document with
  | null => exact ⟨110, _, rfl, rfl, by decide⟩
  | boolean holds => cases holds <;> exact ⟨_, _, rfl, rfl, by decide⟩
  | number literal =>
    obtain ⟨byte, rest, isHead, starts⟩ := head_numeral (by rwa [Legible] at legible)
    obtain ⟨noSpace, noOther⟩ := start_of_numeral starts
    exact ⟨byte, rest, by rw [print, isHead], noSpace,
      fun same => noOther (same ▸ List.mem_cons_self)⟩
  | text literal => exact ⟨34, _, by rw [print]; rfl, rfl, by decide⟩
  | array items => exact ⟨91, _, by rw [print], rfl, by decide⟩
  | object members => exact ⟨123, _, by rw [print], rfl, by decide⟩

theorem head_printItems {item : Json} (legible : item.Legible) (others : List Json) :
    ∃ byte rest, printItems (item :: others) = byte :: rest ∧ isSpace byte = false ∧ byte ≠ 93 := by
  obtain ⟨byte, rest, isHead, facts⟩ := head_print legible
  cases others <;> rw [printItems, isHead, List.cons_append] <;> exact ⟨byte, _, rfl, facts⟩

/-! ### Reading the parts -/

theorem quoted_append (literal rest : Bytes) :
    quoted literal ++ rest = 34 :: (literal ++ 34 :: rest) := by
  rw [quoted, List.cons_append, List.cons_append, List.append_assoc, List.singleton_append]

theorem scanKey?_quoted {key : Bytes} (isText : IsText key) (rest : Bytes) :
    scanKey? (quoted key ++ 58 :: rest) = some (key, rest) := by
  have start : skipSpace (quoted key ++ 58 :: rest) = 34 :: (key ++ 34 :: 58 :: rest) := by
    rw [quoted_append]
    exact skipSpace_cons rfl _
  have colon : skipSpace (58 :: rest) = 58 :: rest := skipSpace_cons rfl rest
  rw [scanKey?, start]
  dsimp only
  rw [if_neg (by decide), isText]
  simp only [Option.bind_eq_bind, Option.bind_some, colon, if_true]

theorem ends_comma (rest : Bytes) : Ends (44 :: rest) :=
  fun _ isHead => Or.inl (Option.some.inj isHead).symm

theorem ends_bracket (rest : Bytes) : Ends (93 :: rest) :=
  fun _ isHead => Or.inr (Or.inl (Option.some.inj isHead).symm)

theorem ends_brace (rest : Bytes) : Ends (125 :: rest) :=
  fun _ isHead => Or.inr (Or.inr (Option.some.inj isHead).symm)

theorem run_number {literal : List Char} (isNumeral : IsNumeral literal) {rest : Bytes}
    (ends : Ends rest) (more : Nat) (frames : List Frame) :
    run (more + 1) .value frames (asciiBytes literal ++ rest) =
      run more (.complete (.number literal)) frames rest := by
  obtain ⟨byte, others, isHead, starts⟩ := head_numeral isNumeral
  obtain ⟨numeral, proper, isLiteral⟩ := isNumeral
  have scanned := scanNumber?_characters proper ends
  obtain ⟨noSpace, noOther⟩ := start_of_numeral starts
  simp only [List.mem_cons, List.not_mem_nil, or_false, not_or] at noOther
  obtain ⟨_, noQuote, noBracket, noBrace, noNull, noTrue, noFalse⟩ := noOther
  rw [isLiteral, isHead, List.cons_append] at scanned
  rw [isHead, List.cons_append, run, skipSpace_cons noSpace]
  dsimp only
  rw [if_neg noQuote, if_neg noBracket, if_neg noBrace, if_neg noNull, if_neg noTrue,
    if_neg noFalse, scanned]
  rfl

/-- The member after the key, and what follows it. -/
def printAfterKey (value : Json) : List (Bytes × Json) → Bytes
  | [] => value.print ++ [125]
  | next :: rest => value.print ++ 44 :: printMembers (next :: rest)

theorem printMembers_cons (key : Bytes) (value : Json) (rest : List (Bytes × Json)) :
    printMembers ((key, value) :: rest) = quoted key ++ 58 :: printAfterKey value rest := by
  cases rest <;> rw [printMembers, printAfterKey]

/-! ### Handing over to a container -/

theorem run_complete_comma (document : Json) (done : List Json) (frames : List Frame)
    (rest : Bytes) (more : Nat) :
    run (more + 1) (.complete document) (.array done :: frames) (44 :: rest) =
      run more .value (.array (document :: done) :: frames) rest := rfl

theorem run_complete_bracket (document : Json) (done : List Json) (frames : List Frame)
    (rest : Bytes) (more : Nat) :
    run (more + 1) (.complete document) (.array done :: frames) (93 :: rest) =
      run more (.complete (.array (done.reverse ++ [document]))) frames rest := by
  rw [← List.reverse_cons]
  rfl

theorem run_complete_brace (document : Json) (done : List (Bytes × Json)) (key : Bytes)
    (frames : List Frame) (rest : Bytes) (more : Nat) :
    run (more + 1) (.complete document) (.object done key :: frames) (125 :: rest) =
      run more (.complete (.object (done.reverse ++ [(key, document)]))) frames rest := by
  rw [← List.reverse_cons]
  rfl

theorem run_complete_member (document : Json) (done : List (Bytes × Json)) (key : Bytes)
    {next : Bytes} (isText : IsText next) (frames : List Frame) (rest : Bytes) (more : Nat) :
    run (more + 1) (.complete document) (.object done key :: frames)
        (44 :: (quoted next ++ 58 :: rest)) =
      run more .value (.object ((key, document) :: done) next :: frames) rest := by
  have scanned := scanKey?_quoted isText rest
  rw [run, skipSpace_cons rfl]
  dsimp only
  rw [if_pos rfl, scanned]
  rfl

/-! ### Reading documents -/

/-- Whatever is open around it, the reader reads the text of a document and hands it over. -/
def ReadBack (document : Json) : Prop :=
  ∀ rest : Bytes, Ends rest → ∀ (more : Nat) (frames : List Frame),
    run (more + steps document) .value frames (document.print ++ rest) =
      run more (.complete document) frames rest

/-- The reader reads the items of an array up to its end. -/
theorem run_printItems (item : Json) (others : List Json) (reads : item.ReadBack)
    (othersRead : ∀ other ∈ others, other.ReadBack) (rest : Bytes) (more : Nat)
    (done : List Json) (frames : List Frame) :
    run (more + itemSteps (item :: others)) .value (.array done :: frames)
        (printItems (item :: others) ++ rest) =
      run more (.complete (.array (done.reverse ++ item :: others))) frames rest := by
  induction others generalizing item done with
  | nil =>
    rw [itemSteps, itemSteps, Nat.add_zero, Nat.add_comm (steps item), ← Nat.add_assoc,
      printItems, List.append_assoc, List.singleton_append, reads _ (ends_bracket rest),
      run_complete_bracket]
  | cons next later inductionHypothesis =>
    have count : more + itemSteps (item :: next :: later) =
        more + itemSteps (next :: later) + 1 + steps item := by
      rw [itemSteps]
      omega
    rw [List.forall_mem_cons] at othersRead
    rw [count, printItems, List.append_assoc, List.cons_append, reads _ (ends_comma _),
      run_complete_comma, inductionHypothesis next othersRead.1 othersRead.2, List.reverse_cons,
      List.append_assoc, List.singleton_append]

/-- The reader reads the members of an object from the value of one of them up to its end. -/
theorem run_printAfterKey (key : Bytes) (value : Json) (others : List (Bytes × Json))
    (reads : value.ReadBack)
    (othersRead : ∀ member ∈ others, IsText member.1 ∧ member.2.ReadBack) (rest : Bytes)
    (more : Nat) (done : List (Bytes × Json)) (frames : List Frame) :
    run (more + memberSteps ((key, value) :: others)) .value (.object done key :: frames)
        (printAfterKey value others ++ rest) =
      run more (.complete (.object (done.reverse ++ (key, value) :: others))) frames rest := by
  induction others generalizing key value done with
  | nil =>
    rw [memberSteps, memberSteps, Nat.add_zero, Nat.add_comm (steps value), ← Nat.add_assoc,
      printAfterKey, List.append_assoc, List.singleton_append, reads _ (ends_brace rest),
      run_complete_brace]
  | cons member later inductionHypothesis =>
    obtain ⟨next, nextValue⟩ := member
    have count : more + memberSteps ((key, value) :: (next, nextValue) :: later) =
        more + memberSteps ((next, nextValue) :: later) + 1 + steps value := by
      rw [memberSteps]
      omega
    rw [List.forall_mem_cons] at othersRead
    obtain ⟨⟨isText, nextReads⟩, laterRead⟩ := othersRead
    rw [count, printAfterKey, List.append_assoc, List.cons_append, reads _ (ends_comma _),
      printMembers_cons, List.append_assoc, List.cons_append, run_complete_member _ _ _ isText,
      inductionHypothesis next nextValue nextReads laterRead, List.reverse_cons,
      List.append_assoc, List.singleton_append]

theorem readBack_array {items : List Json} (legible : ∀ item ∈ items, item.Legible)
    (read : ∀ item ∈ items, item.ReadBack) : (array items).ReadBack := by
  intro rest _ more frames
  rw [print, steps, ← Nat.add_assoc, List.cons_append, run, skipSpace_cons rfl]
  dsimp only
  rw [if_neg (by decide), if_pos rfl]
  cases items with
  | nil => rfl
  | cons item others =>
    rw [List.forall_mem_cons] at legible read
    have items := run_printItems item others read.1 read.2 rest more [] frames
    obtain ⟨byte, after, isHead, noSpace, notClosed⟩ := head_printItems legible.1 others
    rw [isHead, List.cons_append] at items ⊢
    rw [skipSpace_cons noSpace]
    dsimp only
    rw [if_neg notClosed]
    exact items

theorem readBack_object {members : List (Bytes × Json)}
    (read : ∀ member ∈ members, IsText member.1 ∧ member.2.ReadBack) :
    (object members).ReadBack := by
  intro rest _ more frames
  rw [print, steps, ← Nat.add_assoc, List.cons_append, run, skipSpace_cons rfl]
  dsimp only
  rw [if_neg (by decide), if_neg (by decide), if_pos rfl]
  cases members with
  | nil => rfl
  | cons member others =>
    obtain ⟨key, value⟩ := member
    rw [List.forall_mem_cons] at read
    obtain ⟨⟨isText, valueReads⟩, othersRead⟩ := read
    have members := run_printAfterKey key value others valueReads othersRead rest more [] frames
    have scanned := scanKey?_quoted isText (printAfterKey value others ++ rest)
    rw [printMembers_cons, List.append_assoc, List.cons_append]
    rw [quoted_append] at scanned ⊢
    rw [skipSpace_cons rfl]
    dsimp only
    rw [if_neg (by decide), scanned]
    exact members

mutual

/-- The reader reads the text of a document back. -/
theorem readBack : (document : Json) → document.Legible → document.ReadBack
  | .null, _ => fun _ _ _ _ => rfl
  | .boolean true, _ => fun _ _ _ _ => rfl
  | .boolean false, _ => fun _ _ _ _ => rfl
  | .number literal, legible => fun _ ends more frames =>
    run_number (by rwa [Legible] at legible) ends more frames
  | .text literal, legible => by
    have isText : IsText literal := by rwa [Legible] at legible
    intro rest _ more frames
    rw [print, quoted_append, steps, run, skipSpace_cons rfl]
    dsimp only
    rw [if_pos rfl, isText]
    rfl
  | .array items, legible =>
    have legibleItems : LegibleItems items := by rwa [Legible] at legible
    readBack_array (legibleItems_iff.mp legibleItems) (readBackItems items legibleItems)
  | .object members, legible =>
    have legibleMembers : LegibleMembers members := by rwa [Legible] at legible
    readBack_object (readBackMembers members legibleMembers)

/-- So it reads every one of some documents. -/
theorem readBackItems : (items : List Json) → LegibleItems items →
    ∀ item ∈ items, item.ReadBack
  | [], _ => fun _ member => absurd member List.not_mem_nil
  | item :: others, legible => by
    rw [LegibleItems] at legible
    exact List.forall_mem_cons.mpr ⟨readBack item legible.1, readBackItems others legible.2⟩

/-- So it reads the key and the value of every one of some members. -/
theorem readBackMembers : (members : List (Bytes × Json)) → LegibleMembers members →
    ∀ member ∈ members, IsText member.1 ∧ member.2.ReadBack
  | [], _ => fun _ member => absurd member List.not_mem_nil
  | (key, value) :: others, legible => by
    rw [LegibleMembers] at legible
    exact List.forall_mem_cons.mpr
      ⟨⟨legible.1, readBack value legible.2.1⟩, readBackMembers others legible.2.2⟩

end

/-! ### Reading a whole text -/

theorem length_quoted (literal : Bytes) : (quoted literal).length = literal.length + 2 := by
  rw [quoted, List.length_append, List.length_cons, List.length_singleton]

theorem length_printMembers_le (members : List (Bytes × Json)) :
    (printMembers members).length ≤
      (members.map fun member => member.1.length + member.2.print.length + 4).sum + 1 := by
  induction members with
  | nil => exact le_rfl
  | cons member rest inductionHypothesis =>
    rw [List.map_cons, List.sum_cons]
    cases rest with
    | nil =>
      rw [printMembers, List.length_append, length_quoted, List.length_cons, List.length_append,
        List.length_singleton]
      omega
    | cons next later =>
      rw [printMembers, List.length_append, length_quoted, List.length_cons, List.length_append,
        List.length_cons]
      omega

mutual

/-- A document takes at most two steps a byte. -/
theorem steps_le : (document : Json) → document.Legible →
    steps document ≤ 2 * document.print.length
  | .null, _ => by decide
  | .boolean true, _ => by decide
  | .boolean false, _ => by decide
  | .number literal, legible => by
    obtain ⟨byte, rest, isHead, _⟩ := head_numeral (by rwa [Legible] at legible)
    rw [steps, print, isHead, List.length_cons]
    omega
  | .text literal, _ => by
    rw [steps, print, length_quoted]
    omega
  | .array items, legible => by
    have count := itemSteps_le items (by rwa [Legible] at legible)
    rw [steps, print, List.length_cons]
    omega
  | .object members, legible => by
    have count := memberSteps_le members (by rwa [Legible] at legible)
    rw [steps, print, List.length_cons]
    omega

theorem itemSteps_le : (items : List Json) → LegibleItems items →
    itemSteps items ≤ 2 * (printItems items).length
  | [], _ => Nat.zero_le _
  | [item], legible => by
    rw [LegibleItems] at legible
    have count := steps_le item legible.1
    rw [itemSteps, itemSteps, printItems, List.length_append, List.length_singleton]
    omega
  | item :: next :: others, legible => by
    rw [LegibleItems] at legible
    have count := steps_le item legible.1
    have counts := itemSteps_le (next :: others) legible.2
    rw [itemSteps, printItems, List.length_append, List.length_cons]
    omega

theorem memberSteps_le : (members : List (Bytes × Json)) → LegibleMembers members →
    memberSteps members ≤ 2 * (printMembers members).length
  | [], _ => Nat.zero_le _
  | [(key, value)], legible => by
    rw [LegibleMembers] at legible
    have count := steps_le value legible.2.1
    rw [memberSteps, memberSteps, printMembers, List.length_append, List.length_cons,
      List.length_append, List.length_singleton]
    omega
  | (key, value) :: next :: others, legible => by
    rw [LegibleMembers] at legible
    have count := steps_le value legible.2.1
    have counts := memberSteps_le (next :: others) legible.2.2
    rw [memberSteps, printMembers, List.length_append, List.length_cons, List.length_append,
      List.length_cons]
    omega

end

/-- The text of a document reads as that document. -/
theorem read?_print {document : Json} (legible : document.Legible) :
    read? document.print = some document := by
  have bound := steps_le document legible
  have ends : Ends [] := fun _ isHead => by cases isHead
  have enough : 2 * document.print.length + 2 =
      (2 * document.print.length + 1 - steps document) + 1 + steps document := by omega
  have reads := readBack document legible [] ends
    (2 * document.print.length + 1 - steps document + 1) []
  rw [List.append_nil] at reads
  rw [read?, enough, reads]
  rfl

end Metering.Json
