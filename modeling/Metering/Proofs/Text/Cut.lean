/-
Where a text is cut. A cut at a character is made behind the first piece that is free of it. A cut
at a phrase is made behind the first piece that does not hold the phrase, if the phrase cannot
begin inside itself; otherwise an occurrence could begin in the piece and end behind it.
-/

import Mathlib.Data.List.Infix
import Metering.Text.Cut

namespace Metering

namespace Text

/-! ### At a character -/

theorem cutChars?_append {separator : Char} {front : List Char} (absent : separator ∉ front)
    (rest : List Char) :
    cutChars? separator (front ++ separator :: rest) = some (front, rest) := by
  induction front with
  | nil => exact if_pos rfl
  | cons character others inductionHypothesis =>
    obtain ⟨different, othersAbsent⟩ := List.ne_and_not_mem_of_not_mem_cons absent
    rw [List.cons_append, cutChars?, if_neg (Ne.symm different),
      inductionHypothesis othersAbsent]
    rfl

theorem cutAt?_of_toList {separator : Char} {text front : String} {rest : List Char}
    (whole : text.toList = front.toList ++ separator :: rest)
    (absent : separator ∉ front.toList) :
    cutAt? separator text = some (front, String.ofList rest) := by
  rw [cutAt?, whole, cutChars?_append absent, Option.map_some]
  dsimp only
  rw [String.ofList_toList]

theorem piecesOf_of_not_mem {separator : Char} {characters : List Char}
    (absent : separator ∉ characters) : piecesOf separator characters = [characters] := by
  induction characters with
  | nil => rfl
  | cons character rest inductionHypothesis =>
    obtain ⟨different, restAbsent⟩ := List.ne_and_not_mem_of_not_mem_cons absent
    rw [piecesOf, if_neg (Ne.symm different), inductionHypothesis restAbsent]

/-- The first piece ends at the first separator. -/
theorem piecesOf_append {separator : Char} {front : List Char} (absent : separator ∉ front)
    (rest : List Char) :
    piecesOf separator (front ++ separator :: rest) = front :: piecesOf separator rest := by
  induction front with
  | nil => exact if_pos rfl
  | cons character others inductionHypothesis =>
    obtain ⟨different, othersAbsent⟩ := List.ne_and_not_mem_of_not_mem_cons absent
    rw [List.cons_append, piecesOf, if_neg (Ne.symm different), inductionHypothesis othersAbsent]

theorem head?_pieces_of_toList {separator : Char} {text front : String} {rest : List Char}
    (whole : text.toList = front.toList ++ separator :: rest)
    (absent : separator ∉ front.toList) : (pieces separator text).head? = some front := by
  rw [pieces, whole, piecesOf_append absent, List.map_cons, List.head?_cons, String.ofList_toList]

/-! ### At a phrase -/

/-- A phrase that cannot begin inside itself: no end of it is also a beginning. -/
def IsBorderless (phrase : List Char) : Prop :=
  ∀ count < phrase.length, 0 < count → ¬ phrase.drop count <+: phrase

instance (phrase : List Char) : Decidable (IsBorderless phrase) :=
  inferInstanceAs (Decidable (∀ count < phrase.length, 0 < count → _))

/-- No occurrence of a phrase begins in front of one, unless the piece in front holds it. -/
theorem IsBorderless.not_prefix {phrase front : List Char} (borderless : IsBorderless phrase)
    (absent : ¬ phrase <:+: front) (some : front ≠ []) (rest : List Char) :
    ¬ phrase <+: front ++ phrase ++ rest := by
  intro begins
  have continued : front <+: front ++ phrase ++ rest := by
    rw [List.append_assoc]
    exact List.prefix_append _ _
  rcases List.prefix_or_prefix_of_prefix begins continued with inside | ⟨tail, isPhrase⟩
  · exact absent inside.isInfix
  · have isTail : tail = phrase.drop front.length := by
      rw [← isPhrase, List.drop_left]
    have behind : tail <+: phrase ++ rest := by
      rw [← isPhrase] at begins ⊢
      rwa [List.append_assoc, List.append_assoc, List.prefix_append_right_inj,
        ← List.append_assoc] at begins
    have shorter : tail.length ≤ phrase.length := by
      rw [isTail, List.length_drop]
      exact Nat.sub_le _ _
    have border : tail <+: phrase :=
      List.prefix_of_prefix_length_le behind (List.prefix_append _ _) shorter
    refine borderless front.length ?_ (List.length_pos_iff.mpr some) (isTail ▸ border)
    rw [← isPhrase, List.length_append]
    refine Nat.lt_add_of_pos_right (List.length_pos_iff.mpr fun empty => absent ?_)
    rw [← isPhrase, empty, List.append_nil]

theorem cutPhrase?_append {phrase front : List Char} (borderless : IsBorderless phrase)
    (absent : ¬ phrase <:+: front) (rest : List Char) :
    cutPhrase? phrase (front ++ phrase ++ rest) = some (front, rest) := by
  induction front with
  | nil =>
    cases phrase with
    | nil => exact absurd List.infix_rfl absent
    | cons first others =>
      have begins : first :: others <+: first :: (others ++ rest) := List.prefix_append _ _
      rw [List.nil_append, List.cons_append, cutPhrase?,
        if_pos (List.isPrefixOf_iff_prefix.mpr begins), ← List.cons_append, List.drop_left]
  | cons character others inductionHypothesis =>
    have notHere := borderless.not_prefix absent (List.cons_ne_nil _ _) rest
    have othersAbsent : ¬ phrase <:+: others := fun inside =>
      absent (inside.trans (List.suffix_cons _ _).isInfix)
    rw [← List.isPrefixOf_iff_prefix, List.cons_append, List.cons_append] at notHere
    rw [List.cons_append, List.cons_append, cutPhrase?, if_neg notHere,
      inductionHypothesis othersAbsent]
    rfl

theorem cutAtPhrase?_append {phrase front : String} (borderless : IsBorderless phrase.toList)
    (absent : ¬ phrase.toList <:+: front.toList) (rest : String) :
    cutAtPhrase? phrase (front ++ phrase ++ rest) = some (front, rest) := by
  rw [cutAtPhrase?, String.toList_append, String.toList_append, cutPhrase?_append borderless absent,
    Option.map_some]
  dsimp only
  rw [String.ofList_toList, String.ofList_toList]

end Text

end Metering
