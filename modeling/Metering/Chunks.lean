/-
Cutting a list into consecutive pieces of one length. Only the last piece may be shorter, no
piece is empty, and one after the other the pieces are the list again.
-/

namespace Metering

/-- The pieces of a list, each of so many items, at least one; the last may be shorter. -/
def chunksOf {Item : Type} (length : Nat) : List Item → List (List Item)
  | [] => []
  | item :: rest =>
    (item :: rest.take (length - 1)) :: chunksOf length (rest.drop (length - 1))
termination_by items => items.length
decreasing_by simp only [List.length_drop, List.length_cons]; omega

theorem flatten_chunksOf {Item : Type} (length : Nat) (items : List Item) :
    (chunksOf length items).flatten = items := by
  fun_induction chunksOf length items with
  | case1 => rfl
  | case2 item rest inductionHypothesis => simp [inductionHypothesis]

end Metering
