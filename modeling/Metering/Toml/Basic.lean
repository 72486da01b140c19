/-
TOML documents as trees. A table remembers how it came about, because that decides what may
still be added to it: one in braces is closed, one with a header of its own takes no second
header, one implied by the header of a table inside it may still get its own, and one that came
about through a dotted key takes further dotted keys only.
-/

namespace Metering.Toml

/-- How a table came about. -/
inductive TableForm
  | closed
  | stated
  | implied
  | dotted
  deriving DecidableEq, Repr

/-- What stands under a key. Fractions and moments are kept as written. -/
inductive Item
  | text (content : String)
  | integer (number : Int)
  | fraction (literal : String)
  | boolean (holds : Bool)
  | moment (literal : String)
  | array (items : List Item)
  | table (form : TableForm) (members : List (String × Item))
  | tables (elements : List (List (String × Item)))
  deriving Inhabited

/-- The keys of a table and what stands under them. -/
abbrev Members : Type := List (String × Item)

namespace Members

/-- The members with another item under a key. -/
def replace (members : Members) (key : String) (item : Item) : Members :=
  members.map fun member => if member.1 = key then (key, item) else member

/-- Changes the table that a path leads to from a table. Tables that are missing on the way are
made, as dotted or as implied ones. A way through an array of tables goes on in its last. -/
def change? (dotted : Bool) (action : TableForm → Members → Option Members) :
    List String → TableForm → Members → Option Members
  | [], form, members => action form members
  | key :: path, _, members =>
    match members.lookup key with
    | none => do
      let form := if dotted then TableForm.dotted else TableForm.implied
      return members ++ [(key, .table form (← change? dotted action path form []))]
    | some (.table form inner) =>
      if form = .closed ∨ (dotted ∧ form = .stated) then none
      else do return members.replace key (.table form (← change? dotted action path form inner))
    | some (.tables elements) => do
      let changed ← change? dotted action path .stated (← elements.getLast?)
      return members.replace key (.tables (elements.dropLast ++ [changed]))
    | some _ => none

/-- Adds what a dotted key names. The table it goes to must have come about in the same way. -/
def add? (path : List String) (key : String) (item : Item) (members : Members) :
    Option Members :=
  let place (form : TableForm) (inner : Members) : Option Members :=
    if decide (form = .dotted) = path.isEmpty ∨ (inner.lookup key).isSome then none
    else some (inner ++ [(key, item)])
  change? true place path .stated members

/-- Opens the table of a header. -/
def openTable? (path : List String) (key : String) (members : Members) : Option Members :=
  let place (_ : TableForm) (inner : Members) : Option Members :=
    match inner.lookup key with
    | none => some (inner ++ [(key, .table .stated [])])
    | some (.table .implied held) => some (inner.replace key (.table .stated held))
    | some _ => none
  change? false place path .stated members

/-- Opens one more table of the array of a header. -/
def openElement? (path : List String) (key : String) (members : Members) : Option Members :=
  let place (_ : TableForm) (inner : Members) : Option Members :=
    match inner.lookup key with
    | none => some (inner ++ [(key, .tables [[]])])
    | some (.tables elements) => some (inner.replace key (.tables (elements ++ [[]])))
    | some _ => none
  change? false place path .stated members

end Members

namespace Item

/-! ### What settings ask for -/

/-- The text that an item is. -/
def text? : Item → Option String
  | .text content => some content
  | _ => none

/-- The truth value that an item is. -/
def boolean? : Item → Option Bool
  | .boolean holds => some holds
  | _ => none

/-- The whole number that an item is, if it is not negative. -/
def natural? : Item → Option Nat
  | .integer (.ofNat number) => some number
  | _ => none

/-- The whole numbers that an item lists. -/
def naturals? : Item → Option (List Nat)
  | .array items => items.mapM natural?
  | _ => none

end Item

end Metering.Toml
