/-
The routes of the web front end, and the paths that lead to them. A parameter is one segment of
a path; it may be empty, but not at the end of a path.
-/

import Metering.Text.Cut
import Metering.Text.Percent

namespace Metering

/-- A place that requests go to, with its parameters as they stand in the path. -/
inductive Route
  | listing
  | ping
  | updateOne
  | updateBatch
  | query
  | updatePath (kind key number : String)
  | valuePath (kind key : String)
  deriving DecidableEq, Repr

namespace Route

/-- The route that a path leads to. -/
def ofPath? (path : String) : Option Route :=
  match Text.pieces '/' path with
  | ["", ""] => some .listing
  | ["", "ping"] => some .ping
  | ["", "update", ""] => some .updateOne
  | ["", "updates", ""] => some .updateBatch
  | ["", "value", ""] => some .query
  | ["", "update", kind, key, number] =>
    if number.isEmpty then none else some (.updatePath kind key number)
  | ["", "value", kind, key] => if key.isEmpty then none else some (.valuePath kind key)
  | _ => none

/-- Whether a route only reads what it is asked for. -/
def isGet : Route → Bool
  | .listing | .ping | .valuePath .. => true
  | .updateOne | .updateBatch | .query | .updatePath .. => false

/-- The methods of a route, as they are told to one who uses another. -/
def allowed (route : Route) : String := if route.isGet then "GET,HEAD" else "POST"

/-- Whether a route takes a method. -/
def takes (route : Route) (method : String) : Bool :=
  if route.isGet then method == "GET" || method == "HEAD" else method == "POST"

/-- Whether the answers of a route are compressed for those who want it. -/
def isCompressed : Route → Bool
  | .listing | .query | .valuePath .. => true
  | .ping | .updateOne | .updateBatch | .updatePath .. => false

/-- A parameter with its escapes replaced, or its name if that is no text. -/
def parameter (name raw : String) : Except String String :=
  match Bytes.toText? (Percent.decode (Bytes.ofText raw)) with
  | some text => .ok text
  | none => .error name

end Route

end Metering
