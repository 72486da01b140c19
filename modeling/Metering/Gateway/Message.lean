/-
Requests and responses of the web front end. A header counts by its name in any letter case; a
value with a character outside visible ASCII counts as absent. Of repeated headers the first
counts, except where a list of codings may be spread over several.
-/

import Metering.Bytes
import Metering.Text.Blank
import Metering.Text.Cut

namespace Metering

/-- A request over the web. -/
structure Request where
  method : String
  target : String
  headers : List (String × String)
  body : Bytes
  deriving DecidableEq, Repr

/-- A response over the web. -/
structure Response where
  status : Nat
  contentType : Option String
  compressed : Bool
  allowed : Option String
  tag : Option String
  trace : Option String
  body : Bytes
  deriving DecidableEq, Repr

namespace Request

/-- Whether a character may stand in a header value that is read. -/
def isReadable (character : Char) : Bool :=
  character = '\t' || (32 ≤ character.toNat && character.toNat < 127)

/-- A header value, if it can be read. -/
def readable? (value : String) : Option String :=
  if value.toList.all isReadable then some value else none

/-- The values of a header, in their order. -/
def headerValues (request : Request) (name : String) : List String :=
  (request.headers.filter fun header => header.1.toLower == name.toLower).map (·.2)

/-- The first value of a header, if there is one and it can be read. -/
def header? (request : Request) (name : String) : Option String :=
  (request.headerValues name).head?.bind readable?

/-- The name of the coding that bodies are compressed with. -/
def gzipCoding : String := "gzip"

/-- The coding that a member of a list of codings names, in front of its parameters. -/
def codingOf (listed : String) : String :=
  Text.trim (((Text.pieces ';' listed).head?).getD "")

/-- Whether a header lists the coding that bodies are compressed with. Weights do not count. -/
def listsGzip (request : Request) (name : String) : Bool :=
  ((request.headerValues name).filterMap readable?).any fun value =>
    (Text.pieces ',' value).any fun listed => codingOf listed == gzipCoding

/-- The path of the target, without a query and without a fragment. -/
def path (request : Request) : String :=
  let characters := request.target.toList
  String.ofList (characters.takeWhile fun character => character != '?' && character != '#')

end Request

namespace Response

/-- The type of plain text. -/
def plainType : String := "text/plain; charset=utf-8"

/-- A response with nothing but a status. -/
def bare (status : Nat) : Response := ⟨status, none, false, none, none, none, []⟩

/-- A response with a body of a type. -/
def typed (status : Nat) (contentType : String) (body : Bytes) : Response :=
  { bare status with contentType := some contentType, body }

/-- A response with plain text. -/
def plain (status : Nat) (text : String) : Response :=
  typed status plainType (Bytes.ofText text)

/-- A response with a JSON document. -/
def json (body : Bytes) : Response := typed 200 "application/json" body

/-- A response with a page. -/
def page (text : String) : Response := typed 200 "text/html; charset=utf-8" (Bytes.ofText text)

end Response

end Metering
