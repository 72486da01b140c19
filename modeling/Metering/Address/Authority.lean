/-
Which configured addresses can be called at all. Both front ends read a host, and a port behind
a colon, from what stands between the scheme and the first slash, question mark or hash, behind
the last at sign. Remote calls are strict about the characters there and lax about the port; the
web is strict about the scheme, the port and a host that ends in a number, undoes escapes in the
name of the host, and takes a backslash for a slash.
-/

import Metering.Address.Reading
import Metering.Address.Server
import Metering.Text.Percent

namespace Metering.ServerAddress

/-- The scheme of an address, the part that names the host, and what follows that. -/
def parts (address : String) : String × List Char × List Char :=
  match Text.cutAtPhrase? "://" (base address) with
  | some (scheme, rest) =>
    let inHost (character : Char) : Bool := character ∉ ['/', '?', '#']
    (scheme, rest.toList.takeWhile inHost, rest.toList.dropWhile inHost)
  | none => ("", [], [])

/-- What stands behind the last at sign. -/
def behindUser (authority : List Char) : List Char :=
  (authority.reverse.takeWhile (· != '@')).reverse

/-- Whether a character may stand in the part that names the host. -/
def isHostCharacter (character : Char) : Bool :=
  character.isAlphanum || character ∈ "!$%&'()*+,-.:;=@[]_~".toList

/-- Whether a character may stand in the path behind the host. -/
def isPathCharacter (character : Char) : Bool :=
  32 < character.toNat && character ∉ ['<', '>', '\x60']

/-- What stands outside brackets. -/
def outsideBrackets (host : List Char) : List Char :=
  if '[' ∈ host then (host.reverse.takeWhile (· != ']')).reverse else host

/-- Whether remote calls can be made to an address. -/
def isEndpoint (address : String) : Bool :=
  let (_, authority, rest) := parts address
  let path := rest.takeWhile fun character => character != '?' && character != '#'
  let host := behindUser authority
  let outside := outsideBrackets host
  path.all isPathCharacter && authority.all isHostCharacter && !authority.isEmpty &&
    authority.getLast? != some '@' && host.count '[' == host.count ']' && host.count '[' ≤ 1 &&
    outside.count ':' ≤ 1 && '%' ∉ outside

/-- The name and the port of a host. -/
def nameAndPort (host : List Char) : List Char × List Char :=
  match host with
  | '[' :: _ =>
    let outside := outsideBrackets host
    (host.take (host.length - outside.length), outside.drop 1)
  | _ =>
    match Text.cutChars? ':' host with
    | some (name, port) => (name, port)
    | none => (host, [])

/-- Whether digits write a port, or nothing. -/
def isPort (digits : List Char) : Bool :=
  digits.all Char.isDigit && Ip.numberOf 10 digits ≤ 65535

/-- Whether labels that end in a number write an address: at most four numbers, of which the last
fills the octets that the others leave. -/
def isNumberedHost (labels : List (List Char)) : Bool :=
  let numbers := labels.map (Ip.numberOf 10)
  labels.length ≤ 4 && labels.all (fun label => !label.isEmpty && label.all Char.isDigit) &&
    numbers.dropLast.all (· < 256) &&
    numbers.getLast?.all (· < Nat.pow 256 (5 - labels.length))

/-- Whether a name, a dot at its end apart, can be that of a host on the web. -/
def isDomain (name : List Char) : Bool :=
  let forbidden := " #/:<>?@[\\]^|%".toList
  let labels := Text.piecesOf '.' name
  let inner := if labels.getLast? = some [] then labels.dropLast else labels
  let endsInNumber := inner.getLast?.any fun label => !label.isEmpty && label.all Char.isDigit
  !name.isEmpty && (!endsInNumber || isNumberedHost inner) &&
    name.all fun character =>
      32 < character.toNat && character.toNat ≠ 127 && character ∉ forbidden

/-- Whether a name can be that of a host on the web, once escapes are undone. -/
def isWebName (name : List Char) : Bool :=
  match name with
  | '[' :: rest => (Ip.ofText? (String.ofList rest.dropLast)).isSome
  | _ =>
    match Bytes.toText? (Percent.decode (Bytes.ofText (String.ofList name))) with
    | some decoded => isDomain decoded.toList
    | none => false

/-- Whether requests over the web can be sent to an address. Slashes in front of the host are
skipped, so a host that is missing there is taken from the path. -/
def isWebAddress (address : String) : Bool :=
  let (scheme, authority, rest) := parts address
  let isSkipped := authority.isEmpty && rest.head?.all (· == '/')
  let (name, port) := nameAndPort (behindUser (authority.takeWhile (· != '\\')))
  scheme.toLower ∈ ["http", "https"] && (isSkipped || (isWebName name && isPort port))

end Metering.ServerAddress
