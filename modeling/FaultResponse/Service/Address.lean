import FaultResponse.Text.Quoted
import FaultResponse.Text.Utf8
/-! # Addresses — where a request went, as one text

    The address of a request is put together from the host of the service, the path
    and the query; a host that the request names has no part in it.  In a path the marks
    that a reader could take for its end or for a slash are escaped.  Read back, an
    address loses its tabs and line breaks; sent as a location, every character that
    does not belong into one goes out as escaped octets. -/

namespace FaultResponse.Address

/-- What stands before the host. -/
def scheme : String := "http://"

/-- The host of the service. -/
def host : String := "testserver"

/-- One octet as an escape. -/
def escapeOctet (b : UInt8) : List Char :=
  '%' :: (Text.hexDigits 2 b.toNat).map Char.toUpper

/-- The marks that are escaped in a path: two would end it, and one passes for a slash. -/
def pathMarks : List Char :=
  ['#', '?', '\\']

/-- One character of a path. -/
def escapeMark (c : Char) : List Char :=
  if pathMarks.contains c then (Text.Utf8.encodeChar c).flatMap escapeOctet else [c]

/-- What follows the scheme: the host, the path, and the query if there is one. -/
def tail (path query : String) : List Char :=
  host.toList ++ path.toList.flatMap escapeMark
    ++ if query.isEmpty then [] else '?' :: query.toList

/-- An address. -/
def make (path query : String) : String :=
  scheme ++ String.ofList (tail path query)

/-- Whether a character is dropped when an address is read. -/
def isDropped (c : Char) : Bool :=
  c == '\t' || c == '\r' || c == '\n'

/-- The path that is read back from an address: it begins behind the host, and ends
    before a query or a fragment. -/
def pathOf (path query : String) : String :=
  let read := (tail path query).filter fun c => !isDropped c
  let behind := read.dropWhile fun c => !(c == '/' || c == '?' || c == '#')
  String.ofList (behind.takeWhile fun c => !(c == '?' || c == '#'))

/-! ## Locations -/

/-- The characters besides letters and digits that stand for themselves in a location. -/
def locationMarks : List Char :=
  "_.-~:/%#?=@[]!$&'()*+,;".toList

/-- One character of a location. -/
def escapeForLocation (c : Char) : List Char :=
  if c.isAlphanum || locationMarks.contains c then [c]
  else (Text.Utf8.encodeChar c).flatMap escapeOctet

/-- An address as a location. -/
def location (address : String) : String :=
  String.ofList (address.toList.flatMap escapeForLocation)

end FaultResponse.Address
