import PeriodScaler.Http.Host

/-!
# Addresses

An address of a server and of something on it: `http://user@host:port/path?query#fragment`. Reading
one also brings it into the form in which it is sent. Spaces and controls around it are dropped, and
tabs and line breaks inside it too; a backslash counts as a slash, the segments `.` and `..` are
resolved, the usual port of the scheme is left out, and characters that a part cannot hold are
encoded. The fragment is never sent.

Model of the library type `Url`, as the HTTP client parses addresses.
-/

namespace PeriodScaler

/-- An address in the form in which it is sent. -/
structure Url where
  /-- Scheme, user, host and port. -/
  origin : String
  path : String
  /-- The parts of the query, each a name that may have a value. -/
  query : List (String × Option String)
  deriving DecidableEq, Repr

namespace Url

/-- Whether a character of a path stands for itself. -/
def keepsInPath (c : Char) : Bool :=
  '\x21' ≤ c && c ≤ '\x7e' && !("\"<>`#?\x7b\x7d".toList.contains c)

/-- Whether a character of a user's name or password stands for itself. -/
def keepsInUser (c : Char) : Bool :=
  keepsInPath c && !("/:;=@[\\]^|".toList.contains c)

/-- Whether a segment means the place where it stands. -/
def isDot (segment : List Char) : Bool :=
  segment.map Char.toLower == ['.'] || segment.map Char.toLower == "%2e".toList

/-- Whether a segment means the place above. -/
def isDoubleDot (segment : List Char) : Bool :=
  ["..", ".%2e", "%2e.", "%2e%2e"].contains (String.ofList (segment.map Char.toLower))

/-- Resolves segments; `above` holds those before, the nearest first. -/
def resolve (above : List (List Char)) : List (List Char) → List (List Char)
  | [] => above.reverse
  | [last] =>
    if isDot last then ([] :: above).reverse
    else if isDoubleDot last then ([] :: above.drop 1).reverse
    else (last :: above).reverse
  | segment :: rest =>
    if isDot segment then resolve above rest
    else if isDoubleDot segment then resolve (above.drop 1) rest
    else resolve (segment :: above) rest

/-- The path that some characters after the server's name stand for. -/
def pathOf (cs : List Char) : String :=
  let segments := Text.pieces ['/'] (Text.dropLead? ['/'] cs |>.getD cs)
  String.ofList ((resolve [] segments).flatMap fun segment =>
    '/' :: Percent.encode keepsInPath segment)

/-- The user before a host, with the sign that ends it; nothing when there is neither a name nor a
password. -/
def userText (cs : List Char) : List Char :=
  let (name, password) := (Text.splitOnce? [':'] cs).getD (cs, [])
  let password := if password.isEmpty then [] else ':' :: Percent.encode keepsInUser password
  let user := Percent.encode keepsInUser name ++ password
  if user.isEmpty then [] else user ++ ['@']

/-- Splits a user off the place of a server: it ends with the last `@`. -/
def splitUser (place : List Char) : List Char × List Char :=
  let host := (place.reverse.takeWhile (· ≠ '@')).reverse
  (userText (place.take (place.length - host.length - 1)), host)

/-- Splits a port with its colon off a host; a name in brackets has colons of its own. -/
def splitPort (inBrackets : Bool) : List Char → List Char × List Char
  | [] => ([], [])
  | c :: rest =>
    if c = ':' && !inBrackets then ([], c :: rest)
    else
      let (host, port) := splitPort (if c = '[' then true else if c = ']' then false else inBrackets) rest
      (c :: host, port)

/-- The text of a port: nothing for none and for the usual one of a scheme. -/
def portText? (usual : Nat) : List Char → Option String
  | [] => some ""
  | _ :: [] => some ""
  | _ :: digits => do
    let port ← Text.digits? digits
    guard (port ≤ 65535)
    return if port = usual then "" else ":" ++ Text.ofNat port

/-- Whether a character around an address does not belong to it. -/
def isPadding (c : Char) : Bool :=
  c ≤ ' '

/-- The characters of an address that count: none around it that show nothing, and no tabs or line
breaks at all. -/
def significant (cs : List Char) : List Char :=
  let cs := ((cs.dropWhile isPadding).reverse.dropWhile isPadding).reverse
  cs.filter fun c => c ≠ '\t' ∧ c ≠ '\n' ∧ c ≠ '\r'

/-- Whether a character is a slash of either kind. -/
def isSlash (c : Char) : Bool :=
  c == '/' || c == '\\'

/-- The schemes of addresses, with their usual ports. -/
def schemes : List (String × Nat) :=
  [("http", 80), ("https", 443)]

/-- Reads an address. After the colon there may be any number of slashes. -/
def ofText? (text : String) : Option Url := do
  let (scheme, rest) ← Text.splitOnce? [':'] (significant text.toList)
  let scheme := String.ofList (scheme.map Char.toLower)
  let usualPort ← schemes.lookup scheme
  let rest := rest.dropWhile isSlash
  let (rest, _) := (Text.splitOnce? ['#'] rest).getD (rest, [])
  let (place, form) := (Text.splitOnce? ['?'] rest).getD (rest, [])
  let place := place.map fun c => if isSlash c then '/' else c
  let (user, server) := splitUser (place.takeWhile (· ≠ '/'))
  let (host, port) := splitPort false server
  let host ← Http.Host.ofText? host
  let port ← portText? usualPort port
  return {
    origin := scheme ++ "://" ++ String.ofList user ++ host ++ port
    path := pathOf (place.dropWhile (· ≠ '/'))
    query := Percent.formParts form }

/-- An address with more pairs in its query. -/
def withQuery (pairs : List (String × String)) (u : Url) : Url :=
  { u with query := u.query ++ pairs.map fun (name, value) => (name, some value) }

end Url

end PeriodScaler
