import PeriodScaler.Text.Blank

/-!
# Request targets

What a request names, in one of four forms: a path with a query (`/path?query`), a server with a path
on it (`http://host/path?query`), a server alone (`host:80`), or `*`. Reading one changes nothing in
it and encodes nothing: a text with a character that cannot be sent is none. A fragment, which starts
with `#`, is dropped.

Model of the library type `Uri`.
-/

namespace PeriodScaler.Http

/-- What a request names. -/
structure Uri where
  scheme : Option String
  /-- The server, with a user and a port where they are given. -/
  authority : String
  path : String
  query : Option String
  deriving DecidableEq, Repr

namespace Uri

/-- The most bytes of a target. -/
def maxLength : Nat := 65534

/-- The most characters of a scheme. -/
def maxSchemeLength : Nat := 64

/-- Whether a character may stand in a scheme. -/
def keepsInScheme (c : Char) : Bool :=
  c.isAlphanum || "+-.~".toList.contains c

/-- Whether a character may stand in the name of a server. -/
def keepsInAuthority (c : Char) : Bool :=
  c.isAlphanum || "!$&'()*+,-.;=_~".toList.contains c

/-- Whether a character may stand in a path. -/
def keepsInPath (c : Char) : Bool :=
  '\x21' ≤ c && c ≠ '\x7f' && !("#<>?\x60".toList.contains c)

/-- Whether a character may stand in a query. -/
def keepsInQuery (c : Char) : Bool :=
  '\x21' ≤ c && c ≠ '\x7f' && !("\"#<>".toList.contains c)

/-- What is known about a server's name while it is read. -/
structure NameReading where
  colons : Nat := 0
  opened : Bool := false
  closed : Bool := false
  /-- An encoded character since the user or the bracket. -/
  encoded : Bool := false
  /-- Whether the character before is the end of a user. -/
  afterUser : Bool := false

/-- Reads on by one character. A colon or an encoded character in a user or in brackets does not
count. -/
def NameReading.step? (r : NameReading) (c : Char) : Option NameReading :=
  let r := { r with afterUser := false }
  if c = ':' then if r.colons ≥ 8 then none else some { r with colons := r.colons + 1 }
  else if c = '[' then if r.encoded || r.opened then none else some { r with opened := true }
  else if c = ']' then
    if !r.opened || r.closed then none
    else some { r with closed := true, colons := 0, encoded := false }
  else if c = '@' then some { r with colons := 0, encoded := false, afterUser := true }
  else if c = '%' then some { r with encoded := true }
  else if keepsInAuthority c then some r
  else none

/-- Whether a name that has been read is complete. -/
def NameReading.isComplete (r : NameReading) : Bool :=
  r.opened == r.closed && r.colons ≤ 1 && !r.afterUser && !r.encoded

/-- Splits off the name of a server, which ends where a path, a query or a fragment starts. -/
def authority? (cs : List Char) : Option (List Char × List Char) := do
  let isPart (c : Char) : Bool := c ≠ '/' && c ≠ '?' && c ≠ '#'
  let name := cs.takeWhile isPart
  let reading ← name.foldlM NameReading.step? {}
  guard reading.isComplete
  return (name, cs.dropWhile isPart)

/-- Splits off a scheme with its colon and slashes. -/
def scheme? (cs : List Char) : Option (Option (List Char) × List Char) :=
  let name := cs.takeWhile keepsInScheme
  match Text.dropLead? "://".toList (cs.dropWhile keepsInScheme) with
  | some rest =>
    if rest.isEmpty && name.isEmpty then some (none, cs)
    else if name.length > maxSchemeLength then none
    else some (some name, rest)
  | none => some (none, cs)

/-- Reads a path with a query. -/
def pathAndQuery? (cs : List Char) : Option (List Char × Option (List Char)) := do
  let cs := cs.takeWhile (· ≠ '#')
  let path := cs.takeWhile (· ≠ '?')
  guard (path.all keepsInPath)
  match cs.dropWhile (· ≠ '?') with
  | _ :: query =>
    guard (query.all keepsInQuery)
    return (path, some query)
  | [] => return (path, none)

/-- The target with some parts; a path that is empty is the one at the top. -/
def ofParts (scheme : Option (List Char)) (authority path : List Char)
    (query : Option (List Char)) : Uri where
  scheme := scheme.map String.ofList
  authority := String.ofList authority
  path := if path.isEmpty then "/" else String.ofList path
  query := query.map String.ofList

/-- A server alone. -/
def ofAuthority (authority : List Char) : Uri :=
  ⟨none, String.ofList authority, "", none⟩

/-- Reads a target. -/
def ofText? (text : String) : Option Uri := do
  guard (text.utf8ByteSize ≤ maxLength)
  match text.toList with
  | [] => none
  | ['*'] => return ⟨none, "", "*", none⟩
  | '/' :: rest =>
    let (path, query) ← pathAndQuery? ('/' :: rest)
    return ofParts none [] path query
  | cs =>
    let (scheme, rest) ← scheme? cs
    let (name, rest) ← authority? rest
    match scheme with
    | none => if rest.isEmpty then return ofAuthority name else none
    | some scheme =>
      guard (!name.isEmpty)
      let (path, query) ← pathAndQuery? rest
      return ofParts (some scheme) name path query

end Uri

end PeriodScaler.Http
