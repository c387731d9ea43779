import PeriodScaler.Text.Decimal
import PeriodScaler.Yaml.Cursor

/-!
# Properties of nodes and directives

Anchors give a node a name, tags a kind. A tag is written as a handle and a suffix, or whole between
angle brackets; a directive says which prefix a handle stands for, or which version of YAML a
document has. The octets of a tag may be written as two digits behind a percent sign, if those
octets together have the form of a character.

Model of the part of the library's scanner that reads anchors, tags and directives.
-/

namespace PeriodScaler.Yaml

/-- A tag as it is written. -/
structure WrittenTag where
  /-- Its handle; without one, the suffix is all of it. -/
  handle : List Char
  suffix : List UInt8
  deriving DecidableEq, Repr

/-- A directive. -/
inductive Directive where
  | version (major minor : Nat)
  | prefixed (handle : List Char) (start : List UInt8)
  deriving DecidableEq, Repr

/-- The name behind the mark of an anchor or of a reference to one. -/
def Cursor.anchor? (c : Cursor) : Option (List Char × Cursor) :=
  let (name, c) := (c.skip 1).span isWord
  if !name.isEmpty && (startsGap c.rest || c.rest.head?.any "?:,]\x7d%@\x60".toList.contains) then
    some (name, c)
  else none

/-! ## Tags -/

/-- Whether a character may stand in a tag. Between angle brackets and in directives, three more may
do so. -/
def isTagChar (isWhole : Bool) (c : Char) : Bool :=
  isWord c || ";/?:@&=+$.%!~*'()".toList.contains c || (isWhole && ",[]".toList.contains c)

/-- How many octets a character has that begins with an octet. -/
def octetsFrom? (octet : Nat) : Option Nat :=
  if octet < 128 then some 1
  else if octet / 32 = 6 then some 2
  else if octet / 16 = 14 then some 3
  else if octet / 8 = 30 then some 4
  else none

/-- An octet that is written as two digits behind a percent sign. -/
def writtenOctet? : List Char → Option Nat
  | '%' :: high :: low :: _ => do return (← Text.hexDigit? high) * 16 + (← Text.hexDigit? low)
  | _ => none

/-- Reads `n` written octets that continue a character. -/
def octetsAfter? : Nat → Cursor → Option (List UInt8 × Cursor)
  | 0, c => some ([], c)
  | n + 1, c => do
    let octet ← writtenOctet? c.rest
    guard (octet / 64 = 2)
    let (more, c) ← octetsAfter? n (c.skip 3)
    return (octet.toUInt8 :: more, c)

/-- Reads the octets of a tag; `steps` bounds how many characters it has. -/
def tagOctets? (isWhole : Bool) : Nat → Cursor → Option (List UInt8 × Cursor)
  | 0, c => some ([], c)
  | steps + 1, c =>
    match c.rest with
    | [] => some ([], c)
    | char :: _ =>
      if !isTagChar isWhole char then some ([], c)
      else do
        let (octets, c) ←
          if char = '%' then do
            let octet ← writtenOctet? c.rest
            let n ← octetsFrom? octet
            let (more, c) ← octetsAfter? (n - 1) (c.skip 3)
            some (octet.toUInt8 :: more, c)
          else some ([char.toNat.toUInt8], c.skip 1)
        let (more, c) ← tagOctets? isWhole steps c
        return (octets ++ more, c)

/-- The octets of a tag in front; a zero ends them. -/
def Cursor.tagOctets? (c : Cursor) (isWhole : Bool) : Option (List UInt8 × Cursor) := do
  let (octets, c) ← Yaml.tagOctets? isWhole c.rest.length c
  return (octets.takeWhile (· ≠ 0), c)

/-- The octets of a tag in front, which has a character at least. -/
def Cursor.someTagOctets? (c : Cursor) (isWhole : Bool) : Option (List UInt8 × Cursor) := do
  let (octets, after) ← c.tagOctets? isWhole
  guard (after.index ≠ c.index)
  return (octets, after)

/-- The handle in front: a mark, letters, and a mark again when there is one. -/
def Cursor.handle? (c : Cursor) : Option (List Char × Cursor) :=
  if c.isAt '!' then
    let (word, c) := (c.skip 1).span isWord
    if c.isAt '!' then some ('!' :: word ++ ['!'], c.skip 1) else some ('!' :: word, c)
  else none

/-- Whether some characters are a handle between two marks. -/
def isFullHandle (handle : List Char) : Bool :=
  1 < handle.length && handle.getLast? == some '!'

/-- The octets of characters that have one each. -/
def octetsOf (cs : List Char) : List UInt8 :=
  cs.map fun c => c.toNat.toUInt8

/-- The tag in front. A mark alone is a tag of its own. -/
def Cursor.tag? (c : Cursor) (inFlow : Bool) : Option (WrittenTag × Cursor) := do
  let (tag, c) ←
    if (c.skip 1).isAt '<' then do
      let (suffix, c) ← (c.skip 2).someTagOctets? true
      guard (c.isAt '>')
      some (WrittenTag.mk [] suffix, c.skip 1)
    else do
      let (handle, c) ← c.handle?
      if isFullHandle handle then
        let (suffix, c) ← c.someTagOctets? false
        some (WrittenTag.mk handle suffix, c)
      else
        let (more, c) ← c.tagOctets? false
        let suffix := octetsOf (handle.drop 1) ++ more
        if suffix.head?.all (· == 0) then some (WrittenTag.mk [] (octetsOf ['!']), c)
        else some (WrittenTag.mk ['!'] suffix, c)
  guard (startsGap c.rest || (inFlow && c.isAt ','))
  return (tag, c)

/-! ## Directives -/

/-- A part of a version in front: a number of at most nine digits. -/
def Cursor.versionPart? (c : Cursor) : Option (Nat × Cursor) :=
  let (digits, c) := c.span Char.isDigit
  if digits.isEmpty || 9 < digits.length then none
  else (Text.digits? digits).map fun n => (n, c)

/-- The directive in front, to the end of its line. -/
def Cursor.directive? (c : Cursor) : Option (Directive × Cursor) := do
  let (name, c) := (c.skip 1).span isWord
  guard (startsGap c.rest)
  let (directive, c) ←
    if name = "YAML".toList then do
      let (major, c) ← c.skipBlanks.versionPart?
      guard (c.isAt '.')
      let (minor, c) ← (c.skip 1).versionPart?
      some (Directive.version major minor, c)
    else if name = "TAG".toList then do
      let (handle, c) ← c.skipBlanks.handle?
      guard ((handle.length = 1 ∨ isFullHandle handle) ∧ c.rest.head?.any isBlank)
      let (start, c) ← c.skipBlanks.someTagOctets? true
      guard (startsGap c.rest)
      some (Directive.prefixed handle start, c)
    else none
  let c := c.skipBlanks.skipComment
  guard (startsBreak c.rest)
  return (directive, c.skipBreak)

end PeriodScaler.Yaml
