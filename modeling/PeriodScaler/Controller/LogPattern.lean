import PeriodScaler.Decimal.Nearest
import PeriodScaler.Text.Alphanumeric
import PeriodScaler.Text.Blank

/-!
# Patterns of field values

What a log directive may ask of the value of a field: a truth value, a number, or a pattern that the
value has to match. A pattern is a regular expression. Whether it is well formed is all that is
decided here, since the program opens no span whose fields could match.

A directive ends at a comma and a field at a closing brace, so a pattern holds neither. Counts and
names in braces are therefore never closed, and a brace that opens outside a set is refused. Borders
of words are refused as well.

Model of the library's check of a pattern, as far as a directive can hold one.
-/

namespace PeriodScaler.LogPattern

/-- What stands behind a backslash. -/
inductive Escape where
  | char (c : Char)
  /-- One of several characters, such as a digit. -/
  | anyOf
  /-- A place in the text, such as its end. -/
  | place
  deriving DecidableEq, Repr

/-- Reads the number of a character in so many hexadecimal digits. -/
def numbered? (digits : Nat) (cs : List Char) : Option (Escape × List Char) := do
  let ds ← (cs.take digits).mapM Text.hexDigit?
  let n := ds.foldl (fun n d => n * 16 + d) 0
  guard (ds.length = digits ∧ n.isValidChar)
  return (.char (Char.ofNat n), cs.drop digits)

/-- Whether a letter names one of the great categories of characters. -/
def isCategory (c : Char) : Bool :=
  ['c', 'l', 'm', 'n', 'p', 's', 'z'].contains c.toLower

/-- Reads what stands behind a backslash. Signs stand for themselves, and letters only where they
have a meaning. -/
def escape? : List Char → Option (Escape × List Char)
  | [] => none
  | c :: cs =>
    if c = 'x' then numbered? 2 cs
    else if c = 'u' then numbered? 4 cs
    else if c = 'U' then numbered? 8 cs
    else if c = 'p' ∨ c = 'P' then
      if cs.head?.any isCategory then some (.anyOf, cs.drop 1) else none
    else if ['d', 's', 'w', 'D', 'S', 'W'].contains c then some (.anyOf, cs)
    else if c = 'A' ∨ c = 'z' then some (.place, cs)
    else
      match [('a', '\x07'), ('f', '\x0c'), ('t', '\t'), ('n', '\n'), ('r', '\r'),
          ('v', '\x0b')].lookup c with
      | some control => some (.char control, cs)
      | none =>
        if '\x80' ≤ c ∨ c.isAlphanum ∨ c = '<' ∨ c = '>' then none else some (.char c, cs)

/-! ## Sets -/

/-- What follows the start of a set: signs that stand for themselves only there are passed. -/
def setStart (cs : List Char) : List Char :=
  let cs := if cs.head? = some '^' then cs.drop 1 else cs
  if cs.head? = some ']' then cs.drop 1 else cs.dropWhile (· == '-')

/-- Reads one member of a set, or one end of a range. -/
def member? : List Char → Option (Escape × List Char)
  | [] => none
  | '\\' :: cs => escape? cs
  | c :: cs => some (.char c, cs)

/-- Reads a member of a set or a range, and tells what follows. -/
def members? (cs : List Char) : Option (List Char) := do
  let (first, rest) ← member? cs
  match rest with
  | '-' :: more =>
    if more.head? = some ']' ∨ more.head? = some '-' then
      guard (first != .place)
      return rest
    match first, ← member? more with
    | .char a, (.char b, rest) =>
      guard (a ≤ b)
      return rest
    | _, _ => none
  | _ =>
    guard (first != .place)
    return rest

/-- What follows a set, of which so many outer ones are open too; every step takes a character. -/
def afterSet? : Nat → Nat → List Char → Option (List Char)
  | 0, _, _ => none
  | fuel + 1, outer, cs =>
    match cs with
    | '[' :: rest => afterSet? fuel (outer + 1) (setStart rest)
    | ']' :: rest => if outer = 0 then some rest else afterSet? fuel (outer - 1) rest
    | '&' :: '&' :: rest => afterSet? fuel outer rest
    | '-' :: '-' :: rest => afterSet? fuel outer rest
    | '~' :: '~' :: rest => afterSet? fuel outer rest
    | cs => (members? cs).bind (afterSet? fuel outer)

/-! ## Groups -/

/-- A pattern while it is read. -/
structure Reading where
  /-- How many groups are open. -/
  groups : Nat
  /-- Whether something stands here that can be repeated. -/
  repeatable : Bool
  /-- The names of groups so far. -/
  names : List String
  deriving DecidableEq, Repr

/-- The reading behind something that can be repeated. -/
def Reading.behind (r : Reading) : Reading :=
  { r with repeatable := true }

/-- The reading inside a group that opens. -/
def Reading.inside (r : Reading) : Reading :=
  { r with groups := r.groups + 1, repeatable := false }

/-- Whether some letters are switches: each at most once, and the sign that turns the ones behind it
off is not the last. -/
def areSwitches (cs : List Char) : Bool :=
  cs.all ['i', 'm', 's', 'U', 'u', 'R', 'x', '-'].contains && cs.Nodup &&
    cs.getLast? != some '-'

/-- Whether some characters can name a group. -/
def isName : List Char → Bool
  | [] => false
  | c :: cs =>
    let inner (c : Char) := c == '_' || Text.isAlphanumeric c
    inner c && !Text.isDigit c &&
      cs.all fun c => inner c || c == '.' || c == '[' || c == ']'

/-- Reads the name of a group up to its end. -/
def named? (r : Reading) (cs : List Char) : Option (Reading × List Char) := do
  let (name, rest) ← Text.splitOnce? ['>'] cs
  let word := String.ofList name
  guard (isName name ∧ !r.names.contains word)
  return ({ r.inside with names := word :: r.names }, rest)

/-- Reads what a group begins with behind its question mark: a name, or switches for this group or
for what follows. -/
def special? (r : Reading) (cs : List Char) : Option (Reading × List Char) :=
  match cs with
  | 'P' :: '<' :: rest => named? r rest
  | '<' :: rest => named? r rest
  | _ =>
    let switches := cs.takeWhile fun c => c != ':' && c != ')'
    if !areSwitches switches then none
    else
      match cs.drop switches.length with
      | ':' :: rest => some (r.inside, rest)
      | ')' :: rest =>
        if switches.isEmpty then none else some ({ r with repeatable := false }, rest)
      | _ => none

/-- Reads one element of a pattern. -/
def element? (r : Reading) : List Char → Option (Reading × List Char)
  | '(' :: '?' :: rest => special? r rest
  | '(' :: rest => some (r.inside, rest)
  | ')' :: rest =>
    if r.groups = 0 then none else some ({ r.behind with groups := r.groups - 1 }, rest)
  | '|' :: rest => some ({ r with repeatable := false }, rest)
  | '[' :: rest => (afterSet? (rest.length + 1) 0 (setStart rest)).map fun rest => (r.behind, rest)
  | '\x7b' :: _ => none
  | '\\' :: rest => (escape? rest).map fun (_, rest) => (r.behind, rest)
  | c :: rest =>
    if c = '?' ∨ c = '*' ∨ c = '+' then
      if r.repeatable then some (r, if rest.head? = some '?' then rest.drop 1 else rest) else none
    else some (r.behind, rest)
  | [] => none

/-- Whether a pattern can be read to its end; every element takes a character. -/
def isRead : Nat → Reading → List Char → Bool
  | _, r, [] => r.groups == 0
  | 0, _, _ => false
  | fuel + 1, r, cs => (element? r cs).any fun (r, rest) => isRead fuel r rest

/-! ## Values -/

/-- Whether some characters with a `+` in front write a number. -/
def isNumber (cs : List Char) : Bool :=
  (Decimal.written? cs).isSome ||
    ["inf", "infinity", "nan"].contains (Text.lowerAscii (String.ofList cs))

/-- Whether a directive may ask for a value. Truth values and numbers are patterns too, except for a
`+` in front, which would have nothing to repeat. -/
def isValue (cs : List Char) : Bool :=
  isRead cs.length ⟨0, false, []⟩ cs || (cs.head? == some '+' && isNumber (cs.drop 1))

end PeriodScaler.LogPattern
