import PeriodScaler.Yaml.Property
import PeriodScaler.Yaml.Scalar

/-!
# Tokens of a document

The words and marks of a YAML document, with marks for where collections made of lines begin and
end. Such a collection is known by its column: a sequence begins at the first dash, a mapping at its
first key.

A key need not be marked as one. What could be a key is remembered, and when a colon follows in the
same line and not too far away, the marks of a key, and of a mapping if it is the first one, are put
in front of it afterwards. A node at the column of a mapping must turn out to be a key.

Model of the library's scanner.
-/

namespace PeriodScaler.Yaml

/-- A token of a document. -/
inductive Token where
  | directive (d : Directive)
  | documentStart
  | documentEnd
  | blockSequenceStart
  | blockMappingStart
  | blockEnd
  | flowSequenceStart
  | flowSequenceEnd
  | flowMappingStart
  | flowMappingEnd
  | blockEntry
  | flowEntry
  | key
  | value
  | alias (name : List Char)
  | anchor (name : List Char)
  | tag (t : WrittenTag)
  | scalar (text : List Char) (isPlain : Bool)
  deriving DecidableEq, Repr

/-- A node that may be a key. -/
structure KeyCandidate where
  /-- Whether it must be one. -/
  required : Bool
  /-- How many tokens are before it. -/
  position : Nat
  place : Cursor

/-- How far the tokens of a document have been read. -/
structure Scan where
  cursor : Cursor
  tokens : Array Token
  /-- What may be a key, for the innermost pair of brackets, for those around it, and for what is
  outside of all brackets. -/
  candidate : Option KeyCandidate
  outer : List (Option KeyCandidate)
  /-- The columns of the open collections made of lines, each one more than it is; the innermost
  first. -/
  indents : List Nat
  /-- Whether a key may stand here without a mark. -/
  keyAllowed : Bool

namespace Scan

/-- The state before a document. -/
def start (text : List Char) : Scan :=
  ⟨.start text, #[], none, [], [], true⟩

/-- Whether the place is inside brackets. -/
def inFlow (s : Scan) : Bool :=
  !s.outer.isEmpty

/-- The first column that is inside the innermost collection made of lines. -/
def indent (s : Scan) : Nat :=
  s.indents.headD 0

/-- Adds a token. -/
def push (s : Scan) (t : Token) : Scan :=
  { s with tokens := s.tokens.push t }

/-- Puts a token behind the first `n`. -/
def insert (s : Scan) (n : Nat) (t : Token) : Scan :=
  { s with tokens := (s.tokens.extract 0 n).push t ++ s.tokens.extract n s.tokens.size }

/-- Moves on by `n` characters. -/
def skip (s : Scan) (n : Nat) : Scan :=
  { s with cursor := s.cursor.skip n }

/-- Adds a token that is `n` characters long. -/
def take (s : Scan) (n : Nat) (t : Token) : Scan :=
  (s.push t).skip n

/-- Forgets what may be a key; none when it must be one. -/
def dropCandidate? (s : Scan) : Option Scan :=
  if s.candidate.any (·.required) then none else some { s with candidate := none }

/-- Remembers that a node begins here that may be a key. -/
def saveCandidate? (s : Scan) : Option Scan :=
  if s.keyAllowed then do
    let required := !s.inFlow && s.indent == s.cursor.column + 1
    let s ← s.dropCandidate?
    return { s with candidate := some ⟨required, s.tokens.size, s.cursor⟩ }
  else some s

/-- Whether a candidate can no longer be a key: its colon would not be in the same line, or too far
away. -/
def isStale (s : Scan) (k : KeyCandidate) : Bool :=
  k.place.line < s.cursor.line || k.place.index + 1024 < s.cursor.index

/-- Forgets the candidates that can no longer be keys; none when one of them must be one. -/
def dropStale? (s : Scan) : Option Scan :=
  let isLost (k : Option KeyCandidate) : Bool := k.any fun k => s.isStale k
  if (s.candidate :: s.outer).any fun k => isLost k && k.any (·.required) then none
  else
    let kept (k : Option KeyCandidate) : Option KeyCandidate := if isLost k then none else k
    some { s with candidate := kept s.candidate, outer := s.outer.map kept }

/-- Opens a collection made of lines at a column, behind the first `n` tokens, unless one is open
there or the place is inside brackets. -/
def openAt (s : Scan) (column n : Nat) (t : Token) : Scan :=
  if !s.inFlow && s.indent < column + 1 then
    { s.insert n t with indents := (column + 1) :: s.indents }
  else s

/-- Closes the collections made of lines whose insides begin behind column `n`, unless the place is
inside brackets. -/
def close (s : Scan) (n : Nat) : Scan :=
  if s.inFlow then s
  else
    let closed := s.indents.takeWhile (n < ·)
    { s with
      tokens := s.tokens ++ closed.map fun _ => Token.blockEnd
      indents := s.indents.drop closed.length }

/-- Moves on to the next token, over blanks, comments and line breaks; `steps` bounds how far. -/
def toNext (s : Scan) : Nat → Scan
  | 0 => s
  | steps + 1 =>
    let c := if s.cursor.column == 0 && s.cursor.isAt '\ufeff' then s.cursor.skip 1 else s.cursor
    let tabs := s.inFlow || !s.keyAllowed
    let c := (c.span fun char => char == ' ' || (tabs && char == '\t')).2.skipComment
    match c.break? with
    | some (_, c) => toNext { s with cursor := c, keyAllowed := s.keyAllowed || !s.inFlow } steps
    | none => { s with cursor := c }

/-! ## Single tokens -/

/-- A directive. -/
def directive? (s : Scan) : Option Scan := do
  let s ← (s.close 0).dropCandidate?
  let (d, c) ← s.cursor.directive?
  return { s.push (.directive d) with cursor := c, keyAllowed := false }

/-- A mark that starts or ends a document. -/
def documentMark? (s : Scan) (t : Token) : Option Scan := do
  let s ← (s.close 0).dropCandidate?
  return { s.take 3 t with keyAllowed := false }

/-- An opening bracket. -/
def flowStart? (s : Scan) (t : Token) : Option Scan := do
  let s ← s.saveCandidate?
  return { s.take 1 t with candidate := none, outer := s.candidate :: s.outer, keyAllowed := true }

/-- A closing bracket. -/
def flowEnd? (s : Scan) (t : Token) : Option Scan := do
  let s ← s.dropCandidate?
  let s := { s.take 1 t with keyAllowed := false }
  match s.outer with
  | [] => return s
  | k :: outer => return { s with candidate := k, outer := outer }

/-- A comma. -/
def comma? (s : Scan) : Option Scan := do
  let s ← s.dropCandidate?
  return { s.take 1 .flowEntry with keyAllowed := true }

/-- A dash in front of an item. -/
def dash? (s : Scan) : Option Scan := do
  guard (s.inFlow || s.keyAllowed)
  let s ← (s.openAt s.cursor.column s.tokens.size .blockSequenceStart).dropCandidate?
  return { s.take 1 .blockEntry with keyAllowed := true }

/-- The mark of a key. -/
def key? (s : Scan) : Option Scan := do
  guard (s.inFlow || s.keyAllowed)
  let s ← (s.openAt s.cursor.column s.tokens.size .blockMappingStart).dropCandidate?
  return { s.take 1 .key with keyAllowed := !s.inFlow }

/-- A colon in front of a value. -/
def value? (s : Scan) : Option Scan :=
  match s.candidate with
  | some k =>
    let s := (s.insert k.position .key).openAt k.place.column k.position .blockMappingStart
    some { s.take 1 .value with candidate := none, keyAllowed := false }
  | none => do
    guard (s.inFlow || s.keyAllowed)
    let s := s.openAt s.cursor.column s.tokens.size .blockMappingStart
    return { s.take 1 .value with keyAllowed := !s.inFlow }

/-- A token that begins a node, which may be a key. -/
def nodePart? (s : Scan) (part? : Option (Token × Cursor)) : Option Scan := do
  let s ← s.saveCandidate?
  let (t, c) ← part?
  return { s.push t with cursor := c, keyAllowed := false }

/-- A block scalar. -/
def blockScalar? (s : Scan) (folded : Bool) : Option Scan := do
  let s ← s.dropCandidate?
  let (text, c) ← s.cursor.block? folded s.indent
  return { s.push (.scalar text false) with cursor := c, keyAllowed := true }

/-- A scalar in quotes. -/
def quoted? (s : Scan) (quote : Char) : Option Scan :=
  s.nodePart? ((s.cursor.quoted? quote).map fun (text, c) => (.scalar text false, c))

/-- A plain scalar; behind one that ends with a line break a key may stand. -/
def plain? (s : Scan) : Option Scan := do
  let (scalar, c) ← s.cursor.plain? s.inFlow s.indent
  let s ← s.nodePart? (some (.scalar scalar.text true, c))
  return { s with keyAllowed := scalar.broken }

/-- Whether a plain scalar can begin with a character, whatever is behind it. -/
def startsPlain (c : Char) : Bool :=
  !isGap c && !"-?:,[]\x7b\x7d#&*!|>'\"%@\x60".toList.contains c

/-- The token that begins with a character; `rest` is what follows it. -/
def token? (s : Scan) (char : Char) (rest : List Char) : Option Scan :=
  let c := s.cursor
  let isMark := s.inFlow || startsGap rest
  if c.column = 0 ∧ char = '%' then s.directive?
  else if c.isAtMark ['-', '-', '-'] then s.documentMark? .documentStart
  else if c.isAtMark ['.', '.', '.'] then s.documentMark? .documentEnd
  else if char = '[' then s.flowStart? .flowSequenceStart
  else if char = '\x7b' then s.flowStart? .flowMappingStart
  else if char = ']' then s.flowEnd? .flowSequenceEnd
  else if char = '\x7d' then s.flowEnd? .flowMappingEnd
  else if char = ',' then s.comma?
  else if char = '-' ∧ startsGap rest then s.dash?
  else if char = '?' ∧ isMark then s.key?
  else if char = ':' ∧ isMark then s.value?
  else if char = '*' then s.nodePart? (c.anchor?.map fun (name, c) => (.alias name, c))
  else if char = '&' then s.nodePart? (c.anchor?.map fun (name, c) => (.anchor name, c))
  else if char = '!' then s.nodePart? ((c.tag? s.inFlow).map fun (t, c) => (.tag t, c))
  else if char = '|' ∧ !s.inFlow then s.blockScalar? false
  else if char = '>' ∧ !s.inFlow then s.blockScalar? true
  else if char = '\'' ∨ char = '"' then s.quoted? char
  else if startsPlain char ∨ char = '-' ∨ char = '?' ∨ char = ':' then s.plain?
  else none

/-- Reads on to the end of the text; `steps` bounds the number of tokens. -/
def toEnd? : Nat → Scan → Option Scan
  | 0, _ => none
  | steps + 1, s => do
    let s ← (s.toNext (s.cursor.rest.length + 1)).dropStale?
    let s := s.close (s.cursor.column + 1)
    match s.cursor.rest with
    | [] => (s.close 0).dropCandidate?
    | char :: rest => (← s.token? char rest).toEnd? steps

end Scan

/-- The tokens of a text. -/
def Token.ofText? (text : List Char) : Option (List Token) := do
  guard (text.all isAllowed)
  let s ← (Scan.start text).toEnd? (text.length + 1)
  return s.tokens.toList

end PeriodScaler.Yaml
