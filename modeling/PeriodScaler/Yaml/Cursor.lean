/-!
# Places in a document

Where reading a YAML document has come to: what is left of it, and how many characters, lines and
columns are behind. A line ends with a carriage return, a line feed, both in this order, or one of
three separators; the first three and the next line separator count as a line feed.

Model of the places of the library's scanner.
-/

namespace PeriodScaler.Yaml

/-- Whether a character is a blank inside a line. -/
def isBlank (c : Char) : Bool :=
  c == ' ' || c == '\t'

/-- Whether a character ends a line. -/
def isBreak (c : Char) : Bool :=
  c == '\n' || c == '\r' || c == '\u0085' || c == '\u2028' || c == '\u2029'

/-- Whether a character is a blank or ends a line. -/
def isGap (c : Char) : Bool :=
  isBlank c || isBreak c

/-- Whether some characters are at an end or begin with a blank or the end of a line. -/
def startsGap (cs : List Char) : Bool :=
  cs.head?.all isGap

/-- Whether some characters are at an end or begin with the end of a line. -/
def startsBreak (cs : List Char) : Bool :=
  cs.head?.all isBreak

/-- Whether a character may stand in a name. -/
def isWord (c : Char) : Bool :=
  c.isAlphanum || c == '_' || c == '-'

/-- Whether a character may stand in a document. -/
def isAllowed (c : Char) : Bool :=
  c == '\t' || c == '\n' || c == '\r' || ('\x20' ≤ c && c ≤ '\x7e') || c == '\u0085' ||
    ('\u00a0' ≤ c && c ≠ '\ufffe' && c ≠ '\uffff')

/-- A place in a document. -/
structure Cursor where
  rest : List Char
  index : Nat
  line : Nat
  column : Nat
  deriving Repr

namespace Cursor

/-- The place before a document. -/
def start (text : List Char) : Cursor :=
  ⟨text, 0, 0, 0⟩

/-- Whether the next character is `c`. -/
def isAt (c : Cursor) (char : Char) : Bool :=
  c.rest.head? == some char

/-- The place `n` characters further in the same line. -/
def skip (c : Cursor) (n : Nat) : Cursor :=
  ⟨c.rest.drop n, c.index + n, c.line, c.column + n⟩

/-- The characters in front that have a property, and the place behind them; none of them may end a
line. -/
def span (p : Char → Bool) (c : Cursor) : List Char × Cursor :=
  let found := c.rest.takeWhile p
  (found, c.skip found.length)

/-- The place behind the blanks in front. -/
def skipBlanks (c : Cursor) : Cursor :=
  (c.span isBlank).2

/-- The place at the end of the line when a comment is in front. -/
def skipComment (c : Cursor) : Cursor :=
  if c.isAt '#' then (c.span fun char => !isBreak char).2 else c

/-- The end of the line in front, as it counts in a text, and the place behind it. -/
def break? (c : Cursor) : Option (Char × Cursor) :=
  match c.rest with
  | '\r' :: '\n' :: rest => some ('\n', ⟨rest, c.index + 2, c.line + 1, 0⟩)
  | b :: rest =>
    if isBreak b then
      let kept := if b = '\u2028' ∨ b = '\u2029' then b else '\n'
      some (kept, ⟨rest, c.index + 1, c.line + 1, 0⟩)
    else none
  | [] => none

/-- The place behind the end of the line when it is in front. -/
def skipBreak (c : Cursor) : Cursor :=
  match c.break? with
  | some (_, c) => c
  | none => c

/-- Whether a line begins here with a mark of three characters. -/
def isAtMark (c : Cursor) (mark : List Char) : Bool :=
  c.column == 0 && mark.isPrefixOf c.rest && startsGap (c.rest.drop 3)

/-- Whether a line begins here that starts or ends a document. -/
def isAtDocument (c : Cursor) : Bool :=
  c.isAtMark ['-', '-', '-'] || c.isAtMark ['.', '.', '.']

end Cursor

end PeriodScaler.Yaml
