import PeriodScaler.Text.Decimal
import PeriodScaler.Yaml.Cursor

/-!
# Scalars in a document

The texts of the three kinds of scalars. Each reader gives the text and the place behind it.

* A plain scalar ends before a comment, before a colon with a gap behind it and, inside brackets,
  before a bracket or a comma. It goes on in the lines below that are indented more than the
  collection around it.
* A scalar in quotes ends with its quote. A quote inside single quotes is written twice; double
  quotes know escapes.
* A block scalar is made of the lines below that are indented enough, whose breaks are kept or
  folded.

A single break between words is folded to a blank, and of several breaks the first one is dropped.
Loops go by recursion on a bound for the number of steps, which is taken from the text.

Model of the part of the library's scanner that reads scalars.
-/

namespace PeriodScaler.Yaml

/-! ## Gaps between words -/

/-- The blanks and the line breaks between two words. -/
structure Gap where
  blanks : List Char
  breaks : List Char

namespace Gap

/-- What a gap means: blanks count only inside a line, and breaks are folded. -/
def text (g : Gap) : List Char :=
  match g.breaks with
  | [] => g.blanks
  | ['\n'] => [' ']
  | '\n' :: more => more
  | breaks => breaks

/-- Reads a gap; `steps` bounds its length. Behind a break, blanks are skipped, but a tab must not
stand before the column `indent`. -/
def read? (indent : Nat) : Nat → Gap → Cursor → Option (Gap × Cursor)
  | 0, g, c => some (g, c)
  | steps + 1, g, c =>
    match c.break? with
    | some (b, c) => read? indent steps { g with breaks := g.breaks ++ [b] } c
    | none =>
      match c.rest.head? with
      | none => some (g, c)
      | some char =>
        if !isBlank char then some (g, c)
        else if g.breaks.isEmpty then
          read? indent steps { g with blanks := g.blanks ++ [char] } (c.skip 1)
        else if char == '\t' && c.column < indent then none
        else read? indent steps g (c.skip 1)

end Gap

/-- The gap in front. -/
def Cursor.gap? (c : Cursor) (indent : Nat) : Option (Gap × Cursor) :=
  Gap.read? indent c.rest.length ⟨[], []⟩ c

/-! ## Plain scalars -/

/-- Whether a character separates items inside brackets. -/
def isFlowMark (c : Char) : Bool :=
  c == ',' || c == '[' || c == ']' || c == '\x7b' || c == '\x7d'

/-- The word of a plain scalar at the start of some characters. None when, inside brackets, a colon
stands before a mark. -/
def plainWord? (inFlow : Bool) : List Char → Option (List Char)
  | [] => some []
  | c :: rest =>
    if isGap c || (inFlow && isFlowMark c) then some []
    else if c == ':' && inFlow && rest.head?.any fun d => isFlowMark d || d == '?' then none
    else if c == ':' && startsGap rest then some []
    else (plainWord? inFlow rest).map (c :: ·)

/-- A plain scalar while it is read. -/
structure PlainScalar where
  text : List Char
  /-- Whether its last gap held a line break. -/
  broken : Bool

/-- Reads on with a plain scalar after the gap `before`. It goes on only at the column `indent` or
behind it, unless it is inside brackets. -/
def PlainScalar.more? (inFlow : Bool) (indent : Nat) :
    Nat → PlainScalar → List Char → Cursor → Option (PlainScalar × Cursor)
  | 0, s, _, c => some (s, c)
  | steps + 1, s, before, c =>
    if c.isAtDocument || c.isAt '#' then some (s, c)
    else do
      let word ← plainWord? inFlow c.rest
      let c := c.skip word.length
      if word.isEmpty || !c.rest.head?.any isGap then
        let text := if word.isEmpty then s.text else s.text ++ before ++ word
        return (⟨text, s.broken && word.isEmpty⟩, c)
      else
        let (gap, c) ← c.gap? indent
        let s := ⟨s.text ++ before ++ word, !gap.breaks.isEmpty⟩
        if !inFlow && c.column < indent then return (s, c)
        else PlainScalar.more? inFlow indent steps s gap.text c

/-- The plain scalar in front. -/
def Cursor.plain? (c : Cursor) (inFlow : Bool) (indent : Nat) : Option (PlainScalar × Cursor) :=
  PlainScalar.more? inFlow indent (c.rest.length + 1) ⟨[], false⟩ [] c

/-! ## Scalars in quotes -/

/-- The characters that a letter behind a backslash stands for. -/
def escapes : List (Char × Char) :=
  [('0', '\x00'), ('a', '\x07'), ('b', '\x08'), ('t', '\t'), ('\t', '\t'), ('n', '\n'),
    ('v', '\x0b'), ('f', '\x0c'), ('r', '\r'), ('e', '\x1b'), (' ', ' '), ('"', '"'), ('/', '/'),
    ('\\', '\\'), ('N', '\u0085'), ('_', '\u00a0'), ('L', '\u2028'), ('P', '\u2029')]

/-- How many digits follow a letter that introduces the number of a character. -/
def digitsAfter : Char → Nat
  | 'x' => 2
  | 'u' => 4
  | 'U' => 8
  | _ => 0

/-- The character of an escape behind its backslash, and how many characters it takes. -/
def escaped? : List Char → Option (Char × Nat)
  | [] => none
  | c :: rest =>
    let n := digitsAfter c
    if n = 0 then (escapes.lookup c).map fun char => (char, 1)
    else do
      let digits ← (rest.take n).mapM Text.hexDigit?
      let number := digits.foldl (fun m d => m * 16 + d) 0
      guard (digits.length = n ∧ number.isValidChar)
      return (Char.ofNat number, n + 1)

/-- Reads on with a scalar in quotes of one kind. -/
def quotedRest? (quote : Char) : Nat → List Char → Cursor → Option (List Char × Cursor)
  | 0, _, _ => none
  | steps + 1, text, c =>
    match c.rest with
    | [] => none
    | char :: rest =>
      if c.isAtDocument then none
      else if char == '\'' && quote == '\'' && rest.head? == some '\'' then
        quotedRest? quote steps (text ++ ['\'']) (c.skip 2)
      else if char == quote then some (text, c.skip 1)
      else if char == '\\' && quote == '"' then
        match (c.skip 1).break? with
        | some (_, next) => do
          let (gap, c) ← next.gap? 0
          quotedRest? quote steps (text ++ gap.breaks) c
        | none => do
          let (char, n) ← escaped? rest
          quotedRest? quote steps (text ++ [char]) (c.skip (n + 1))
      else if isGap char then do
        let (gap, c) ← c.gap? 0
        quotedRest? quote steps (text ++ gap.text) c
      else
        let (word, c) := (c.skip 1).span fun d => !isGap d && d ≠ quote && d ≠ '\\'
        quotedRest? quote steps (text ++ char :: word) c

/-- The scalar in front, which is in quotes of one kind. -/
def Cursor.quoted? (c : Cursor) (quote : Char) : Option (List Char × Cursor) :=
  quotedRest? quote (c.rest.length + 1) [] (c.skip 1)

/-! ## Block scalars -/

/-- Which breaks at the end of a block scalar are kept. -/
inductive Chomping where
  | strip | clip | keep
  deriving DecidableEq, Repr

/-- How a block scalar is to be read. -/
structure BlockHeader where
  chomping : Chomping
  /-- By how much it is indented more than the collection around it, if that is said. -/
  increment : Option Nat

/-- The way of chomping that a sign stands for. -/
def chomping? : Char → Option Chomping
  | '+' => some .keep
  | '-' => some .strip
  | _ => none

/-- The header of a block scalar behind its first mark, to the end of its line. -/
def Cursor.blockHeader? (c : Cursor) : Option (BlockHeader × Cursor) := do
  let (signBefore, c) :=
    match c.rest.head?.bind chomping? with
    | some chomping => (some chomping, c.skip 1)
    | none => (none, c)
  let (increment, c) ←
    match c.rest.head?.filter Char.isDigit with
    | some '0' => none
    | some digit => some (some (digit.toNat - '0'.toNat), c.skip 1)
    | none => some (none, c)
  let (signAfter, c) :=
    match signBefore, increment, c.rest.head?.bind chomping? with
    | none, some _, some chomping => (some chomping, c.skip 1)
    | _, _, _ => (none, c)
  let c := c.skipBlanks.skipComment
  guard (startsBreak c.rest)
  return (⟨(signBefore.or signAfter).getD .clip, increment⟩, c.skipBreak)

/-- The breaks and the indentation before a line of a block scalar. -/
structure BlockBreaks where
  breaks : List Char
  /-- The greatest column that was come to. -/
  deepest : Nat

/-- Reads the breaks and the indentation before a line. Without `indent` the indentation may have
any length. A tab must not stand in it. -/
def BlockBreaks.read? (indent : Option Nat) :
    Nat → BlockBreaks → Cursor → Option (BlockBreaks × Cursor)
  | 0, b, c => some (b, c)
  | steps + 1, b, c =>
    let isInside := indent.all fun n => c.column < n
    let b := { b with deepest := max b.deepest c.column }
    if isInside && c.isAt ' ' then BlockBreaks.read? indent steps b (c.skip 1)
    else if isInside && c.isAt '\t' then none
    else
      match c.break? with
      | some (char, c) => BlockBreaks.read? indent steps { b with breaks := b.breaks ++ [char] } c
      | none => some (b, c)

/-- A block scalar while it is read. -/
structure BlockScalar where
  text : List Char
  /-- The end of the last line. -/
  lineEnd : List Char
  /-- The breaks behind it. -/
  breaks : List Char
  /-- Whether the last line began with a blank. -/
  wasBlank : Bool

/-- The text of a block scalar, chomped at its end. -/
def BlockScalar.chomped (s : BlockScalar) : Chomping → List Char
  | .strip => s.text
  | .clip => s.text ++ s.lineEnd
  | .keep => s.text ++ s.lineEnd ++ s.breaks

/-- Reads on with a block scalar. `folded` tells whether breaks between lines that begin with no
blank are folded. -/
def BlockScalar.more? (folded : Bool) (indent : Nat) :
    Nat → BlockScalar → Cursor → Option (BlockScalar × Cursor)
  | 0, s, c => some (s, c)
  | steps + 1, s, c =>
    if c.column ≠ indent ∨ c.rest.isEmpty then some (s, c)
    else do
      let isBlank := c.rest.head?.any isBlank
      let between :=
        if folded && s.lineEnd == ['\n'] && !s.wasBlank && !isBlank then
          if s.breaks.isEmpty then [' '] else s.breaks
        else s.lineEnd ++ s.breaks
      let (line, c) := c.span fun char => !isBreak char
      let lineEnd := (c.break?.map Prod.fst).toList
      let c := c.skipBreak
      let (below, c) ← BlockBreaks.read? (some indent) (c.rest.length + 1) ⟨[], 0⟩ c
      BlockScalar.more? folded indent steps
        ⟨s.text ++ between ++ line, lineEnd, below.breaks, isBlank⟩ c

/-- The block scalar in front. `parent` is the first column that belongs to the collection around
it and to what it holds. -/
def Cursor.block? (c : Cursor) (folded : Bool) (parent : Nat) : Option (List Char × Cursor) := do
  let (header, c) ← (c.skip 1).blockHeader?
  let given := header.increment.map fun n => parent - 1 + n
  let (above, c) ← BlockBreaks.read? given (c.rest.length + 1) ⟨[], 0⟩ c
  let indent := given.getD (max above.deepest (max parent 1))
  let (s, c) ← BlockScalar.more? folded indent (c.rest.length + 1) ⟨[], [], above.breaks, false⟩ c
  return (s.chomped header.chomping, c)

end PeriodScaler.Yaml
