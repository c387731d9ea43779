import PeriodScaler.Json.Basic

/-!
# Reading JSON text

The grammar of RFC 8259, strictly: no byte order mark, no trailing comma, no raw control character
in a text, nothing but blanks after the value. Literals of numbers keep their spelling, so a value
that nobody reads may hold a number of any size.

An escaped surrogate is grammatical. One without its partner makes the value `unreadable`; in the
name of a field it makes the whole object so.

Reading goes by recursion on a bound for the nesting, which `read?` takes from the length of the
text: two for every character is never used up.

Model of the JSON library's `from_str` and `from_slice` up to the type that is asked for.
-/

namespace PeriodScaler.Json

/-- The blanks of JSON. -/
def isSpace (c : Char) : Bool :=
  c == ' ' || c == '\n' || c == '\r' || c == '\t'

/-- A text without the JSON blanks it starts with. -/
def skipSpace (cs : List Char) : List Char :=
  cs.dropWhile isSpace

/-- One piece of a quoted text: a character, or an escaped code unit of 16 bits. -/
inductive Piece where
  | char (c : Char)
  | unit (n : Nat)

/-- The characters that a run of pieces denotes; none when a surrogate has no partner. -/
def charsOf? : List Piece → Option (List Char)
  | [] => some []
  | .char c :: rest => (charsOf? rest).map (c :: ·)
  | .unit high :: .unit low :: rest =>
    if 0xD800 ≤ high ∧ high < 0xDC00 then
      if 0xDC00 ≤ low ∧ low < 0xE000 then
        (charsOf? rest).map
          (Char.ofNat (0x10000 + (high - 0xD800) * 0x400 + (low - 0xDC00)) :: ·)
      else none
    else if 0xDC00 ≤ high ∧ high < 0xE000 then none
    else (charsOf? (.unit low :: rest)).map (Char.ofNat high :: ·)
  | .unit n :: rest =>
    if 0xD800 ≤ n ∧ n < 0xE000 then none
    else (charsOf? rest).map (Char.ofNat n :: ·)

/-- The number of four hexadecimal digits. -/
def hex4? (a b c d : Char) : Option Nat := do
  return (((← Text.hexDigit? a) * 16 + (← Text.hexDigit? b)) * 16 + (← Text.hexDigit? c)) * 16 +
    (← Text.hexDigit? d)

/-- The character that a one-letter escape stands for. -/
def shortEscape? : Char → Option Char
  | '"' => some '"'
  | '\\' => some '\\'
  | '/' => some '/'
  | 'b' => some '\x08'
  | 'f' => some '\x0c'
  | 'n' => some '\n'
  | 'r' => some '\r'
  | 't' => some '\t'
  | _ => none

/-- The pieces of a quoted text up to its closing quote, and what follows it. -/
def readPieces? : List Char → Option (List Piece × List Char)
  | [] => none
  | '"' :: rest => some ([], rest)
  | '\\' :: 'u' :: a :: b :: c :: d :: rest => do
    let n ← hex4? a b c d
    let (pieces, after) ← readPieces? rest
    return (.unit n :: pieces, after)
  | '\\' :: e :: rest => do
    let c ← shortEscape? e
    let (pieces, after) ← readPieces? rest
    return (.char c :: pieces, after)
  | c :: rest =>
    if c.toNat < 32 ∨ c = '\\' then none
    else do
      let (pieces, after) ← readPieces? rest
      return (.char c :: pieces, after)

/-- A quoted text after its opening quote; the text is missing when it holds a lone surrogate. -/
def readQuoted? (cs : List Char) : Option (Option String × List Char) := do
  let (pieces, rest) ← readPieces? cs
  return ((charsOf? pieces).map String.ofList, rest)

/-- The digits a text starts with, and the rest. -/
def spanDigits (cs : List Char) : List Char × List Char :=
  (cs.takeWhile Text.isDigit, cs.dropWhile Text.isDigit)

/-- The whole part of a number: a zero, or digits that start with none. -/
def readWhole? (cs : List Char) : Option (List Char × List Char) :=
  match cs with
  | '0' :: rest => some (['0'], rest)
  | _ =>
    match spanDigits cs with
    | ([], _) => none
    | found => some found

/-- The fraction of a number, when there is a point. -/
def readFraction? : List Char → Option (List Char × List Char)
  | '.' :: rest =>
    match spanDigits rest with
    | ([], _) => none
    | (ds, after) => some ('.' :: ds, after)
  | cs => some ([], cs)

/-- The exponent of a number, when there is a sign for one. -/
def readExponent? : List Char → Option (List Char × List Char)
  | c :: rest =>
    if c = 'e' ∨ c = 'E' then
      let (sign, ds) := match rest with
        | '+' :: r => (['+'], r)
        | '-' :: r => (['-'], r)
        | r => ([], r)
      match spanDigits ds with
      | ([], _) => none
      | (found, after) => some (c :: (sign ++ found), after)
    else some ([], c :: rest)
  | [] => some ([], [])

/-- The literal of a number and what follows it. -/
def readNumber? (cs : List Char) : Option (List Char × List Char) := do
  let (sign, rest) := match cs with
    | '-' :: r => (['-'], r)
    | r => ([], r)
  let (whole, rest) ← readWhole? rest
  let (fraction, rest) ← readFraction? rest
  let (exponent, rest) ← readExponent? rest
  return (sign ++ whole ++ fraction ++ exponent, rest)

/-- The object of the given fields; unreadable when some name is. -/
def objectOf (fields : List (Option String × Json)) : Json :=
  match fields.mapM fun (name, value) => name.map fun n => (n, value) with
  | some named => .object named
  | none => .unreadable

mutual

/-- A value that may have blanks in front, and what follows it. -/
def readValue? : Nat → List Char → Option (Json × List Char)
  | 0, _ => none
  | bound + 1, cs =>
    match skipSpace cs with
    | '"' :: rest => do
      let (found, after) ← readQuoted? rest
      return (match found with | some s => .text s | none => .unreadable, after)
    | '[' :: rest =>
      match skipSpace rest with
      | ']' :: after => some (.array [], after)
      | _ => do
        let (items, after) ← readItems? bound rest
        return (.array items, after)
    | '\x7b' :: rest =>
      match skipSpace rest with
      | '\x7d' :: after => some (.object [], after)
      | _ => do
        let (fields, after) ← readFields? bound rest
        return (objectOf fields, after)
    | 'n' :: 'u' :: 'l' :: 'l' :: after => some (.null, after)
    | 't' :: 'r' :: 'u' :: 'e' :: after => some (.bool true, after)
    | 'f' :: 'a' :: 'l' :: 's' :: 'e' :: after => some (.bool false, after)
    | other => do
      let (literal, after) ← readNumber? other
      return (.number (String.ofList literal), after)

/-- The items of an array up to its closing bracket; at least one. -/
def readItems? : Nat → List Char → Option (List Json × List Char)
  | 0, _ => none
  | bound + 1, cs => do
    let (item, after) ← readValue? bound cs
    match skipSpace after with
    | ',' :: rest =>
      let (items, after) ← readItems? bound rest
      return (item :: items, after)
    | ']' :: rest => return ([item], rest)
    | _ => none

/-- The fields of an object up to its closing brace; at least one. -/
def readFields? : Nat → List Char → Option (List (Option String × Json) × List Char)
  | 0, _ => none
  | bound + 1, cs =>
    match skipSpace cs with
    | '"' :: rest => do
      let (name, after) ← readQuoted? rest
      match skipSpace after with
      | ':' :: rest =>
        let (value, after) ← readValue? bound rest
        match skipSpace after with
        | ',' :: rest =>
          let (fields, after) ← readFields? bound rest
          return ((name, value) :: fields, after)
        | '\x7d' :: rest => return ([(name, value)], rest)
        | _ => none
      | _ => none
    | _ => none

end

/-- The value that a whole text denotes. -/
def readChars? (cs : List Char) : Option Json := do
  let (value, after) ← readValue? (2 * cs.length + 2) cs
  match skipSpace after with
  | [] => some value
  | _ => none

/-- The value that a whole text denotes. -/
def read? (s : String) : Option Json :=
  readChars? s.toList

end PeriodScaler.Json
