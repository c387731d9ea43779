import PeriodScaler.Calendar.Date
import PeriodScaler.Text.Decimal

/-!
# Tagged values

The values of a binary key: each has a tag, a length and a content, and sequences hold values. A tag
and a length may be written in any of their forms. Of the common kinds of values the content must make
sense: texts have the characters of their kind, times are times, and a sequence or a set is not
empty. Values of other kinds may hold anything.

Model of the reader of binary keys behind `from_rsa_pem`.
-/

namespace PeriodScaler.Der

/-- A value. -/
inductive Value where
  | sequence (items : List Value)
  | identifier (arcs : List Nat)
  /-- A string of bits or of bytes. -/
  | string (content : List UInt8)
  | other
  deriving Repr

/-- A number in groups of seven bits, each but the last one marked, and what follows it. -/
def groups? (n : Nat) : List UInt8 → Option (Nat × List UInt8)
  | [] => none
  | b :: rest =>
    let n := n * 128 + b.toNat % 128
    if b ≥ 128 then groups? n rest else some (n, rest)

/-- A tag: its number, its class and whether it is built of others; and what follows it. -/
def tag? : List UInt8 → Option ((Nat × Nat × Bool) × List UInt8)
  | [] => none
  | b :: rest =>
    let kind := b.toNat / 64
    let built := b.toNat / 32 % 2 == 1
    if b % 32 = 31 then (groups? 0 rest).map fun (n, rest) => ((n, kind, built), rest)
    else some ((b.toNat % 32, kind, built), rest)

/-- A number of `count` bytes, and what follows it. -/
def number? : Nat → Nat → List UInt8 → Option (Nat × List UInt8)
  | 0, n, rest => some (n, rest)
  | _ + 1, _, [] => none
  | count + 1, n, b :: rest => number? count (n * 256 + b.toNat) rest

/-- A length, and what follows it. -/
def length? : List UInt8 → Option (Nat × List UInt8)
  | [] => none
  | b :: rest =>
    if b < 128 then some (b.toNat, rest)
    else if b.toNat - 128 > 8 then none
    else number? (b.toNat - 128) 0 rest

/-- The arcs of an identifier behind the first byte; `fuel` bounds their number. -/
def arcs? : Nat → List UInt8 → Option (List Nat)
  | 0, _ => none
  | _, [] => some []
  | fuel + 1, bytes => do
    let (arc, rest) ← groups? 0 bytes
    return arc :: (← arcs? fuel rest)

/-- The arcs of an identifier; its first byte holds two. -/
def identifier? : List UInt8 → Option (List Nat)
  | [] => none
  | b :: rest => do
    let others ← arcs? (rest.length + 1) rest
    let first := min (b.toNat / 40) 2
    return first :: (b.toNat - 40 * first) :: others

/-- Whether bytes are a text. -/
def isText (bytes : List UInt8) : Bool :=
  (String.fromUTF8? ⟨bytes.toArray⟩).isSome

/-- Whether a byte is a character that is printed everywhere. -/
def isPrintable (b : UInt8) : Bool :=
  let c := Char.ofNat b.toNat
  c.isAlphanum || " '()+,-./:=?".toList.contains c

/-- Whether digits are the time `yyyymmddhhmmss` of a day in the calendar, with the year in
`yearDigits` digits. -/
def isTime (yearDigits : Nat) (year : Nat → Int) (digits : List Char) : Bool :=
  let part (start length : Nat) : Nat :=
    (Text.digits? ((digits.drop start).take length)).getD 0
  let y := year (part 0 yearDigits)
  let month := part yearDigits 2
  let day := part (yearDigits + 2) 2
  digits.length == yearDigits + 10 && digits.all Text.isDigit &&
    1 ≤ month && month ≤ 12 && 1 ≤ day && day ≤ Date.daysInMonth y month &&
    part (yearDigits + 4) 2 < 24 && part (yearDigits + 6) 2 < 60 && part (yearDigits + 8) 2 < 60

/-- The year in this century or in the one before that two digits stand for. -/
def fullYear (n : Nat) : Int :=
  if n ≥ 50 then 1900 + n else 2000 + n

/-- Whether bytes are a time with a year of two digits. -/
def isShortTime (bytes : List UInt8) : Bool :=
  let cs := bytes.map fun b => Char.ofNat b.toNat
  cs.length == 13 && cs.getLast? == some 'Z' && isTime 2 fullYear cs.dropLast

/-- Whether bytes are a time with a year of four digits, which may have a sign, and with a fraction
of a second; the point of the fraction may be missing, and so may its digits. -/
def isLongTime (bytes : List UInt8) : Bool :=
  match String.fromUTF8? ⟨bytes.toArray⟩ with
  | none => false
  | some text =>
    let cs := text.toList
    let cs := if cs.contains '.' then cs else cs.take 14 ++ '.' :: cs.drop 14
    let (negative, unsigned) :=
      match cs with
      | '-' :: rest => (true, rest)
      | '+' :: rest => (false, rest)
      | _ => (false, cs)
    let year (n : Nat) : Int := if negative then - (n : Int) else n
    let fraction := (unsigned.drop 15).dropLast
    bytes.length ≥ 15 && isTime 4 year (unsigned.take 14) && unsigned[14]? == some '.' &&
      cs.getLast? == some 'Z' && fraction.all Text.isDigit

/-- The value of a common kind with some content; `items?` reads values inside it. -/
def common? (items? : List UInt8 → Option (List Value)) (number : Nat) (content : List UInt8) :
    Option Value :=
  let accepted (ok : Bool) : Option Value := if ok then some .other else none
  match number with
  | 1 => accepted (content.length == 1)
  | 3 =>
    match content with
    | [] => some (.string [])
    | unused :: bits => if 8 * bits.length < unused.toNat then none else some (.string bits)
  | 4 => some (.string content)
  | 6 => (identifier? content).map .identifier
  | 12 | 20 | 28 | 30 => accepted (isText content)
  | 16 => (items? content).map .sequence
  | 17 => (items? content).map fun _ => .other
  | 19 => accepted (content.all isPrintable)
  | 23 => accepted (isShortTime content)
  | 24 => accepted (isLongTime content)
  | _ => some .other

/-- Reads the values that follow one another, one at least; `fuel` bounds the work. -/
def valuesWithin? : Nat → List UInt8 → Option (List Value)
  | 0, _ => none
  | fuel + 1, bytes => do
    let ((number, kind, _), afterTag) ← tag? bytes
    let (n, body) ← length? afterTag
    guard (n ≤ body.length)
    let value ←
      if kind = 0 then common? (valuesWithin? fuel) number (body.take n) else some Value.other
    match body.drop n with
    | [] => return [value]
    | rest => return value :: (← valuesWithin? fuel rest)

/-- Reads the values of some bytes; there must be one at least. -/
def values? (bytes : List UInt8) : Option (List Value) :=
  valuesWithin? (bytes.length + 1) bytes

mutual

/-- The first of some identifiers in a value, through sequences. -/
def Value.firstOf (known : List (List Nat)) : Value → Option (List Nat)
  | .sequence items => firstOfAll known items
  | .identifier arcs => if known.contains arcs then some arcs else none
  | _ => none

/-- The first of some identifiers in a list of values. -/
def firstOfAll (known : List (List Nat)) : List Value → Option (List Nat)
  | [] => none
  | v :: rest => (v.firstOf known).or (firstOfAll known rest)

end

mutual

/-- The first string of bits or of bytes in a value, through sequences. -/
def Value.firstString? : Value → Option (List UInt8)
  | .sequence items => firstStringOf? items
  | .string content => some content
  | _ => none

/-- The first string in a list of values. -/
def firstStringOf? : List Value → Option (List UInt8)
  | [] => none
  | v :: rest => v.firstString?.or (firstStringOf? rest)

end

end PeriodScaler.Der
