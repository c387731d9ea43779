import PeriodScaler.Calendar.Instant

/-!
# Reading dates and times

A pattern is a sequence of fields and fixed characters. Blanks in front of a field are skipped; a
field takes as many digits as it may, at least one. A year takes up to four digits, or after a sign
any number of them. A blank in a pattern stands for any amount of blanks.

Beside the patterns there is the form of RFC 3339, in which every field but the fraction has a fixed
number of digits and nothing is skipped, and a looser one in which the fields are those of a pattern.

Model of the library's `parse_from_str` for the patterns of `parse_clock` and `parse_instant`, of
`parse_from_rfc3339`, and of the loose `from_str` by which times of metadata are read. Left out: the
fields of patterns that the program does not name.
-/

namespace PeriodScaler.Calendar

open PeriodScaler

/-- One element of a pattern. -/
inductive Item where
  | year | month | day | hour | minute | second
  | exactly (c : Char)
  | blanks
  deriving DecidableEq, Repr

/-- The fields read so far. -/
structure Parts where
  year : Int := 0
  month : Nat := 0
  day : Nat := 0
  hour : Nat := 0
  minute : Nat := 0
  second : Nat := 0
  nano : Nat := 0
  deriving Repr

namespace Parts

/-- The date of the fields, when there is such a date. -/
def date? (p : Parts) : Option Date :=
  Date.ofCivil? ⟨p.year, p.month, p.day⟩

/-- The time of day of the fields, when there is such a time. -/
def clock? (p : Parts) : Option Clock :=
  Clock.ofParts? p.hour p.minute p.second p.nano

/-- Date and time of the fields. -/
def dateTime? (p : Parts) : Option DateTime := do
  return ⟨← p.date?, ← p.clock?⟩

end Parts

/-- A number of `least` to `most` digits, and what follows it. -/
def number? (least most : Nat) (cs : List Char) : Option (Nat × List Char) := do
  let ds := (cs.take most).takeWhile Text.isDigit
  if ds.length < least then none
  else return (← Text.digitsFrom 0 ds, cs.drop ds.length)

/-- A year: up to four digits, or a sign and any number of digits. -/
def year? (cs : List Char) : Option (Int × List Char) :=
  match cs with
  | '-' :: rest => do
    let (n, after) ← number? 1 rest.length rest
    return (-(n : Int), after)
  | '+' :: rest => do
    let (n, after) ← number? 1 rest.length rest
    return (n, after)
  | _ => do
    let (n, after) ← number? 1 4 cs
    return (n, after)

/-- Reads one element. -/
def Item.read? (item : Item) (p : Parts) (cs : List Char) : Option (Parts × List Char) :=
  match item with
  | .exactly c =>
    match cs with
    | d :: rest => if d = c then some (p, rest) else none
    | [] => none
  | .blanks => some (p, Text.trimStart cs)
  | .year => do
    let (n, rest) ← year? (Text.trimStart cs)
    return ({ p with year := n }, rest)
  | .month => do
    let (n, rest) ← number? 1 2 (Text.trimStart cs)
    return ({ p with month := n }, rest)
  | .day => do
    let (n, rest) ← number? 1 2 (Text.trimStart cs)
    return ({ p with day := n }, rest)
  | .hour => do
    let (n, rest) ← number? 1 2 (Text.trimStart cs)
    return ({ p with hour := n }, rest)
  | .minute => do
    let (n, rest) ← number? 1 2 (Text.trimStart cs)
    return ({ p with minute := n }, rest)
  | .second => do
    let (n, rest) ← number? 1 2 (Text.trimStart cs)
    return ({ p with second := n }, rest)

/-- Reads a whole text by a pattern. -/
def readItems? : List Item → Parts → List Char → Option Parts
  | [], p, [] => some p
  | [], _, _ :: _ => none
  | item :: items, p, cs => do
    let (p, rest) ← item.read? p cs
    readItems? items p rest

/-- Hour and minute. -/
def hourMinute : List Item :=
  [.hour, .exactly ':', .minute]

/-- Hour, minute and second. -/
def hourMinuteSecond : List Item :=
  hourMinute ++ [.exactly ':', .second]

/-- Year, month and day. -/
def yearMonthDay : List Item :=
  [.year, .exactly '-', .month, .exactly '-', .day]

/-- A time of day in hours and minutes, or with seconds. -/
def clock? (cs : List Char) : Option Clock :=
  ((readItems? hourMinute {} cs).bind Parts.clock?).or
    ((readItems? hourMinuteSecond {} cs).bind Parts.clock?)

/-- A date and time without an offset: to the second with a blank or a `T` between them, or to
the minute with a blank. -/
def dateTime? (cs : List Char) : Option DateTime :=
  let read (items : List Item) : Option DateTime := (readItems? items {} cs).bind Parts.dateTime?
  ((read (yearMonthDay ++ [.blanks] ++ hourMinuteSecond)).or
    (read (yearMonthDay ++ [.exactly 'T'] ++ hourMinuteSecond))).or
    (read (yearMonthDay ++ [.blanks] ++ hourMinute))

/-- A fraction of a second: at least one digit, those after the ninth without effect. -/
def fraction? (cs : List Char) : Option (Nat × List Char) := do
  let (n, rest) ← number? 1 9 cs
  let places := cs.length - rest.length
  return (n * Nat.pow 10 (9 - places), rest.dropWhile Text.isDigit)

/-- An offset as hours and minutes with a colon, or the letter of UTC; in seconds. A minus sign of
either form makes it negative. -/
def offset? (cs : List Char) : Option (Int × List Char) :=
  match cs with
  | 'Z' :: rest => some (0, rest)
  | 'z' :: rest => some (0, rest)
  | sign :: rest => do
    let factor : Int ←
      if sign = '+' then some 1 else if sign = '-' ∨ sign = '−' then some (-1) else none
    let (hours, rest) ← number? 2 2 rest
    match rest with
    | ':' :: rest =>
      let (minutes, rest) ← number? 2 2 rest
      if minutes < 60 ∧ hours < 24 then
        return (factor * (hours * 3600 + minutes * 60), rest)
      else none
    | _ => none
  | [] => none

/-- Takes one character of a set off a text. -/
def oneOf? (set : List Char) : List Char → Option (List Char)
  | c :: rest => if set.contains c then some rest else none
  | [] => none

/-- The instant of a text in the form of RFC 3339. -/
def rfc3339? (cs : List Char) : Option Instant := do
  let (year, rest) ← number? 4 4 cs
  let (month, rest) ← number? 2 2 (← oneOf? ['-'] rest)
  let (day, rest) ← number? 2 2 (← oneOf? ['-'] rest)
  let (hour, rest) ← number? 2 2 (← oneOf? ['T', 't', ' '] rest)
  let (minute, rest) ← number? 2 2 (← oneOf? [':'] rest)
  let (second, rest) ← number? 2 2 (← oneOf? [':'] rest)
  let (nano, rest) ← match rest with
    | '.' :: rest => fraction? rest
    | rest => some (0, rest)
  let (ahead, rest) ← offset? rest
  if !rest.isEmpty then none
  else
    let parts : Parts :=
      { year := year, month := month, day := day, hour := hour, minute := minute,
        second := second, nano := nano }
    (← Offset.ofSeconds? ahead).instant? (← parts.dateTime?)

/-- The offset at the end of the looser form: the name of UTC, its letter, or hours and minutes with
any number of colons and blanks between them; in seconds. -/
def looseOffset? (cs : List Char) : Option (Int × List Char) :=
  if Text.sameAscii (String.ofList (cs.take 3)) "utc" then some (0, cs.drop 3)
  else
    match cs with
    | 'Z' :: rest => some (0, rest)
    | 'z' :: rest => some (0, rest)
    | sign :: rest => do
      let factor : Int ←
        if sign = '+' then some 1 else if sign = '-' ∨ sign = '−' then some (-1) else none
      let (hours, rest) ← number? 2 2 rest
      let rest := rest.dropWhile fun c => c == ':' || Text.isBlank c
      let (minutes, rest) ← number? 2 2 rest
      if minutes < 60 then return (factor * (hours * 3600 + minutes * 60), rest) else none
    | [] => none

/-- Reads the elements of a pattern at the start of a text. -/
def readStart? : List Item → Parts → List Char → Option (Parts × List Char)
  | [], p, cs => some (p, cs)
  | item :: items, p, cs => do
    let (p, rest) ← item.read? p cs
    readStart? items p rest

/-- The instant of a text in the looser form. -/
def looseInstant? (cs : List Char) : Option Instant := do
  let (date, rest) ←
    readStart? [.year, .blanks, .exactly '-', .month, .blanks, .exactly '-', .day] {} cs
  let (time, rest) ←
    readStart? [.hour, .blanks, .exactly ':', .minute, .blanks, .exactly ':', .second] date
      (← oneOf? ['T', 't', ' '] rest)
  let (nano, rest) ← match rest with
    | '.' :: rest => fraction? rest
    | rest => some (0, rest)
  let (ahead, rest) ← looseOffset? (Text.trimStart rest)
  if !Text.isAllBlank (String.ofList rest) then none
  else
    let parts := { time with nano }
    (← Offset.ofSeconds? ahead).instant? (← parts.dateTime?)

end PeriodScaler.Calendar
