import PeriodScaler.Calendar.Instant

/-!
# Time zone texts

A time zone is written as an offset from UTC: `UTC`, `GMT` or `Z`, or a sign with hours, with four
digits for hours and minutes, or with a colon between them, and `UTC` or `GMT` may stand in front.
A text is taken without the blanks around it and in upper case.

Hours and minutes are signed numbers of 32 bits, and so is the number of seconds made of them, which
wraps around. Four bytes of digits are cut after the second byte; a cut inside a character is a
fault.

Model of `parse_offset`: `cut` is its split at the second byte, `signed` what follows the sign, and
`offset` the whole. Nothing is left out.
-/

namespace PeriodScaler

/-- Why a text names no offset; each cause holds the text that was considered. -/
inductive ZoneError where
  | unsupported (zone : String)
  | malformed (zone : String)
  | outOfRange (zone : String)
  | fault (f : Fault)
  deriving DecidableEq, Repr

namespace Zone

/-- The text that counts: without blanks around it, ASCII letters in upper case. -/
def normal (s : String) : String :=
  Text.upperAscii (Text.trimmed s)

/-- Hours and minutes of a part after the sign. -/
inductive Cut where
  | parts (hours minutes : List Char)
  | insideCharacter

/-- Cuts a text after `n` bytes, when a character ends there. -/
def cutBytes? : Nat → List Char → Option (List Char × List Char)
  | 0, cs => some ([], cs)
  | _ + 1, [] => none
  | n + 1, c :: cs =>
    if c.utf8Size ≤ n + 1 then
      (cutBytes? (n + 1 - c.utf8Size) cs).map fun (before, after) => (c :: before, after)
    else none
termination_by _ cs => cs.length

/-- The number of bytes of a text. -/
def byteLength (cs : List Char) : Nat :=
  cs.foldr (fun c n => c.utf8Size + n) 0

/-- Cuts the part after the sign into hours and minutes. -/
def cut (cs : List Char) : Cut :=
  match Text.splitOnce? [':'] cs with
  | some (hours, minutes) => .parts hours minutes
  | none =>
    if byteLength cs = 4 then
      match cutBytes? 2 cs with
      | some (hours, minutes) => .parts hours minutes
      | none => .insideCharacter
    else .parts cs ['0']

/-- The number of 32 bits that a whole number wraps around to. -/
def wrap32 (n : Int) : Int :=
  Int.bmod n 4294967296

/-- The offset of a sign and the part after it. -/
def signed (zone : String) (sign : Int) (cs : List Char) : Except ZoneError Offset :=
  match cut cs with
  | .insideCharacter => .error (.fault .cut)
  | .parts hours minutes =>
    match Text.int32? hours, Text.int32? minutes with
    | some h, some m =>
      if h > 14 ∨ m ≥ 60 then .error (.outOfRange zone)
      else
        match Offset.ofSeconds? (wrap32 (sign * wrap32 (h * 3600 + m * 60))) with
        | some o => .ok o
        | none => .error (.outOfRange zone)
    | _, _ => .error (.malformed zone)

/-- The offset that a text names; UTC when there is no text. -/
def offset (zone : Option String) : Except ZoneError Offset :=
  let raw := normal (zone.getD "")
  let cs := raw.toList
  let rest := (((Text.dropLead? "UTC".toList cs).or (Text.dropLead? "GMT".toList cs))).getD cs
  match rest with
  | [] => .ok .utc
  | ['Z'] => .ok .utc
  | '+' :: part => signed raw 1 part
  | '-' :: part => signed raw (-1) part
  | _ => .error (.unsupported raw)

end Zone

end PeriodScaler
