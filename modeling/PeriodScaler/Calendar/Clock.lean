import PeriodScaler.Text.Decimal

/-!
# Times of day

A time of day is a second of the day and a number of nanoseconds. A leap second is the second
before it with a billion nanoseconds or more, so it comes after every other instant of that
second and before the next one.

Model of the library type `NaiveTime`, as far as `parse_clock`, `occurrence` and `to_utc` use it.
-/

namespace PeriodScaler

/-- A time of day; a billion nanoseconds or more stand for a leap second. -/
structure Clock where
  second : Nat
  nano : Nat
  second_lt : second < 86400 := by omega
  nano_lt : nano < 2000000000 := by omega
  deriving DecidableEq, Repr

namespace Clock

instance : Inhabited Clock := ⟨{ second := 0, nano := 0 }⟩

/-- The start of the day. -/
def midnight : Clock :=
  { second := 0, nano := 0 }

/-- The position in the order of times: by second, then by nanosecond. -/
def stamp (c : Clock) : Nat :=
  c.second * 2000000000 + c.nano

instance : LT Clock := ⟨fun a b => a.stamp < b.stamp⟩

instance (a b : Clock) : Decidable (a < b) :=
  inferInstanceAs (Decidable (a.stamp < b.stamp))

/-- The time of an hour, a minute and a second, the second 60 being a leap second. -/
def ofParts? (hour minute second nano : Nat) : Option Clock :=
  if h : hour < 24 ∧ minute < 60 ∧ second ≤ 60 ∧ nano < 1000000000 then
    if hs : second = 60 then
      some { second := hour * 3600 + minute * 60 + 59, nano := 1000000000 + nano }
    else some { second := hour * 3600 + minute * 60 + second, nano := nano }
  else none

/-- The hour of the day. -/
def hour (c : Clock) : Nat :=
  c.second / 3600

/-- The minute of the hour. -/
def minute (c : Clock) : Nat :=
  c.second / 60 % 60

/-- The second of the minute as it is written: a leap second is one more. -/
def writtenSecond (c : Clock) : Nat :=
  c.second % 60 + c.nano / 1000000000

/-- The nanoseconds as they are written, below a billion. -/
def writtenNano (c : Clock) : Nat :=
  c.nano % 1000000000

/-- Hour, minute and second with colons between them. -/
def wholeText (c : Clock) : String :=
  Text.padded 2 c.hour ++ ":" ++ Text.padded 2 c.minute ++ ":" ++ Text.padded 2 c.writtenSecond

/-- The text of a time, with a fraction of three, six or nine digits when there is one. -/
def text (c : Clock) : String :=
  let n := c.writtenNano
  c.wholeText ++
    (if n = 0 then ""
     else if n % 1000000 = 0 then "." ++ Text.padded 3 (n / 1000000)
     else if n % 1000 = 0 then "." ++ Text.padded 6 (n / 1000)
     else "." ++ Text.padded 9 n)

end Clock

end PeriodScaler
