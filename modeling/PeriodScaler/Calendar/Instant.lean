import PeriodScaler.Calendar.Date
import PeriodScaler.Calendar.Span

/-!
# Instants, local times and offsets

A `DateTime` is a date with a time of day, read off some clock. An `Instant` is the date and time
at UTC. An `Offset` is what a local clock is ahead of UTC.

Times are ordered by `stamp`, one integer for date, second and nanosecond, so a leap second stands
between the seconds around it. The time from one instant to another counts a leap second only when
it lies strictly between the two seconds of the day.

Model of the library types `NaiveDateTime`, `DateTime` and `FixedOffset`, with
`signed_duration_since`. Left out: time zones that are no fixed offset.
-/

namespace PeriodScaler

/-- A date with a time of day. -/
structure DateTime where
  date : Date
  clock : Clock
  deriving DecidableEq, Repr, Inhabited

namespace DateTime

/-- The position in the order of times. -/
def stamp (t : DateTime) : Int :=
  t.date.day * (86400 * 2000000000) + t.clock.stamp

instance : LT DateTime := ⟨fun a b => a.stamp < b.stamp⟩

instance : LE DateTime := ⟨fun a b => a.stamp ≤ b.stamp⟩

instance (a b : DateTime) : Decidable (a < b) :=
  inferInstanceAs (Decidable (a.stamp < b.stamp))

instance (a b : DateTime) : Decidable (a ≤ b) :=
  inferInstanceAs (Decidable (a.stamp ≤ b.stamp))

/-- The time some seconds later; the fraction of the second stays, a leap second's too. -/
def addSeconds (t : DateTime) (n : Int) : DateTime :=
  let total : Int := t.clock.second + n
  { date := t.date.addDays (total / 86400)
    clock :=
      { second := (total % 86400).toNat
        nano := t.clock.nano
        second_lt := by omega
        nano_lt := t.clock.nano_lt } }

/-- Whether the date is one that can be represented. -/
def inRange (t : DateTime) : Bool :=
  t.date.inRange

/-- Date and time with a blank between them. -/
def text (t : DateTime) : String :=
  t.date.text ++ " " ++ t.clock.text

end DateTime

/-- A point in time: the date and time at UTC. -/
structure Instant where
  utc : DateTime
  deriving DecidableEq, Repr, Inhabited

namespace Instant

instance : LT Instant := ⟨fun a b => a.utc < b.utc⟩

instance : LE Instant := ⟨fun a b => a.utc ≤ b.utc⟩

instance (a b : Instant) : Decidable (a < b) :=
  inferInstanceAs (Decidable (a.utc < b.utc))

instance (a b : Instant) : Decidable (a ≤ b) :=
  inferInstanceAs (Decidable (a.utc ≤ b.utc))

/-- The nanoseconds from `a` to `b`, negative when `b` is earlier. A leap second counts when the
other time of day lies after it. -/
def nanosFrom (a b : Instant) : Int :=
  let x := a.utc.clock
  let y := b.utc.clock
  let crossed : Int :=
    if y.second > x.second ∧ x.nano ≥ 1000000000 then 1
    else if y.second < x.second ∧ y.nano ≥ 1000000000 then -1
    else 0
  ((b.utc.date.day - a.utc.date.day) * 86400 + ((y.second : Int) - x.second) + crossed) *
    1000000000 + ((y.nano : Int) - x.nano)

/-- The time left from `a` until `b`; none when `b` is over. -/
def remaining (a b : Instant) : Span :=
  ⟨(a.nanosFrom b).toNat⟩

/-- The instant some seconds later; a fault outside the range of dates. -/
def addSeconds (t : Instant) (n : Int) : Except Fault Instant :=
  let moved := t.utc.addSeconds n
  if moved.inRange then .ok ⟨moved⟩ else .error .date

/-- Date and time at UTC with the name of the zone. -/
def text (t : Instant) : String :=
  t.utc.text ++ " UTC"

/-- The form of RFC 3339 in whole seconds. -/
def secondsText (t : Instant) : String :=
  t.utc.date.text ++ "T" ++ t.utc.clock.wholeText ++ "Z"

/-- The form of RFC 3339 with nine digits of nanoseconds. -/
def nanosText (t : Instant) : String :=
  t.utc.date.text ++ "T" ++ t.utc.clock.wholeText ++ "." ++
    Text.padded 9 t.utc.clock.writtenNano ++ "Z"

end Instant

/-- What a local clock is ahead of UTC, less than a day either way. -/
structure Offset where
  seconds : Int
  lower : -86400 < seconds := by omega
  upper : seconds < 86400 := by omega
  deriving DecidableEq, Repr

namespace Offset

/-- The offset of UTC itself. -/
def utc : Offset :=
  { seconds := 0 }

instance : Inhabited Offset := ⟨utc⟩

/-- The offset of so many seconds, when it is less than a day. -/
def ofSeconds? (n : Int) : Option Offset :=
  if h : -86400 < n ∧ n < 86400 then
    some { seconds := n, lower := h.1, upper := h.2 }
  else none

/-- What a clock at this offset shows at an instant; a fault outside the range of dates. -/
def localTime (o : Offset) (t : Instant) : Except Fault DateTime :=
  let shown := t.utc.addSeconds o.seconds
  if shown.inRange then .ok shown else .error .date

/-- The instant at which a clock at this offset shows `t`; none outside the range of dates. -/
def instant? (o : Offset) (t : DateTime) : Option Instant :=
  let moved := t.addSeconds (-o.seconds)
  if moved.inRange then some ⟨moved⟩ else none

/-- Sign, hours and minutes, and seconds when there are any. -/
def text (o : Offset) : String :=
  let n := o.seconds.natAbs
  (if o.seconds < 0 then "-" else "+") ++ Text.padded 2 (n / 3600) ++ ":" ++
    Text.padded 2 (n / 60 % 60) ++
    (if n % 60 = 0 then "" else ":" ++ Text.padded 2 (n % 60))

end Offset

end PeriodScaler
