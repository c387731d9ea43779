import PeriodScaler.Text.Decimal

/-!
# Dates

Dates of the proleptic Gregorian calendar, counted in days from 1 January 1970. The dates in range
are those of the years -262143 to 262142; arithmetic is on all integers and `inRange` says where a
result counts.

Model of the library types `NaiveDate` and `Weekday`, as far as windows use them.
-/

namespace PeriodScaler

/-- A day of the week. -/
inductive Weekday where
  | monday | tuesday | wednesday | thursday | friday | saturday | sunday
  deriving DecidableEq, Repr, Inhabited

namespace Weekday

/-- The weekdays from Monday on. -/
def all : List Weekday :=
  [monday, tuesday, wednesday, thursday, friday, saturday, sunday]

/-- The weekday at a position of the week, Monday being at zero. -/
def ofIndex : Nat → Weekday
  | 0 => monday
  | 1 => tuesday
  | 2 => wednesday
  | 3 => thursday
  | 4 => friday
  | 5 => saturday
  | _ => sunday

/-- The full English name in lower case. -/
def name : Weekday → String
  | monday => "monday"
  | tuesday => "tuesday"
  | wednesday => "wednesday"
  | thursday => "thursday"
  | friday => "friday"
  | saturday => "saturday"
  | sunday => "sunday"

/-- The weekday of an English name, in full or cut to three letters, in any ASCII case. -/
def ofName? (s : String) : Option Weekday :=
  let given := Text.lowerAscii s
  all.find? fun d => given == d.name || given == String.ofList (d.name.toList.take 3)

end Weekday

/-- A date, as the number of days after 1 January 1970. -/
structure Date where
  day : Int
  deriving DecidableEq, Repr, Inhabited

namespace Date

/-- The date some days later. -/
def addDays (d : Date) (n : Int) : Date :=
  ⟨d.day + n⟩

/-- The day of the week; the count starts on a Thursday. -/
def weekday (d : Date) : Weekday :=
  Weekday.ofIndex ((d.day + 3) % 7).toNat

/-- Year, month and day of the month, as the calendar writes a date. -/
structure Civil where
  year : Int
  month : Nat
  dayOfMonth : Nat
  deriving DecidableEq, Repr

/-- Whether a year has 29 February. -/
def isLeapYear (year : Int) : Bool :=
  year % 4 == 0 && (year % 100 != 0 || year % 400 == 0)

/-- The number of days of a month. -/
def daysInMonth (year : Int) (month : Nat) : Nat :=
  if month = 2 then (if isLeapYear year then 29 else 28)
  else if month = 4 ∨ month = 6 ∨ month = 9 ∨ month = 11 then 30
  else 31

/-- The day count of a civil date. Years are counted from March, in eras of 400 years, so that the
leap day ends a year. -/
def dayCount (c : Civil) : Int :=
  let y := if c.month ≤ 2 then c.year - 1 else c.year
  let era := y / 400
  let yearOfEra := y % 400
  let monthFromMarch : Int := if c.month ≤ 2 then c.month + 9 else c.month - 3
  let dayOfYear := (153 * monthFromMarch + 2) / 5 + c.dayOfMonth - 1
  let dayOfEra := yearOfEra * 365 + yearOfEra / 4 - yearOfEra / 100 + dayOfYear
  era * 146097 + dayOfEra - 719468

/-- The civil form of a date. -/
def civil (d : Date) : Civil :=
  let z := d.day + 719468
  let era := z / 146097
  let dayOfEra := z % 146097
  let yearOfEra :=
    (dayOfEra - dayOfEra / 1460 + dayOfEra / 36524 - dayOfEra / 146096) / 365
  let dayOfYear := dayOfEra - (365 * yearOfEra + yearOfEra / 4 - yearOfEra / 100)
  let monthFromMarch := (5 * dayOfYear + 2) / 153
  let month := if monthFromMarch < 10 then monthFromMarch + 3 else monthFromMarch - 9
  { year := yearOfEra + era * 400 + (if month ≤ 2 then 1 else 0)
    month := month.toNat
    dayOfMonth := (dayOfYear - (153 * monthFromMarch + 2) / 5 + 1).toNat }

/-- The first date in range, 1 January -262143. -/
def first : Date := ⟨-96465292⟩

/-- The last date in range, 31 December 262142. -/
def last : Date := ⟨95026236⟩

/-- Whether a date is one that can be represented. -/
def inRange (d : Date) : Bool :=
  first.day ≤ d.day && d.day ≤ last.day

/-- The date of a civil date that exists and is in range. -/
def ofCivil? (c : Civil) : Option Date :=
  if 1 ≤ c.month ∧ c.month ≤ 12 ∧ 1 ≤ c.dayOfMonth ∧ c.dayOfMonth ≤ daysInMonth c.year c.month then
    let d : Date := ⟨dayCount c⟩
    if d.inRange then some d else none
  else none

/-- The text of a year: four digits, with a sign outside 0 to 9999. -/
def yearText (year : Int) : String :=
  if 0 ≤ year ∧ year ≤ 9999 then Text.padded 4 year.toNat
  else if year < 0 then "-" ++ Text.padded 4 (-year).toNat
  else "+" ++ Text.padded 4 year.toNat

/-- The text of a date, with dashes between year, month and day. -/
def text (d : Date) : String :=
  let c := d.civil
  yearText c.year ++ "-" ++ Text.padded 2 c.month ++ "-" ++ Text.padded 2 c.dayOfMonth

example : (dayCount ⟨-262143, 1, 1⟩, dayCount ⟨262142, 12, 31⟩) = (first.day, last.day) := by
  decide

example : first.civil = ⟨-262143, 1, 1⟩ ∧ last.civil = ⟨262142, 12, 31⟩ := by decide

example : (Date.mk (dayCount ⟨2024, 6, 3⟩)).weekday = .monday := by decide

@[simp] theorem addDays_day (d : Date) (n : Int) : (d.addDays n).day = d.day + n := rfl

end Date

end PeriodScaler
