import PeriodScaler.Calendar.Pattern
import PeriodScaler.Calendar.Zone
import PeriodScaler.Period.Declaration

/-!
# Windows

A window is half open: its start belongs to it and its end does not.

A weekly window has one occurrence for each date whose weekday is selected. The occurrence starts on
that date; when its end is not later in the day than its start it ends on the next date, so equal
times make it a full day. At a local time the occurrences of today and yesterday decide whether the
window is open, and otherwise the first one of today and the seven days after that starts later is
the next one.

A single window lies between two instants, the second later than the first.

Model of `parse_days` (`weekdays`, with the loop as `selected`), `parse_clock` (`clock`),
`parse_instant` (`instant`), `to_utc` (`instants`), `occurrence`, `recurring_window`
(`Weekly.window`) and `fixed_window` (`Single.window`). The errors are the texts that `PeriodError`
carries. Nothing is left out.
-/

namespace PeriodScaler

/-- Why a declaration has no window. -/
inductive Flaw where
  | zone (e : ZoneError)
  | noDays
  | unknownWeekday (name : String)
  | clock (raw : String)
  | instant (raw : String)
  | noSuchLocalTime (shown : DateTime) (offset : Offset)
  | endNotAfterStart (endText startText : String)
  | noOccurrence
  | fault (f : Fault)
  /-- A flaw known by its description alone. -/
  | described (reason : String)
  deriving DecidableEq, Repr

namespace Flaw

/-- The description of a flaw. -/
def message : Flaw → String
  | zone (.unsupported z) => "unsupported time zone '" ++ z ++ "', expected a UTC offset"
  | zone (.malformed z) => "invalid UTC offset '" ++ z ++ "'"
  | zone (.outOfRange z) => "UTC offset '" ++ z ++ "' out of range"
  | zone (.fault _) => "the time zone cannot be evaluated"
  | noDays => "days must not be empty"
  | unknownWeekday name => "unknown weekday '" ++ name ++ "'"
  | clock raw => "invalid time of day '" ++ raw ++ "', expected HH:MM"
  | instant raw =>
    "invalid instant '" ++ raw ++ "', expected 'YYYY-MM-DD HH:MM:SS' or RFC 3339"
  | noSuchLocalTime t o =>
    "local time " ++ t.text ++ " does not exist at offset " ++ o.text
  | endNotAfterStart e s => "end time " ++ e ++ " must be after start time " ++ s
  | noOccurrence => "no upcoming occurrence"
  | fault _ => "the window cannot be evaluated"
  | described reason => reason

/-- The fault behind a flaw, if it is one. -/
def fault? : Flaw → Option Fault
  | fault f => some f
  | zone (.fault f) => some f
  | _ => none

end Flaw

/-- A window at some instant: whether it is open, and the start and end of its current or next
occurrence. -/
structure Window where
  active : Bool
  start : Instant
  stop : Instant
  deriving DecidableEq, Repr

namespace Weekly

/-- The weekdays that a list of names selects. The name of all days ends the list. -/
def selected : List String → List Weekday → Except Flaw (List Weekday)
  | [], found => .ok found
  | raw :: rest, found =>
    let name := Text.trimmed raw
    if Text.sameAscii name "all" then .ok Weekday.all
    else
      match Weekday.ofName? name with
      | none => .error (.unknownWeekday name)
      | some d => selected rest (if found.contains d then found else found ++ [d])

/-- The weekdays of a window, of which there must be one. -/
def weekdays (days : List String) : Except Flaw (List Weekday) :=
  if days.isEmpty then .error .noDays else selected days []

/-- The time of day of a text. -/
def clock (raw : String) : Except Flaw Clock :=
  let text := Text.trimmed raw
  match Calendar.clock? text.toList with
  | some c => .ok c
  | none => .error (.clock text)

/-- The local start and end of the occurrence of a date. -/
def occurrence (start stop : Clock) (d : Date) : DateTime × DateTime :=
  (⟨d, start⟩, if start < stop then ⟨d, stop⟩ else ⟨d.addDays 1, stop⟩)

/-- A date that can be represented, else a fault. -/
def checked (d : Date) : Except Flaw Date :=
  if d.inRange then .ok d else .error (.fault .date)

/-- `occurrence` for a date some days away, a fault when it leaves the range of dates. -/
def occurrenceAt (start stop : Clock) (today : Date) (days : Int) :
    Except Flaw (DateTime × DateTime) := do
  let d ← checked (today.addDays days)
  let o := occurrence start stop d
  let _ ← checked o.2.date
  return o

/-- The instants of a local start and end. -/
def instants (o : Offset) (active : Bool) (bounds : DateTime × DateTime) : Except Flaw Window :=
  match o.instant? bounds.1, o.instant? bounds.2 with
  | some start, some stop => .ok ⟨active, start, stop⟩
  | none, _ => .error (.noSuchLocalTime bounds.1 o)
  | _, none => .error (.noSuchLocalTime bounds.2 o)

/-- The first occurrence, among those of the dates `days` away, that satisfies `holds`; dates whose
weekday is not selected have none. -/
def firstOccurrence (start stop : Clock) (selected : List Weekday) (today : Date)
    (holds : DateTime × DateTime → Bool) : List Int → Except Flaw (Option (DateTime × DateTime))
  | [] => .ok none
  | n :: rest => do
    let d ← checked (today.addDays n)
    if selected.contains d.weekday then
      let o ← occurrenceAt start stop today n
      if holds o then return some o
      else firstOccurrence start stop selected today holds rest
    else firstOccurrence start stop selected today holds rest

/-- The window of a weekly timing at an instant. -/
def window (w : Weekly) (o : Offset) (now : Instant) : Except Flaw Window := do
  let selected ← weekdays w.days
  let start ← clock w.startTime
  let stop ← clock w.endTime
  let shown ← (o.localTime now).mapError Flaw.fault
  let current ← firstOccurrence start stop selected shown.date
    (fun (lo, hi) => lo ≤ shown ∧ shown < hi) [0, -1]
  match current with
  | some found => instants o true found
  | none =>
    let next ← firstOccurrence start stop selected shown.date
      (fun (lo, _) => shown < lo) [0, 1, 2, 3, 4, 5, 6, 7]
    match next with
    | some found => instants o false found
    | none => .error .noOccurrence

end Weekly

namespace Single

/-- The instant of a text: in the form of RFC 3339, or a local time at the offset. -/
def instant (raw : String) (o : Offset) : Except Flaw Instant :=
  let text := Text.trimmed raw
  match Calendar.rfc3339? text.toList with
  | some t => .ok t
  | none =>
    match Calendar.dateTime? text.toList with
    | none => .error (.instant text)
    | some t =>
      match o.instant? t with
      | some found => .ok found
      | none => .error (.noSuchLocalTime t o)

/-- The window of a single timing at an instant. -/
def window (w : Single) (o : Offset) (now : Instant) : Except Flaw Window := do
  let start ← instant w.startTime o
  let stop ← instant w.endTime o
  if stop ≤ start then .error (.endNotAfterStart w.endTime w.startTime)
  else return ⟨start ≤ now ∧ now < stop, start, stop⟩

end Single

/-- The window of a timing at an instant. -/
def Timing.window (t : Timing) (now : Instant) : Except Flaw Window := do
  let o ← (Zone.offset t.timeZone).mapError Flaw.zone
  match t with
  | .recurring w => w.window o now
  | .fixed w => w.window o now

end PeriodScaler
