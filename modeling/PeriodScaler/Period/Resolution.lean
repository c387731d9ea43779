import PeriodScaler.Period.Record
import PeriodScaler.Period.Window

/-!
# Which period applies

Declared periods are evaluated in their order and the first active one applies; without one the
default restore period does, and a request to restore puts it before all others. A declaration that
has no window ends the search, so nothing after it matters.

A period that is to run once does not apply again while the record of the last pass has its
fingerprint.

Model of `Period` with `from_spec` (`evaluate`), `rerun_delay` and `snapshot`, of `Resolution` with
`is_noaction_steady_state` (`isIdle`) and `period_changed` (`isChange`), of `PeriodError`, and of
`resolve`, whose loop over the declarations is `firstActive`. Nothing is left out.
-/

namespace PeriodScaler

/-- A declared period evaluated at an instant. -/
structure Period where
  name : String
  target : Target
  window : Window
  once : Bool
  fingerprint : String
  deriving DecidableEq, Repr

/-- Why no period applies. -/
inductive PeriodError where
  /-- The period that would apply is to run once and has run. -/
  | alreadyRun (p : Period)
  /-- A declaration has no window. -/
  | invalid (name : String) (flaw : Flaw)
  deriving DecidableEq, Repr

namespace PeriodError

/-- The text of an error. -/
def message : PeriodError → String
  | alreadyRun p =>
    "one-shot period '" ++ p.name ++ "' already ran; its window ends at " ++ p.window.stop.text
  | invalid name flaw => "invalid period '" ++ name ++ "': " ++ flaw.message

/-- The fault behind an error, if there is one. -/
def fault? : PeriodError → Option Fault
  | alreadyRun _ => none
  | invalid _ flaw => flaw.fault?

end PeriodError

namespace Period

/-- Evaluates a declaration at an instant. -/
def evaluate (d : Declaration) (now : Instant) : Except PeriodError Period :=
  match d.timing.window now with
  | .ok w => .ok ⟨d.name, d.target, w, d.timing.once, d.fingerprint⟩
  | .error flaw => .error (.invalid d.name flaw)

/-- How long to wait before a period that ran once is looked at again: the time left in its window,
and a grace after it. -/
def rerunDelay (p : Period) (now : Instant) (grace : Span) : Except Fault Span :=
  (now.remaining p.window.stop).add grace

/-- The record of this period before any item is processed. -/
def snapshot (p : Period) : PassRecord :=
  ⟨p.name, p.target, p.fingerprint, [], []⟩

/-- Whether the last pass left the fingerprint of this period. -/
def isRecorded (p : Period) (previous : Option PassRecord) : Bool :=
  previous.any fun r => r.fingerprint == p.fingerprint

end Period

/-- The period that applies, with the records before and after. -/
structure Resolution where
  period : Period
  previous : Option PassRecord
  next : PassRecord
  deriving DecidableEq, Repr

namespace Resolution

/-- Whether nothing was to be done before and nothing is now. -/
def isIdle (r : Resolution) : Bool :=
  r.period.target == .noAction && r.previous.any fun p => p.target == .noAction

/-- Whether the period differs from the recorded one. -/
def isChange (r : Resolution) : Bool :=
  r.previous.all fun p => p.fingerprint != r.next.fingerprint

end Resolution

/-- The first active period of a list, if any. -/
def firstActive (now : Instant) : List Declaration → Except PeriodError (Option Period)
  | [] => .ok none
  | d :: rest => do
    let p ← Period.evaluate d now
    if p.window.active then return some p else firstActive now rest

/-- The period that applies at an instant. -/
def resolve (periods : List Declaration) (previous : Option PassRecord) (restoreRequested : Bool)
    (now : Instant) : Except PeriodError Resolution := do
  let restore ← Period.evaluate .defaultRestore now
  let period ←
    if restoreRequested then pure restore
    else (firstActive now periods).map fun found => found.getD restore
  if period.once && period.isRecorded previous then .error (.alreadyRun period)
  else .ok ⟨period, previous, period.snapshot⟩

end PeriodScaler
