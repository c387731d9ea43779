import PeriodScaler.Json.Record
import PeriodScaler.Json.Writer
import PeriodScaler.Hash.Sha256

/-!
# Declared periods

A period is declared with a name, the target state it requests and the timing of its window. The
compact JSON text of a declaration is its identity: `fingerprint` is the SHA-256 digest of it.

Model of `PeriodSpec`, `PeriodType`, `PeriodTime`, `RecurringPeriod` and `FixedPeriod` with their
derived forms in JSON, of `fingerprint`, and of `default_restore_period`. `canonicalText` is the
text that `fingerprint` hashes. Nothing is left out.
-/

namespace PeriodScaler

/-- The state that a period requests of the resources. -/
inductive Target where
  /-- Running, or scaled up. -/
  | up
  /-- Stopped, or scaled down. -/
  | down
  /-- Returned to the state before. -/
  | restore
  /-- Left alone. -/
  | noAction
  deriving DecidableEq, Repr, Inhabited

namespace Target

/-- The name in a manifest. -/
def name : Target → String
  | up => "up"
  | down => "down"
  | restore => "restore"
  | noAction => "noaction"

/-- The target of a name in a manifest; three spellings mean that nothing is to be done. -/
def ofName? : String → Option Target
  | "up" => some up
  | "down" => some down
  | "restore" => some restore
  | "noaction" => some noAction
  | "noAction" => some noAction
  | "no-action" => some noAction
  | _ => none

/-- The JSON form. -/
def toJson (t : Target) : Json :=
  .text t.name

/-- Reads the JSON form. -/
def ofJson? (j : Json) : Option Target := do
  ofName? (← j.bareName?)

@[simp] theorem ofName?_name (t : Target) : ofName? t.name = some t := by
  cases t <;> rfl

end Target

/-- A window that repeats on chosen weekdays, between two times of day. -/
structure Weekly where
  days : List String
  startTime : String
  endTime : String
  once : Bool
  timeZone : Option String
  deriving DecidableEq, Repr

/-- A window between two instants. -/
structure Single where
  startTime : String
  endTime : String
  once : Bool
  timeZone : Option String
  deriving DecidableEq, Repr

/-- When a declared period is active: exactly one of two kinds of window. -/
inductive Timing where
  | recurring (w : Weekly)
  | fixed (w : Single)
  deriving DecidableEq, Repr

/-- The field of an optional text, left out when there is none. -/
def optionalText (name : String) : Option String → List (String × Json)
  | none => []
  | some s => [(name, .text s)]

namespace Weekly

/-- The JSON form. -/
def toJson (w : Weekly) : Json :=
  .object ([("days", Json.ofTexts w.days), ("startTime", .text w.startTime),
    ("endTime", .text w.endTime), ("once", .bool w.once)] ++ optionalText "timeZone" w.timeZone)

/-- Reads the JSON form. -/
def ofJson? (j : Json) : Option Weekly := do
  let r ← j.record? ["days", "startTime", "endTime", "once", "timeZone"]
  return {
    days := ← r.required "days" Json.texts?
    startTime := ← r.required "startTime" Json.text?
    endTime := ← r.required "endTime" Json.text?
    once := ← r.withDefault "once" false Json.bool?
    timeZone := ← r.optional "timeZone" Json.text? }

end Weekly

namespace Single

/-- The JSON form. -/
def toJson (w : Single) : Json :=
  .object ([("startTime", .text w.startTime), ("endTime", .text w.endTime),
    ("once", .bool w.once)] ++ optionalText "timeZone" w.timeZone)

/-- Reads the JSON form. -/
def ofJson? (j : Json) : Option Single := do
  let r ← j.record? ["startTime", "endTime", "once", "timeZone"]
  return {
    startTime := ← r.required "startTime" Json.text?
    endTime := ← r.required "endTime" Json.text?
    once := ← r.withDefault "once" false Json.bool?
    timeZone := ← r.optional "timeZone" Json.text? }

end Single

namespace Timing

/-- Whether the period is to run at most once per declaration. -/
def once : Timing → Bool
  | recurring w => w.once
  | fixed w => w.once

/-- The time zone text, if any. -/
def timeZone : Timing → Option String
  | recurring w => w.timeZone
  | fixed w => w.timeZone

/-- The JSON form. -/
def toJson : Timing → Json
  | recurring w => .object [("recurring", w.toJson)]
  | fixed w => .object [("fixed", w.toJson)]

/-- Reads the JSON form. -/
def ofJson? (j : Json) : Option Timing :=
  match j.alternative? with
  | some ("recurring", some content) => (Weekly.ofJson? content).map recurring
  | some ("fixed", some content) => (Single.ofJson? content).map fixed
  | _ => none

end Timing

/-- A declared period. -/
structure Declaration where
  name : String
  target : Target
  timing : Timing
  deriving DecidableEq, Repr

namespace Declaration

/-- The JSON form. -/
def toJson (d : Declaration) : Json :=
  .object [("name", .text d.name), ("type", d.target.toJson), ("time", d.timing.toJson)]

/-- Reads the JSON form. -/
def ofJson? (j : Json) : Option Declaration := do
  let r ← j.record? ["name", "type", "time"]
  return {
    name := ← r.withDefault "name" "" Json.text?
    target := ← r.required "type" Target.ofJson?
    timing := ← r.required "time" Timing.ofJson? }

/-- The compact text that identifies a declaration. -/
def canonicalText (d : Declaration) : String :=
  d.toJson.compact

/-- The digest of a declaration, the same for each occurrence of its window. -/
def fingerprint (d : Declaration) : String :=
  Sha256.hex d.canonicalText

/-- The name of the period that applies when no declared one does. -/
def defaultRestoreName : String := "default-restore"

/-- The period that applies when no declared one does: restore, every day, around the clock. -/
def defaultRestore : Declaration where
  name := defaultRestoreName
  target := .restore
  timing := .recurring
    { days := ["all"], startTime := "00:00", endTime := "00:00", once := false, timeZone := none }

end Declaration

end PeriodScaler
