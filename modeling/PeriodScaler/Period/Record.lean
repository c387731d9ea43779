import PeriodScaler.Period.Declaration

/-!
# What a scaling pass leaves behind

The period that a pass applied, with the items it converged and those it could not. The record in a
status is all that the next pass knows of earlier ones.

Model of `CurrentPeriod`, `ScalingSuccess` and `ScalingFailure` with their derived forms in JSON,
and of `summarize`. Nothing is left out.
-/

namespace PeriodScaler

/-- An item that is in the requested state. -/
structure Success where
  kind : String
  name : String
  comment : String
  deriving DecidableEq, Repr

/-- An item that could not be brought to the requested state; the name `*` stands for a whole
kind. -/
structure Failure where
  kind : String
  name : String
  reason : String
  deriving DecidableEq, Repr

/-- The applied period with the outcome for each item. -/
structure PassRecord where
  name : String
  target : Target
  fingerprint : String
  successful : List Success
  failed : List Failure
  deriving DecidableEq, Repr

namespace Success

/-- The JSON form. -/
def toJson (s : Success) : Json :=
  .object [("kind", .text s.kind), ("name", .text s.name), ("comment", .text s.comment)]

/-- Reads the JSON form. -/
def ofJson? (j : Json) : Option Success := do
  let r ← j.record? ["kind", "name", "comment"]
  return {
    kind := ← r.required "kind" Json.text?
    name := ← r.required "name" Json.text?
    comment := ← r.withDefault "comment" "" Json.text? }

end Success

namespace Failure

/-- The JSON form. -/
def toJson (f : Failure) : Json :=
  .object [("kind", .text f.kind), ("name", .text f.name), ("reason", .text f.reason)]

/-- Reads the JSON form. -/
def ofJson? (j : Json) : Option Failure := do
  let r ← j.record? ["kind", "name", "reason"]
  return {
    kind := ← r.required "kind" Json.text?
    name := ← r.required "name" Json.text?
    reason := ← r.withDefault "reason" "" Json.text? }

end Failure

namespace PassRecord

/-- The JSON form. -/
def toJson (p : PassRecord) : Json :=
  .object [("name", .text p.name), ("type", p.target.toJson),
    ("specFingerprint", .text p.fingerprint),
    ("successful", .array (p.successful.map Success.toJson)),
    ("failed", .array (p.failed.map Failure.toJson))]

/-- Reads the JSON form. -/
def ofJson? (j : Json) : Option PassRecord := do
  let r ← j.record? ["name", "type", "specFingerprint", "successful", "failed"]
  return {
    name := ← r.withDefault "name" "" Json.text?
    target := ← r.withDefault "type" .restore Target.ofJson?
    fingerprint := ← r.withDefault "specFingerprint" "" Json.text?
    successful := ← r.withDefault "successful" [] (Json.list? Success.ofJson?)
    failed := ← r.withDefault "failed" [] (Json.list? Failure.ofJson?) }

/-- One line on the outcome. -/
def summary (p : PassRecord) : String :=
  "Period '" ++ p.name ++ "' (" ++ p.target.name ++ "): " ++ Text.ofNat p.successful.length ++
    " succeeded, " ++ Text.ofNat p.failed.length ++ " failed"

end PassRecord

end PeriodScaler
