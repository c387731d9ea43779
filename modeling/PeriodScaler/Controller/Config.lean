import PeriodScaler.Controller.Address
import PeriodScaler.Cycle.Reconcile

/-!
# Configuration

The settings of a controller, read from named variables. Variables are read in a fixed order, and
the first one that does not make sense is the error.

Model of `ControllerConfig` with `from_lookup` (`load`), of `seconds`, `positive_seconds` and
`parse_number`, and of `ControllerError`. Nothing is left out.
-/

namespace PeriodScaler

/-- Errors of a controller. -/
inductive ControllerError where
  | cluster
  | cycle (e : CycleError)
  | invalidConfig (reason : String)
  | watch (reason : String)
  deriving DecidableEq, Repr

namespace ControllerError

/-- The text of an error. -/
def message : ControllerError → String
  | cluster => "Kubernetes error"
  | cycle e => "Reconciliation failed: " ++ e.message
  | invalidConfig reason => "Invalid configuration: " ++ reason
  | watch reason => "Resource watch failed: " ++ reason

end ControllerError

/-- The settings of a controller. -/
structure Config where
  settings : Settings
  /-- The namespace to watch; all of them when there is none. -/
  namespaceName : Option String
  metricsAddress : SocketAddress
  deriving DecidableEq, Repr

namespace Config

/-- The values of variables. -/
abbrev Lookup := String → Option String

/-- Where metrics are served unless another address is named. -/
def defaultAddress : String := "0.0.0.0:8080"

/-- The number of a variable, blanks around it left out. -/
def number (hi : Nat) (name raw : String) : Except ControllerError Nat :=
  match Text.nat? hi (Text.trim raw.toList) with
  | some n => .ok n
  | none =>
    .error (.invalidConfig (name ++ " must be a non-negative integer, got '" ++ raw ++ "'"))

/-- The seconds of a variable. -/
def seconds (lookup : Lookup) (name : String) (default : Span) : Except ControllerError Span :=
  match lookup name with
  | none => .ok default
  | some raw => (number Text.maxWord64 name raw).map Span.ofSeconds

/-- The error of a number that must not be zero. -/
def atLeastOne (name : String) : ControllerError :=
  .invalidConfig (name ++ " must be at least 1")

/-- The seconds of a variable, at least one. -/
def positiveSeconds (lookup : Lookup) (name : String) (default : Span) :
    Except ControllerError Span := do
  let value ← seconds lookup name default
  if value.isZero then .error (atLeastOne name) else return value

/-- The settings that some variables give. -/
def load (lookup : Lookup) : Except ControllerError Config := do
  let steady ← positiveSeconds lookup "STEADY_REQUEUE_SECONDS" Settings.standard.steady
  let afterError ← positiveSeconds lookup "ERROR_REQUEUE_SECONDS" Settings.standard.afterError
  let grace ← seconds lookup "RUN_ONCE_GRACE_SECONDS" Settings.standard.grace
  let attempts ← match lookup "STATUS_UPDATE_RETRIES" with
    | none => pure Settings.standard.attempts
    | some raw => number Text.maxWord32 "STATUS_UPDATE_RETRIES" raw
  if attempts = 0 then .error (atLeastOne "STATUS_UPDATE_RETRIES")
  else
    let raw := (lookup "METRICS_ADDR").getD defaultAddress
    match SocketAddress.ofText? raw with
    | none =>
      .error (.invalidConfig ("METRICS_ADDR '" ++ raw ++ "': invalid socket address syntax"))
    | some address =>
      return {
        settings := ⟨steady, afterError, grace, attempts⟩
        namespaceName := (lookup "WATCH_NAMESPACE").filter fun name => !Text.isAllBlank name
        metricsAddress := address }

end Config

end PeriodScaler
