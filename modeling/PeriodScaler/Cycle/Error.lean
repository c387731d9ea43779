import PeriodScaler.Period.Resolution
import PeriodScaler.Scaler.Object

/-!
# Errors of a cycle

The causes for which a cycle fails, and the severity that decides when the next one runs: after a
critical error the back-off of the Scaler applies, after a recoverable one a short delay. A cause
without a stated severity is critical, cancellation excepted.

Model of `GcpError` (`ComputeError`), `ScalerError` (`Cause`, with its `StatePart`), and
`ReconcileError` (`CycleError`) with `critical`, `recoverable`, `is_recoverable` and the conversion
from a cause (`ofCause`). What a library tells about its own failures is a text here.
-/

namespace PeriodScaler

/-- Errors of the service for instances. -/
inductive ComputeError where
  /-- The request was not answered, or not with what was expected. -/
  | http
  | api (text : String)
  | serialization
  | authentication (text : String)
  | notFound (text : String)
  | invalidRequest (text : String)
  | fault (f : Fault)
  deriving DecidableEq, Repr

namespace ComputeError

/-- The text of an error. -/
def message : ComputeError → String
  | http => "HTTP error"
  | api text => "Compute API error: " ++ text
  | serialization => "Serialization error"
  | authentication text => "Authentication failed: " ++ text
  | notFound text => "Not found: " ++ text
  | invalidRequest text => "Invalid request: " ++ text
  | fault _ => "the request cannot be evaluated"

end ComputeError

/-- The parts of a cycle's state that a later stage needs. -/
inductive StatePart where
  | scaler
  | provider
  | resolution
  | named (text : String)
  deriving DecidableEq, Repr

namespace StatePart

/-- The name of the part. -/
def name : StatePart → String
  | scaler => "scaler"
  | provider => "provider handle"
  | resolution => "resolved period"
  | named text => text

end StatePart

/-- Why a cycle fails, or an item or a kind of resources in it. -/
inductive Cause where
  /-- The cluster did not answer as expected. -/
  | cluster
  | notFound (what : String)
  | period (e : PeriodError)
  | auth (reason : String)
  | compute (e : ComputeError)
  | conflict (what : String)
  | kindNotFound (kind : String) (provider : Provider)
  | missingState (part : StatePart)
  | cancelled
  | invalidConfig (reason : String)
  | fault (f : Fault)
  deriving DecidableEq, Repr

namespace Cause

/-- The text of a cause. -/
def message : Cause → String
  | cluster => "Kubernetes error"
  | notFound what => "Not found: " ++ what
  | period e => e.message
  | auth reason => "Authentication failed: " ++ reason
  | compute e => "GCP error: " ++ e.message
  | conflict what => "Conflict updating " ++ what
  | kindNotFound kind provider =>
    "resource kind '" ++ kind ++ "' not found for provider " ++ provider.name
  | missingState part => "Missing reconcile state: " ++ part.name
  | cancelled => "Operation cancelled"
  | invalidConfig reason => "Invalid configuration: " ++ reason
  | fault _ => "the cycle cannot be evaluated"

/-- Whether a write was refused because the object had changed. -/
def isConflict : Cause → Bool
  | conflict _ => true
  | _ => false

/-- The fault behind a cause, if there is one. -/
def fault? : Cause → Option Fault
  | fault f => some f
  | period e => e.fault?
  | compute (.fault f) => some f
  | _ => none

end Cause

/-- How a failed cycle is followed up. -/
inductive Severity where
  | critical
  | recoverable
  deriving DecidableEq, Repr

/-- The word for a severity. -/
def Severity.name : Severity → String
  | .critical => "critical"
  | .recoverable => "recoverable"

/-- A failed cycle. -/
structure CycleError where
  severity : Severity
  cause : Cause
  deriving DecidableEq, Repr

namespace CycleError

/-- A failure after which the back-off applies. -/
def critical (c : Cause) : CycleError := ⟨.critical, c⟩

/-- A failure that is tried again soon. -/
def recoverable (c : Cause) : CycleError := ⟨.recoverable, c⟩

/-- The severity of a cause for which none was stated. -/
def ofCause (c : Cause) : CycleError :=
  match c with
  | .cancelled => recoverable c
  | other => critical other

/-- The text of a failure. -/
def message (e : CycleError) : String :=
  e.severity.name ++ ": " ++ e.cause.message

/-- Whether the failure is tried again soon. -/
def isRecoverable (e : CycleError) : Bool :=
  e.severity == .recoverable

end CycleError

end PeriodScaler
