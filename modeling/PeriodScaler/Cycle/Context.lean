import PeriodScaler.Scaling.Report

/-!
# The state of a cycle

What a cycle knows so far, handed from stage to stage. The delay after which the next cycle should
run is decided once: the first request for a delay that is not zero counts, and later ones do not.

Model of `ReconcileContext` with `request_requeue`, `scaler` (`fetched`), `restore_requested` and
`finalize_without_restore` (`leavesResources`). The cancellation token is not here but with the
calls.
-/

namespace PeriodScaler

/-- The state of one cycle. -/
structure Context where
  key : Key
  now : Instant
  scaler : Option Scaler
  access : Option Access
  resolution : Option Resolution
  selection : Option Selection
  report : Report
  /-- Whether cleanup before a deletion is under way. -/
  finalizing : Bool
  requeue : Option Span
  deriving DecidableEq, Repr

namespace Context

/-- The state at the start of a cycle. -/
def start (key : Key) (now : Instant) : Context :=
  { key, now, scaler := none, access := none, resolution := none, selection := none,
    report := .empty, finalizing := false, requeue := none }

/-- Asks for the next cycle after a delay; says whether that counts. -/
def requestRequeue (delay : Span) (c : Context) : Bool × Context :=
  if delay.isZero || c.requeue.isSome then (false, c) else (true, { c with requeue := some delay })

/-- The state after a request for the next cycle. -/
def requeueAfter (delay : Span) (c : Context) : Context :=
  (c.requestRequeue delay).2

/-- The Scaler of the cycle, which an earlier stage must have fetched. -/
def fetched (c : Context) : Except Cause Scaler :=
  match c.scaler with
  | some s => .ok s
  | none => .error (.missingState .scaler)

/-- Whether the resources are to be restored because the Scaler goes away. -/
def restoreRequested (c : Context) : Bool :=
  c.finalizing && c.scaler.any fun s => s.spec.restoreOnDelete

/-- Whether the Scaler goes away and the resources stay as they are. -/
def leavesResources (c : Context) : Bool :=
  c.finalizing && !c.restoreRequested

end Context

end PeriodScaler
