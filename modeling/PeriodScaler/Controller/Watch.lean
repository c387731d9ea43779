import PeriodScaler.Controller.Backoff
import PeriodScaler.Controller.Config
import PeriodScaler.Controller.Metrics

/-!
# Watching Scalers

What follows a cycle. A cycle that did not fail is counted, the failures of its Scaler are
forgotten, and the next one runs when the cycle asked for it, or on a change alone. A failed one is
counted by its severity; a recoverable failure is tried again after a fixed delay, any other one
after the back-off of its Scaler.

Model of `WatchContext`, `action_for` (`Action.ofRequest`), `reconcile` (`onCycle`, which is given
the result of the cycle and how long it took) and `error_policy` (`onError`). Left out:
`watch_scalers`, which hands both to the controller of a library, with its queue and its clock.
-/

namespace PeriodScaler

/-- When the next cycle of a Scaler runs. -/
inductive Action where
  | awaitChange
  | requeue (delay : Span)
  deriving DecidableEq, Repr

/-- The action for a requested delay. -/
def Action.ofRequest : Option Span → Action
  | none => awaitChange
  | some delay => requeue delay

/-- What a watcher keeps from cycle to cycle. -/
structure Watcher where
  settings : Settings
  metrics : Metrics
  tracker : Tracker
  deriving Repr

namespace Watcher

/-- The shortest delay after a critical failure. -/
def shortestBackoff : Span := .ofSeconds 30

/-- The longest delay after a critical failure. -/
def longestBackoff : Span := .ofSeconds 600

/-- A watcher that has seen no cycle. -/
def start (settings : Settings) (shortest longest : Span) : Watcher :=
  ⟨settings, .empty, .empty shortest longest⟩

/-- Takes note of a finished cycle. -/
def onCycle (key : Key) (elapsed : Span) (result : Except CycleError Outcome) (w : Watcher) :
    Except ControllerError Action × Watcher :=
  match result with
  | .ok o =>
    (.ok (.ofRequest o.requeue),
      { w with
        metrics := w.metrics.recordSuccess o.report elapsed
        tracker := w.tracker.onSuccess key })
  | .error e =>
    (.error (.cycle e), { w with metrics := w.metrics.recordFailure e.severity elapsed })

/-- Decides what follows a failure. -/
def onError (key : Key) (e : ControllerError) (w : Watcher) : Except Fault (Action × Watcher) :=
  let backOff : Except Fault (Action × Watcher) := do
    let (delay, tracker) ← w.tracker.onFailure key
    return (.requeue delay, { w with tracker })
  match e with
  | .cycle c => if c.isRecoverable then .ok (.requeue w.settings.afterError, w) else backOff
  | _ => backOff

end Watcher

end PeriodScaler
