import PeriodScaler.Cycle.Stages

/-!
# Cycles

A cycle runs the six stages for one Scaler at one instant. Its outcome says when the next cycle
should run, which stage ended this one early, which period applied and what became of the items.

Model of `EngineConfig` (`Settings`), `ReconcileOutcome` (`Outcome`) and `ScalerEngine` with
`stages` and `reconcile`. Left out: the messages to the log.
-/

namespace PeriodScaler

/-- The times and bounds that the stages use. -/
structure Settings where
  /-- Until the next regular cycle. -/
  steady : Span
  /-- Until the next cycle after a recoverable failure. -/
  afterError : Span
  /-- Beyond the window of a period that ran once, before it is looked at again. -/
  grace : Span
  /-- Attempts to write a Scaler. -/
  attempts : Nat
  deriving DecidableEq, Repr

namespace Settings

/-- The settings where nothing else is said. -/
def standard : Settings where
  steady := .ofSeconds 300
  afterError := .ofSeconds 30
  grace := .ofSeconds 60
  attempts := 5

end Settings

/-- What came of a cycle that did not fail. -/
structure Outcome where
  requeue : Option Span
  stoppedBy : Option String
  period : Option Period
  report : Report
  deriving DecidableEq, Repr

namespace Cycle

/-- The stages of a cycle. -/
def stages (s : Settings) : Chain Work :=
  [Stages.fetch, Stages.finalizer s.attempts, Stages.auth, Stages.period s.steady s.grace,
    Stages.scaling, Stages.status s.attempts s.steady]

/-- The outcome of the end of a chain. -/
def outcome (e : ChainEnd) : Outcome where
  requeue := e.context.requeue
  stoppedBy := e.stoppedBy
  period := e.context.resolution.map Resolution.period
  report := e.context.report

/-- One cycle for the Scaler `key` at the instant `now`. -/
def reconcile (s : Settings) (key : Key) (now : Instant) :
    Work (Except CycleError Outcome) := do
  return (← (stages s).execute (.start key now)).map outcome

end Cycle

end PeriodScaler
