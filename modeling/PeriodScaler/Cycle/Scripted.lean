import PeriodScaler.Cycle.Chain

/-!
# Scripted stages

Stages that do what a script says, so that the rules of a chain can be seen without collaborators. A
script first asks for the next cycle, when it names a delay, and then acts; the state around the
stages holds the names of those that ran and whether the cancellation token has fired.

Model of the stages `Recording` with their `Behaviour`, by which the tests of `HandlerChain` watch
it.
-/

namespace PeriodScaler.Scripted

/-- What a scripted stage does. -/
inductive Act where
  | goOn
  | stop
  | fail (e : CycleError)
  /-- Fires the cancellation token and goes on. -/
  | cancel
  /-- Makes a call that can be cancelled, and that fails for a cause or succeeds. -/
  | call (failure : Option Cause)
  /-- Goes on if there is a Scaler. -/
  | needScaler
  deriving DecidableEq, Repr

/-- A name, a delay to ask for, and an act. -/
structure Script where
  name : String
  requeue : Option Span
  act : Act
  deriving DecidableEq, Repr

/-- What is seen of a run. -/
structure Trace where
  ran : List String
  fired : Bool
  deriving DecidableEq, Repr

/-- The result of an act on a state, with the trace after it. -/
def Act.perform (a : Act) (c : Context) (t : Trace) : Except CycleError Flow × Trace :=
  let attempt (failure : Option Cause) : Except CycleError Flow :=
    match failure with
    | none => .ok (.goOn c)
    | some cause => .error (.ofCause cause)
  match a with
  | .goOn => (.ok (.goOn c), t)
  | .stop => (.ok (.stop c), t)
  | .fail e => (.error e, t)
  | .cancel => (.ok (.goOn c), { t with fired := true })
  | .call failure => (attempt (if t.fired then some .cancelled else failure), t)
  | .needScaler =>
    (attempt (match c.fetched with | .ok _ => none | .error cause => some cause), t)

/-- The stage of a script. -/
def Script.stage (s : Script) : Stage (StateM Trace) where
  name := s.name
  execute c := fun t =>
    let c := match s.requeue with
      | some delay => c.requeueAfter delay
      | none => c
    s.act.perform c { t with ran := t.ran ++ [s.name] }

/-- The chain of some scripts. -/
def chain (scripts : List Script) : Chain (StateM Trace) :=
  scripts.map Script.stage

/-- Runs the chain of some scripts. -/
def run (scripts : List Script) (c : Context) : Except CycleError ChainEnd × Trace :=
  (chain scripts).execute c ⟨[], false⟩

end PeriodScaler.Scripted
