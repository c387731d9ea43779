import PeriodScaler.Cycle.Context

/-!
# Chains of stages

A chain runs its stages in order, each on the state that the one before left. A stage lets the chain
go on, ends it without an error, or fails; nothing else decides whether the next stage runs.

Stages work in any monad, so a chain of programs and a chain of plain functions are the same thing.

Model of `Flow`, `Stage`, `ChainResult` (`ChainEnd`) and `HandlerChain` with `stage_names` and
`execute`. Left out: the messages to the log.
-/

namespace PeriodScaler

/-- What a stage decides. -/
inductive Flow where
  | goOn (c : Context)
  | stop (c : Context)
  deriving DecidableEq, Repr

/-- One step of a chain. -/
structure Stage (m : Type → Type) where
  name : String
  execute : Context → m (Except CycleError Flow)

/-- The end of a chain that did not fail: the last state, and the stage that stopped it. -/
structure ChainEnd where
  context : Context
  stoppedBy : Option String
  deriving DecidableEq, Repr

/-- Stages in the order in which they run. -/
abbrev Chain (m : Type → Type) := List (Stage m)

namespace Chain

variable {m : Type → Type}

/-- The names of the stages. -/
def stageNames (chain : Chain m) : List String :=
  chain.map Stage.name

/-- Runs the stages until one stops or fails. -/
def execute [Monad m] : Chain m → Context → m (Except CycleError ChainEnd)
  | [], c => pure (.ok ⟨c, none⟩)
  | stage :: rest, c => do
    match ← stage.execute c with
    | .ok (.goOn next) => execute rest next
    | .ok (.stop last) => pure (.ok ⟨last, some stage.name⟩)
    | .error e => pure (.error e)

end Chain

end PeriodScaler
