import PeriodScaler.Cycle.Chain
import PeriodScaler.Cycle.Change
import PeriodScaler.Scaling.Kinds

/-!
# The stages of a cycle

In their order: fetch the Scaler, keep its finalizer, connect to the provider, resolve the period,
scale the resources, and record the outcome.

While a Scaler goes away, its resources are restored first if it asks for that; otherwise no
provider is contacted. In both cases the last stage releases the finalizer, and no status is
written.

Model of `FetchStage`, `FinalizerStage`, `AuthStage`, `PeriodStage`, `ScalingStage` and
`StatusStage`. The loop of the scaling stage is `setAll`. Left out: the messages to the log.
-/

namespace PeriodScaler.Stages

/-- Goes on with a state. -/
def goOn (c : Context) : Work (Except CycleError Flow) :=
  .done (.ok (.goOn c))

/-- Stops with a state. -/
def stop (c : Context) : Work (Except CycleError Flow) :=
  .done (.ok (.stop c))

/-- Fails. -/
def fail (e : CycleError) : Work (Except CycleError Flow) :=
  .done (.error e)

/-- Goes on with the Scaler of the cycle, or fails without one. -/
def withScaler (c : Context) (f : Scaler → Work (Except CycleError Flow)) :
    Work (Except CycleError Flow) :=
  match c.fetched with
  | .ok s => f s
  | .error e => fail (.ofCause e)

/-- Fetches the Scaler. One that is missing is critical, a failed read is not. -/
def fetch : Stage Work where
  name := "fetch"
  execute c := .ask (.fetch c.key) fun
    | .error e => fail (.recoverable e)
    | .ok none => fail (.critical (.notFound c.key.text))
    | .ok (some s) => goOn { c with scaler := some s }

/-- Puts the finalizer on a live Scaler; on one that goes away it means that cleanup is owed, and
without it there is nothing to do. -/
def finalizer (attempts : Nat) : Stage Work where
  name := "finalizer"
  execute c := withScaler c fun s =>
    if s.isDeleting then
      if s.isMarked then goOn { c with finalizing := true } else stop c
    else if s.isMarked then goOn c
    else do
      match ← Change.addFinalizer.apply s attempts with
      | .ok updated => goOn { c with scaler := some updated }
      | .error e => fail (.recoverable e)

/-- Connects to the provider, unless the resources are left alone. -/
def auth : Stage Work where
  name := "auth"
  execute c :=
    if c.leavesResources then goOn c
    else withScaler c fun s => .ask (.connect s) fun
      | .ok access => goOn { c with access := some access }
      | .error e => fail (.ofCause e)

/-- Resolves the period that applies. One that ran already ends the cycle until its window is over;
so does an idle one that follows an idle one, until the next regular cycle. -/
def period (steady grace : Span) : Stage Work where
  name := "period"
  execute c :=
    if c.leavesResources then goOn c
    else if c.access.isNone then fail (.ofCause (.missingState .provider))
    else withScaler c fun s =>
      match resolve s.spec.periods s.currentPeriod c.restoreRequested c.now with
      | .error (.alreadyRun p) =>
        match p.rerunDelay c.now grace with
        | .ok delay => stop (c.requeueAfter delay)
        | .error f => fail (.critical (.fault f))
      | .error e => fail (.critical (.period e))
      | .ok r =>
        let c := { c with selection := some s.spec.selection, resolution := some r }
        if r.isIdle then stop (c.requeueAfter steady) else goOn c

/-- Brings the selected resources to the state of the period. It never fails. -/
def scaling : Stage Work where
  name := "scaling"
  execute c :=
    match c.resolution, c.selection, c.access with
    | some r, some selection, some access => do
      let report ← setAll access selection c.key.namespaceName r.period.target
      goOn { c with report := c.report ++ report }
    | _, _, _ => goOn c

/-- The record of a pass with its outcome. -/
def outcomeStatus (r : Resolution) (report : Report) : Status :=
  let record : PassRecord :=
    { r.next with successful := report.successful, failed := report.failed }
  { current := some record, comments := some record.summary }

/-- Records the outcome and asks for the next regular cycle, or releases the finalizer of a Scaler
that goes away. -/
def status (attempts : Nat) (steady : Span) : Stage Work where
  name := "status"
  execute c := withScaler c fun s =>
    if c.finalizing then do
      match ← Change.removeFinalizer.apply s attempts with
      | .ok _ => stop c
      | .error e => fail (.recoverable e)
    else
      match c.resolution with
      | none => fail (.ofCause (.missingState .resolution))
      | some r => do
        match ← (Change.setStatus (outcomeStatus r c.report)).apply s attempts with
        | .ok updated => goOn ({ c with scaler := some updated }.requeueAfter steady)
        | .error e => fail (.recoverable e)

end PeriodScaler.Stages
