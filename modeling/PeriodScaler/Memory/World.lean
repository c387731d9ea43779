import PeriodScaler.Cycle.Reconcile
import PeriodScaler.Memory.Instances
import PeriodScaler.Memory.Store
import PeriodScaler.Memory.Workloads

/-!
# A world in memory

A store of Scalers, tables of workloads and instances, and a connector that hands out an access to
one of the two providers or refuses every time. `World.answer` is the handler that lets a cycle run
against it.

Model of `MockProviderConnector`, together with the three collaborators it stands beside as one
state. `Event` is what may happen in it between cycles.
-/

namespace PeriodScaler.Memory

/-- What a connector answers: an access to a provider, or a refusal with this reason. -/
inductive Connector where
  | leadsTo (p : Provider)
  | failing (reason : String)
  deriving DecidableEq, Repr

/-- A world in memory. -/
structure World where
  store : Store
  workloads : Workloads
  instances : Instances
  connector : Connector
  /-- The number of connections asked for. -/
  connects : Nat
  deriving DecidableEq, Repr

/-- The access to a table of a world. -/
def accessTo : Provider → Access
  | .gcp => .instances .metadataServer
  | .kubernetes => .workloads none

namespace World

/-- A world without objects. -/
def empty (connector : Connector) : World :=
  ⟨.empty, .empty, .empty, connector, 0⟩

/-- An answer of the table of instances as an answer to a cycle. -/
def fromCompute {α : Type} (r : Except ComputeError α) : Except Cause α :=
  r.mapError .compute

/-- Answers the calls of a cycle. -/
def answer : Handler collaborators World
  | .fetch key, w => (w.store.fetch key, w)
  | .putFinalizers copy finalizers, w =>
    let (a, store) := w.store.putFinalizers copy finalizers
    (a, { w with store })
  | .putStatus copy status, w =>
    let (a, store) := w.store.putStatus copy status
    (a, { w with store })
  | .connect _, w =>
    (match w.connector with
      | .leadsTo p => .ok (accessTo p)
      | .failing reason => .error (.auth reason),
      { w with connects := w.connects + 1 })
  | .listWorkloads _ kind namespaceName selector, w =>
    (w.workloads.list kind namespaceName selector, w)
  | .scaleWorkload _ kind namespaceName name replicas record, w =>
    let (a, workloads) := w.workloads.scale kind namespaceName name replicas record
    (a, { w with workloads })
  | .listInstances _ _ zone filter, w => (fromCompute (w.instances.list zone filter), w)
  | .startInstance _ _ zone name, w =>
    let (a, instances) := w.instances.start zone name
    (fromCompute a, { w with instances })
  | .stopInstance _ _ zone name, w =>
    let (a, instances) := w.instances.stop zone name
    (fromCompute a, { w with instances })

/-- Runs a computation in a world under a cancellation token. -/
def runUnder {α : Type} (token : Token) (p : Work α) (w : World) : α × World :=
  let (a, _, w) := p.run (Token.watch answer) (token, w)
  (a, w)

end World

/-- A change of a world from outside. -/
inductive Event where
  | workload (kind : WorkloadKind) (namespaceName name : String) (replicas : Int)
      (labels : Labels)
  | newInstance (zone name : String) (status : InstanceStatus) (labels : Labels)
  | failScale (name : String)
  | failList (namespaceName : String)
  | failInstance (name : String)
  | failZone (zone : String)
  | put (scaler : Scaler)
  | merge (key : Key) (patch : Json)
  | conflicts (count : Nat)
  | failReads

namespace World

/-- A world after a change from outside. -/
def apply (w : World) : Event → World
  | .workload kind namespaceName name replicas labels =>
    { w with workloads := w.workloads.add kind namespaceName name replicas labels }
  | .newInstance zone name status labels =>
    { w with instances := w.instances.add zone name status labels }
  | .failScale name =>
    { w with workloads :=
      { w.workloads with failingScale := name :: w.workloads.failingScale } }
  | .failList namespaceName =>
    { w with workloads :=
      { w.workloads with failingList := namespaceName :: w.workloads.failingList } }
  | .failInstance name =>
    { w with instances :=
      { w.instances with failingInstances := name :: w.instances.failingInstances } }
  | .failZone zone =>
    { w with instances :=
      { w.instances with failingZones := zone :: w.instances.failingZones } }
  | .put scaler => { w with store := (w.store.insert scaler).2 }
  | .merge key patch => { w with store := (w.store.mergePatch? key patch).getD w.store }
  | .conflicts count => { w with store := { w.store with conflicts := count } }
  | .failReads => { w with store := { w.store with failingReads := true } }

end World

end PeriodScaler.Memory
