import PeriodScaler.Cycle.Call
import PeriodScaler.Memory.Table

/-!
# Workloads in memory

A table of workloads with their labels, ordered by kind, namespace and name. Calls to scale are
logged whether they succeed or not; failures can be arranged for by name and by namespace.

Model of `MockWorkloadApi` with `add`, `list` and `scale`, and its `fail_scale` and `fail_list` as
fields. Left out: the lock around the state.
-/

namespace PeriodScaler.Memory

/-- A table of workloads. -/
structure Workloads where
  entries : List (Workload × Labels)
  failingScale : List String
  failingList : List String
  /-- The calls to scale, as namespace, name and replica count. -/
  calls : List String
  deriving DecidableEq, Repr

namespace Workloads

/-- A table without workloads. -/
def empty : Workloads := ⟨[], [], [], []⟩

/-- Whether two workloads are the same object. -/
def same (a b : Workload) : Bool :=
  a.kind == b.kind && a.namespaceName == b.namespaceName && a.name == b.name

/-- Whether a workload comes before another one: by kind, namespace and name. -/
def before (a b : Workload) : Bool :=
  a.kind.rank < b.kind.rank ||
    (a.kind == b.kind && (a.namespaceName < b.namespaceName ||
      (a.namespaceName == b.namespaceName && a.name < b.name)))

/-- Puts a workload in its place, for one that is the same object. -/
def place (w : Workload) (labels : Labels) : List (Workload × Labels) → List (Workload × Labels) :=
  Table.place (fun a b => same a.1 b.1) (fun a b => before a.1 b.1) (w, labels)

/-- Adds a workload; the label that names the recorded count is taken as annotation. -/
def add (kind : WorkloadKind) (namespaceName name : String) (replicas : Int) (labels : Labels)
    (t : Workloads) : Workloads :=
  let isRecord := fun (label : String × String) => label.1 == Scaler.replicasAnnotation
  let w : Workload :=
    { kind, namespaceName, name, replicas, annotations := labels.filter isRecord }
  { t with entries := place w (labels.filter fun l => !isRecord l) t.entries }

/-- The workloads of a kind in a namespace that a selector accepts. -/
def list (kind : WorkloadKind) (namespaceName : String) (selector : Option String)
    (t : Workloads) : Except Cause (List Workload) :=
  if t.failingList.contains namespaceName then
    .error (.notFound ("mock failure listing " ++ namespaceName))
  else
    .ok ((t.entries.filter fun (w, labels) =>
      w.kind == kind && w.namespaceName == namespaceName &&
        Selector.accepts selector labels).map Prod.fst)

/-- Puts a text under a key into a map ordered by key. -/
def putText (key value : String) (pairs : Labels) : Labels :=
  Json.textMap?.insert key value pairs

/-- A workload with a replica count, and the count to return to recorded or not. -/
def scaled (w : Workload) (replicas : Int) (record : Option Int) : Workload :=
  { w with
    replicas := replicas
    annotations :=
      match record with
      | some n => putText Scaler.replicasAnnotation (Text.ofInt n) w.annotations
      | none => w.annotations.filter fun (key, _) => key != Scaler.replicasAnnotation }

/-- Sets the replica count of a workload. -/
def scale (kind : WorkloadKind) (namespaceName name : String) (replicas : Int)
    (record : Option Int) (t : Workloads) : Except Cause Unit × Workloads :=
  let item := namespaceName ++ "/" ++ name
  let t := { t with calls := t.calls ++ [item ++ "=" ++ Text.ofInt replicas] }
  let isIt := fun (w : Workload) =>
    w.kind == kind && w.namespaceName == namespaceName && w.name == name
  if t.failingScale.contains name then
    (.error (.conflict ("mock failure scaling " ++ item)), t)
  else if t.entries.any fun (w, _) => isIt w then
    (.ok (), { t with entries := t.entries.map fun (w, labels) =>
      (if isIt w then scaled w replicas record else w, labels) })
  else (.error (.notFound (kind.name ++ " " ++ item)), t)

end Workloads

end PeriodScaler.Memory
