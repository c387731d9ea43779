import PeriodScaler.Cluster.Answer
import PeriodScaler.Cluster.ObjectShape
import PeriodScaler.Cycle.Call

/-!
# Workloads on a cluster

Listing and scaling the workloads of a namespace. A workload without a namespace of its own is in
the one that was listed, and one that does not say how many replicas it has has one.

Model of `KubeWorkloads` with `list` and `scale`, and of `from_parts` (`workload?`). Nothing is left
out.
-/

namespace PeriodScaler.Cluster

/-- The path of the workloads of a kind. -/
def workloadsPath (kind : WorkloadKind) (namespaceName : String) : String :=
  "/apis/apps/v1/namespaces/" ++ namespaceName ++ "/" ++ kind.plural

/-- Reads the replica count in the specification of a workload. -/
def replicas? (j : Json) : Option (Option Int) := do
  (← j.looseRecord? ["replicas"]).optional "replicas" Json.int32?

/-- Reads a workload of a kind that was listed in a namespace; `outer` objects and lists are around
it. -/
def workload? (kind : WorkloadKind) (namespaceName : String) (outer : Nat) (j : Json) :
    Option Workload := do
  guard ((Shape.workload kind).fits outer j)
  let r ← j.looseRecord? ["metadata", "spec"]
  let metadata := (← r.optional "metadata" (Metadata.ofJson? (outer + 1))).getD .empty
  let replicas := (← r.optional "spec" replicas?).join
  return {
    kind := kind
    namespaceName := metadata.namespaceName.getD namespaceName
    name := metadata.name.getD ""
    replicas := replicas.getD 1
    annotations := metadata.annotations.getD [] }

/-- Reads a list of workloads. The metadata and the items must not repeat, and what else is there
must be something that can be kept. -/
def workloads? (kind : WorkloadKind) (namespaceName : String) (j : Json) :
    Option (List Workload) := do
  let .object fields := j | none
  let (known, others) := fields.partition fun (key, _) => key == "metadata" || key == "items"
  guard (known.map Prod.fst).Nodup
  guard (others.all fun (_, value) => (value.settled? (Metadata.depthLimit - 1)).isSome)
  guard ((known.lookup "metadata").all (Shape.listMetadata.fits 1))
  match ← known.lookup "items" with
  | .null => return []
  | items => items.list? (workload? kind namespaceName 2)

/-- The workloads of a kind in a namespace that a selector accepts. -/
def listWorkloads (kind : WorkloadKind) (namespaceName : String) (selector : Option String) :
    Http.Exchange (Except Cause (List Workload)) := do
  let query := selector.toList.map fun text => ("labelSelector", text)
  let result ← exchange (list (workloadsPath kind namespaceName) query)
    (workloads? kind namespaceName)
  return result.mapError fun _ => .cluster

/-- The patch that sets a replica count and records another one, or drops the record. -/
def scalePatch (replicas : Int) (record : Option Int) : Json :=
  let recorded : Json :=
    match record with
    | some n => .text (Text.ofInt n)
    | none => .null
  .object
    [("metadata", .object [("annotations", .object [(Scaler.replicasAnnotation, recorded)])]),
      ("spec", .object [("replicas", Json.ofInt replicas)])]

/-- Sets the replica count of a workload. -/
def scaleWorkload (kind : WorkloadKind) (namespaceName name : String) (replicas : Int)
    (record : Option Int) : Http.Exchange (Except Cause Unit) := do
  let path := pathOf? (workloadsPath kind namespaceName) name
  let result ← exchange (path.bind fun path => patch path (scalePatch replicas record))
    (workload? kind namespaceName 0)
  return (result.map fun _ => ()).mapError fun _ => .cluster

end PeriodScaler.Cluster
