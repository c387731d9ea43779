import PeriodScaler.Cluster.Answer
import PeriodScaler.Cycle.Call

/-!
# Scalers on a cluster

Reading and writing Scalers as resources of a cluster. A write is a merge patch that names the
version it was made for, when there is one, so that the cluster refuses it as a conflict when the
object has changed.

Model of `KubeScalerStore` with `get` (`fetch`), `replace_finalizers` and `replace_status`, of
`precondition`, and of `write_error` (`writeCause`). Nothing is left out.
-/

namespace PeriodScaler.Cluster

/-- The path of the Scalers of a namespace. -/
def scalersPath (namespaceName : String) : String :=
  "/apis/" ++ Scaler.group ++ "/" ++ Scaler.version ++ "/namespaces/" ++ namespaceName ++ "/scalers"

/-- The path of a Scaler. -/
def scalerPath? (key : Key) : Option String :=
  pathOf? (scalersPath key.namespaceName) key.name

/-- A refusal as the cause of a failed cycle. -/
def anyCause : Refusal → Cause := fun _ => .cluster

/-- A refused write as the cause of a failed cycle: a conflict and an object that is gone are told
apart from other refusals. -/
def writeCause (key : Key) : Refusal → Cause
  | .error 409 _ => .conflict key.text
  | .error 404 _ => .notFound key.text
  | _ => .cluster

/-- Reads a Scaler. -/
def fetch (key : Key) : Http.Exchange (Except Cause (Option Scaler)) := do
  let result ← exchange ((scalerPath? key).bind read) Scaler.ofJson?
  return (orAbsent result).mapError anyCause

/-- The version for which a write is made, as a part of its patch. -/
def precondition (s : Scaler) : List (String × Json) :=
  optionalText "resourceVersion" s.metadata.resourceVersion

/-- Sends a patch to a path and reads the Scaler that comes back. -/
def write (s : Scaler) (path : Option String) (change : Json) :
    Http.Exchange (Except Cause Scaler) := do
  let result ← exchange (path.bind fun path => patch path change) Scaler.ofJson?
  return result.mapError (writeCause s.key)

/-- Replaces the finalizers of a Scaler. -/
def putFinalizers (s : Scaler) (finalizers : List String) : Http.Exchange (Except Cause Scaler) :=
  write s (scalerPath? s.key)
    (.object [("metadata",
      .object (precondition s ++ [("finalizers", Json.ofTexts finalizers)]))])

/-- Replaces the status of a Scaler. -/
def putStatus (s : Scaler) (status : Status) : Http.Exchange (Except Cause Scaler) :=
  write s ((scalerPath? s.key).map fun path => path ++ "/status")
    (.object [("metadata", .object (precondition s)), ("status", status.toJson)])

end PeriodScaler.Cluster
