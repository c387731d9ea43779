import PeriodScaler.Scaler.Object

/-!
# Workloads

Scalable workloads of a cluster: their kinds, what a schedule looks at, and the text that selects
them by labels.

Model of `WorkloadKind` with `from_plural` (`ofName?`), of `Workload` with `recorded_replicas`
(`recorded`), of `label_selector` (`Selector.ofLabels`), and of `matches_selector`
(`Selector.accepts`), by which the workloads in memory read it. Nothing is left out.
-/

namespace PeriodScaler

/-- The kinds of workloads that can be scaled. -/
inductive WorkloadKind where
  | deployment
  | statefulSet
  deriving DecidableEq, Repr

namespace WorkloadKind

/-- The kind that a manifest names, singular or plural, in any ASCII case. -/
def ofName? (name : String) : Option WorkloadKind :=
  match Text.lowerAscii name with
  | "deployments" => some deployment
  | "deployment" => some deployment
  | "statefulsets" => some statefulSet
  | "statefulset" => some statefulSet
  | _ => none

/-- The name of the kind. -/
def name : WorkloadKind → String
  | deployment => "Deployment"
  | statefulSet => "StatefulSet"

/-- The name of the collection. -/
def plural : WorkloadKind → String
  | deployment => "deployments"
  | statefulSet => "statefulsets"

/-- The position of the kind in a list of workloads. -/
def rank : WorkloadKind → Nat
  | deployment => 0
  | statefulSet => 1

end WorkloadKind

/-- What a schedule looks at in a workload. -/
structure Workload where
  kind : WorkloadKind
  namespaceName : String
  name : String
  replicas : Int
  annotations : Labels
  deriving DecidableEq, Repr

namespace Workload

/-- The text of the recorded replica count. -/
def recorded (w : Workload) : Option String :=
  w.annotations.lookup Scaler.replicasAnnotation

/-- Namespace and name. -/
def item (w : Workload) : String :=
  w.namespaceName ++ "/" ++ w.name

end Workload

namespace Selector

/-- The selector that requires every label; none when there is nothing to require. -/
def ofLabels (labels : Labels) : Option String :=
  if labels.isEmpty then none
  else some (",".intercalate (labels.map fun (key, value) => key ++ "=" ++ value))

/-- Whether labels satisfy a selector: each of its terms names one of them with its value. -/
def accepts (selector : Option String) (labels : Labels) : Bool :=
  match selector with
  | none => true
  | some text =>
    (Text.pieces [','] text.toList).all fun term =>
      match Text.splitOnce? ['='] term with
      | none => false
      | some (key, value) =>
        labels.lookup (String.ofList (Text.trim key)) == some (String.ofList (Text.trim value))

end Selector

end PeriodScaler
