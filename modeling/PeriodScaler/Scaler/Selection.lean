import PeriodScaler.Json.Record

/-!
# Selected resources

Which resources of which provider a Scaler controls. A selection names kinds of resources, places
to search (zones of a project, or namespaces), and restricts them by name and by labels.

Model of `ProviderSpec`, `GcpResources` and `KubernetesResources` with their defaults and their
derived forms in JSON. Nothing is left out.
-/

namespace PeriodScaler

/-- Labels that must all match, ordered by key. -/
abbrev Labels := List (String × String)

/-- The providers of resources. -/
inductive Provider where
  | gcp
  | kubernetes
  deriving DecidableEq, Repr

namespace Provider

/-- The short name. -/
def name : Provider → String
  | gcp => "gcp"
  | kubernetes => "kubernetes"

/-- The key of a secret that holds credentials, unless another one is named. -/
def defaultSecretKey : Provider → String
  | gcp => "credentials.json"
  | kubernetes => "kubeconfig"

end Provider

/-- Selected instances of a project. -/
structure InstanceSelection where
  project : String
  zones : List String
  types : List String
  names : List String
  labels : Labels
  deriving DecidableEq, Repr

/-- Selected workloads of a cluster. -/
structure WorkloadSelection where
  namespaces : List String
  types : List String
  names : List String
  labels : Labels
  deriving DecidableEq, Repr

/-- Selected resources of one provider. -/
inductive Selection where
  | instances (s : InstanceSelection)
  | workloads (s : WorkloadSelection)
  deriving DecidableEq, Repr

/-- The field of a list of texts, left out when it is empty. -/
def nonEmptyTexts (name : String) (texts : List String) : List (String × Json) :=
  if texts.isEmpty then [] else [(name, Json.ofTexts texts)]

/-- The field of a map of texts, left out when it is empty. -/
def nonEmptyMap (name : String) (pairs : Labels) : List (String × Json) :=
  if pairs.isEmpty then [] else [(name, Json.ofTextMap pairs)]

/-- Whether a name is one of those that a selection is restricted to; no names restrict nothing. -/
def isNamed (names : List String) (name : String) : Bool :=
  names.isEmpty || names.contains name

namespace InstanceSelection

/-- The JSON form. -/
def toJson (s : InstanceSelection) : Json :=
  .object ([("projectId", .text s.project), ("zones", Json.ofTexts s.zones),
    ("types", Json.ofTexts s.types)] ++ nonEmptyTexts "names" s.names ++
    nonEmptyMap "labelSelector" s.labels)

/-- Reads the JSON form. -/
def ofJson? (j : Json) : Option InstanceSelection := do
  let r ← j.record? ["projectId", "zones", "types", "names", "labelSelector"]
  return {
    project := ← r.required "projectId" Json.text?
    zones := ← r.required "zones" Json.texts?
    types := ← r.withDefault "types" ["vm-instances"] Json.texts?
    names := ← r.withDefault "names" [] Json.texts?
    labels := ← r.withDefault "labelSelector" [] Json.textMap? }

end InstanceSelection

namespace WorkloadSelection

/-- The JSON form. -/
def toJson (s : WorkloadSelection) : Json :=
  .object (nonEmptyTexts "namespaces" s.namespaces ++ [("types", Json.ofTexts s.types)] ++
    nonEmptyTexts "names" s.names ++ nonEmptyMap "labelSelector" s.labels)

/-- Reads the JSON form. -/
def ofJson? (j : Json) : Option WorkloadSelection := do
  let r ← j.record? ["namespaces", "types", "names", "labelSelector"]
  return {
    namespaces := ← r.withDefault "namespaces" [] Json.texts?
    types := ← r.withDefault "types" ["deployments"] Json.texts?
    names := ← r.withDefault "names" [] Json.texts?
    labels := ← r.withDefault "labelSelector" [] Json.textMap? }

end WorkloadSelection

namespace Selection

/-- The provider of the resources. -/
def provider : Selection → Provider
  | instances _ => .gcp
  | workloads _ => .kubernetes

/-- The kinds of resources to process, in order. -/
def types : Selection → List String
  | instances s => s.types
  | workloads s => s.types

/-- The JSON form. -/
def toJson : Selection → Json
  | instances s => .object [("gcp", s.toJson)]
  | workloads s => .object [("kubernetes", s.toJson)]

/-- Reads the JSON form. -/
def ofJson? (j : Json) : Option Selection :=
  match j.alternative? with
  | some ("gcp", some content) => (InstanceSelection.ofJson? content).map instances
  | some ("kubernetes", some content) => (WorkloadSelection.ofJson? content).map workloads
  | _ => none

end Selection

end PeriodScaler
