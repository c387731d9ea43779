import PeriodScaler.Period.Record
import PeriodScaler.Scaler.Metadata
import PeriodScaler.Scaler.Selection

/-!
# Scalers

A Scaler is a namespaced object of the cluster. Its specification has the declared periods and the
selected resources; its status has the record of the last pass. While cleanup is owed, the marker
`Scaler.finalizer` is among its finalizers, so a deletion waits for it.

Model of `Scaler`, `ScalerSpec`, `ScalerStatus` and `SecretReference` with their derived forms in
JSON, of `has_finalizer` (`isMarked`), `is_deleting` and `current_period`, of `ScalerKey`, and of
`test_scaler` (`plain`). Nothing is left out.
-/

namespace PeriodScaler

/-- A secret in the namespace of a Scaler, and a key in it when it is not the usual one. -/
structure SecretReference where
  name : String
  key : Option String
  deriving DecidableEq, Repr

/-- What a Scaler is to do. -/
structure Spec where
  periods : List Declaration
  restoreOnDelete : Bool
  authSecret : Option SecretReference
  selection : Selection
  deriving DecidableEq, Repr

/-- What a Scaler has done. -/
structure Status where
  current : Option PassRecord
  comments : Option String
  deriving DecidableEq, Repr

/-- A Scaler as the cluster stores it. -/
structure Scaler where
  metadata : Metadata
  spec : Spec
  status : Option Status
  deriving DecidableEq, Repr

/-- Namespace and name of a Scaler. -/
structure Key where
  namespaceName : String
  name : String
  deriving DecidableEq, Repr

namespace Key

/-- Namespace and name with a slash between them. -/
def text (k : Key) : String :=
  k.namespaceName ++ "/" ++ k.name

/-- The key of a text, cut at its first slash. -/
def ofText? (s : String) : Option Key :=
  (Text.splitOnce? ['/'] s.toList).map fun (before, after) =>
    ⟨String.ofList before, String.ofList after⟩

/-- Whether a key comes before another one, by namespace and then by name. -/
def before (a b : Key) : Bool :=
  a.namespaceName < b.namespaceName || (a.namespaceName == b.namespaceName && a.name < b.name)

end Key

namespace SecretReference

/-- The JSON form. -/
def toJson (s : SecretReference) : Json :=
  .object (("name", .text s.name) :: optionalText "key" s.key)

/-- Reads the JSON form. -/
def ofJson? (j : Json) : Option SecretReference := do
  let r ← j.record? ["name", "key"]
  return {
    name := ← r.required "name" Json.text?
    key := ← r.optional "key" Json.text? }

end SecretReference

namespace Spec

/-- The JSON form. -/
def toJson (s : Spec) : Json :=
  .object ([("periods", .array (s.periods.map Declaration.toJson)),
    ("restoreOnDelete", .bool s.restoreOnDelete)] ++
    (match s.authSecret with
     | none => []
     | some secret => [("authSecretRef", secret.toJson)]) ++
    [("provider", s.selection.toJson)])

/-- Reads the JSON form. -/
def ofJson? (j : Json) : Option Spec := do
  let r ← j.record? ["periods", "restoreOnDelete", "authSecretRef", "provider"]
  return {
    periods := ← r.withDefault "periods" [] (Json.list? Declaration.ofJson?)
    restoreOnDelete := ← r.withDefault "restoreOnDelete" true Json.bool?
    authSecret := ← r.optional "authSecretRef" SecretReference.ofJson?
    selection := ← r.required "provider" Selection.ofJson? }

end Spec

namespace Status

/-- A status without any entry. -/
def empty : Status := ⟨none, none⟩

/-- The JSON form. -/
def toJson (s : Status) : Json :=
  .object ((match s.current with
    | none => []
    | some record => [("currentPeriod", record.toJson)]) ++ optionalText "comments" s.comments)

/-- Reads the JSON form. -/
def ofJson? (j : Json) : Option Status := do
  let r ← j.record? ["currentPeriod", "comments"]
  return {
    current := ← r.optional "currentPeriod" PassRecord.ofJson?
    comments := ← r.optional "comments" Json.text? }

end Status

namespace Scaler

/-- The group of the resource type. -/
def group : String := "cloudscaler.microscaler.io"

/-- The version of the resource type. -/
def version : String := "v1alpha1"

/-- The finalizer on a Scaler for which cleanup is owed. -/
def finalizer : String := "cloudscaler.microscaler.io/finalizer"

/-- The annotation of a workload that holds its replica count before it was scaled down. -/
def replicasAnnotation : String := "cloudscaler.microscaler.io/original-replicas"

/-- The finalizers, none standing for an empty list. -/
def finalizers (s : Scaler) : List String :=
  s.metadata.finalizers.getD []

/-- Whether cleanup is owed. -/
def isMarked (s : Scaler) : Bool :=
  s.finalizers.contains finalizer

/-- Whether the Scaler is being deleted. -/
def isDeleting (s : Scaler) : Bool :=
  s.metadata.deletionTime.isSome

/-- The record of the last pass. -/
def currentPeriod (s : Scaler) : Option PassRecord :=
  s.status.bind Status.current

/-- The namespace, by default the one of that name. -/
def namespaceName (s : Scaler) : String :=
  s.metadata.namespaceName.getD "default"

/-- Namespace and name. -/
def key (s : Scaler) : Key :=
  ⟨s.namespaceName, s.metadata.name.getD ""⟩

/-- The JSON form. -/
def toJson (s : Scaler) : Json :=
  .object ([("apiVersion", .text (group ++ "/" ++ version)), ("kind", .text "Scaler"),
    ("metadata", s.metadata.toJson), ("spec", s.spec.toJson)] ++
    (match s.status with
     | none => []
     | some status => [("status", status.toJson)]))

/-- Reads the JSON form; an array must have all three fields. -/
def ofJson? (j : Json) : Option Scaler := do
  let r ← j.record? ["metadata", "spec", "status"]
  guard (!j.isShortArray 3)
  return {
    metadata := ← r.required "metadata" (Metadata.ofJson? 1)
    spec := ← r.required "spec" Spec.ofJson?
    status := ← r.optional "status" Status.ofJson? }

/-- A Scaler for the Deployments of its own namespace, without periods. -/
def plain (namespaceName name : String) : Scaler where
  metadata := { Metadata.empty with name := some name, namespaceName := some namespaceName }
  spec :=
    { periods := [], restoreOnDelete := true, authSecret := none,
      selection := .workloads
        { namespaces := [], types := ["deployments"], names := [], labels := [] } }
  status := none

end Scaler

end PeriodScaler
