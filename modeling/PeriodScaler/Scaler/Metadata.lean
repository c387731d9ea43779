import PeriodScaler.Calendar.Pattern
import PeriodScaler.Json.Record
import PeriodScaler.Json.Settled
import PeriodScaler.Json.Writer
import PeriodScaler.Scaler.Selection

/-!
# Metadata of objects

What a cluster keeps about each of its objects: its names, who owns it, who has changed which of its
fields, and how far its deletion has come. All of it is kept and written again, whether a rule here
uses it or not.

An entry that repeats counts with its last value, but each value must be of the right kind; `null`
stands for no value.

Model of the library types `ObjectMeta`, `OwnerReference` and `ManagedFieldsEntry` with their forms
in JSON. Nothing is left out.
-/

namespace PeriodScaler

/-- The object that another one belongs to. -/
structure OwnerReference where
  apiVersion : String
  blocksDeletion : Option Bool
  controller : Option Bool
  kind : String
  name : String
  uid : String
  deriving DecidableEq, Repr

/-- Which fields of an object someone has set. -/
structure FieldOwnership where
  apiVersion : Option String
  form : Option String
  fields : Option Json
  manager : Option String
  operation : Option String
  subresource : Option String
  time : Option Instant
  deriving DecidableEq, Repr

/-- What the cluster knows about an object. -/
structure Metadata where
  name : Option String
  generatedFrom : Option String
  namespaceName : Option String
  uid : Option String
  selfLink : Option String
  generation : Option Int
  resourceVersion : Option String
  creationTime : Option Instant
  deletionTime : Option Instant
  deletionGrace : Option Int
  finalizers : Option (List String)
  labels : Option Labels
  annotations : Option Labels
  owners : Option (List OwnerReference)
  managers : Option (List FieldOwnership)
  deriving DecidableEq, Repr

namespace Json

/-- The field of an object that has a value. -/
def optionalField {α : Type} (name : String) (toJson : α → Json) (value : Option α) :
    List (String × Json) :=
  (value.map fun a => (name, toJson a)).toList

/-- The instant of a text, in the looser form. -/
def instant? (j : Json) : Option Instant := do
  Calendar.looseInstant? (← j.text?).toList

/-- The text of an instant, to the second. -/
def ofInstant (t : Instant) : Json :=
  .text t.secondsText

end Json

open Json (optionalField)

namespace OwnerReference

/-- The names of the entries. -/
def names : List String :=
  ["apiVersion", "blockOwnerDeletion", "controller", "kind", "name", "uid"]

/-- The JSON form. -/
def toJson (o : OwnerReference) : Json :=
  .object ([("apiVersion", .text o.apiVersion)] ++
    optionalField "blockOwnerDeletion" .bool o.blocksDeletion ++
    optionalField "controller" .bool o.controller ++
    [("kind", .text o.kind), ("name", .text o.name), ("uid", .text o.uid)])

/-- Reads the JSON form; a text that is missing is empty. -/
def ofJson? (j : Json) : Option OwnerReference := do
  let r ← j.looseRecord? names
  let text (name : String) : Option String := (r.optional name Json.text?).map (·.getD "")
  return {
    apiVersion := ← text "apiVersion"
    blocksDeletion := ← r.optional "blockOwnerDeletion" Json.bool?
    controller := ← r.optional "controller" Json.bool?
    kind := ← text "kind"
    name := ← text "name"
    uid := ← text "uid" }

end OwnerReference

namespace FieldOwnership

/-- The names of the entries. -/
def names : List String :=
  ["apiVersion", "fieldsType", "fieldsV1", "manager", "operation", "subresource", "time"]

/-- The JSON form. -/
def toJson (f : FieldOwnership) : Json :=
  .object (optionalField "apiVersion" .text f.apiVersion ++ optionalField "fieldsType" .text f.form ++
    optionalField "fieldsV1" id f.fields ++ optionalField "manager" .text f.manager ++
    optionalField "operation" .text f.operation ++
    optionalField "subresource" .text f.subresource ++ optionalField "time" Json.ofInstant f.time)

/-- Reads the JSON form; the fields may hold one another `depth` times. -/
def ofJson? (depth : Nat) (j : Json) : Option FieldOwnership := do
  let r ← j.looseRecord? names
  return {
    apiVersion := ← r.optional "apiVersion" Json.text?
    form := ← r.optional "fieldsType" Json.text?
    fields := ← r.optional "fieldsV1" (Json.settled? depth)
    manager := ← r.optional "manager" Json.text?
    operation := ← r.optional "operation" Json.text?
    subresource := ← r.optional "subresource" Json.text?
    time := ← r.optional "time" Json.instant? }

end FieldOwnership

namespace Metadata

/-- Metadata without any entry. -/
def empty : Metadata :=
  ⟨none, none, none, none, none, none, none, none, none, none, none, none, none, none, none⟩

/-- The names of the entries. -/
def names : List String :=
  ["annotations", "creationTimestamp", "deletionGracePeriodSeconds", "deletionTimestamp",
    "finalizers", "generateName", "generation", "labels", "managedFields", "name", "namespace",
    "ownerReferences", "resourceVersion", "selfLink", "uid"]

/-- The JSON form, the entries ordered by name. -/
def toJson (m : Metadata) : Json :=
  let list {α : Type} (item : α → Json) (l : List α) : Json := .array (l.map item)
  .object (optionalField "annotations" Json.ofTextMap m.annotations ++
    optionalField "creationTimestamp" Json.ofInstant m.creationTime ++
    optionalField "deletionGracePeriodSeconds" Json.ofInt m.deletionGrace ++
    optionalField "deletionTimestamp" Json.ofInstant m.deletionTime ++
    optionalField "finalizers" Json.ofTexts m.finalizers ++
    optionalField "generateName" .text m.generatedFrom ++
    optionalField "generation" Json.ofInt m.generation ++
    optionalField "labels" Json.ofTextMap m.labels ++
    optionalField "managedFields" (list FieldOwnership.toJson) m.managers ++
    optionalField "name" .text m.name ++ optionalField "namespace" .text m.namespaceName ++
    optionalField "ownerReferences" (list OwnerReference.toJson) m.owners ++
    optionalField "resourceVersion" .text m.resourceVersion ++
    optionalField "selfLink" .text m.selfLink ++ optionalField "uid" .text m.uid)

/-- How far lists and objects may hold one another in a text. -/
def depthLimit : Nat := 127

/-- Reads the JSON form of metadata that `outer` objects and lists are around. -/
def ofJson? (outer : Nat) (j : Json) : Option Metadata := do
  let r ← j.looseRecord? names
  return {
    name := ← r.optional "name" Json.text?
    generatedFrom := ← r.optional "generateName" Json.text?
    namespaceName := ← r.optional "namespace" Json.text?
    uid := ← r.optional "uid" Json.text?
    selfLink := ← r.optional "selfLink" Json.text?
    generation := ← r.optional "generation" Json.int64?
    resourceVersion := ← r.optional "resourceVersion" Json.text?
    creationTime := ← r.optional "creationTimestamp" Json.instant?
    deletionTime := ← r.optional "deletionTimestamp" Json.instant?
    deletionGrace := ← r.optional "deletionGracePeriodSeconds" Json.int64?
    finalizers := ← r.optional "finalizers" Json.texts?
    labels := ← r.optional "labels" Json.textMap?
    annotations := ← r.optional "annotations" Json.textMap?
    owners := ← r.optional "ownerReferences" (Json.list? OwnerReference.ofJson?)
    managers := ← r.optional "managedFields"
      (Json.list? (FieldOwnership.ofJson? (depthLimit - outer - 3))) }

end Metadata

end PeriodScaler
