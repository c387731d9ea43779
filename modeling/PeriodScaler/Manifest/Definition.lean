import PeriodScaler.Manifest.ScalerSchema
import PeriodScaler.Yaml.Writer

/-!
# The definition of the resource type

What makes a cluster know Scalers: the names of the type, its one version with the schema of its
objects, and the columns in which they are listed.

Model of the definition that is derived for `Scaler`.
-/

namespace PeriodScaler.Manifest

/-- A column that shows a text of each object. -/
def column (name path : String) : Json :=
  .object [("jsonPath", .text path), ("name", .text name), ("type", .text "string")]

/-- The one version of the type. -/
def versionEntry : Json :=
  .object
    [("additionalPrinterColumns",
        .array [column "Period" ".status.currentPeriod.name",
          column "Type" ".status.currentPeriod.type"]),
      ("name", .text Scaler.version),
      ("schema", .object [("openAPIV3Schema", scaler.toJson)]),
      ("served", .bool true), ("storage", .bool true),
      ("subresources", .object [("status", .object [])])]

/-- The definition of the resource type of Scalers. -/
def definition : Json :=
  .object
    [("apiVersion", .text "apiextensions.k8s.io/v1"), ("kind", .text "CustomResourceDefinition"),
      ("metadata", .object [("name", .text ("scalers." ++ Scaler.group))]),
      ("spec", .object
        [("group", .text Scaler.group),
          ("names", .object
            [("categories", .array []), ("kind", .text "Scaler"), ("plural", .text "scalers"),
              ("shortNames", Json.ofTexts ["scl"]), ("singular", .text "scaler")]),
          ("scope", .text "Namespaced"),
          ("versions", .array [versionEntry])])]

/-- The definition as a document. -/
def document : String :=
  Yaml.document definition

end PeriodScaler.Manifest
