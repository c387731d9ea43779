import PeriodScaler.Manifest.Schema
import PeriodScaler.Scaler.Object

/-!
# The schema of Scalers

The fields of a Scaler with their descriptions, and what stands for those that are missing.

Model of the schemas that are derived for `ScalerSpec`, `ScalerStatus` and the types they hold.
-/

namespace PeriodScaler.Manifest

open Schema

/-- A list of texts. -/
def texts : Schema := list text

/-- The time zone of a window. -/
def timeZone (description : String) : String × Schema :=
  ("timeZone", text.describedAs description |>.orNull)

/-- Whether a period runs once. -/
def once : String × Schema :=
  ("once", flag.describedAs "Execute only once per edited definition" |>.withDefault (.bool false))

/-- The schema of weekly windows. -/
def weekly : Schema :=
  record
    [("days", texts.describedAs "Weekday names (\"mon\", \"Tuesday\", ...) or \"all\""),
      ("startTime", text.describedAs "Start of the window (HH:MM)"),
      ("endTime", text.describedAs
        "End of the window (HH:MM); earlier than start wraps past midnight"),
      once,
      timeZone "UTC offset the times are expressed in (\"+02:00\", \"UTC\"); defaults to UTC"]
    ["days", "startTime", "endTime"]

/-- The schema of single windows. -/
def single : Schema :=
  record
    [("startTime", text.describedAs "Start instant"),
      ("endTime", text.describedAs "End instant"),
      once,
      timeZone "UTC offset applied to instants without one; defaults to UTC"]
    ["startTime", "endTime"]

/-- The schema of targets. -/
def target : Schema :=
  oneOfWords ([Target.up, .down, .restore, .noAction].map Target.name)

/-- The schema of periods. -/
def period : Schema :=
  record
    [("name", text.describedAs "Human-readable name (may be empty)" |>.withDefault (.text "")),
      ("type", target.describedAs "Target state while this period is active"),
      ("time",
        (exactlyOne
          [("recurring", weekly.describedAs "Repeats on the selected weekdays"),
            ("fixed", single.describedAs "Absolute window between two instants")]).describedAs
          "When the period is active")]
    ["type", "time"]
  |>.describedAs "A time window with the resource state it requests."

/-- The kinds of resources of a provider, with those that stand for none. -/
def types (description : String) (standard : List String) : String × Schema :=
  ("types", texts.describedAs description |>.withDefault (Json.ofTexts standard))

/-- The schema of selections of instances. -/
def instances : Schema :=
  record
    [("projectId", text.describedAs "GCP project ID"),
      ("zones", texts.describedAs "Zones to search (e.g. \"europe-west1-b\")"),
      types "Resource kinds (\"vm-instances\")" ["vm-instances"],
      ("names", texts.describedAs "Restrict to these instance names (empty = all matching)"),
      ("labelSelector", textMap.describedAs "Instance labels that must all match")]
    ["projectId", "zones"]

/-- The schema of selections of workloads. -/
def workloads : Schema :=
  record
    [("namespaces", texts.describedAs
        "Namespaces to search (empty = the Scaler's namespace)"),
      types "Workload kinds (\"deployments\", \"statefulsets\")" ["deployments"],
      ("names", texts.describedAs "Restrict to these workload names (empty = all matching)"),
      ("labelSelector", textMap.describedAs "Workload labels that must all match")]
    []

/-- The schema of references to secrets. -/
def secretReference : Schema :=
  record
    [("name", text.describedAs "Secret name"),
      ("key", text.describedAs "Key inside the secret (provider default when omitted)" |>.orNull)]
    ["name"]

/-- The schema of what a Scaler asks for. -/
def spec : Schema :=
  record
    [("periods", (list period).describedAs "Ordered periods; the first active one wins"
        |>.withDefault (.array [])),
      ("restoreOnDelete", flag.describedAs
          "Restore resources to their original state when the Scaler is deleted"
        |>.withDefault (.bool true)),
      ("authSecretRef", secretReference.describedAs
          "Secret holding provider credentials (ambient credentials when omitted)" |>.orNull),
      ("provider",
        (exactlyOne
          [("gcp", instances.describedAs "Google Compute Engine"),
            ("kubernetes", workloads.describedAs "Kubernetes workloads")]).describedAs
          "Provider and resource selection")]
    ["provider"]
  |>.describedAs "ScalerSpec defines the periods and the resources they apply to"

/-- The schema of items of a pass; `last` describes the note on each of them. -/
def item (description kind name : String) (last : String × String) : Schema :=
  record
    [("kind", text.describedAs kind), ("name", text.describedAs name),
      (last.1, text.describedAs last.2 |>.withDefault (.text ""))]
    ["kind", "name"]
  |>.describedAs description

/-- The schema of records of a pass. -/
def currentPeriod : Schema :=
  record
    [("name", text.describedAs "Period name" |>.withDefault (.text "")),
      ("type", target.describedAs "Period type" |>.withDefault (.text Target.restore.name)),
      ("specFingerprint", text.describedAs "Fingerprint of the period definition (opaque)"
        |>.withDefault (.text "")),
      ("successful",
        (list (item "Successfully processed item"
            "Resource kind (\"vm-instances\", \"deployments\", ...)" "Item name"
            ("comment", "What was done"))).describedAs "Items converged successfully"
        |>.withDefault (.array [])),
      ("failed",
        (list (item "Item that could not be processed" "Resource kind"
            "Item name (\"*\" when the whole kind failed)"
            ("reason", "Why it failed"))).describedAs "Items that failed to converge"
        |>.withDefault (.array []))]
    []

/-- The schema of what is recorded about a Scaler. -/
def status : Schema :=
  record
    [("currentPeriod",
        currentPeriod.describedAs "Period that produced the last scaling pass" |>.orNull),
      ("comments", text.describedAs "Free-text diagnostic" |>.orNull)]
    []
  |>.describedAs "ScalerStatus records the outcome of the last scaling pass"

/-- The schema of Scalers. -/
def scaler : Schema :=
  { record [("spec", spec), ("status", status.orNull)] ["spec"] with
    title := some "Scaler"
    description := some "Auto-generated derived type for ScalerSpec via \x60CustomResource\x60" }

end PeriodScaler.Manifest
