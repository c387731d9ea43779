import PeriodScaler.Cluster.PodShape
import PeriodScaler.Workload.Basic

/-!
# Shapes of workloads and secrets

What the objects must look like that are read from a cluster, and lists of them.

Model of the library types `Deployment`, `StatefulSet`, `Secret` and `ListMeta` as shapes.
-/

namespace PeriodScaler.Cluster.Shape

/-- An object of a version and a kind with metadata and other fields. -/
def object (version kind : String) (fields : List (String × Shape)) : Shape := .record (
  [("apiVersion", .exactly version), ("kind", .exactly kind), ("metadata", .metadata)] ++ fields)

/-- What is common to the specifications of workloads. -/
def workloadSpec : List (String × Shape) :=
  [("selector", labelSelector), ("template", podTemplate)] ++
  all .whole32 ["minReadySeconds", "replicas", "revisionHistoryLimit"]

/-- What is common to the states of workloads; `times` are the times of a condition. -/
def workloadStatus (times : List String) : List (String × Shape) :=
  [("conditions", .list (.record (
    all .instant times ++ all .text ["message", "reason", "status", "type"])))] ++
  all .whole32
    ["availableReplicas", "collisionCount", "readyReplicas", "replicas", "updatedReplicas"] ++
  all .whole64 ["observedGeneration"]

/-- A deployment. -/
def deployment : Shape := object "apps/v1" WorkloadKind.deployment.name
  [("spec", .record (
      workloadSpec ++
      [("strategy", .record
        [("rollingUpdate", .record (all .wholeOrText ["maxSurge", "maxUnavailable"])),
          ("type", .text)])] ++
      all .truth ["paused"] ++ all .whole32 ["progressDeadlineSeconds"])),
    ("status", .record (
      workloadStatus ["lastTransitionTime", "lastUpdateTime"] ++
      all .whole32 ["unavailableReplicas"]))]

/-- A stateful set. -/
def statefulSet : Shape := object "apps/v1" WorkloadKind.statefulSet.name
  [("spec", .record (
      workloadSpec ++
      [("ordinals", .record (all .whole32 ["start"])),
        ("persistentVolumeClaimRetentionPolicy", .record (all .text ["whenDeleted", "whenScaled"])),
        ("updateStrategy", .record
          [("rollingUpdate", .record
              [("maxUnavailable", .wholeOrText), ("partition", .whole32)]),
            ("type", .text)]),
        ("volumeClaimTemplates", .list claim)] ++
      all .text ["podManagementPolicy", "serviceName"])),
    ("status", .record (
      workloadStatus ["lastTransitionTime"] ++ all .whole32 ["currentReplicas"] ++
      all .text ["currentRevision", "updateRevision"]))]

/-- A workload of a kind. -/
def workload : WorkloadKind → Shape
  | .deployment => deployment
  | .statefulSet => statefulSet

/-- A secret. -/
def secret : Shape := object "v1" "Secret"
  [("data", .map .bytes), ("immutable", .truth), ("stringData", textMap), ("type", .text)]

/-- The metadata of a list. -/
def listMetadata : Shape := .record (
  all .text ["continue", "resourceVersion", "selfLink"] ++ all .whole64 ["remainingItemCount"])

end PeriodScaler.Cluster.Shape
