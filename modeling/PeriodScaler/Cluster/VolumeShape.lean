import PeriodScaler.Cluster.Shape

/-!
# Shapes of volumes

What must be said about the storage of workloads: the volumes of a pod, each from one of many
sources, and claims on storage.

Model of the library types `Volume` and `PersistentVolumeClaim` and of what they hold, as shapes.
-/

namespace PeriodScaler.Cluster.Shape

/-- A map from texts to texts. -/
def textMap : Shape := .map .text

/-- A list of texts. -/
def texts : Shape := .list .text

/-- A reference to something in the same namespace. -/
def localReference : Shape := .record (all .text ["name"])

/-- A selection of objects by their labels. -/
def labelSelector : Shape := .record
  [("matchExpressions", .list (.record (all .text ["key", "operator"] ++ all texts ["values"]))),
    ("matchLabels", textMap)]

/-! ## Claims -/

/-- How much of each resource there may be and is asked for. -/
def resourceAmounts : Shape := .record (all textMap ["limits", "requests"])

/-- What a claim asks for. -/
def claimSpec : Shape := .record (
  [("accessModes", texts), ("dataSource", .record (all .text ["apiGroup", "kind", "name"])),
    ("dataSourceRef", .record (all .text ["apiGroup", "kind", "name", "namespace"])),
    ("resources", resourceAmounts), ("selector", labelSelector)] ++
  all .text ["storageClassName", "volumeAttributesClassName", "volumeMode", "volumeName"])

/-- What has become of a claim. -/
def claimStatus : Shape := .record (
  [("accessModes", texts),
    ("conditions", .list (.record (
      all .instant ["lastProbeTime", "lastTransitionTime"] ++
      all .text ["message", "reason", "status", "type"]))),
    ("modifyVolumeStatus", .record (all .text ["status", "targetVolumeAttributesClassName"]))] ++
  all textMap ["allocatedResourceStatuses", "allocatedResources", "capacity"] ++
  all .text ["currentVolumeAttributesClassName", "phase"])

/-- A claim on storage. -/
def claim : Shape := .record
  [("apiVersion", .exactly "v1"), ("kind", .exactly "PersistentVolumeClaim"),
    ("metadata", .metadata), ("spec", claimSpec), ("status", claimStatus)]

/-! ## Volumes -/

/-- Keys that become files. -/
def keysToPaths : Shape :=
  .list (.record (all .text ["key", "path"] ++ all .whole32 ["mode"]))

/-- A field of the pod itself. -/
def fieldReference : Shape := .record (all .text ["apiVersion", "fieldPath"])

/-- An amount of a resource of a container. -/
def resourceReference : Shape := .record (all .text ["containerName", "divisor", "resource"])

/-- Facts about the pod that become files. -/
def podFacts : Shape := .list (.record
  ([("fieldRef", fieldReference), ("resourceFieldRef", resourceReference)] ++
    all .whole32 ["mode"] ++ all .text ["path"]))

/-- One of the sources of a volume that has several. -/
def projection : Shape := .record
  [("clusterTrustBundle", .record (
      [("labelSelector", labelSelector)] ++ all .text ["name", "path", "signerName"] ++
      all .truth ["optional"])),
    ("configMap", .record (
      [("items", keysToPaths)] ++ all .text ["name"] ++ all .truth ["optional"])),
    ("downwardAPI", .record [("items", podFacts)]),
    ("secret", .record (
      [("items", keysToPaths)] ++ all .text ["name"] ++ all .truth ["optional"])),
    ("serviceAccountToken", .record (all .text ["audience", "path"] ++
      all .whole64 ["expirationSeconds"]))]

/-- The sources of volumes that the cluster itself has. -/
def ownSources : List (String × Shape) :=
  [("configMap", .record (
      [("items", keysToPaths)] ++ all .whole32 ["defaultMode"] ++ all .text ["name"] ++
      all .truth ["optional"])),
    ("csi", .record (
      [("nodePublishSecretRef", localReference), ("volumeAttributes", textMap)] ++
      all .text ["driver", "fsType"] ++ all .truth ["readOnly"])),
    ("downwardAPI", .record ([("items", podFacts)] ++ all .whole32 ["defaultMode"])),
    ("emptyDir", .record (all .text ["medium", "sizeLimit"])),
    ("ephemeral", .record
      [("volumeClaimTemplate", .record [("metadata", .metadata), ("spec", claimSpec)])]),
    ("hostPath", .record (all .text ["path", "type"])),
    ("persistentVolumeClaim", .record (all .text ["claimName"] ++ all .truth ["readOnly"])),
    ("projected", .record ([("sources", .list projection)] ++ all .whole32 ["defaultMode"])),
    ("secret", .record (
      [("items", keysToPaths)] ++ all .whole32 ["defaultMode"] ++ all .text ["secretName"] ++
      all .truth ["optional"]))]

/-- The sources of volumes on the network and at vendors. -/
def otherSources : List (String × Shape) :=
  [("awsElasticBlockStore", .record (
      all .text ["fsType", "volumeID"] ++ all .whole32 ["partition"] ++ all .truth ["readOnly"])),
    ("azureDisk", .record (
      all .text ["cachingMode", "diskName", "diskURI", "fsType", "kind"] ++
      all .truth ["readOnly"])),
    ("azureFile", .record (all .text ["secretName", "shareName"] ++ all .truth ["readOnly"])),
    ("cephfs", .record (
      [("monitors", texts), ("secretRef", localReference)] ++
      all .text ["path", "secretFile", "user"] ++ all .truth ["readOnly"])),
    ("cinder", .record (
      [("secretRef", localReference)] ++ all .text ["fsType", "volumeID"] ++
      all .truth ["readOnly"])),
    ("fc", .record (
      all .text ["fsType"] ++ all .whole32 ["lun"] ++ all .truth ["readOnly"] ++
      all texts ["targetWWNs", "wwids"])),
    ("flexVolume", .record (
      [("options", textMap), ("secretRef", localReference)] ++ all .text ["driver", "fsType"] ++
      all .truth ["readOnly"])),
    ("flocker", .record (all .text ["datasetName", "datasetUUID"])),
    ("gcePersistentDisk", .record (
      all .text ["fsType", "pdName"] ++ all .whole32 ["partition"] ++ all .truth ["readOnly"])),
    ("gitRepo", .record (all .text ["directory", "repository", "revision"])),
    ("glusterfs", .record (all .text ["endpoints", "path"] ++ all .truth ["readOnly"])),
    ("iscsi", .record (
      [("portals", texts), ("secretRef", localReference)] ++
      all .text ["fsType", "initiatorName", "iqn", "iscsiInterface", "targetPortal"] ++
      all .whole32 ["lun"] ++ all .truth ["chapAuthDiscovery", "chapAuthSession", "readOnly"])),
    ("nfs", .record (all .text ["path", "server"] ++ all .truth ["readOnly"])),
    ("photonPersistentDisk", .record (all .text ["fsType", "pdID"])),
    ("portworxVolume", .record (all .text ["fsType", "volumeID"] ++ all .truth ["readOnly"])),
    ("quobyte", .record (
      all .text ["group", "registry", "tenant", "user", "volume"] ++ all .truth ["readOnly"])),
    ("rbd", .record (
      [("monitors", texts), ("secretRef", localReference)] ++
      all .text ["fsType", "image", "keyring", "pool", "user"] ++ all .truth ["readOnly"])),
    ("scaleIO", .record (
      [("secretRef", localReference)] ++
      all .text ["fsType", "gateway", "protectionDomain", "storageMode", "storagePool", "system",
        "volumeName"] ++ all .truth ["readOnly", "sslEnabled"])),
    ("storageos", .record (
      [("secretRef", localReference)] ++ all .text ["fsType", "volumeName", "volumeNamespace"] ++
      all .truth ["readOnly"])),
    ("vsphereVolume", .record (
      all .text ["fsType", "storagePolicyID", "storagePolicyName", "volumePath"]))]

/-- A volume of a pod. -/
def volume : Shape := .record (all .text ["name"] ++ ownSources ++ otherSources)

end PeriodScaler.Cluster.Shape
