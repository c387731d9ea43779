import PeriodScaler.Cluster.VolumeShape

/-!
# Shapes of pods

What must be said about the pods that a workload runs: their containers, where they may run, and how
they are secured.

Model of the library type `PodTemplateSpec` and of what it holds, as shapes.
-/

namespace PeriodScaler.Cluster.Shape

/-! ## Security -/

/-- The labels that a process is confined by. -/
def confinement : List (String × Shape) :=
  [("appArmorProfile", .record (all .text ["localhostProfile", "type"])),
    ("seLinuxOptions", .record (all .text ["level", "role", "type", "user"])),
    ("seccompProfile", .record (all .text ["localhostProfile", "type"])),
    ("windowsOptions", .record (
      all .text ["gmsaCredentialSpec", "gmsaCredentialSpecName", "runAsUserName"] ++
      all .truth ["hostProcess"]))]

/-- How a container is secured. -/
def containerSecurity : Shape := .record (
  confinement ++ [("capabilities", .record (all texts ["add", "drop"]))] ++
  all .truth
    ["allowPrivilegeEscalation", "privileged", "readOnlyRootFilesystem", "runAsNonRoot"] ++
  all .text ["procMount"] ++ all .whole64 ["runAsGroup", "runAsUser"])

/-- How a pod is secured. -/
def podSecurity : Shape := .record (
  confinement ++
  [("supplementalGroups", .list .whole64),
    ("sysctls", .list (.record (all .text ["name", "value"])))] ++
  all .whole64 ["fsGroup", "runAsGroup", "runAsUser"] ++ all .text ["fsGroupChangePolicy"] ++
  all .truth ["runAsNonRoot"])

/-! ## Containers -/

/-- Where a value is kept under a key. -/
def keySelector : Shape := .record (all .text ["key", "name"] ++ all .truth ["optional"])

/-- A variable of a container. -/
def setting : Shape := .record (
  all .text ["name", "value"] ++
  [("valueFrom", .record
    [("configMapKeyRef", keySelector), ("fieldRef", fieldReference),
      ("resourceFieldRef", resourceReference), ("secretKeyRef", keySelector)])])

/-- Many variables of a container. -/
def variableSource : Shape := .record (
  all (.record (all .text ["name"] ++ all .truth ["optional"])) ["configMapRef", "secretRef"] ++
  all .text ["prefix"])

/-- A command that is run. -/
def command : Shape := .record (all texts ["command"])

/-- A request that is made. -/
def webRequest : Shape := .record (
  [("httpHeaders", .list (.record (all .text ["name", "value"]))), ("port", .wholeOrText)] ++
  all .text ["host", "path", "scheme"])

/-- A connection that is opened. -/
def connection : Shape := .record (all .text ["host"] ++ all .wholeOrText ["port"])

/-- What is done when a container has started or will stop. -/
def handler : Shape := .record
  [("exec", command), ("httpGet", webRequest), ("sleep", .record (all .whole64 ["seconds"])),
    ("tcpSocket", connection)]

/-- How to find out whether a container is well. -/
def probe : Shape := .record (
  [("exec", command), ("grpc", .record (all .whole32 ["port"] ++ all .text ["service"])),
    ("httpGet", webRequest), ("tcpSocket", connection)] ++
  all .whole32
    ["failureThreshold", "initialDelaySeconds", "periodSeconds", "successThreshold",
      "timeoutSeconds"] ++
  all .whole64 ["terminationGracePeriodSeconds"])

/-- A port of a container. -/
def containerPort : Shape := .record (
  all .whole32 ["containerPort", "hostPort"] ++ all .text ["hostIP", "name", "protocol"])

/-- Where a volume is in a container. -/
def volumeMount : Shape := .record (
  all .text
    ["mountPath", "mountPropagation", "name", "recursiveReadOnly", "subPath", "subPathExpr"] ++
  all .truth ["readOnly"])

/-- The resources of a container. -/
def containerResources : Shape := .record (
  [("claims", .list localReference)] ++ all textMap ["limits", "requests"])

/-- The fields of a container. -/
def containerFields : List (String × Shape) :=
  all texts ["args", "command"] ++
  [("env", .list setting), ("envFrom", .list variableSource),
    ("lifecycle", .record (all handler ["postStart", "preStop"])),
    ("ports", .list containerPort),
    ("resizePolicy", .list (.record (all .text ["resourceName", "restartPolicy"]))),
    ("resources", containerResources), ("securityContext", containerSecurity),
    ("volumeDevices", .list (.record (all .text ["devicePath", "name"]))),
    ("volumeMounts", .list volumeMount)] ++
  all probe ["livenessProbe", "readinessProbe", "startupProbe"] ++
  all .text
    ["image", "imagePullPolicy", "name", "restartPolicy", "terminationMessagePath",
      "terminationMessagePolicy", "workingDir"] ++
  all .truth ["stdin", "stdinOnce", "tty"]

/-! ## Places -/

/-- A condition on nodes. -/
def nodeTerm : Shape := .record (
  all (.list (.record (all .text ["key", "operator"] ++ all texts ["values"])))
    ["matchExpressions", "matchFields"])

/-- A condition on the pods of a node. -/
def podTerm : Shape := .record (
  all labelSelector ["labelSelector", "namespaceSelector"] ++
  all texts ["matchLabelKeys", "mismatchLabelKeys", "namespaces"] ++ all .text ["topologyKey"])

/-- Conditions on the pods of a node, desired ones and necessary ones. -/
def podTerms : Shape := .record
  [("preferredDuringSchedulingIgnoredDuringExecution",
      .list (.record ([("podAffinityTerm", podTerm)] ++ all .whole32 ["weight"]))),
    ("requiredDuringSchedulingIgnoredDuringExecution", .list podTerm)]

/-- Where pods like to run. -/
def affinity : Shape := .record (
  [("nodeAffinity", .record
    [("preferredDuringSchedulingIgnoredDuringExecution",
        .list (.record ([("preference", nodeTerm)] ++ all .whole32 ["weight"]))),
      ("requiredDuringSchedulingIgnoredDuringExecution",
        .record [("nodeSelectorTerms", .list nodeTerm)])])] ++
  all podTerms ["podAffinity", "podAntiAffinity"])

/-- Which taints of nodes are tolerated. -/
def toleration : Shape := .record (
  all .text ["effect", "key", "operator", "value"] ++ all .whole64 ["tolerationSeconds"])

/-- How pods are spread. -/
def spread : Shape := .record (
  [("labelSelector", labelSelector), ("matchLabelKeys", texts)] ++
  all .whole32 ["maxSkew", "minDomains"] ++
  all .text ["nodeAffinityPolicy", "nodeTaintsPolicy", "topologyKey", "whenUnsatisfiable"])

/-! ## Pods -/

/-- How names are looked up. -/
def nameLookup : Shape := .record (
  all texts ["nameservers", "searches"] ++
  [("options", .list (.record (all .text ["name", "value"])))])

/-- What a pod is made of. -/
def podSpec : Shape := .record (
  [("affinity", affinity), ("containers", .list (.record containerFields)),
    ("dnsConfig", nameLookup),
    ("ephemeralContainers", .list (.record (containerFields ++ all .text ["targetContainerName"]))),
    ("hostAliases", .list (.record (all texts ["hostnames"] ++ all .text ["ip"]))),
    ("imagePullSecrets", .list localReference),
    ("initContainers", .list (.record containerFields)), ("os", localReference),
    ("readinessGates", .list (.record (all .text ["conditionType"]))),
    ("resourceClaims", .list (.record
      [("name", .text),
        ("source", .record (all .text ["resourceClaimName", "resourceClaimTemplateName"]))])),
    ("schedulingGates", .list localReference), ("securityContext", podSecurity),
    ("tolerations", .list toleration), ("topologySpreadConstraints", .list spread),
    ("volumes", .list volume)] ++
  all textMap ["nodeSelector", "overhead"] ++
  all .whole64 ["activeDeadlineSeconds", "terminationGracePeriodSeconds"] ++
  all .whole32 ["priority"] ++
  all .truth
    ["automountServiceAccountToken", "enableServiceLinks", "hostIPC", "hostNetwork", "hostPID",
      "hostUsers", "setHostnameAsFQDN", "shareProcessNamespace"] ++
  all .text
    ["dnsPolicy", "hostname", "nodeName", "preemptionPolicy", "priorityClassName",
      "restartPolicy", "runtimeClassName", "schedulerName", "serviceAccount",
      "serviceAccountName", "subdomain"])

/-- What every pod of a workload is made of. -/
def podTemplate : Shape := .record [("metadata", .metadata), ("spec", podSpec)]

end PeriodScaler.Cluster.Shape
