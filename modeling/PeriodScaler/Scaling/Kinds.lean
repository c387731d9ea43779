import PeriodScaler.Scaling.Instances
import PeriodScaler.Scaling.Workloads

/-!
# Kinds of resources

A configured kind is converged by the means of the provider whose resources are selected, when the
access leads to that provider and the provider has the kind. A kind that cannot be processed is one
failure under the name `*`, and the next kind is processed.

Model of `build_mutator` followed by `set_state` (`setKind`), and of the loop of the scaling stage
over the selected kinds (`setAll`), where `kind_failure` is the failure under `*`. Left out: the
messages to the log.
-/

namespace PeriodScaler

/-- Whether a name means the instances of a project, in any ASCII case. -/
def isInstanceKind (kind : String) : Bool :=
  let name := Text.lowerAscii kind
  name == "vm-instances" || name == "instances"

/-- Brings every selected resource of one kind toward a target. -/
def setKind (access : Access) (s : Selection) (kind defaultNamespace : String) (target : Target) :
    Work (Except Cause Report) :=
  let notFound : Work (Except Cause Report) :=
    .done (.error (.kindNotFound kind s.provider))
  match access, s with
  | .instances credentials, .instances s =>
    if isInstanceKind kind then s.setState credentials kind target else notFound
  | .workloads server, .workloads s =>
    match WorkloadKind.ofName? kind with
    | some workloadKind => s.setState server workloadKind kind defaultNamespace target
    | none => notFound
  | _, _ => notFound

/-- Brings every selected resource toward a target, one kind after the other. -/
def setAll (access : Access) (s : Selection) (defaultNamespace : String) (target : Target) :
    Work Report :=
  Report.gather
    (fun kind => do
      match ← setKind access s kind defaultNamespace target with
      | .ok report => return report
      | .error e => return .failure kind "*" e.message)
    s.types

end PeriodScaler
