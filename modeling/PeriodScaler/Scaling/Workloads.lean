import PeriodScaler.Scaling.Report

/-!
# Converging workloads

Scaling down records the replica count in an annotation and sets the count to zero; an earlier
record is kept. Scaling up or restoring sets the recorded count and drops the record; a workload
without a record keeps its count. The comment of a success names the resulting state, so it is the
same whether the workload was just scaled or had been before.

Namespaces are searched in order. One that cannot be listed is one failure, and a name that was
found in no namespace is another.

Model of the mutator `KubernetesWorkloads`: `need` and `converge` are its `converge`, with the
decision apart from the call, and `setState` is its `set_state` with the loops over namespaces and
items as recursions. Left out: the messages to the log.
-/

namespace PeriodScaler.WorkloadSelection

/-- What a workload needs for a target. -/
inductive Need where
  /-- A replica count, a count to record or none, and the comment on success. -/
  | scale (replicas : Int) (record : Option Int) (comment : String)
  | nothing (comment : String)
  | impossible (reason : String)
  | ignore
  deriving DecidableEq, Repr

/-- The replica count to return to later: the recorded one, or the current one when it is positive
and nothing is recorded. -/
def toRecord (w : Workload) : Option Int :=
  match w.recorded with
  | some raw => Text.int32? raw.toList
  | none => if w.replicas > 0 then some w.replicas else none

/-- What a workload needs for a target. -/
def need (target : Target) (w : Workload) : Need :=
  match target with
  | .noAction => .ignore
  | .down =>
    let comment :=
      match toRecord w with
      | some n => "scaled down from " ++ Text.ofInt n ++ " replicas"
      | none => "scaled down"
    if w.replicas = 0 then .nothing comment
    else .scale 0 (some ((toRecord w).getD w.replicas)) comment
  | _ =>
    match w.recorded with
    | none =>
      if w.replicas > 0 then .nothing ("scaled up to " ++ Text.ofInt w.replicas ++ " replicas")
      else .nothing "unchanged: no recorded replica count"
    | some raw =>
      match Text.int32? raw.toList with
      | some n => .scale n none ("scaled up to " ++ Text.ofInt n ++ " replicas")
      | none => .impossible ("invalid recorded replica count '" ++ raw ++ "'")

variable (server : Option String) (workloadKind : WorkloadKind) (kind : String)
  (s : WorkloadSelection) (defaultNamespace : String)

/-- Brings one workload toward a target. -/
def converge (target : Target) (w : Workload) : Work Report :=
  match need target w with
  | .scale replicas record comment =>
    .ask (.scaleWorkload server w.kind w.namespaceName w.name replicas record) fun
      | .ok _ => .done (.success kind w.item comment)
      | .error e => .done (.failure kind w.item e.message)
  | .nothing comment => .done (.success kind w.item comment)
  | .impossible reason => .done (.failure kind w.item reason)
  | .ignore => .done .empty

/-- Converges the selected workloads of one namespace; gives their names too. -/
def convergeNamespace (target : Target) (namespaceName : String) :
    Work (Report × List String) :=
  .ask (.listWorkloads server workloadKind namespaceName (Selector.ofLabels s.labels)) fun
    | .error e => .done (.failure kind (namespaceName ++ "/*") e.message, [])
    | .ok found => do
      let chosen := found.filter fun w => isNamed s.names w.name
      let report ← Report.gather (converge server kind target) chosen
      return (report, chosen.map Workload.name)

/-- Converges the selected workloads of some namespaces; gives their names too. -/
def convergeNamespaces (target : Target) : List String → Work (Report × List String)
  | [] => .done (.empty, [])
  | namespaceName :: rest => do
    let (report, seen) ← convergeNamespace server workloadKind kind s target namespaceName
    let (others, alsoSeen) ← convergeNamespaces target rest
    return (report ++ others, seen ++ alsoSeen)

/-- The namespaces to search: the given one when none is selected. -/
def searched : List String :=
  if s.namespaces.isEmpty then [defaultNamespace] else s.namespaces

/-- Brings every selected workload of one kind toward a target. -/
def setState (target : Target) : Work (Except Cause Report) :=
  if target = .noAction then .done (.ok .empty)
  else do
    let (report, seen) ←
      convergeNamespaces server workloadKind kind s target (searched s defaultNamespace)
    let missing := s.names.filter fun name => !seen.contains name
    return .ok (report ++
      .failures kind "workload not found in any selected namespace" missing)

end PeriodScaler.WorkloadSelection
