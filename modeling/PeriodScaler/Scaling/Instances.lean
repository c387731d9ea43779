import PeriodScaler.Compute.Filter
import PeriodScaler.Scaling.Report

/-!
# Converging instances

A running instance is stopped for `down`, a stopped one is started for `up` and `restore`. One that
is already in the requested state is reported as such, with the same words as one that was just
brought there; one in any other state is left alone and reported as a failure.

Zones are searched in order. A zone that cannot be listed is one failure, and a name that was found
in no zone is another.

Model of the mutator `GcpInstances`: `need` and `converge` are its `converge`, with the decision
apart from the call, and `setState` is its `set_state` with the loops over zones and items as
recursions. Left out: the messages to the log.
-/

namespace PeriodScaler.InstanceSelection

/-- What an instance needs for a target. -/
inductive Need where
  | stop
  | start
  /-- It is in the requested state, which has this name. -/
  | nothing (state : String)
  | wait
  deriving DecidableEq, Repr

/-- What an instance in a state needs for a target. -/
def need (target : Target) (status : InstanceStatus) : Need :=
  match target with
  | .down =>
    if status.isRunning then .stop
    else if status.isStopped then .nothing "stopped"
    else .wait
  | .noAction => .wait
  | _ =>
    if status.isStopped then .start
    else if status.isRunning then .nothing "running"
    else .wait

variable (credentials : Credentials) (kind : String) (s : InstanceSelection)

/-- Brings one instance toward a target. -/
def converge (target : Target) (zone : String) (i : Instance) : Work Report :=
  let item := zone ++ "/" ++ i.name
  let report (state : String) : Except Cause Operation → Work Report
    | .ok _ => .done (.success kind item state)
    | .error e => .done (.failure kind item e.message)
  match need target i.status with
  | .stop => .ask (.stopInstance credentials s.project zone i.name) (report "stopped")
  | .start => .ask (.startInstance credentials s.project zone i.name) (report "running")
  | .nothing state => .done (.success kind item state)
  | .wait => .done (.failure kind item ("in transition (" ++ i.status.name ++ ")"))

/-- Converges the selected instances of one zone; gives their names too. -/
def convergeZone (target : Target) (zone : String) : Work (Report × List String) :=
  .ask (.listInstances credentials s.project zone (Filter.ofLabels s.labels)) fun
    | .error e => .done (.failure kind (zone ++ "/*") e.message, [])
    | .ok found => do
      let chosen := found.filter fun i => isNamed s.names i.name
      let report ← Report.gather (converge credentials kind s target zone) chosen
      return (report, chosen.map Instance.name)

/-- Converges the selected instances of some zones; gives their names too. -/
def convergeZones (target : Target) : List String → Work (Report × List String)
  | [] => .done (.empty, [])
  | zone :: rest => do
    let (report, seen) ← convergeZone credentials kind s target zone
    let (others, alsoSeen) ← convergeZones target rest
    return (report ++ others, seen ++ alsoSeen)

/-- Brings every selected instance toward a target. -/
def setState (target : Target) : Work (Except Cause Report) :=
  if target = .noAction then .done (.ok .empty)
  else if s.project = "" then .done (.error (.invalidConfig "gcp.projectId must be set"))
  else if s.zones.isEmpty then .done (.error (.invalidConfig "gcp.zones must not be empty"))
  else do
    let (report, seen) ← convergeZones credentials kind s target s.zones
    let missing := s.names.filter fun name => !seen.contains name
    return .ok (report ++
      .failures kind "instance not found in any selected zone" missing)

end PeriodScaler.InstanceSelection
