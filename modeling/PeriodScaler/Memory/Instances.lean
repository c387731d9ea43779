import PeriodScaler.Compute.Filter
import PeriodScaler.Cycle.Error
import PeriodScaler.Memory.Table

/-!
# Instances in memory

A table of instances, ordered by zone and name. Starting and stopping takes effect at once and is
logged whether it succeeds or not; failures can be arranged for by name and by zone.

Model of `MockGcpClient` with `add_instance` (`add`), `status_of` (`get?`), `list_instances`,
`transition`, `start_instance` and `stop_instance`, and its `fail_instance` and `fail_zone` as
fields. Left out: the lock around the state.
-/

namespace PeriodScaler.Memory

/-- A table of instances; each stands under the zone it was added to. -/
structure Instances where
  entries : List (String × Instance)
  failingInstances : List String
  failingZones : List String
  /-- The calls to start and stop, as action, zone and name. -/
  calls : List String
  deriving DecidableEq, Repr

namespace Instances

/-- A table without instances. -/
def empty : Instances := ⟨[], [], [], []⟩

/-- Whether two entries are of the same zone and name. -/
def same (a b : String × Instance) : Bool :=
  a.1 == b.1 && a.2.name == b.2.name

/-- Whether an entry comes before another one: by zone and name. -/
def before (a b : String × Instance) : Bool :=
  a.1 < b.1 || (a.1 == b.1 && a.2.name < b.2.name)

/-- Puts an instance in its place, for one of the same zone and name. -/
def place (zone : String) (i : Instance) : List (String × Instance) → List (String × Instance) :=
  Table.place same before (zone, i)

/-- Adds an instance to a zone. -/
def add (zone name : String) (status : InstanceStatus) (labels : Labels) (t : Instances) :
    Instances :=
  let url := "https://www.googleapis.com/compute/v1/projects/mock/zones/" ++ zone
  { t with entries := place zone ⟨name, url, status, labels⟩ t.entries }

/-- The instance of a name in a zone. -/
def get? (zone name : String) (t : Instances) : Option Instance :=
  (t.entries.find? fun (z, i) => z == zone && i.name == name).map Prod.snd

/-- The instances of a zone that a filter accepts. -/
def list (zone : String) (filter : Option String) (t : Instances) :
    Except ComputeError (List Instance) :=
  if t.failingZones.contains zone then .error (.api ("mock failure listing zone " ++ zone))
  else
    .ok ((t.entries.filter fun (z, i) => z == zone && Filter.accepts filter i.labels).map
      Prod.snd)

/-- Brings an instance into a state under the name of an action. -/
def transition (zone name action : String) (status : InstanceStatus) (t : Instances) :
    Except ComputeError Operation × Instances :=
  let item := zone ++ "/" ++ name
  let t := { t with calls := t.calls ++ [action ++ ":" ++ item] }
  let isIt := fun (z : String) (i : Instance) => z == zone && i.name == name
  if t.failingInstances.contains name then
    (.error (.api ("mock failure for " ++ name)), t)
  else if t.entries.any fun (z, i) => isIt z i then
    (.ok ⟨"operation-" ++ action ++ "-" ++ name, "DONE", none, none⟩,
      { t with entries := t.entries.map fun (z, i) =>
        (z, if isIt z i then { i with status := status } else i) })
  else (.error (.notFound ("instance " ++ item ++ " not found")), t)

/-- Starts an instance. -/
def start (zone name : String) (t : Instances) : Except ComputeError Operation × Instances :=
  t.transition zone name "start" .running

/-- Stops an instance. -/
def stop (zone name : String) (t : Instances) : Except ComputeError Operation × Instances :=
  t.transition zone name "stop" .terminated

/-- The description of a table in a log. -/
def describe (_ : Instances) : String :=
  "MockGcpClient \x7b .. \x7d"

end Instances

end PeriodScaler.Memory
