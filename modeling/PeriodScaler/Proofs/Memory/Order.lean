import PeriodScaler.Proofs.Memory.InstanceTable
import PeriodScaler.Proofs.Memory.WorkloadTable
import PeriodScaler.Proofs.Transcript

/-!
# Worlds in order

Both tables of a world are kept in order, so there is one entry for each workload and one for each
instance. A world without objects is in order, and whatever happens to it keeps it so: a change from
outside, and an answer to a call.

* **`IsOrdered.apply`**, **`isOrdered_foldl_apply`**: a change from outside, and any number of them.
* **`IsOrdered.answer`**, **`IsOrdered.run`**: a call, and a whole run.
-/

namespace PeriodScaler.Memory.World

/-- The tables of a world are in order. -/
structure IsOrdered (w : World) : Prop where
  workloads : Workloads.IsOrdered w.workloads.entries
  instances : Instances.IsOrdered w.instances.entries

instance : DecidablePred IsOrdered := fun w =>
  decidable_of_iff
    (Workloads.IsOrdered w.workloads.entries ∧ Instances.IsOrdered w.instances.entries)
    ⟨fun h => ⟨h.1, h.2⟩, fun h => ⟨h.workloads, h.instances⟩⟩

theorem isOrdered_empty (connector : Connector) : (empty connector).IsOrdered :=
  ⟨.nil, .nil⟩

variable {w : World}

/-- **A change from outside** keeps a world in order. -/
theorem IsOrdered.apply (h : w.IsOrdered) (e : Event) : (w.apply e).IsOrdered := by
  cases e with
  | workload kind namespaceName name replicas labels =>
    exact ⟨Workloads.isOrdered_place h.workloads, h.instances⟩
  | newInstance zone name status labels =>
    exact ⟨h.workloads, Instances.isOrdered_place h.instances⟩
  | failScale _ => exact ⟨h.workloads, h.instances⟩
  | failList _ => exact ⟨h.workloads, h.instances⟩
  | failInstance _ => exact ⟨h.workloads, h.instances⟩
  | failZone _ => exact ⟨h.workloads, h.instances⟩
  | put _ => exact ⟨h.workloads, h.instances⟩
  | merge _ _ => exact ⟨h.workloads, h.instances⟩
  | conflicts _ => exact ⟨h.workloads, h.instances⟩
  | failReads => exact ⟨h.workloads, h.instances⟩

/-- A world that changes from outside have built is in order. -/
theorem isOrdered_foldl_apply (connector : Connector) (events : List Event) :
    (events.foldl World.apply (empty connector)).IsOrdered :=
  List.foldlRecOn events World.apply (isOrdered_empty connector) fun _ h e _ => h.apply e

/-- **So does an answer to a call.** -/
theorem IsOrdered.answer (h : w.IsOrdered) (c : Call) : (World.answer c w).2.IsOrdered := by
  have hmoved : ∀ (zone name action : String) (status : InstanceStatus),
      Instances.IsOrdered (w.instances.transition zone name action status).2.entries := by
    intro zone name action status
    rcases Instances.transition_cases zone name action status w.instances with heq | heq
    · exact heq ▸ h.instances
    · exact heq ▸ h.instances.moved zone name status
  cases c with
  | scaleWorkload server kind namespaceName name replicas record =>
    refine ⟨?_, h.instances⟩
    rcases Workloads.scale_cases kind namespaceName name replicas record w.workloads with
      ⟨e, -, heq⟩ | ⟨-, heq⟩
    · exact heq ▸ h.workloads
    · exact heq ▸ h.workloads.scaled _ replicas record
  | startInstance _ _ zone name => exact ⟨h.workloads, hmoved zone name "start" .running⟩
  | stopInstance _ _ zone name => exact ⟨h.workloads, hmoved zone name "stop" .terminated⟩
  | fetch _ => exact ⟨h.workloads, h.instances⟩
  | putFinalizers _ _ => exact ⟨h.workloads, h.instances⟩
  | putStatus _ _ => exact ⟨h.workloads, h.instances⟩
  | connect _ => exact ⟨h.workloads, h.instances⟩
  | listWorkloads _ _ _ _ => exact ⟨h.workloads, h.instances⟩
  | listInstances _ _ _ _ => exact ⟨h.workloads, h.instances⟩

/-- **And so does a run.** -/
theorem IsOrdered.run {α : Type} (h : w.IsOrdered) (p : Work α) :
    (p.run World.answer w).2.IsOrdered := by
  refine Program.run_keeps (Q := fun _ => True) IsOrdered ?_ (fun _ _ => trivial) h
  exact fun c _ _ hs => hs.answer c

end PeriodScaler.Memory.World
