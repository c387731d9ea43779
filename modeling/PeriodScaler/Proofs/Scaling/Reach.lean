import PeriodScaler.Proofs.Scaling.Courses
import PeriodScaler.Proofs.Scaling.Restoration

/-!
# What a pass reaches

A pass over the workloads of a kind, or over instances, lists what its places have of the items that
it selects by their labels, and reaches those of them that are named. Its report is told by its
lines, and each item of the table has run its own course.

* **`Mutator.lists_iff`**, **`InstanceMutator.lists_iff`**: what is listed is what is found at one
  of the places.
* **`Mutator.run_setState`**, **`InstanceMutator.run_setState`**: a pass over a world.
-/

namespace PeriodScaler

open Memory (World)

/-! ## Workloads -/

namespace Mutator

variable (m : Mutator)

/-- The namespaces that are searched. -/
def places : List String :=
  m.selection.searched m.defaultNamespace

/-- When no namespace is selected, the default one is searched. -/
theorem places_of_none (h : m.selection.namespaces = []) : m.places = [m.defaultNamespace] := by
  unfold places WorkloadSelection.searched
  rw [h]
  rfl

theorem places_of_some (h : m.selection.namespaces ≠ []) :
    m.places = m.selection.namespaces := by
  unfold places WorkloadSelection.searched
  rw [if_neg (by rwa [List.isEmpty_iff])]

theorem nodup_places (h : m.selection.namespaces.Nodup) : m.places.Nodup := by
  by_cases hnone : m.selection.namespaces = []
  · rw [m.places_of_none hnone]
    exact List.nodup_singleton _
  · rw [m.places_of_some hnone]
    exact h

variable (w : World)

/-- A pass lists a workload: it is of the kind, in a namespace that can be listed, and the selector
accepts it. -/
def Lists (e : Workload × Labels) : Prop :=
  e.1.kind = m.workloadKind ∧ e.1.namespaceName ∈ m.places ∧
    w.workloads.failingList.contains e.1.namespaceName = false ∧
    Selector.accepts (Selector.ofLabels m.selection.labels) e.2 = true

/-- A pass reaches a workload: it lists it, and the workload is named or all are. -/
def Reaches (e : Workload × Labels) : Prop :=
  m.Lists w e ∧ isNamed m.selection.names e.1.name = true

variable (target : Target)

/-- The workloads of a mutator, as they are gone over. -/
def sweep : Sweep Workload :=
  m.selection.sweep m.server m.workloadKind m.kind target

/-- The workloads of a world, as a mutator finds them. -/
def backing : Backing (Workload × Labels) Workload :=
  m.selection.backing w m.workloadKind m.kind target

/-- What a mutator does in a world. -/
def part : Part (Workload × Labels) :=
  (m.sweep target).part (m.backing w target) m.places

theorem asks : (m.sweep target).Asks (m.backing w target) :=
  m.selection.asks_backing w m.server m.workloadKind m.kind target

theorem isAt_iff {namespaceName : String} {e : Workload × Labels} :
    (m.backing w target).isAt namespaceName e = true ↔ e.1.kind = m.workloadKind ∧
      e.1.namespaceName = namespaceName ∧
        Selector.accepts (Selector.ofLabels m.selection.labels) e.2 = true := by
  simp only [backing, WorkloadSelection.backing, Bool.and_eq_true, beq_iff_eq, and_assoc]

theorem refusal_eq_none_iff {namespaceName : String} :
    (m.backing w target).refusal namespaceName = none ↔
      w.workloads.failingList.contains namespaceName = false := by
  simp only [backing, WorkloadSelection.backing, ite_eq_right_iff, reduceCtorEq, imp_false,
    Bool.not_eq_true]

/-- What is found at one of the places is what is listed. -/
theorem lists_iff {e : Workload × Labels} : m.Lists w e ↔ ∃ place ∈ m.places,
    (m.backing w target).refusal place = none ∧ (m.backing w target).isAt place e = true := by
  simp only [isAt_iff, refusal_eq_none_iff]
  constructor
  · rintro ⟨hkind, hplace, hlisted, haccepts⟩
    exact ⟨e.1.namespaceName, hplace, hlisted, hkind, rfl, haccepts⟩
  · rintro ⟨_, hplace, hlisted, hkind, rfl, haccepts⟩
    exact ⟨hkind, hplace, hlisted, haccepts⟩

/-- **The workloads that a pass touches** are those that it reaches. -/
theorem anyTouches_part (e : Workload × Labels) :
    Leg.anyTouches (m.part w target).legs e = true ↔ m.Reaches w e := by
  unfold part Reaches
  rw [Sweep.anyTouches_iff, m.lists_iff w target]
  rfl

variable {w target}

theorem setState_eq (htarget : target ≠ .noAction) :
    m.setState target = ((m.sweep target).overAll m.places).bind fun lines =>
      .done (.ok (.ofLines lines)) :=
  m.selection.setState_eq m.server m.workloadKind m.kind m.defaultNamespace target htarget

/-- **A pass over the workloads of a world**: its lines, its report, and what it leaves. -/
theorem run_setState (hw : w.IsOrdered) (htarget : target ≠ .noAction) :
    ∃ log, ((m.sweep target).overAll m.places).run World.answer w =
        ((m.part w target).lines w.workloads.entries,
          withWorkloads w (w.workloads.entries.map (Leg.course (m.part w target).legs)) log) ∧
      (m.setState target).run World.answer w =
        (.ok (.ofLines ((m.part w target).lines w.workloads.entries)),
          withWorkloads w (w.workloads.entries.map (Leg.course (m.part w target).legs)) log) := by
  obtain ⟨log, hrun⟩ := Sweep.run_overAll (m.asks w target) m.places w.workloads.entries
    w.workloads.calls (WorkloadSelection.nodup_sources hw)
  rw [Leg.stepOver_eq_map] at hrun
  -- to put back the entries and the log of a world gives the world
  change ((m.sweep target).overAll m.places).run World.answer w = _ at hrun
  refine ⟨log, hrun, ?_⟩
  rw [m.setState_eq htarget, Program.run_bind, hrun]
  rfl

end Mutator

/-! ## Instances -/

/-- A pass over instances: the credentials for it, how the report names their kind, and how they are
selected. -/
structure InstanceMutator where
  credentials : Credentials
  kind : String
  selection : InstanceSelection

namespace InstanceMutator

/-- Brings the instances of a mutator toward a target. -/
def setState (m : InstanceMutator) (target : Target) : Work (Except Cause Report) :=
  m.selection.setState m.credentials m.kind target

variable (m : InstanceMutator) (w : World)

/-- A pass lists an instance: it is in a selected zone that can be listed, and the filter accepts
it. -/
def Lists (e : String × Instance) : Prop :=
  e.1 ∈ m.selection.zones ∧ w.instances.failingZones.contains e.1 = false ∧
    Filter.accepts (Filter.ofLabels m.selection.labels) e.2.labels = true

variable (target : Target)

/-- The instances of a mutator, as they are gone over. -/
def sweep : Sweep Instance :=
  m.selection.sweep m.credentials m.kind target

/-- The instances of a world, as a mutator finds them. -/
def backing : Backing (String × Instance) Instance :=
  m.selection.backing w m.kind target

/-- What a mutator does in a world. -/
def part : Part (String × Instance) :=
  (m.sweep target).part (m.backing w target) m.selection.zones

theorem asks : (m.sweep target).Asks (m.backing w target) :=
  m.selection.asks_backing w m.credentials m.kind target

theorem isAt_iff {zone : String} {e : String × Instance} :
    (m.backing w target).isAt zone e = true ↔ e.1 = zone ∧
      Filter.accepts (Filter.ofLabels m.selection.labels) e.2.labels = true := by
  simp only [backing, InstanceSelection.backing, Bool.and_eq_true, beq_iff_eq]

theorem refusal_eq_none_iff {zone : String} : (m.backing w target).refusal zone = none ↔
    w.instances.failingZones.contains zone = false := by
  simp only [backing, InstanceSelection.backing, ite_eq_right_iff, reduceCtorEq, imp_false,
    Bool.not_eq_true]

/-- What is found at one of the zones is what is listed. -/
theorem lists_iff {e : String × Instance} : m.Lists w e ↔ ∃ zone ∈ m.selection.zones,
    (m.backing w target).refusal zone = none ∧ (m.backing w target).isAt zone e = true := by
  simp only [isAt_iff, refusal_eq_none_iff]
  constructor
  · rintro ⟨hzone, hlisted, haccepts⟩
    exact ⟨e.1, hzone, hlisted, rfl, haccepts⟩
  · rintro ⟨_, hzone, hlisted, rfl, haccepts⟩
    exact ⟨hzone, hlisted, haccepts⟩

variable {w target}

theorem setState_eq (htarget : target ≠ .noAction) (hproject : m.selection.project ≠ "")
    (hzones : m.selection.zones ≠ []) :
    m.setState target = ((m.sweep target).overAll m.selection.zones).bind fun lines =>
      .done (.ok (.ofLines lines)) := by
  have hflaw : m.selection.flaw? = none := by
    unfold InstanceSelection.flaw?
    rw [if_neg hproject, if_neg (by rwa [List.isEmpty_iff])]
  unfold setState
  rw [InstanceSelection.setState_eq _ _ _ _ htarget, hflaw]
  rfl

/-- **A pass over the instances of a world**, when a project and zones are given. -/
theorem run_setState (hw : w.IsOrdered) (htarget : target ≠ .noAction)
    (hproject : m.selection.project ≠ "") (hzones : m.selection.zones ≠ []) :
    ∃ log, ((m.sweep target).overAll m.selection.zones).run World.answer w =
        ((m.part w target).lines w.instances.entries,
          withInstances w (w.instances.entries.map (Leg.course (m.part w target).legs)) log) ∧
      (m.setState target).run World.answer w =
        (.ok (.ofLines ((m.part w target).lines w.instances.entries)),
          withInstances w (w.instances.entries.map (Leg.course (m.part w target).legs)) log) := by
  obtain ⟨log, hrun⟩ := Sweep.run_overAll (m.asks w target) m.selection.zones w.instances.entries
    w.instances.calls (InstanceSelection.nodup_sources hw)
  rw [Leg.stepOver_eq_map] at hrun
  change ((m.sweep target).overAll m.selection.zones).run World.answer w = _ at hrun
  refine ⟨log, hrun, ?_⟩
  rw [m.setState_eq htarget hproject hzones, Program.run_bind, hrun]
  rfl

end InstanceMutator

end PeriodScaler
