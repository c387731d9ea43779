import PeriodScaler.Cycle.Stages
import PeriodScaler.Proofs.Calendar.Shift
import PeriodScaler.Proofs.Scaling.Tables

/-!
# A failure stays where it is

Two runs of the scaling stage from one world, with different failures arranged for. An item is
spared by failures when neither its name nor its namespace or zone is among them. What is spared by
both comes out of both runs alike, and the lines that are written for it are the same; the failure
of a kind is one line in its place, and the kinds before and after it are processed all the same.

* **`WorkloadSelection.part_agree`**, **`InstanceSelection.part_agree`**: what is done for a kind
  does not depend on failures that spare an item.
* **`scaling_tells`**: the stage adds the lines of all kinds to the report.
* **`bulkhead`**: the two runs.
-/

namespace PeriodScaler

open Memory (World Workloads)

/-- Failures to arrange for: names for which a change fails, and places that cannot be listed. -/
structure Failures where
  workloads : List String
  namespaces : List String
  instances : List String
  zones : List String
  deriving DecidableEq, Repr

namespace Failures

/-- A world with these failures in the place of its own. -/
def inject (f : Failures) (w : World) : World :=
  { w with
    workloads := { w.workloads with failingScale := f.workloads, failingList := f.namespaces }
    instances := { w.instances with failingInstances := f.instances, failingZones := f.zones } }

/-- Whether failures spare an item: neither its name nor its place is among them. -/
def spares (f : Failures) : Source → Bool
  | .workload id => !f.workloads.contains id.name && !f.namespaces.contains id.namespaceName
  | .machine zone name => !f.instances.contains name && !f.zones.contains zone
  | _ => false

/-- Whether both of two sets of failures spare an item. -/
def bothSpare (f g : Failures) (x : Source) : Bool :=
  f.spares x && g.spares x

variable {f g : Failures}

theorem isOrdered_inject {w : World} (h : w.IsOrdered) (f : Failures) : (f.inject w).IsOrdered :=
  ⟨h.workloads, h.instances⟩

theorem isItem_of_bothSpare {x : Source} (h : f.bothSpare g x = true) : x.isItem = true := by
  cases x <;> first | rfl | cases h

theorem bothSpare_workload {id : Identity} (h : f.bothSpare g (.workload id) = true) :
    (f.workloads.contains id.name = false ∧ f.namespaces.contains id.namespaceName = false) ∧
      g.workloads.contains id.name = false ∧ g.namespaces.contains id.namespaceName = false := by
  simpa only [bothSpare, spares, Bool.and_eq_true, Bool.not_eq_true'] using h

theorem bothSpare_machine {zone name : String} (h : f.bothSpare g (.machine zone name) = true) :
    (f.instances.contains name = false ∧ f.zones.contains zone = false) ∧
      g.instances.contains name = false ∧ g.zones.contains zone = false := by
  simpa only [bothSpare, spares, Bool.and_eq_true, Bool.not_eq_true'] using h

end Failures

/-! ## What failures do not reach -/

variable (f g : Failures) (w : World) (access : Access) (defaultNamespace : String)
  (target : Target)

namespace WorkloadSelection

variable (s : WorkloadSelection)

theorem backing_agree (workloadKind : WorkloadKind) (kind : String) :
    Backing.Agree (f.bothSpare g) (s.backing (f.inject w) workloadKind kind target)
      (s.backing (g.inject w) workloadKind kind target) where
  item_eq := rfl
  source_eq := rfl
  isAt_eq := rfl
  after e he := by
    obtain ⟨⟨hf, -⟩, hg, -⟩ := Failures.bothSpare_workload he
    change brought g.workloads target e = brought f.workloads target e
    have hf : f.workloads.contains e.1.name = false := hf
    have hg : g.workloads.contains e.1.name = false := hg
    simp only [brought, hf, hg]
  report e he := by
    obtain ⟨⟨hf, -⟩, hg, -⟩ := Failures.bothSpare_workload he
    change reported g.workloads kind target e.1 = reported f.workloads kind target e.1
    have hf : f.workloads.contains e.1.name = false := hf
    have hg : g.workloads.contains e.1.name = false := hg
    simp only [reported, hf, hg]
  refusal namespaceName e he hat := by
    obtain ⟨⟨-, hf⟩, -, hg⟩ := Failures.bothSpare_workload he
    have hname : e.1.namespaceName = namespaceName := by
      simp only [backing, Bool.and_eq_true, beq_iff_eq] at hat
      exact hat.1.2
    have hf : f.namespaces.contains namespaceName = false := hname ▸ hf
    have hg : g.namespaces.contains namespaceName = false := hname ▸ hg
    simp only [backing, Failures.inject, hf, hg, Bool.false_eq_true, if_false, and_self]

/-- **What is done for a kind of workloads** does not depend on failures that spare an item. -/
theorem part_agree (kind : String) :
    Part.Agree (fun e => .workload e.1.identity) (f.bothSpare g)
      (s.part (f.inject w) access defaultNamespace target kind)
      (s.part (g.inject w) access defaultNamespace target kind) := by
  rcases s.part_cases access defaultNamespace target kind with
    ⟨lines, hlines, hpart, -⟩ | ⟨server, workloadKind, -, hpart, -⟩
  · rw [hpart, hpart]
    exact Part.agree_only hlines
  · rw [hpart, hpart]
    exact Sweep.part_agree (s.asks_backing (f.inject w) server workloadKind kind target)
      (s.asks_backing (g.inject w) server workloadKind kind target)
      (s.backing_agree f g w target workloadKind kind) _

end WorkloadSelection

namespace InstanceSelection

variable (s : InstanceSelection)

theorem backing_agree (kind : String) :
    Backing.Agree (f.bothSpare g) (s.backing (f.inject w) kind target)
      (s.backing (g.inject w) kind target) where
  item_eq := rfl
  source_eq := rfl
  isAt_eq := rfl
  after e he := by
    obtain ⟨⟨hf, -⟩, hg, -⟩ := Failures.bothSpare_machine he
    change brought g.instances target e = brought f.instances target e
    simp only [brought, hf, hg]
  report e he := by
    obtain ⟨⟨hf, -⟩, hg, -⟩ := Failures.bothSpare_machine he
    change reported g.instances kind target e = reported f.instances kind target e
    simp only [reported, reportedAction, hf, hg]
  refusal zone e he hat := by
    obtain ⟨⟨-, hf⟩, -, hg⟩ := Failures.bothSpare_machine he
    have hzone : e.1 = zone := by
      simp only [backing, Bool.and_eq_true, beq_iff_eq] at hat
      exact hat.1
    have hf : f.zones.contains zone = false := hzone ▸ hf
    have hg : g.zones.contains zone = false := hzone ▸ hg
    simp only [backing, Failures.inject, hf, hg, Bool.false_eq_true, if_false, and_self]

/-- **What is done for instances** does not depend on failures that spare an item. -/
theorem part_agree (kind : String) :
    Part.Agree (fun e => .machine e.1 e.2.name) (f.bothSpare g)
      (s.part (f.inject w) access target kind) (s.part (g.inject w) access target kind) := by
  rcases s.part_cases access "" target kind with
    ⟨lines, hlines, hpart, -⟩ | ⟨credentials, -, hpart, -⟩
  · rw [hpart, hpart]
    exact Part.agree_only hlines
  · rw [hpart, hpart]
    exact Sweep.part_agree (s.asks_backing (f.inject w) credentials kind target)
      (s.asks_backing (g.inject w) credentials kind target) (s.backing_agree f g w target kind) _

end InstanceSelection

/-- Parts that agree, kind by kind. -/
theorem Part.forall₂_agree {ε : Type} {source : ε → Source} {spared : Source → Bool}
    {part part' : String → Part ε} (h : ∀ kind, Part.Agree source spared (part kind) (part' kind))
    (kinds : List String) :
    List.Forall₂ (Part.Agree source spared) (kinds.map part) (kinds.map part') :=
  List.forall₂_map_left_iff.mpr (List.forall₂_map_right_iff.mpr
    (List.forall₂_same.mpr fun kind _ => h kind))

/-! ## The stage -/

/-- A run of the scaling stage: it goes on with the lines of all kinds at the end of the report, and
these lines are told kind by kind. -/
structure Scales (c : Context) (access : Access) (s : Selection) (target : Target) (w : World)
    (ledger : List (List Line)) (w' : World) : Prop where
  stage : (Stages.scaling.execute c).run World.answer w =
    (.ok (.goOn { c with report := c.report ++ .ofLines ledger.flatten }), w')
  lines : (passLines access s c.key.namespaceName target s.types).run World.answer w = (ledger, w')
  kinds : List.Forall₂ (TellsKind access s c.key.namespaceName target) s.types ledger

variable {f g w access}

/-- **The stage adds the lines of all kinds to the report**, in the order of the configuration. -/
theorem scaling_tells {c : Context} {r : Resolution} {s : Selection} (hr : c.resolution = some r)
    (hs : c.selection = some s) (haccess : c.access = some access) {ledger : List (List Line)}
    {w' : World}
    (h : (passLines access s c.key.namespaceName r.period.target s.types).run World.answer w =
      (ledger, w')) :
    Scales c access s r.period.target w ledger w' where
  stage := by
    simp only [Stages.scaling, hr, hs, haccess, setAll_eq, Program.bind_eq, Program.bind_assoc,
      Program.run_bind, h]
    rfl
  lines := h
  kinds := by
    have hplays := Program.plays_run (h := World.answer)
      (passLines access s c.key.namespaceName r.period.target s.types) w
    rw [h] at hplays
    exact plays_passLines hplays

/-- **A failure stays where it is.** The scaling stage is run twice from one world, with two sets of
failures. Every run goes over all the kinds in their order: a kind that cannot be processed is one
failure under the name `*`, and no other kind has such a line. For the items that both sets spare,
the same lines are written, kind by kind, and the workloads and instances among them are left in the
same state. -/
theorem bulkhead (hw : w.IsOrdered) (f g : Failures) {c : Context} {r : Resolution} {s : Selection}
    (hr : c.resolution = some r) (hs : c.selection = some s) (haccess : c.access = some access) :
    ∃ ledger ledger' wf wg,
      Scales c access s r.period.target (f.inject w) ledger wf ∧
      Scales c access s r.period.target (g.inject w) ledger' wg ∧
      ledger.map (Line.sparedOf (f.bothSpare g)) = ledger'.map (Line.sparedOf (f.bothSpare g)) ∧
      sparedOf (fun e => .workload e.1.identity) (f.bothSpare g) wf.workloads.entries =
        sparedOf (fun e => .workload e.1.identity) (f.bothSpare g) wg.workloads.entries ∧
      sparedOf (fun e => .machine e.1 e.2.name) (f.bothSpare g) wf.instances.entries =
        sparedOf (fun e => .machine e.1 e.2.name) (f.bothSpare g) wg.instances.entries := by
  have hitems : ∀ x, f.bothSpare g x = true → x.isItem = true :=
    fun x hx => Failures.isItem_of_bothSpare hx
  rcases s with s | s
  · obtain ⟨log, hf⟩ := s.run_pass (f.inject w) access c.key.namespaceName r.period.target
      (Failures.isOrdered_inject hw f) s.types
    obtain ⟨log', hg⟩ := s.run_pass (g.inject w) access c.key.namespaceName r.period.target
      (Failures.isOrdered_inject hw g) s.types
    obtain ⟨hledger, hentries⟩ := Part.ledger_agree hitems
      (Part.forall₂_agree (s.part_agree f g w access r.period.target) s.types) rfl
    exact ⟨_, _, _, _, scaling_tells hr hs haccess hf, scaling_tells hr hs haccess hg, hledger, rfl,
      hentries⟩
  · obtain ⟨log, hf⟩ := s.run_pass (f.inject w) access c.key.namespaceName r.period.target
      (Failures.isOrdered_inject hw f) s.types
    obtain ⟨log', hg⟩ := s.run_pass (g.inject w) access c.key.namespaceName r.period.target
      (Failures.isOrdered_inject hw g) s.types
    obtain ⟨hledger, hentries⟩ := Part.ledger_agree hitems
      (Part.forall₂_agree (s.part_agree f g w access c.key.namespaceName r.period.target) s.types)
      rfl
    exact ⟨_, _, _, _, scaling_tells hr hs haccess hf, scaling_tells hr hs haccess hg, hledger,
      hentries, rfl⟩

/-- Three deployments in two namespaces. -/
def threeDeployments : World :=
  { World.empty (.leadsTo .kubernetes) with
    workloads :=
      { Workloads.empty with
        entries := [(⟨.deployment, "batch", "jobs", 1, []⟩, []),
          (⟨.deployment, "default", "api", 2, []⟩, []),
          (⟨.deployment, "default", "web", 3, []⟩, [])] } }

/-- Deployments of both namespaces, twice, and in between a kind that nobody has. -/
def threeKinds : WorkloadSelection :=
  ⟨["batch", "default"], ["deployments", "cronjobs", "deployment"], [], []⟩

/-- They are to be scaled down from now on, for the first time. -/
def scalingDown (now : Instant) : Context :=
  let night : Period := ⟨"night", .down, ⟨true, now, now⟩, false, "night"⟩
  { Context.start ⟨"default", "nightly"⟩ now with
    resolution := some ⟨night, none, night.snapshot⟩
    selection := some (.workloads threeKinds)
    access := some (.workloads none) }

/-- One deployment fails in one run, and the namespace of another one in the other run: the third
one has a line for each of its kinds in both. -/
theorem threeDeployments_spared :
    let f : Failures := ⟨["web"], [], [], []⟩
    let g : Failures := ⟨[], ["batch"], [], []⟩
    let line := fun (kind : String) => (⟨.workload ⟨.deployment, "default", "api"⟩,
      .success kind "default/api" "scaled down from 2 replicas"⟩ : Line)
    ∃ ledger ledger' wf wg,
      Scales (scalingDown (Instant.ofHour 19877 22)) (.workloads none) (.workloads threeKinds) .down
        (f.inject threeDeployments) ledger wf ∧
      Scales (scalingDown (Instant.ofHour 19877 22)) (.workloads none) (.workloads threeKinds) .down
        (g.inject threeDeployments) ledger' wg ∧
      ledger.map (Line.sparedOf (f.bothSpare g)) = [[line "deployments"], [], [line "deployment"]] ∧
      ledger'.map (Line.sparedOf (f.bothSpare g)) =
        [[line "deployments"], [], [line "deployment"]] := by
  intro f g line
  obtain ⟨ledger, ledger', wf, wg, hf, hg, hledger, -⟩ :=
    bulkhead (w := threeDeployments) (by decide) f g
      (c := scalingDown (Instant.ofHour 19877 22)) rfl rfl rfl
  have hlines : ((passLines (.workloads none) (.workloads threeKinds) "default" .down
      threeKinds.types).run World.answer (f.inject threeDeployments)).1 = ledger :=
    congrArg Prod.fst hf.lines
  have hspared : ledger.map (Line.sparedOf (f.bothSpare g)) =
      [[line "deployments"], [], [line "deployment"]] := by
    rw [← hlines]
    decide +kernel
  exact ⟨ledger, ledger', wf, wg, hf, hg, hspared, hledger ▸ hspared⟩

end PeriodScaler
