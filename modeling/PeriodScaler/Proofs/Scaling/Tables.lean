import PeriodScaler.Proofs.Answers
import PeriodScaler.Proofs.Memory.Order
import PeriodScaler.Proofs.Scaling.Sweeps

/-!
# Passes over the two tables

The table of workloads and the table of instances as what a sweep asks: which namespaces and zones
refuse to be listed, and what becomes of an entry that is converged, given which names are to fail.
From this a pass over a world is known in full: its lines are those of `Part.ledger`, and it leaves
the entries of `Part.finish`.

* **`WorkloadSelection.asks_backing`**, **`InstanceSelection.asks_backing`**: what a call to the
  table gives and what it leaves.
* **`WorkloadSelection.part_cases`**, **`InstanceSelection.part_cases`**: what is done for a kind.
* **`WorkloadSelection.run_pass`**, **`InstanceSelection.run_pass`**: a pass over all kinds.
-/

namespace PeriodScaler

open Memory (World Workloads Instances)
open Memory.Workloads (scaled scaledEntries)

/-- When the entry a source stands for is not to change, none of the entries does. -/
theorem map_of_still {α : Type} {source : α → Source} {entries : List α} {e : α} {after : α → α}
    (hentries : (entries.map source).Nodup) (he : e ∈ entries) (hstill : after e = e) :
    (entries.map fun x => if source x = source e then after x else x) = entries := by
  refine (List.map_congr_left fun x hx => ?_).trans (List.map_id entries)
  by_cases hsame : source x = source e
  · rw [if_pos hsame, List.inj_on_of_nodup_map hentries hx he hsame]
    exact hstill
  · rw [if_neg hsame]
    rfl

/-! ## Workloads -/

/-- A world with these workloads, and these calls in their log. -/
def withWorkloads (w : World) (entries : List (Workload × Labels)) (calls : List String) : World :=
  { w with workloads := { w.workloads with entries, calls } }

/-- A call to scale is a call to the table. -/
theorem answer_scaleWorkload (server : Option String) (kind : WorkloadKind)
    (namespaceName name : String) (replicas : Int) (record : Option Int) (w : World) :
    World.answer (.scaleWorkload server kind namespaceName name replicas record) w =
      ((w.workloads.scale kind namespaceName name replicas record).1,
        { w with
          workloads := (w.workloads.scale kind namespaceName name replicas record).2 }) := rfl

namespace WorkloadSelection

/-- What becomes of a workload that is converged, when scaling fails for some names. -/
def brought (failing : List String) (target : Target) (e : Workload × Labels) :
    Workload × Labels :=
  match need target e.1 with
  | .scale replicas record _ =>
    if failing.contains e.1.name then e else (scaled e.1 replicas record, e.2)
  | _ => e

/-- What is reported of it. -/
def reported (failing : List String) (kind : String) (target : Target) (w : Workload) : Report :=
  match need target w with
  | .scale _ _ comment =>
    if failing.contains w.name then
      .failure kind w.item (Cause.conflict ("mock failure scaling " ++ w.item)).message
    else .success kind w.item comment
  | .nothing comment => .success kind w.item comment
  | .impossible reason => .failure kind w.item reason
  | .ignore => .empty

variable (w : World) (access : Access) (server : Option String) (workloadKind : WorkloadKind)
  (kind : String) (s : WorkloadSelection) (defaultNamespace : String) (target : Target)

/-- The workloads of a world, as a selection finds them. -/
def backing : Backing (Workload × Labels) Workload where
  put := withWorkloads w
  item := Prod.fst
  source e := .workload e.1.identity
  refusal namespaceName :=
    if w.workloads.failingList.contains namespaceName then
      some (.notFound ("mock failure listing " ++ namespaceName))
    else none
  isAt namespaceName e := e.1.kind == workloadKind && e.1.namespaceName == namespaceName &&
    Selector.accepts (Selector.ofLabels s.labels) e.2
  after := brought w.workloads.failingScale target
  report e := reported w.workloads.failingScale kind target e.1

theorem identity_brought (failing : List String) (e : Workload × Labels) :
    (brought failing target e).1.identity = e.1.identity := by
  unfold brought
  split
  · split <;> rfl
  · rfl

/-- **What the table of workloads gives and what is left of it.** -/
theorem asks_backing :
    (s.sweep server workloadKind kind target).Asks (s.backing w workloadKind kind target) where
  list namespaceName entries calls := by
    refine Prod.ext ?_ rfl
    change (withWorkloads w entries calls).workloads.list workloadKind namespaceName _ = _
    cases hfailing : w.workloads.failingList.contains namespaceName with
    | true => simp only [Workloads.list, backing, withWorkloads, hfailing, if_true]
    | false =>
      simp only [Workloads.list, backing, withWorkloads, hfailing, Bool.false_eq_true, if_false]
  source _ _ _ := rfl
  source_after e := congrArg Source.workload (identity_brought target _ e)
  converge namespaceName entries calls e hentries he hat := by
    change ∃ log,
      (converge server kind target e.1).run World.answer (withWorkloads w entries calls) =
        (reported w.workloads.failingScale kind target e.1, withWorkloads w (entries.map fun x =>
          if Source.workload x.1.identity = .workload e.1.identity then
            brought w.workloads.failingScale target x else x) log)
    -- A workload whose entry is not to change leaves the table as it was.
    have hleft (hstill : brought w.workloads.failingScale target e = e) :
        (entries.map fun x =>
          if Source.workload x.1.identity = .workload e.1.identity then
            brought w.workloads.failingScale target x else x) = entries :=
      map_of_still hentries he hstill
    unfold converge reported
    cases hneed : need target e.1 with
    | scale replicas record comment =>
      have hcall := answer_scaleWorkload server e.1.kind e.1.namespaceName e.1.name replicas
        record (withWorkloads w entries calls)
      cases hfailing : w.workloads.failingScale.contains e.1.name with
      | true =>
        rw [Workloads.scale_failing (t := (withWorkloads w entries calls).workloads) hfailing]
          at hcall
        have hstill : brought w.workloads.failingScale target e = e := by
          rw [brought, hneed]
          simp only [hfailing, if_true]
        rw [hleft hstill]
        exact ⟨_, Program.run_of_answer (I := collaborators) hcall⟩
      | false =>
        rw [Workloads.scale_present (t := (withWorkloads w entries calls).workloads) hfailing he]
          at hcall
        have hentry : (entries.map fun x =>
            if Source.workload x.1.identity = .workload e.1.identity then
              brought w.workloads.failingScale target x else x) =
            scaledEntries e.1.identity replicas record entries := by
          refine List.map_congr_left fun x hx => ?_
          by_cases hsame : x.1.identity = e.1.identity
          · obtain rfl := List.inj_on_of_nodup_map hentries hx he (congrArg Source.workload hsame)
            simp only [brought, hneed, hfailing, Bool.false_eq_true, if_false, if_true]
          · simp only [Source.workload.injEq, hsame, if_false]
        rw [hentry]
        exact ⟨_, Program.run_of_answer (I := collaborators) hcall⟩
    | nothing comment | impossible reason | ignore =>
      rw [hleft (by rw [brought, hneed])]
      exact ⟨calls, rfl⟩

/-- What is done for a kind. -/
def part (kind : String) : Part (Workload × Labels) :=
  match unfit? access (.workloads s) kind target with
  | some e => .only [.unprocessed kind e]
  | none =>
    if target = .noAction then .only []
    else
      match access, WorkloadKind.ofName? kind with
      | .workloads server, some workloadKind =>
        (s.sweep server workloadKind kind target).part (s.backing w workloadKind kind target)
          (s.searched defaultNamespace)
      | _, _ => .only []

/-- **A kind only writes some lines, or it is swept**, whatever the world is like. -/
theorem part_cases (kind : String) :
    (∃ lines, (∀ line ∈ lines, line.source.isItem = false) ∧
      (∀ w, s.part w access defaultNamespace target kind = .only lines) ∧
      kindLines access (.workloads s) defaultNamespace target kind = .done lines) ∨
    ∃ server workloadKind, access = .workloads server ∧
      (∀ w, s.part w access defaultNamespace target kind =
        (s.sweep server workloadKind kind target).part (s.backing w workloadKind kind target)
          (s.searched defaultNamespace)) ∧
      kindLines access (.workloads s) defaultNamespace target kind =
        (s.sweep server workloadKind kind target).overAll (s.searched defaultNamespace) := by
  have hnone : ∀ line ∈ ([] : List Line), line.source.isItem = false :=
    fun _ h => absurd h List.not_mem_nil
  unfold part kindLines
  cases unfit? access (.workloads s) kind target with
  | some e => exact Or.inl ⟨_, List.forall_mem_singleton.mpr rfl, fun _ => rfl, rfl⟩
  | none =>
    by_cases htarget : target = .noAction
    · simp only [if_pos htarget]
      exact Or.inl ⟨[], hnone, fun _ => rfl, rfl⟩
    · simp only [if_neg htarget]
      unfold sweepKind
      rcases access with credentials | server
      · exact Or.inl ⟨[], hnone, fun _ => rfl, rfl⟩
      · cases WorkloadKind.ofName? kind with
        | none => exact Or.inl ⟨[], hnone, fun _ => rfl, rfl⟩
        | some workloadKind => exact Or.inr ⟨server, workloadKind, rfl, fun _ => rfl, rfl⟩

theorem describes_part (kind : String) :
    (s.part w access defaultNamespace target kind).Describes (withWorkloads w)
      (fun e => .workload e.1.identity)
      (kindLines access (.workloads s) defaultNamespace target kind) := by
  rcases s.part_cases access defaultNamespace target kind with
    ⟨lines, hlines, hpart, hkind⟩ | ⟨server, workloadKind, -, hpart, hkind⟩
  · rw [hpart, hkind]
    exact Part.describes_only hlines
  · rw [hpart, hkind]
    have hasks := s.asks_backing w server workloadKind kind target
    exact ⟨Sweep.isOver_part hasks _, Sweep.run_overAll hasks _⟩

/-- In a world in order, each workload has a source of its own. -/
theorem nodup_sources {w : World} (hw : w.IsOrdered) :
    (w.workloads.entries.map fun e => Source.workload e.1.identity).Nodup := by
  have hsources := hw.workloads.distinct.map (f := Source.workload) fun _ _ => Source.workload.inj
  rwa [List.map_map] at hsources

/-- **A pass over the workloads of a world.** -/
theorem run_pass (hw : w.IsOrdered) (kinds : List String) : ∃ log,
    (passLines access (.workloads s) defaultNamespace target kinds).run World.answer w =
      (Part.ledger (kinds.map (s.part w access defaultNamespace target)) w.workloads.entries,
        withWorkloads w
          (Part.finish (kinds.map (s.part w access defaultNamespace target)) w.workloads.entries)
          log) := by
  exact Part.run_passLines (s.describes_part w access defaultNamespace target) kinds
    w.workloads.entries w.workloads.calls (nodup_sources hw)

end WorkloadSelection

/-! ## Instances -/

/-- A world with these instances, and these calls in their log. -/
def withInstances (w : World) (entries : List (String × Instance)) (calls : List String) : World :=
  { w with instances := { w.instances with entries, calls } }

/-- An action on an instance is a call to the table. -/
theorem answer_startInstance (credentials : Credentials) (project zone name : String) (w : World) :
    World.answer (.startInstance credentials project zone name) w =
      (World.fromCompute (w.instances.transition zone name "start" .running).1,
        { w with instances := (w.instances.transition zone name "start" .running).2 }) := rfl

theorem answer_stopInstance (credentials : Credentials) (project zone name : String) (w : World) :
    World.answer (.stopInstance credentials project zone name) w =
      (World.fromCompute (w.instances.transition zone name "stop" .terminated).1,
        { w with instances := (w.instances.transition zone name "stop" .terminated).2 }) := rfl

namespace InstanceSelection

/-- What becomes of an instance that is converged, when actions fail for some names. -/
def brought (failing : List String) (target : Target) (e : String × Instance) :
    String × Instance :=
  match need target e.2.status with
  | .stop => if failing.contains e.2.name then e else (e.1, { e.2 with status := .terminated })
  | .start => if failing.contains e.2.name then e else (e.1, { e.2 with status := .running })
  | _ => e

/-- What is reported of an action on an instance. -/
def reportedAction (failing : List String) (kind state : String) (e : String × Instance) : Report :=
  if failing.contains e.2.name then
    .failure kind (e.1 ++ "/" ++ e.2.name)
      (Cause.compute (.api ("mock failure for " ++ e.2.name))).message
  else .success kind (e.1 ++ "/" ++ e.2.name) state

/-- What is reported of an instance that is converged. -/
def reported (failing : List String) (kind : String) (target : Target) (e : String × Instance) :
    Report :=
  match need target e.2.status with
  | .stop => reportedAction failing kind "stopped" e
  | .start => reportedAction failing kind "running" e
  | .nothing state => .success kind (e.1 ++ "/" ++ e.2.name) state
  | .wait =>
    .failure kind (e.1 ++ "/" ++ e.2.name) ("in transition (" ++ e.2.status.name ++ ")")

variable (w : World) (access : Access) (credentials : Credentials) (kind : String)
  (s : InstanceSelection) (defaultNamespace : String) (target : Target)

/-- The instances of a world, as a selection finds them. -/
def backing : Backing (String × Instance) Instance where
  put := withInstances w
  item := Prod.snd
  source e := .machine e.1 e.2.name
  refusal zone :=
    if w.instances.failingZones.contains zone then
      some (.compute (.api ("mock failure listing zone " ++ zone)))
    else none
  isAt zone e := e.1 == zone && Filter.accepts (Filter.ofLabels s.labels) e.2.labels
  after := brought w.instances.failingInstances target
  report := reported w.instances.failingInstances kind target

/-- An instance keeps its zone, its name and its labels. -/
theorem brought_eq (failing : List String) (e : String × Instance) :
    (brought failing target e).1 = e.1 ∧ (brought failing target e).2.name = e.2.name ∧
      (brought failing target e).2.labels = e.2.labels := by
  unfold brought
  split
  · split <;> exact ⟨rfl, rfl, rfl⟩
  · split <;> exact ⟨rfl, rfl, rfl⟩
  · exact ⟨rfl, rfl, rfl⟩

theorem source_brought (failing : List String) (e : String × Instance) :
    Source.machine (brought failing target e).1 (brought failing target e).2.name =
      .machine e.1 e.2.name := by
  obtain ⟨hzone, hname, -⟩ := brought_eq target failing e
  rw [hzone, hname]

variable {entries : List (String × Instance)} {e : String × Instance}
  {after : String × Instance → String × Instance}

/-- An entry that changes its state is the only one that does. -/
theorem map_of_moved (hentries : (entries.map fun x => Source.machine x.1 x.2.name).Nodup)
    (he : e ∈ entries) {status : InstanceStatus} (hmoved : after e = (e.1, { e.2 with status })) :
    (entries.map fun x =>
      if Source.machine x.1 x.2.name = .machine e.1 e.2.name then after x else x) =
        Instances.movedEntries e.1 e.2.name status entries := by
  refine List.map_congr_left fun x hx => ?_
  by_cases hsame : x.1 = e.1 ∧ x.2.name = e.2.name
  · have hsource : Source.machine x.1 x.2.name = .machine e.1 e.2.name := by
      rw [hsame.1, hsame.2]
    obtain rfl := List.inj_on_of_nodup_map hentries hx he hsource
    simp only [if_true, hmoved, and_self]
  · simp only [Source.machine.injEq, hsame, if_false]

/-- What follows the answer to an action. -/
def onAction (kind state : String) (e : String × Instance) : Except Cause Operation → Work Report
  | .ok _ => .done (.success kind (e.1 ++ "/" ++ e.2.name) state)
  | .error c => .done (.failure kind (e.1 ++ "/" ++ e.2.name) c.message)

/-- An action on an instance of the table, whichever it is, is reported and has its effect, unless
it fails for the name. -/
theorem run_action (action state : String) (status : InstanceStatus) (calls : List String)
    {call : Call} {next : collaborators.Answer call → Work Report}
    (hentries : (entries.map fun x => Source.machine x.1 x.2.name).Nodup) (he : e ∈ entries)
    (hmoved : after e = if w.instances.failingInstances.contains e.2.name then e
      else (e.1, { e.2 with status }))
    (hcall : ∀ u, ∃ a, World.answer call u =
        (a, { u with instances := (u.instances.transition e.1 e.2.name action status).2 }) ∧
      next a = onAction kind state e
        (World.fromCompute (u.instances.transition e.1 e.2.name action status).1)) :
    ∃ log, (Program.ask (I := collaborators) call next).run World.answer
        (withInstances w entries calls) = (reportedAction w.instances.failingInstances kind state e,
      withInstances w (entries.map fun x =>
        if Source.machine x.1 x.2.name = .machine e.1 e.2.name then after x else x) log) := by
  obtain ⟨a, hanswer, hnext⟩ := hcall (withInstances w entries calls)
  rw [Program.run_of_answer (I := collaborators) hanswer, hnext]
  unfold reportedAction
  cases hfailing : w.instances.failingInstances.contains e.2.name with
  | true =>
    rw [hfailing, if_pos rfl] at hmoved
    rw [Instances.transition_failing (t := (withInstances w entries calls).instances) hfailing,
      map_of_still hentries he hmoved]
    exact ⟨_, rfl⟩
  | false =>
    rw [hfailing, if_neg Bool.false_ne_true] at hmoved
    obtain ⟨o, htransition⟩ := Instances.transition_present
      (t := (withInstances w entries calls).instances) hfailing he rfl rfl action status
    rw [htransition, map_of_moved hentries he hmoved]
    exact ⟨_, rfl⟩

/-- **What the table of instances gives and what is left of it.** -/
theorem asks_backing :
    (s.sweep credentials kind target).Asks (s.backing w kind target) where
  list zone entries calls := by
    refine Prod.ext ?_ rfl
    change World.fromCompute ((withInstances w entries calls).instances.list zone _) = _
    cases hfailing : w.instances.failingZones.contains zone with
    | true =>
      simp only [Instances.list, backing, withInstances, hfailing, if_true, World.fromCompute,
        mapError_error]
    | false =>
      simp only [Instances.list, backing, withInstances, hfailing, Bool.false_eq_true, if_false,
        World.fromCompute, mapError_ok]
  source zone e hat := by
    have hzone : e.1 = zone := by
      simp only [backing, Bool.and_eq_true, beq_iff_eq] at hat
      exact hat.1
    rw [← hzone]
    rfl
  source_after e := source_brought target _ e
  converge zone entries calls e hentries he hat := by
    have hzone : e.1 = zone := by
      simp only [backing, Bool.and_eq_true, beq_iff_eq] at hat
      exact hat.1
    subst hzone
    change ∃ log, (converge credentials kind s target e.1 e.2).run World.answer
        (withInstances w entries calls) = (reported w.instances.failingInstances kind target e,
      withInstances w (entries.map fun x =>
        if Source.machine x.1 x.2.name = .machine e.1 e.2.name then
          brought w.instances.failingInstances target x else x) log)
    -- An instance that needs no action leaves the table as it was.
    have hleft (hstill : brought w.instances.failingInstances target e = e) :
        (entries.map fun x =>
          if Source.machine x.1 x.2.name = .machine e.1 e.2.name then
            brought w.instances.failingInstances target x else x) = entries :=
      map_of_still hentries he hstill
    unfold converge reported
    cases hneed : need target e.2.status with
    | stop =>
      refine run_action w kind "stop" "stopped" .terminated calls hentries he ?_
        fun u => ⟨_, answer_stopInstance credentials s.project e.1 e.2.name u, rfl⟩
      rw [brought, hneed]
    | start =>
      refine run_action w kind "start" "running" .running calls hentries he ?_
        fun u => ⟨_, answer_startInstance credentials s.project e.1 e.2.name u, rfl⟩
      rw [brought, hneed]
    | nothing state | wait =>
      rw [hleft (by rw [brought, hneed])]
      exact ⟨calls, rfl⟩

/-- What is done for a kind. -/
def part (kind : String) : Part (String × Instance) :=
  match unfit? access (.instances s) kind target with
  | some e => .only [.unprocessed kind e]
  | none =>
    if target = .noAction then .only []
    else
      match access with
      | .instances credentials =>
        (s.sweep credentials kind target).part (s.backing w kind target) s.zones
      | .workloads _ => .only []

/-- **A kind only writes some lines, or it is swept**, whatever the world is like. -/
theorem part_cases (kind : String) :
    (∃ lines, (∀ line ∈ lines, line.source.isItem = false) ∧
      (∀ w, s.part w access target kind = .only lines) ∧
      kindLines access (.instances s) defaultNamespace target kind = .done lines) ∨
    ∃ credentials, access = .instances credentials ∧
      (∀ w, s.part w access target kind =
        (s.sweep credentials kind target).part (s.backing w kind target) s.zones) ∧
      kindLines access (.instances s) defaultNamespace target kind =
        (s.sweep credentials kind target).overAll s.zones := by
  have hnone : ∀ line ∈ ([] : List Line), line.source.isItem = false :=
    fun _ h => absurd h List.not_mem_nil
  unfold part kindLines
  cases unfit? access (.instances s) kind target with
  | some e => exact Or.inl ⟨_, List.forall_mem_singleton.mpr rfl, fun _ => rfl, rfl⟩
  | none =>
    by_cases htarget : target = .noAction
    · simp only [if_pos htarget]
      exact Or.inl ⟨[], hnone, fun _ => rfl, rfl⟩
    · simp only [if_neg htarget]
      unfold sweepKind
      rcases access with credentials | server
      · exact Or.inr ⟨credentials, rfl, fun _ => rfl, rfl⟩
      · exact Or.inl ⟨[], hnone, fun _ => rfl, rfl⟩

theorem describes_part (kind : String) :
    (s.part w access target kind).Describes (withInstances w) (fun e => .machine e.1 e.2.name)
      (kindLines access (.instances s) defaultNamespace target kind) := by
  rcases s.part_cases access defaultNamespace target kind with
    ⟨lines, hlines, hpart, hkind⟩ | ⟨credentials, -, hpart, hkind⟩
  · rw [hpart, hkind]
    exact Part.describes_only hlines
  · rw [hpart, hkind]
    have hasks := s.asks_backing w credentials kind target
    exact ⟨Sweep.isOver_part hasks _, Sweep.run_overAll hasks _⟩

/-- In a world in order, each instance has a source of its own. -/
theorem nodup_sources {w : World} (hw : w.IsOrdered) :
    (w.instances.entries.map fun e => Source.machine e.1 e.2.name).Nodup := by
  have hsources := hw.instances.distinct.map (f := fun p => Source.machine p.1 p.2) ?_
  · rwa [List.map_map] at hsources
  · intro p q heq
    obtain ⟨hzone, hname⟩ := Source.machine.inj heq
    exact Prod.ext hzone hname

/-- **A pass over the instances of a world.** -/
theorem run_pass (hw : w.IsOrdered) (kinds : List String) : ∃ log,
    (passLines access (.instances s) defaultNamespace target kinds).run World.answer w =
      (Part.ledger (kinds.map (s.part w access target)) w.instances.entries,
        withInstances w
          (Part.finish (kinds.map (s.part w access target)) w.instances.entries) log) := by
  exact Part.run_passLines (s.describes_part w access defaultNamespace target) kinds
    w.instances.entries w.instances.calls (nodup_sources hw)

end InstanceSelection

end PeriodScaler
