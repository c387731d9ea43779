import Mathlib.Data.List.Forall2
import PeriodScaler.Proofs.Scaling.Accounts

/-!
# Reports are true

What a report says of an item holds of the item once the pass is over. After a success it meets the
target, whether it was brought there or had been there before, and after a failure it is what it was
before the pass. Only items are reported as successes.

An instance on its way from one state to another meets no target and cannot be brought to one: it is
reported as a failure, and no action on it is asked for.

* **`WorkloadSelection.isTrue_reported`**, **`InstanceSelection.isTrue_reported`**: what is reported
  of one item that is converged.
* **`Sweep.Tracks.transcript_spares`**: an item that is left alone is in no call.
* **`Scope.IsTrue.reported`**: with the lines accounted for, each item that is reached has one line,
  and that line is true of it.
* **`reports_are_true`**: a whole pass of either provider.
-/

namespace PeriodScaler

open Memory (World)
open Memory.Workloads (scaled recorded_scaled_none)

/-! ## Targets that are met -/

/-- A workload that was `w₀` before a pass meets a target after it. -/
def Workload.Meets (target : Target) (w₀ w : Workload) : Prop :=
  match target with
  | .down => w.replicas = 0
  | .up | .restore =>
    w.recorded = none ∧
      match w₀.recorded with
      | some raw => Text.int32? raw.toList = some w.replicas
      | none => w.replicas = w₀.replicas
  | .noAction => False

/-- An instance in a state meets a target. -/
def InstanceStatus.Meets (target : Target) (status : InstanceStatus) : Prop :=
  match target with
  | .down => status.isStopped = true
  | .up | .restore => status.isRunning = true
  | .noAction => False

/-- The report of one item is true, when after a success `met` is to hold, and `left` after a
failure. -/
inductive Report.IsTrue (kind name : String) (met left : Prop) : Report → Prop where
  | success (comment : String) (h : met) : IsTrue kind name met left (.success kind name comment)
  | failure (reason : String) (h : left) : IsTrue kind name met left (.failure kind name reason)

namespace WorkloadSelection

variable {target : Target} {w : Workload} {comment : String}

/-- A workload that needs nothing meets the target. -/
theorem meets_of_nothing (h : need target w = .nothing comment) : w.Meets target w := by
  unfold need at h
  unfold Workload.Meets
  cases target with
  | noAction => cases h
  | down =>
    simp only at h ⊢
    split at h
    · assumption
    · cases h
  | up | restore =>
    simp only at h ⊢
    cases hrecorded : w.recorded with
    | none => exact ⟨rfl, trivial⟩
    | some raw =>
      simp only [hrecorded] at h
      split at h <;> cases h

/-- A workload that is scaled as it needs meets the target. -/
theorem meets_of_scale {replicas : Int} {record : Option Int}
    (h : need target w = .scale replicas record comment) :
    w.Meets target (scaled w replicas record) := by
  unfold need at h
  unfold Workload.Meets
  cases target with
  | noAction => cases h
  | down =>
    simp only at h ⊢
    split at h
    · cases h
    · obtain ⟨rfl, -, -⟩ := Need.scale.inj h
      rfl
  | up | restore =>
    simp only at h ⊢
    cases hrecorded : w.recorded with
    | none =>
      simp only [hrecorded] at h
      split at h <;> cases h
    | some raw =>
      simp only [hrecorded] at h
      split at h
      · rename_i n hread
        obtain ⟨rfl, rfl, -⟩ := Need.scale.inj h
        exact ⟨recorded_scaled_none, hread⟩
      · cases h

/-- **What is reported of a workload is true.** -/
theorem isTrue_reported (htarget : target ≠ .noAction) (failing : List String) (kind : String)
    (e : Workload × Labels) :
    Report.IsTrue kind e.1.item (e.1.Meets target (brought failing target e).1)
      (brought failing target e = e) (reported failing kind target e.1) := by
  unfold reported brought
  cases hneed : need target e.1 with
  | scale replicas record comment =>
    simp only
    split
    · exact .failure _ rfl
    · exact .success comment (meets_of_scale hneed)
  | nothing comment => exact .success comment (meets_of_nothing hneed)
  | impossible reason => exact .failure reason rfl
  | ignore => exact absurd hneed (need_ne_ignore htarget e.1)

end WorkloadSelection

namespace InstanceSelection

variable {target : Target} {status : InstanceStatus}

/-- **What an instance needs for a target**: to be stopped or started into it, nothing when it meets
it, and to wait when it neither runs nor is stopped. -/
theorem need_cases (htarget : target ≠ .noAction) (status : InstanceStatus) :
    (need target status = .stop ∧ InstanceStatus.terminated.Meets target) ∨
      (need target status = .start ∧ InstanceStatus.running.Meets target) ∨
      (∃ state, need target status = .nothing state ∧ status.Meets target) ∨
      (need target status = .wait ∧ status.isRunning = false ∧ status.isStopped = false) := by
  unfold need InstanceStatus.Meets
  cases target with
  | noAction => exact absurd rfl htarget
  | down =>
    cases hrunning : status.isRunning with
    | true => exact Or.inl ⟨rfl, rfl⟩
    | false =>
      cases hstopped : status.isStopped with
      | true => exact Or.inr (Or.inr (Or.inl ⟨_, rfl, rfl⟩))
      | false => exact Or.inr (Or.inr (Or.inr ⟨rfl, rfl, rfl⟩))
  | up | restore =>
    cases hstopped : status.isStopped with
    | true => exact Or.inr (Or.inl ⟨rfl, rfl⟩)
    | false =>
      cases hrunning : status.isRunning with
      | true => exact Or.inr (Or.inr (Or.inl ⟨_, rfl, rfl⟩))
      | false => exact Or.inr (Or.inr (Or.inr ⟨rfl, rfl, rfl⟩))

/-- **What is reported of an instance is true.** -/
theorem isTrue_reported (htarget : target ≠ .noAction) (failing : List String)
    (kind : String) (e : String × Instance) :
    Report.IsTrue kind (e.1 ++ "/" ++ e.2.name)
      ((brought failing target e).2.status.Meets target) (brought failing target e = e)
      (reported failing kind target e) := by
  unfold reported brought reportedAction
  rcases need_cases htarget e.2.status with
    ⟨hneed, hmeets⟩ | ⟨hneed, hmeets⟩ | ⟨state, hneed, hmeets⟩ | ⟨hneed, -, -⟩
  · simp only [hneed]
    split
    · exact .failure _ rfl
    · exact .success _ hmeets
  · simp only [hneed]
    split
    · exact .failure _ rfl
    · exact .success _ hmeets
  · simp only [hneed]
    exact .success state hmeets
  · simp only [hneed]
    exact .failure _ trivial

theorem need_eq_wait (htarget : target ≠ .noAction) (hrunning : status.isRunning = false)
    (hstopped : status.isStopped = false) : need target status = .wait := by
  unfold need
  cases target with
  | noAction => rfl
  | down | up | restore => simp only [hrunning, hstopped, Bool.false_eq_true, if_false]

end InstanceSelection

/-! ## Sweeps -/

namespace Sweep.Tracks

variable {ε β : Type} {s : Sweep β} {b : Backing ε β} {entries : List ε} {e : ε}

/-- **An item that is left alone is in no call**, when no call is made for it to be left alone. -/
theorem transcript_spares (h : s.Tracks b) (hentries : (entries.map b.source).Nodup)
    (he : e ∈ entries) (hstill : b.after e = e)
    (hquiet : ∀ place, (s.converge place (b.item e)).Calls
      fun c => Call.subject? c ≠ some (b.source e)) (places log : List String) :
    ∀ x ∈ (s.overAll places).transcript World.answer (b.put entries log),
      Call.subject? x.call ≠ some (b.source e) := by
  have hlist (place : String) :
      (s.list place).Calls fun c => Call.subject? c ≠ some (b.source e) := by
    refine (h.list_calls place).mono fun c hc => ?_
    rw [hc]
    exact nofun
  -- whatever has its source is the item itself, as it was
  refine Sweep.transcript_overAll_of h.asks (fun x => b.source x = b.source e → x = e) ?_ hlist
    hentries (fun x hx hsame => List.inj_on_of_nodup_map hentries hx he hsame) ?_ log
  · intro x hx hsame
    obtain rfl := hx ((h.asks.source_after x).symm.trans hsame)
    exact hstill
  · intro place _ x hx htouched
    by_cases hsame : b.source x = b.source e
    · rw [hx hsame]
      exact hquiet place
    · refine (h.converge_calls place (b.item x)).mono fun c hc hsubject => hsame ?_
      rw [hc _ hsubject, h.asks.source place x (Sweep.isAt_of_touches htouched)]

end Sweep.Tracks

namespace Scope

variable {ε β : Type} (scope : Scope ε)

/-- The lines of a report are true of a table that was `entries` before a pass and is `entries'`
after it: each line for an item is true of that item, and only items are successes. -/
structure IsTrue (Meets : ε → ε → Prop) (entries entries' : List ε) (lines : List Line) :
    Prop where
  items : List.Forall₂ (fun e₀ e => scope.source e = scope.source e₀ ∧
    ∀ line ∈ lines, line.source = scope.source e₀ →
      Report.IsTrue scope.kind (scope.item e₀) (Meets e₀ e) (e = e₀) line.report) entries entries'
  successes : ∀ line ∈ lines, line.report.successful ≠ [] →
    ∃ e ∈ entries, line.source = scope.source e

variable {scope} {s : Sweep β} {b : Backing ε β} {entries : List ε} {Meets : ε → ε → Prop}

/-- Without lines, and without changes, a report is true. -/
theorem isTrue_nil : scope.IsTrue Meets entries entries [] where
  items := List.forall₂_same.mpr fun _ _ => ⟨rfl, nofun⟩
  successes := nofun

/-- **Each item that a pass reaches has one line**, and this line is true of it. -/
theorem IsTrue.reported {entries' : List ε} {lines : List Line}
    (h : scope.IsTrue Meets entries entries' lines) (haccounts : scope.Accounts entries lines) :
    List.Forall₂ (fun e₀ e => scope.Reaches e₀ → ∃ report,
      Line.about (scope.source e₀) lines = [⟨scope.source e₀, report⟩] ∧
        Report.IsTrue scope.kind (scope.item e₀) (Meets e₀ e) (e = e₀) report)
      entries entries' := by
  refine ((List.forall₂_and_left _ _).mpr ⟨haccounts.reached, h.items⟩).imp ?_
  rintro e₀ e ⟨hreported, -, htrue⟩ hreached
  obtain ⟨report, -, habout⟩ := hreported hreached
  have hline : (⟨scope.source e₀, report⟩ : Line) ∈ Line.about (scope.source e₀) lines := by
    rw [habout]
    exact List.mem_singleton.mpr rfl
  exact ⟨report, habout, htrue _ (Line.mem_about.mp hline).1 rfl⟩

/-- **The lines of a sweep are true** when what is reported of each item that it converges is. -/
theorem Describes.isTrue (h : scope.Describes s b) (hplaces : scope.places.Nodup)
    (hentries : (entries.map scope.source).Nodup)
    (hreport : ∀ e, Report.IsTrue scope.kind (scope.item e) (Meets e (b.after e)) (b.after e = e)
      (b.report e)) :
    scope.IsTrue Meets entries (entries.map (Leg.course (s.part b scope.places).legs))
      ((s.part b scope.places).lines entries) where
  items := by
    refine List.forall₂_map_right_iff.mpr (List.forall₂_same.mpr fun e he => ?_)
    have habout := h.tracks.about_item hplaces (h.source ▸ hentries) he
    rw [h.tracks.course_eq hplaces]
    rw [h.source] at habout
    cases htouched : Leg.anyTouches (s.part b scope.places).legs e with
    | true =>
      rw [htouched, if_pos rfl] at habout
      rw [if_pos rfl, ← h.source]
      refine ⟨h.tracks.asks.source_after e, fun line hline hsame => ?_⟩
      obtain rfl := List.mem_singleton.mp (habout ▸ Line.mem_about.mpr ⟨hline, h.source ▸ hsame⟩)
      exact hreport e
    | false =>
      rw [htouched, if_neg Bool.false_ne_true] at habout
      rw [if_neg Bool.false_ne_true]
      refine ⟨rfl, fun line hline hsame => ?_⟩
      exact absurd (habout ▸ Line.mem_about.mpr ⟨hline, hsame⟩) List.not_mem_nil
  successes line hline hsuccess := by
    have haccounts := h.accounts hplaces hentries
    rcases haccounts.nothingElse line hline with
      ⟨e, he, -, hsource⟩ | ⟨place, hplace, hfails, hsource⟩ | ⟨name, -, hmisses, hsource⟩
    · exact ⟨e, he, hsource⟩
    · obtain ⟨reason, habout⟩ := haccounts.refused place hplace hfails
      obtain rfl := List.mem_singleton.mp (habout ▸ Line.mem_about.mpr ⟨hline, hsource⟩)
      exact absurd rfl hsuccess
    · have habout := haccounts.missed name hmisses
      obtain ⟨-, rfl⟩ := List.mem_replicate.mp (habout ▸ Line.mem_about.mpr ⟨hline, hsource⟩)
      exact absurd rfl hsuccess

end Scope

/-! ## Passes -/

/-- The report of a pass over workloads is true. -/
theorem Mutator.isTrue (m : Mutator) {w : World} {target : Target} (hw : w.IsOrdered)
    (htarget : target ≠ .noAction) (hdistinct : m.selection.namespaces.Nodup) :
    (m.scope w).IsTrue (fun e₀ e => e₀.1.Meets target e.1) w.workloads.entries
      (w.workloads.entries.map (Leg.course (m.part w target).legs))
      ((m.part w target).lines w.workloads.entries) :=
  (m.describes w htarget).isTrue (m.nodup_places hdistinct) (WorkloadSelection.nodup_sources hw)
    fun e => WorkloadSelection.isTrue_reported htarget _ m.kind e

namespace InstanceMutator

variable (m : InstanceMutator) {w : World} {target : Target}

/-- Without a project or zones a pass is refused, and nothing changes. -/
theorem run_of_flaw (htarget : target ≠ .noAction)
    (hflaw : m.selection.project = "" ∨ m.selection.zones = []) :
    ∃ e, (m.setState target).run World.answer w = (.error e, w) := by
  unfold setState
  rw [InstanceSelection.setState_eq _ _ _ _ htarget]
  cases h : m.selection.flaw? with
  | some e => exact ⟨e, rfl⟩
  | none =>
    unfold InstanceSelection.flaw? at h
    rcases hflaw with hproject | hzones
    · rw [if_pos hproject] at h
      cases h
    · rw [hzones] at h
      split at h <;> cases h

section Swept

variable (hw : w.IsOrdered) (htarget : target ≠ .noAction)

include hw htarget

/-- The report of a pass over instances is true. -/
theorem isTrue (hdistinct : m.selection.zones.Nodup) :
    (m.scope w).IsTrue (fun _ e => e.2.status.Meets target) w.instances.entries
      (w.instances.entries.map (Leg.course (m.part w target).legs))
      ((m.part w target).lines w.instances.entries) :=
  (m.describes w target).isTrue hdistinct (InstanceSelection.nodup_sources hw)
    fun e => InstanceSelection.isTrue_reported htarget _ m.kind e

variable {e : String × Instance} (he : e ∈ w.instances.entries)
  (hrunning : e.2.status.isRunning = false) (hstopped : e.2.status.isStopped = false)

include he hrunning hstopped

/-- **An instance that neither runs nor is stopped** is a failure when it is reached. -/
theorem about_moving (hdistinct : m.selection.zones.Nodup) (hreached : (m.scope w).Reaches e) :
    Line.about (.machine e.1 e.2.name) ((m.part w target).lines w.instances.entries) =
      [⟨.machine e.1 e.2.name, .failure m.kind (e.1 ++ "/" ++ e.2.name)
        ("in transition (" ++ e.2.status.name ++ ")")⟩] := by
  have hdescribes := m.describes w target
  have habout : Line.about (.machine e.1 e.2.name) ((m.part w target).lines w.instances.entries) =
      _ := hdescribes.tracks.about_item hdistinct (InstanceSelection.nodup_sources hw) he
  have hreport : (m.backing w target).report e = .failure m.kind (e.1 ++ "/" ++ e.2.name)
      ("in transition (" ++ e.2.status.name ++ ")") := by
    change InstanceSelection.reported _ m.kind target e = _
    rw [InstanceSelection.reported, InstanceSelection.need_eq_wait htarget hrunning hstopped]
  have htouched : Leg.anyTouches ((m.sweep target).part (m.backing w target)
      m.selection.zones).legs e = true := (hdescribes.anyTouches_iff e).mpr hreached
  rw [habout, if_pos htouched, hreport]
  rfl

/-- It is not started or stopped. -/
theorem transcript_spares_moving (hproject : m.selection.project ≠ "")
    (hzones : m.selection.zones ≠ []) :
    ∀ x ∈ (m.setState target).transcript World.answer w,
      Call.subject? x.call ≠ some (.machine e.1 e.2.name) := by
  have hneed := InstanceSelection.need_eq_wait htarget hrunning hstopped
  have hstill : (m.backing w target).after e = e := by
    change InstanceSelection.brought _ target e = e
    rw [InstanceSelection.brought, hneed]
  have hquiet (zone : String) : ((m.sweep target).converge zone e.2).Calls
      fun c => Call.subject? c ≠ some (.machine e.1 e.2.name) := by
    change (InstanceSelection.converge m.credentials m.kind m.selection target zone e.2).Calls _
    rw [InstanceSelection.converge, hneed]
    trivial
  rw [m.setState_eq htarget hproject hzones, Program.transcript_bind, Program.transcript_done,
    List.append_nil]
  exact (m.tracks w target).transcript_spares (InstanceSelection.nodup_sources hw) he hstill hquiet
    m.selection.zones w.instances.calls

end Swept

end InstanceMutator

/-- **Reports are true**, for every target, in every world, with whatever failures. A pass over
workloads in distinct namespaces, or over instances in distinct zones of a project, has one line for
each item that it reaches. After it each item with a success meets the target, each item with a
failure is what it was, and only items have successes. An instance that neither runs nor is stopped
is not started or stopped, and if a pass reaches it, it is a failure; a zone that cannot be listed
is one itself. Without a project or zones a pass is refused and nothing changes. -/
theorem reports_are_true {w : World} (hw : w.IsOrdered) (target : Target) :
    (∀ m : Mutator, m.selection.namespaces.Nodup →
      ∃ lines w', (m.setState target).run World.answer w = (.ok (.ofLines lines), w') ∧
        (target = .noAction → lines = []) ∧
        (target ≠ .noAction → (m.scope w).Accounts w.workloads.entries lines) ∧
        (m.scope w).IsTrue (fun e₀ e => e₀.1.Meets target e.1) w.workloads.entries
          w'.workloads.entries lines ∧ w'.instances = w.instances) ∧
    ∀ m : InstanceMutator, m.selection.zones.Nodup →
      (target ≠ .noAction → m.selection.project = "" ∨ m.selection.zones = [] →
        ∃ e, (m.setState target).run World.answer w = (.error e, w)) ∧
      (target = .noAction ∨ m.selection.project ≠ "" ∧ m.selection.zones ≠ [] →
        ∃ lines w', (m.setState target).run World.answer w = (.ok (.ofLines lines), w') ∧
          (target = .noAction → lines = []) ∧
          (target ≠ .noAction → (m.scope w).Accounts w.instances.entries lines) ∧
          (m.scope w).IsTrue (fun _ e => e.2.status.Meets target) w.instances.entries
            w'.instances.entries lines ∧ w'.workloads = w.workloads ∧
          (target ≠ .noAction → ∀ e ∈ w.instances.entries, e.2.status.isRunning = false →
            e.2.status.isStopped = false →
              (∀ x ∈ (m.setState target).transcript World.answer w,
                Call.subject? x.call ≠ some (.machine e.1 e.2.name)) ∧
              ((m.scope w).Reaches e → Line.about (.machine e.1 e.2.name) lines =
                [⟨.machine e.1 e.2.name, .failure m.kind (e.1 ++ "/" ++ e.2.name)
                  ("in transition (" ++ e.2.status.name ++ ")")⟩]) ∧
              (e.1 ∈ m.selection.zones → (m.scope w).Fails e.1 → ∃ reason,
                Line.about (.place e.1) lines =
                  [⟨.place e.1, .failure m.kind (e.1 ++ "/*") reason⟩]))) := by
  constructor
  · intro m hdistinct
    by_cases htarget : target = .noAction
    · subst htarget
      exact ⟨[], w, rfl, fun _ => rfl, fun hnot => absurd rfl hnot, Scope.isTrue_nil, rfl⟩
    · have haccounts := (m.describes w htarget).accounts (m.nodup_places hdistinct)
        (WorkloadSelection.nodup_sources hw)
      obtain ⟨log, -, hrun⟩ := m.run_setState hw htarget
      exact ⟨_, _, hrun, fun hnone => absurd hnone htarget, fun _ => haccounts,
        m.isTrue hw htarget hdistinct, rfl⟩
  · intro m hdistinct
    refine ⟨fun htarget hflaw => m.run_of_flaw htarget hflaw, fun hfit => ?_⟩
    by_cases htarget : target = .noAction
    · subst htarget
      exact ⟨[], w, rfl, fun _ => rfl, fun hnot => absurd rfl hnot, Scope.isTrue_nil, rfl,
        fun hnot => absurd rfl hnot⟩
    · obtain ⟨hproject, hzones⟩ := hfit.resolve_left htarget
      have haccounts := (m.describes w target).accounts hdistinct
        (InstanceSelection.nodup_sources hw)
      obtain ⟨log, -, hrun⟩ := m.run_setState hw htarget hproject hzones
      refine ⟨_, _, hrun, fun hnone => absurd hnone htarget, fun _ => haccounts,
        m.isTrue hw htarget hdistinct, rfl, fun _ e he hrunning hstopped =>
        ⟨m.transcript_spares_moving hw htarget he hrunning hstopped hproject hzones,
          m.about_moving hw htarget he hrunning hstopped hdistinct, haccounts.refused e.1⟩⟩

/-- Two deployments, of which one cannot be scaled, and two instances, of which one is being
stopped. -/
def yard : World :=
  { World.empty (.leadsTo .kubernetes) with
    workloads :=
      { Memory.Workloads.empty with
        entries := [(⟨.deployment, "default", "api", 2, []⟩, []),
          (⟨.deployment, "default", "web", 3, []⟩, [])]
        failingScale := ["api"] }
    instances :=
      { Memory.Instances.empty with
        entries := [("a", ⟨"press", "", .stopping, []⟩), ("a", ⟨"till", "", .running, []⟩)] } }

/-- All instances of a zone. -/
def yardInstances : InstanceMutator :=
  ⟨.metadataServer, "instances", ⟨"shop", ["a"], ["instances"], [], []⟩⟩

/-- The deployment with a success is down, and the one with a failure has its replicas; the instance
that is being stopped is a failure and is left alone. -/
theorem yard_reported :
    (∃ lines w' reason comment, (deployments.setState .down).run World.answer yard =
        (.ok (.ofLines lines), w') ∧
      Line.about (.workload ⟨.deployment, "default", "api"⟩) lines =
        [⟨.workload ⟨.deployment, "default", "api"⟩,
          .failure "deployments" "default/api" reason⟩] ∧
      Line.about (.workload ⟨.deployment, "default", "web"⟩) lines =
        [⟨.workload ⟨.deployment, "default", "web"⟩,
          .success "deployments" "default/web" comment⟩] ∧
      w'.workloads.entries.map (fun e => (e.1.name, e.1.replicas)) = [("api", 2), ("web", 0)]) ∧
    ∃ lines w', (yardInstances.setState .down).run World.answer yard =
        (.ok (.ofLines lines), w') ∧
      Line.about (.machine "a" "press") lines = [⟨.machine "a" "press",
        .failure "instances" "a/press" "in transition (STOPPING)"⟩] ∧
      ∀ x ∈ (yardInstances.setState .down).transcript World.answer yard,
        Call.subject? x.call ≠ some (.machine "a" "press") := by
  have hpress : ("a", ⟨"press", "", .stopping, []⟩) ∈ yard.instances.entries := by decide
  obtain ⟨hworkloads, hinstances⟩ := reports_are_true (w := yard) (by decide) .down
  constructor
  · obtain ⟨lines, w', hrun, -, haccounts, htrue, -⟩ := hworkloads deployments (by decide)
    have hafter : w'.workloads.entries = [(⟨.deployment, "default", "api", 2, []⟩, []),
        (⟨.deployment, "default", "web", 0, [(Scaler.replicasAnnotation, "3")]⟩, [])] := by
      have hworld := congrArg (fun r => r.2.workloads.entries) hrun
      exact hworld.symm.trans (by decide +kernel)
    have hreported := htrue.reported (haccounts nofun)
    rw [hafter] at hreported
    obtain ⟨hapi, hrest⟩ := List.forall₂_cons.mp hreported
    obtain ⟨hweb, -⟩ := List.forall₂_cons.mp hrest
    obtain ⟨_, hapiAbout, hapiTrue⟩ := hapi ⟨⟨rfl, by decide, rfl, rfl⟩, rfl⟩
    obtain ⟨_, hwebAbout, hwebTrue⟩ := hweb ⟨⟨rfl, by decide, rfl, rfl⟩, rfl⟩
    cases hapiTrue with
    | success _ hdown => cases hdown
    | failure reason _ =>
      cases hwebTrue with
      | success comment _ =>
        exact ⟨lines, w', reason, comment, hrun, hapiAbout, hwebAbout, by rw [hafter]; rfl⟩
      | failure _ hsame => cases hsame
  · obtain ⟨-, hswept⟩ := hinstances yardInstances (by decide)
    obtain ⟨lines, w', hrun, -, -, -, -, hmoving⟩ := hswept (Or.inr (by decide))
    obtain ⟨hspared, habout, -⟩ := hmoving (by decide) _ hpress (by decide) (by decide)
    exact ⟨lines, w', hrun, habout ⟨⟨List.mem_cons_self, rfl, rfl⟩, rfl⟩, hspared⟩

end PeriodScaler
